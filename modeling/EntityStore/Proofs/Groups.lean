import EntityStore.Proofs.Relational.Request
import EntityStore.Proofs.Row
import EntityStore.Proofs.Search.Course

/-!
# Groups

A query with one group is answered by a database with a row for each group and by a search engine
with a bucket. The rows and the buckets of the same groups are mapped to the same entities, and
those of a group that cannot be mapped are skipped.
-/

namespace EntityStore

variable {τ : EntityType} {m : Mapping} {policy : Policy}

/-! ## Several writes -/

namespace Entity

def setAll (e : Entity τ) : List (String × Value) → Except StoreError (Entity τ)
  | [] => .ok e
  | (property, value) :: rest => do
    let written ← e.set property value
    written.setAll rest

variable {entries : List (String × Value)} {e written : Entity τ}

theorem converts_of_setAll (known : ∀ entry ∈ entries, ∃ f ∈ τ.fields, f.property = entry.1)
    (distinct : (entries.map (·.1)).Nodup) (ok : e.setAll entries = .ok written) :
    (∀ entry ∈ entries, τ.Converts entry.1 entry.2 (written.valueOf entry.1)) ∧
      ∀ q, q ∉ entries.map (·.1) → written.get? q = e.get? q := by
  induction entries generalizing e with
  | nil =>
    cases ok
    exact ⟨nofun, fun _ _ => rfl⟩
  | cons entry rest ih =>
    obtain ⟨property, value⟩ := entry
    obtain ⟨here, later⟩ := List.forall_mem_cons.mp known
    obtain ⟨once, others⟩ := List.nodup_cons.mp distinct
    obtain ⟨first, set, ok⟩ := bind_eq_ok.mp ok
    obtain ⟨converts, same⟩ := ih later others ok
    constructor
    · refine List.forall_mem_cons.mpr ⟨?_, converts⟩
      obtain ⟨f, hf, rfl⟩ := here
      have stays : written.valueOf f.property = first.valueOf f.property := by
        rw [valueOf, same _ once, valueOf]
      rw [stays]
      exact converts_of_set hf set
    · intro q absent
      obtain ⟨ne, absent⟩ := not_or.mp (List.mem_cons.not.mp absent)
      rw [same q absent]
      exact get?_set_of_ne set ne

theorem exists_setAll (converts : ∀ entry ∈ entries, ∃ w, τ.Converts entry.1 entry.2 w)
    (e : Entity τ) : ∃ written, e.setAll entries = .ok written := by
  induction entries generalizing e with
  | nil => exact ⟨e, rfl⟩
  | cons entry rest ih =>
    obtain ⟨⟨w, here⟩, later⟩ := List.forall_mem_cons.mp converts
    obtain ⟨first, set, -⟩ := set_of_converts e here
    obtain ⟨written, ok⟩ := ih later first
    exact ⟨written, bind_eq_ok.mpr ⟨first, set, ok⟩⟩

theorem setAll_eq_none (known : ∀ entry ∈ entries, ∃ f ∈ τ.fields, f.property = entry.1)
    (distinct : (entries.map (·.1)).Nodup) (e : Entity τ) :
    (e.setAll entries).toOption = none ↔
      ∃ entry ∈ entries, ¬ ∃ w, τ.Converts entry.1 entry.2 w := by
  constructor
  · intro none
    by_contra all
    push Not at all
    obtain ⟨written, ok⟩ := exists_setAll all e
    rw [ok] at none
    cases none
  · rintro ⟨entry, mem, fails⟩
    cases ok : e.setAll entries with
    | error failure => rfl
    | ok written =>
      obtain ⟨converts, -⟩ := converts_of_setAll known distinct ok
      exact absurd ⟨_, converts entry mem⟩ fails

end Entity

/-! ## Rows of entries -/

def Row.ofEntries (m : Mapping) (entries : List (String × Value)) : Row :=
  entries.map fun (property, value) => (m.named property, value)

theorem Mapping.Built.exists_named (built : Built τ.descriptor policy m) {property : String}
    (known : ∃ f ∈ τ.fields, f.property = property) :
    ∃ p ∈ m.properties, p.property = property ∧ m.columnOf? property = some p.column := by
  obtain ⟨f, hf, rfl⟩ := known
  have mem : f.spec.mapping policy ∈ m.properties := by
    rw [built.properties, EntityType.descriptor, List.map_map]
    exact List.mem_map_of_mem (f := (·.mapping policy) ∘ Field.spec) hf
  exact ⟨_, mem, rfl, built.columnOf? mem⟩

namespace Row

variable {entries : List (String × Value)} {row : Row}

/-- Every entry has a cell, and every cell of a property is that of an entry. -/
structure Lays (m : Mapping) (entries : List (String × Value)) (row : Row) : Prop where
  cell : ∀ entry ∈ entries, ∃ p ∈ m.properties, p.property = entry.1 ∧ (p.column, entry.2) ∈ row
  entry : ∀ cell ∈ row, ∀ p, m.propertyOfColumn? cell.1 = some p →
    (p.property, cell.2) ∈ entries ∧ cell.1 = p.column

theorem lays_of_perm (built : Mapping.Built τ.descriptor policy m)
    (known : ∀ entry ∈ entries, ∃ f ∈ τ.fields, f.property = entry.1)
    (same : row.Perm (ofEntries m entries)) : Lays m entries row := by
  constructor
  case cell =>
    intro entry mem
    obtain ⟨p, hp, property, column⟩ := built.exists_named (known entry mem)
    refine ⟨p, hp, property, same.mem_iff.mpr ?_⟩
    have named : m.named entry.1 = p.column := by rw [Mapping.named, column, Option.getD_some]
    rw [← named]
    exact List.mem_map_of_mem mem
  case entry =>
    intro cell mem p found
    obtain ⟨entry, there, rfl⟩ := List.mem_map.mp (same.mem_iff.mp mem)
    obtain ⟨q, hq, property, column⟩ := built.exists_named (known entry there)
    have named : m.named entry.1 = q.column := by rw [Mapping.named, column, Option.getD_some]
    have here := built.propertyOfColumn?_column hq
    rw [← named] at here
    obtain rfl := Option.some.inj (found.symm.trans here)
    rw [property]
    exact ⟨there, named⟩

theorem toEntity_of_setAll (built : Mapping.Built τ.descriptor policy m)
    (lays : Lays m entries row) (known : ∀ entry ∈ entries, ∃ f ∈ τ.fields, f.property = entry.1)
    (distinct : (entries.map (·.1)).Nodup) (present : ∀ entry ∈ entries, entry.2.isNull = false)
    {e : Entity τ} (written : (Entity.blank τ).setAll entries = .ok e) :
    toEntity τ m row = .ok e := by
  obtain ⟨converts, others⟩ := Entity.converts_of_setAll known distinct written
  have wanted : ∀ cell ∈ row, ∀ p, m.propertyOfColumn? cell.1 = some p →
      cell.2.isNull = false → τ.Converts p.property cell.2 (e.valueOf p.property) :=
    fun cell mem p found _ => converts _ (lays.entry cell mem p found).1
  obtain ⟨filled, ok, reads⟩ := fill_of_converts wanted (Entity.blank τ)
  have equal : filled = e := by
    refine Entity.ext_get? fun f hf => ?_
    by_cases given : f.property ∈ entries.map (·.1)
    · obtain ⟨entry, mem, property⟩ := List.mem_map.mp given
      obtain ⟨p, hp, named, there⟩ := lays.cell entry mem
      have gives : Gives m row p.property :=
        ⟨_, there, p, built.propertyOfColumn?_column hp, rfl, present entry mem⟩
      rw [← property, ← named, reads.given _ gives, built.get?_eq_valueOf hp]
    · rw [others _ given]
      refine reads.other _ ?_
      rintro ⟨cell, mem, p, found, property, -⟩
      exact given (property ▸ List.mem_map_of_mem (lays.entry cell mem p found).1)
  rw [toEntity, ok, equal]

theorem converts_of_toEntity (built : Mapping.Built τ.descriptor policy m)
    (lays : Lays m entries row) (distinct : (entries.map (·.1)).Nodup)
    (present : ∀ entry ∈ entries, entry.2.isNull = false) {e : Entity τ}
    (mapped : toEntity τ m row = .ok e) :
    ∀ entry ∈ entries, ∃ w, τ.Converts entry.1 entry.2 w := by
  intro entry mem
  obtain ⟨p, hp, property, there⟩ := lays.cell entry mem
  have only : ∀ cell ∈ row, m.propertyOfColumn? cell.1 = some p → cell = (p.column, entry.2) := by
    intro cell also found
    obtain ⟨given, column⟩ := lays.entry cell also p found
    have equal := List.inj_on_of_nodup_map distinct given mem property
    rw [← column, ← equal]
  rw [← property]
  exact ⟨_, converts_of_cell built mapped hp (present entry mem) there only⟩

theorem toOption_toEntity (built : Mapping.Built τ.descriptor policy m)
    (known : ∀ entry ∈ entries, ∃ f ∈ τ.fields, f.property = entry.1)
    (distinct : (entries.map (·.1)).Nodup) (present : ∀ entry ∈ entries, entry.2.isNull = false)
    (same : row.Perm (ofEntries m entries)) :
    (toEntity τ m row).toOption = ((Entity.blank τ).setAll entries).toOption := by
  have lays := lays_of_perm built known same
  cases written : (Entity.blank τ).setAll entries with
  | ok e =>
    rw [toEntity_of_setAll built lays known distinct present written]
    rfl
  | error failure =>
    cases mapped : toEntity τ m row with
    | error skipped => rfl
    | ok filled =>
      obtain ⟨e, ok⟩ := Entity.exists_setAll
        (converts_of_toEntity built lays distinct present mapped) (Entity.blank τ)
      rw [ok] at written
      cases written

end Row

/-! ## One group -/

/-- The key of a group is a property, and so is what takes its count, if anything does; they are
not the same. -/
structure GroupBy.Known (τ : EntityType) (g : GroupBy) : Prop where
  key : ∃ f ∈ τ.fields, f.property = g.key
  counter : ∀ counter, Text.nonBlank? g.countAlias = some counter →
    (∃ f ∈ τ.fields, f.property = counter) ∧ counter ≠ g.key

def GroupBy.entries (g : GroupBy) (bucket : Bucket) : List (String × Value) :=
  (g.key, bucket.key) ::
    (Text.nonBlank? g.countAlias).toList.map fun counter => (counter, .int64 bucket.count)

/-- The row of a bucket: its key under the column of the group, and its count under the column that
is selected for it. -/
def GroupBy.row (m : Mapping) (g : GroupBy) (bucket : Bucket) : Row :=
  Row.ofEntries m (g.entries bucket)

section Bucket

variable {g : GroupBy} {bucket : Bucket}

theorem GroupBy.Known.entries (known : g.Known τ) (bucket : Bucket) :
    (∀ entry ∈ g.entries bucket, ∃ f ∈ τ.fields, f.property = entry.1) ∧
      ((g.entries bucket).map (·.1)).Nodup := by
  unfold GroupBy.entries
  cases counted : Text.nonBlank? g.countAlias with
  | none => exact ⟨List.forall_mem_singleton.mpr known.key, List.nodup_singleton _⟩
  | some counter =>
    obtain ⟨there, ne⟩ := known.counter counter counted
    refine ⟨List.forall_mem_cons.mpr ⟨known.key, List.forall_mem_singleton.mpr there⟩, ?_⟩
    refine List.nodup_cons.mpr ⟨?_, List.nodup_singleton _⟩
    exact fun same => ne (List.mem_singleton.mp same).symm

theorem GroupBy.entries_present (present : bucket.key.isNull = false) :
    ∀ entry ∈ g.entries bucket, entry.2.isNull = false := by
  unfold GroupBy.entries
  refine List.forall_mem_cons.mpr ⟨present, ?_⟩
  intro entry mem
  obtain ⟨counter, -, rfl⟩ := List.mem_map.mp mem
  rfl

theorem Search.fillBucket_eq :
    fillBucket τ g.key (Text.nonBlank? g.countAlias) bucket =
      (Entity.blank τ).setAll (g.entries bucket) := by
  unfold fillBucket GroupBy.entries
  rw [Entity.setAll]
  refine bind_congr fun keyed => ?_
  cases Text.nonBlank? g.countAlias with
  | none => rfl
  | some counter => exact (bind_pure (keyed.set counter (.int64 bucket.count))).symm

/-- A bucket and a row come to the same entity, or to none where the key or the count does not
convert. -/
structure BucketAgrees (τ : EntityType) (rm : Mapping) (g : GroupBy) (bucket : Bucket)
    (result : Except LogEvent (Entity τ)) (row : Row) : Prop where
  same : result.toOption = (Row.toEntity τ rm row).toOption
  skipped : result.toOption = none ↔ (¬ ∃ w, τ.Converts g.key bucket.key w) ∨
    ∃ counter, Text.nonBlank? g.countAlias = some counter ∧
      ¬ ∃ w, τ.Converts counter (.int64 bucket.count) w

theorem bucketAgrees {rm : Mapping} (sm : Mapping)
    (built : Mapping.Built τ.descriptor .relational rm)
    (known : g.Known τ) (present : bucket.key.isNull = false) {row : Row}
    (same : row.Perm (g.row rm bucket)) :
    BucketAgrees τ rm g bucket
      ((Search.fillBucket τ g.key (Text.nonBlank? g.countAlias) bucket).mapError
        (Search.badBucketEvent sm bucket)) row := by
  obtain ⟨fields, distinct⟩ := known.entries bucket
  have toOption {ε δ : Type} (x : Except ε (Entity τ)) (f : ε → δ) :
      (x.mapError f).toOption = x.toOption := by
    cases x <;> rfl
  rw [Search.fillBucket_eq]
  constructor
  case same =>
    rw [toOption]
    exact (Row.toOption_toEntity built fields distinct (GroupBy.entries_present present) same).symm
  case skipped =>
    rw [toOption, Entity.setAll_eq_none fields distinct]
    simp [GroupBy.entries]

end Bucket

/-! ## All groups -/

namespace Search

variable {g : GroupBy} {q : Query}

theorem entitiesOfBuckets_eq {sm : Mapping} (built : Mapping.Built τ.descriptor .search sm)
    (known : g.Known τ) (grouped : q.groupBys = [g]) (buckets : List Bucket) :
    entitiesOfBuckets τ sm q buckets = buckets.map fun bucket =>
      (fillBucket τ g.key (Text.nonBlank? g.countAlias) bucket).mapError
        (badBucketEvent sm bucket) := by
  obtain ⟨p, hp, property, -⟩ := built.exists_named known.key
  have found := built.property? hp
  rw [property] at found
  unfold entitiesOfBuckets
  simp only [grouped, found, property]

theorem aggregation_of_grouped {sm : Mapping} {window : Int64} {index : String}
    {request : SearchRequest} (grouped : q.groupBys = [g])
    (searched : search sm window q index = .ok request) : request.aggregation.isSome = true := by
  unfold search at searched
  obtain ⟨condition, -, searched⟩ := bind_eq_ok.mp searched
  simp only [grouped] at searched
  obtain ⟨field, -, searched⟩ := bind_eq_ok.mp searched
  cases searched
  rfl

theorem says_grouped {d : Session τ} {xs : List (Exchange service)} {es : List (Entity τ)}
    (grouped : q.groupBys = [g]) :
    (d.findListByQuery q).Says xs (.ok es) ↔
      q.check = .ok () ∧ ∃ request response,
        search d.mapping d.maxResultWindow q d.index = .ok request ∧
        xs = [⟨.search request, .ok response⟩] ∧
        es = (entitiesOfBuckets τ d.mapping q response.buckets).filterMap Except.toOption := by
  unfold Session.findListByQuery
  constructor
  · intro whole
    rcases Action.says_lift_bind.mp whole with ⟨e, -, -, ⟨⟩⟩ | ⟨⟨⟩, checked, rest⟩
    rcases Action.says_lift_bind.mp rest with ⟨e, -, -, ⟨⟩⟩ | ⟨request, searched, rest⟩
    rw [if_pos (aggregation_of_grouped grouped searched)] at rest
    rcases Action.says_bind.mp rest with ⟨e, -, ⟨⟩⟩ | ⟨response, first, later, called, kept, rfl⟩
    obtain ⟨answer, rfl, replied⟩ := Session.says_search.mp called
    obtain rfl : answer = .ok response := mapError_eq_ok.mp replied.symm
    obtain ⟨rfl, same⟩ := Session.says_keep.mp kept
    exact ⟨checked, request, response, searched, rfl, Except.ok.inj same⟩
  · rintro ⟨checked, request, response, searched, rfl, rfl⟩
    rw [Action.says_ok_bind checked, Action.says_ok_bind searched,
      if_pos (aggregation_of_grouped grouped searched)]
    have asked := List.append_nil [(⟨.search request, .ok response⟩ : Exchange service)]
    refine Action.says_bind.mpr (.inr ⟨response, _, [], ?_, ?_, asked.symm⟩)
    · exact Session.says_search.mpr ⟨.ok response, rfl, rfl⟩
    · exact Session.says_keep.mpr ⟨rfl, rfl⟩

end Search

namespace Relational

variable {g : GroupBy} {q : Query} {rm : Mapping}

theorem column_of_known (built : Mapping.Built τ.descriptor .relational rm) {property : String}
    (known : ∃ f ∈ τ.fields, f.property = property) (parameter : Parameter) :
    rm.column parameter property = .ok (rm.named property) := by
  obtain ⟨p, -, -, column⟩ := built.exists_named known
  rw [Mapping.column_eq_ok, Mapping.named, column, Option.getD_some]

theorem selectClause_grouped (built : Mapping.Built τ.descriptor .relational rm)
    (known : g.Known τ) (grouped : q.groupBys = [g]) :
    selectClause rm q = .ok ("SELECT " ++ ",".intercalate (groupNames rm g) ++ " ") := by
  have columns : groupColumns rm g = .ok (groupNames rm g) := by
    unfold groupColumns groupNames
    rw [column_of_known built known.key]
    cases counted : Text.nonBlank? g.countAlias with
    | none => rfl
    | some counter =>
      obtain ⟨there, -⟩ := known.counter counter counted
      simp only [column_of_known built there]
      rfl
  have list : selectList rm q = .ok (groupNames rm g) := by
    unfold selectList
    rw [grouped, List.mapM_cons, columns]
    exact congrArg Except.ok (List.append_nil _)
  rw [selectClause, list]
  rfl

end Relational

structure GroupsAgree (τ : EntityType) (rm sm : Mapping) (g : GroupBy) (q : Query)
    (buckets : List Bucket) (rows : List Row) : Prop where
  /-- The same entities, in the same order. -/
  same : (Search.entitiesOfBuckets τ sm q buckets).filterMap Except.toOption =
    Row.toEntities τ rm rows
  /-- Each bucket has a result and a row. -/
  length : (Search.entitiesOfBuckets τ sm q buckets).length = buckets.length
  each : List.Forall₂ (fun x row => BucketAgrees τ rm g x.1 x.2 row)
    (buckets.zip (Search.entitiesOfBuckets τ sm q buckets)) rows

theorem groupsAgree {rm sm : Mapping} (relational : Mapping.Built τ.descriptor .relational rm)
    (search : Mapping.Built τ.descriptor .search sm) {g : GroupBy} (known : g.Known τ) {q : Query}
    (grouped : q.groupBys = [g]) {buckets : List Bucket} {rows : List Row}
    (present : ∀ bucket ∈ buckets, bucket.key.isNull = false)
    (stand : List.Forall₂ (fun bucket row => row.Perm (g.row rm bucket)) buckets rows) :
    GroupsAgree τ rm sm g q buckets rows := by
  have results := Search.entitiesOfBuckets_eq search known grouped buckets
  suffices both : _ ∧ _ by
    exact ⟨both.1, by rw [results, List.length_map], both.2⟩
  rw [results]
  unfold Row.toEntities
  induction stand with
  | nil => exact ⟨rfl, .nil⟩
  | @cons bucket row _ _ same _ ih =>
    obtain ⟨here, later⟩ := List.forall_mem_cons.mp present
    obtain ⟨equal, each⟩ := ih later (Search.entitiesOfBuckets_eq search known grouped _)
    have agrees := bucketAgrees sm relational known here same
    refine ⟨?_, .cons agrees each⟩
    rw [List.map_cons, List.filterMap_cons, List.filterMap_cons, agrees.same, equal]

/-- A query with one group selects the column of its key and the count under the column of what
takes it. A search engine is asked once for the buckets, and they come to the entities of the rows
that have their keys and counts under these columns. -/
theorem groups_agree {rm sm : Mapping}
    (relational : Mapping.build τ.descriptor .relational = .ok rm)
    (search : Mapping.build τ.descriptor .search = .ok sm) {g : GroupBy} (known : g.Known τ)
    {q : Query} (grouped : q.groupBys = [g]) :
    Relational.selectClause rm q =
        .ok ("SELECT " ++ ",".intercalate (Relational.groupNames rm g) ++ " ") ∧
      (∀ (buckets : List Bucket) (rows : List Row),
        (∀ bucket ∈ buckets, bucket.key.isNull = false) →
        List.Forall₂ (fun bucket row => row.Perm (g.row rm bucket)) buckets rows →
          GroupsAgree τ rm sm g q buckets rows) ∧
      ∀ (d : Search.Session τ) (xs : List (Exchange Search.service)) (es : List (Entity τ)),
        d.mapping = sm → ((d.findListByQuery q).Says xs (.ok es) ↔
          q.check = .ok () ∧ ∃ request response,
            Search.search sm d.maxResultWindow q d.index = .ok request ∧
            xs = [⟨.search request, .ok response⟩] ∧
            es = (Search.entitiesOfBuckets τ sm q response.buckets).filterMap
              Except.toOption) := by
  have relational := Mapping.built_of_build relational
  have search := Mapping.built_of_build search
  refine ⟨Relational.selectClause_grouped relational known grouped,
    fun buckets rows present stand => groupsAgree relational search known grouped present stand, ?_⟩
  rintro d xs es rfl
  exact Search.says_grouped grouped

def sales : EntityType where
  typeName := "Sale"
  names := { table := some "sales", index := some "sales" }
  fields := [
    ⟨"id", ⟨.int64, false⟩, .derived, true, false, false⟩,
    ⟨"region", ⟨.text, true⟩, .derived, false, false, false⟩,
    ⟨"unitsSold", ⟨.int32, false⟩, .derived, false, false, false⟩]

def salesTable : Mapping where
  typeName := "Sale"
  policy := .relational
  properties := [
    ⟨"id", "id", .int64, false, false⟩,
    ⟨"region", "region", .text, true, false⟩,
    ⟨"unitsSold", "units_sold", .int32, false, false⟩]
  key := ⟨"id", "id", .int64, false, false⟩
  version := none
  names := { table := some "sales", index := some "sales" }

def salesIndex : Mapping where
  typeName := "Sale"
  policy := .search
  properties := [
    ⟨"id", "id", .int64, false, false⟩,
    ⟨"region", "region", .text, true, false⟩,
    ⟨"unitsSold", "unitsSold", .int32, false, false⟩]
  key := ⟨"id", "id", .int64, false, false⟩
  version := none
  names := { table := some "sales", index := some "sales" }

def salesSession : Search.Session sales where
  mapping := salesIndex
  indexName := ⟨"sales", none⟩
  idPolicy := .required
  maxUpdateSize := 100
  maxResultWindow := 100
  index := "sales"

def byRegion : GroupBy := ⟨"region", some "unitsSold"⟩

/-- The second bucket has no text for a region, and the count of the last does not fit. -/
def regions : List Bucket :=
  [⟨.text "north", 3⟩, ⟨.boolean true, 5⟩, ⟨.text "south", 2⟩, ⟨.text "east", 3000000000⟩]

def regionRows : List Row := [
  [("units_sold", .int64 3), ("region", .text "north")],
  [("region", .boolean true), ("units_sold", .int64 5)],
  [("region", .text "south"), ("units_sold", .int64 2)],
  [("region", .text "east"), ("units_sold", .int64 3000000000)]]

theorem sales_agree :
    Mapping.build sales.descriptor .relational = .ok salesTable ∧
    Mapping.build sales.descriptor .search = .ok salesIndex ∧
    byRegion.Known sales ∧
    Relational.selectClause salesTable { groupBys := [byRegion] } =
      .ok "SELECT region,COUNT(*) AS units_sold " ∧
    GroupsAgree sales salesTable salesIndex byRegion { groupBys := [byRegion] } regions regionRows ∧
    (Row.toEntities sales salesTable regionRows).map Entity.values = [
      [("id", .int64 0), ("region", .text "north"), ("unitsSold", .int32 3)],
      [("id", .int64 0), ("region", .text "south"), ("unitsSold", .int32 2)]] ∧
    ∃ xs es, (salesSession.findListByQuery { groupBys := [byRegion] }).Says xs (.ok es) ∧
      es = Row.toEntities sales salesTable regionRows := by
  have relational : Mapping.build sales.descriptor .relational = .ok salesTable := by
    decide +kernel
  have search : Mapping.build sales.descriptor .search = .ok salesIndex := by decide +kernel
  have known : byRegion.Known sales := by
    constructor
    case key => decide
    case counter =>
      rintro counter ⟨⟩
      exact ⟨by decide, by decide⟩
  obtain ⟨clause, agree, asks⟩ := groups_agree relational search known
    (q := { groupBys := [byRegion] }) rfl
  have agrees := agree regions regionRows (by decide)
    (.cons (.swap ..) (.cons (.refl _) (.cons (.refl _) (.cons (.refl _) .nil))))
  refine ⟨relational, search, known, clause, agrees, by rfl, ?_⟩
  refine ⟨_, _, (asks salesSession _ _ rfl).mpr
    ⟨rfl, _, { buckets := regions }, rfl, rfl, rfl⟩, agrees.same⟩

end EntityStore
