import EntityStore.Proofs.Change
import EntityStore.Proofs.Document
import EntityStore.Proofs.Integer
import EntityStore.Proofs.Search.Notes
import EntityStore.Search.Hit

/-!
# What was indexed is found

A document is made of an entity and merged with what any number of changes write. The entity that the
document is mapped to has the key of its id, the version that the engine keeps, and what was last
written for every other stored property.
-/

namespace EntityStore

variable {τ : EntityType} {m : Mapping}

theorem Row.columns_ofDocument (doc : Document) :
    (Row.ofDocument (.object doc)).map (·.1) = doc.map (·.1) := by
  rw [ofDocument, List.map_map]
  rfl

theorem Row.distinct_ofDocument {doc : Document} (sorted : doc.Sorted) :
    Distinct (Row.ofDocument (.object doc)) := by
  unfold Distinct
  rw [columns_ofDocument]
  exact Document.distinct_of_sorted sorted

namespace Search

/-- What a document has of an entity: the version is left to the engine. -/
def Indexed (m : Mapping) (p : PropertyMapping) : Prop :=
  p.transient = false ∧ versionProperty? m ≠ some p.property

/-! ## Documents of entities -/

theorem property_of_mem_document {e : Entity τ} {field : String × Json}
    (mem : field ∈ document m e) :
    ∃ p ∈ m.properties, Indexed m p ∧ field = (p.column, (e.valueOf p.property).toJson) := by
  obtain ⟨p, hp, given⟩ := List.mem_filterMap.mp (Document.mem_ofFields mem)
  obtain ⟨persisted, version⟩ := List.mem_filter.mp hp
  obtain ⟨hp, stored⟩ := List.mem_filter.mp persisted
  refine ⟨p, hp, ⟨by simpa using stored, by simpa using version⟩, ?_⟩
  split at given
  · cases given
  · exact (Option.some.inj given).symm

theorem holds_document (built : Mapping.Built τ.descriptor .search m) {e : Entity τ}
    (finite : e.Finite) :
    (Row.ofDocument (.object (document m e))).Holds τ m (Indexed m) e.valueOf := by
  refine ⟨?_, ?_, fun f hf null => Entity.nullable_of_valueOf hf null⟩
  · intro cell mem
    obtain ⟨field, hfield, rfl⟩ := List.mem_map.mp mem
    obtain ⟨p, hp, indexed, rfl⟩ := property_of_mem_document hfield
    exact ⟨p, hp, indexed, rfl, built.stores_ofJson hp (finite.valueOf _)⟩
  · intro p hp indexed present
    rw [Row.columns_ofDocument]
    refine (Document.mem_keys_ofFields _).mpr ?_
    refine List.mem_map.mpr ⟨(p.column, (e.valueOf p.property).toJson), ?_, rfl⟩
    refine List.mem_filterMap.mpr ⟨p, ?_, ?_⟩
    · rw [List.mem_filter, Mapping.persisted, List.mem_filter]
      exact ⟨⟨hp, by simpa using indexed.1⟩, by simpa using indexed.2⟩
    · split
      · rename_i null
        exact absurd null present
      · rfl

/-! ## Merges -/

def fieldOf? (m : Mapping) (entry : String × Value) : Option (String × Json) :=
  if versionProperty? m = some entry.1 then none
  else (m.property? entry.1).bind fun p =>
    if p.transient then none else some (p.column, entry.2.toJson)

theorem fieldOf?_eq_some {entry : String × Value} {field : String × Json} :
    fieldOf? m entry = some field ↔
      ∃ p, m.property? entry.1 = some p ∧ Indexed m p ∧ field = (p.column, entry.2.toJson) := by
  unfold fieldOf?
  constructor
  · intro h
    split_ifs at h with version
    obtain ⟨p, hp, h⟩ := Option.bind_eq_some_iff.mp h
    split_ifs at h with transient
    cases h
    obtain ⟨-, same⟩ := Mapping.mem_of_property? hp
    exact ⟨p, hp, ⟨by simpa using transient, same ▸ version⟩, rfl⟩
  · rintro ⟨p, hp, ⟨stored, version⟩, rfl⟩
    obtain ⟨-, same⟩ := Mapping.mem_of_property? hp
    rw [if_neg (same ▸ version), hp, Option.bind_some, if_neg (by simp [stored])]

theorem filterMap_of_updateFields {entries : List (String × Value)} {fields : List (String × Json)}
    (ok : updateFields m entries = .ok fields) : fields = entries.filterMap (fieldOf? m) := by
  induction entries generalizing fields with
  | nil => cases ok; rfl
  | cons entry rest ih =>
    obtain ⟨property, value⟩ := entry
    rw [updateFields] at ok
    split_ifs at ok with version
    · have passed : fieldOf? m (property, value) = none := if_pos version
      rw [List.filterMap_cons_none passed, ih ok]
    · split at ok
      · cases ok
      · rename_i p hp
        obtain ⟨later, hlater, ok⟩ := bind_eq_ok.mp ok
        have here : fieldOf? m (property, value) =
            if p.transient then none else some (p.column, value.toJson) := by
          unfold fieldOf?
          rw [if_neg version, hp, Option.bind_some]
        cases ok
        split_ifs at here ⊢
        · rw [List.filterMap_cons_none here, ← ih hlater]
        · rw [List.filterMap_cons_some here, ← ih hlater]

theorem entry_of_mem_partialDocument {u : Update} {doc : Document}
    (ok : partialDocument m u = .ok doc) {field : String × Json} (mem : field ∈ doc) :
    ∃ entry ∈ u.entries, ∃ p, m.property? entry.1 = some p ∧ Indexed m p ∧
      field = (p.column, entry.2.toJson) := by
  obtain ⟨fields, hfields, ok⟩ := bind_eq_ok.mp ok
  obtain ⟨_, -, ok⟩ := bind_eq_ok.mp ok
  cases ok
  rw [filterMap_of_updateFields hfields] at mem
  obtain ⟨entry, hentry, place⟩ := List.mem_filterMap.mp (Document.mem_ofFields mem)
  exact ⟨entry, hentry, fieldOf?_eq_some.mp place⟩

theorem brings_partialDocument (built : Mapping.Built τ.descriptor .search m) {c : Change τ}
    (finite : c.entity.Finite) {u : Update}
    (hu : m.updateOf c.entity c.properties = .ok u) {newer : Document}
    (ok : partialDocument m u = .ok newer) :
    c.Brings m (Indexed m) (Row.ofDocument (.object newer)) := by
  obtain ⟨entrySound, entryFull⟩ := Mapping.covers_of_updateOf hu
  constructor
  · intro cell mem
    obtain ⟨field, hfield, rfl⟩ := List.mem_map.mp mem
    obtain ⟨⟨q, v⟩, hentry, p, hp, indexed, rfl⟩ := entry_of_mem_partialDocument ok hfield
    obtain ⟨covered, value, -⟩ := entrySound _ hentry
    obtain ⟨hmem, property⟩ := Mapping.mem_of_property? hp
    obtain rfl : p.property = q := property
    obtain rfl : v = c.entity.valueOf p.property := value
    exact ⟨p, hmem, indexed, covered, rfl, built.stores_ofJson hmem (finite.valueOf _)⟩
  · obtain ⟨fields, hfields, ok⟩ := bind_eq_ok.mp ok
    obtain ⟨_, -, ok⟩ := bind_eq_ok.mp ok
    cases ok
    rw [filterMap_of_updateFields hfields]
    intro p hp indexed covered
    have persisted : p ∈ m.persisted := List.mem_filter.mpr ⟨hp, by simpa using indexed.1⟩
    obtain ⟨⟨q, v⟩, hentry, property⟩ := List.mem_map.mp (entryFull p persisted covered)
    obtain rfl : q = p.property := property
    have place : fieldOf? m (p.property, v) = some (p.column, v.toJson) :=
      fieldOf?_eq_some.mpr ⟨p, built.property? hp, indexed, rfl⟩
    rw [Row.columns_ofDocument]
    refine (Document.mem_keys_ofFields _).mpr ?_
    exact List.mem_map.mpr ⟨_, List.mem_filterMap.mpr ⟨_, hentry, place⟩, rfl⟩

def mergeEach (m : Mapping) : Document → List (Change τ) → Except StoreError Document
  | doc, [] => .ok doc
  | doc, c :: rest => do
    let u ← m.updateOf c.entity c.properties
    let newer ← partialDocument m u
    mergeEach m (doc.merge newer) rest

theorem holds_merge {doc newer : Document} (sorted : doc.Sorted) {current : String → Value}
    (holds : (Row.ofDocument (.object doc)).Holds τ m (Indexed m) current) {c : Change τ}
    (brings : c.Brings m (Indexed m) (Row.ofDocument (.object newer))) :
    (Row.ofDocument (.object (doc.merge newer))).Holds τ m (Indexed m) (c.applied m current) := by
  refine holds.applied brings ?_ ?_
  · intro cell mem
    obtain ⟨field, hfield, rfl⟩ := List.mem_map.mp mem
    rcases Document.overwrites_insert.mem_writeAll sorted hfield with new | ⟨other, old⟩
    · exact .inl (List.mem_map_of_mem new)
    · refine .inr ⟨?_, List.mem_map_of_mem old⟩
      rw [Row.columns_ofDocument]
      exact other
  · intro column mem
    rw [Row.columns_ofDocument, Row.columns_ofDocument] at mem
    rw [Row.columns_ofDocument]
    exact (Document.overwrites_insert.mem_keys_writeAll sorted column).mpr mem

theorem holds_mergeEach (built : Mapping.Built τ.descriptor .search m)
    {changes : List (Change τ)} (finite : ∀ c ∈ changes, c.entity.Finite)
    {doc last : Document} (sorted : doc.Sorted) {current : String → Value}
    (holds : (Row.ofDocument (.object doc)).Holds τ m (Indexed m) current)
    (ok : mergeEach m doc changes = .ok last) :
    last.Sorted ∧ (Row.ofDocument (.object last)).Holds τ m (Indexed m)
      (changes.foldl (Change.applied m) current) := by
  induction changes generalizing doc current with
  | nil =>
    cases ok
    exact ⟨sorted, holds⟩
  | cons c rest ih =>
    obtain ⟨u, hu, ok⟩ := bind_eq_ok.mp ok
    obtain ⟨newer, hnewer, ok⟩ := bind_eq_ok.mp ok
    have brings := brings_partialDocument built (finite c List.mem_cons_self) hu hnewer
    exact ih (fun c hc => finite c (List.mem_cons_of_mem _ hc))
      (Document.overwrites_insert.fit_writeAll sorted) (holds_merge sorted holds brings) ok

/-! ## Keys and versions -/

theorem parseId_display (built : Mapping.Built τ.descriptor .search m) {e : Entity τ} {id : Id}
    (keyed : m.keyOf? e = some id) : parseId m id.display = .ok id := by
  obtain ⟨f, hf, same⟩ := built.exists_field (Mapping.mem_properties built.key_mem)
  obtain ⟨c, hc⟩ := Entity.get?_of_mem hf e
  have property : f.property = m.key.property := congrArg PropertyMapping.property same
  have kind : f.type.scalar.kind = m.key.kind := congrArg PropertyMapping.kind same
  unfold Mapping.keyOf? at keyed
  rw [← property, hc, Option.bind_some] at keyed
  have ofKind : c.value.isNull = false → m.key.kind = c.value.kind :=
    fun present => kind.symm.trans (c.kind_of_present present).symm
  unfold parseId
  cases hv : c.value with
  | int64 n =>
    rw [hv] at keyed ofKind
    cases keyed
    have isInt64 : m.key.kind = .int64 := ofKind rfl
    rw [isInt64]
    simp only [Id.display, Text.readInt64?_toString, Option.map_some]
  | int32 n =>
    rw [hv] at keyed ofKind
    cases keyed
    have isInt32 : m.key.kind = .int32 := ofKind rfl
    rw [isInt32]
    simp only [Id.display, Text.readInt32?_toString, Option.map_some]
  | text s =>
    rw [hv] at keyed ofKind
    cases keyed
    have isText : m.key.kind = .text := ofKind rfl
    rw [isText]
    rfl
  | null => rw [hv] at keyed; cases keyed
  | float64 x => rw [hv] at keyed; cases keyed
  | boolean b => rw [hv] at keyed; cases keyed
  | list items => rw [hv] at keyed; cases keyed

theorem latest_key {first : Entity τ} {changes : List (Change τ)} {id : Id}
    (keyed : m.keyOf? first = some id) (sameKey : ∀ c ∈ changes, m.keyOf? c.entity = some id) :
    latest m first changes m.key.property = id.toValue := by
  have held : ∀ current : String → Value, current m.key.property = id.toValue →
      changes.foldl (Change.applied m) current m.key.property = id.toValue := by
    induction changes with
    | nil => exact fun current h => h
    | cons c rest ih =>
      intro current h
      refine ih (fun c hc => sameKey c (List.mem_cons_of_mem _ hc)) _ ?_
      unfold Change.applied
      split_ifs
      · exact Mapping.valueOf_of_keyOf? (sameKey c List.mem_cons_self)
      · exact h
  exact held _ (Mapping.valueOf_of_keyOf? keyed)

def integer? : Value → Option Int
  | .int64 n => some n.toInt
  | .int32 n => some n.toInt
  | _ => none

def VersionFits (m : Mapping) (v : Int64) : Prop :=
  ∀ p, m.version = some p → p.kind = .int32 →
    Int32.minValue.toInt ≤ v.toInt ∧ v.toInt ≤ Int32.maxValue.toInt

theorem stores_version (built : Mapping.Built τ.descriptor .search m) {p : PropertyMapping}
    (version : m.version = some p) {v : Int64} (fits : VersionFits m v) :
    ∃ w, τ.Stores p.property (.int64 v) w ∧ integer? w = some v.toInt ∧ w ≠ .null := by
  obtain ⟨hp, integral⟩ := built.version p version
  obtain ⟨f, hf, rfl⟩ := built.exists_field hp
  rcases integral with wide | narrow
  · have kind : (Value.int64 v).kind = f.type.scalar.kind := wide.symm
    refine ⟨.int64 v, EntityType.stores_of_converts ⟨f, hf, rfl, ?_⟩, rfl, Value.noConfusion⟩
    exact ⟨_, Content.convert_of_scalar (Scalar.convert_held _ kind), rfl⟩
  · have kind : (Value.int32 v.toInt32).kind = f.type.scalar.kind := narrow.symm
    have range := fits _ version narrow
    refine ⟨.int32 v.toInt32, EntityType.stores_of_converts ⟨f, hf, rfl, ?_⟩, ?_,
      Value.noConfusion⟩
    · exact ⟨_, Content.convert_of_scalar (Scalar.convert_narrow kind range), rfl⟩
    · exact congrArg some (toInt_toInt32 range)

/-! ## Reading back -/

theorem holds_put_key (built : Mapping.Built τ.descriptor .search m) {first : Entity τ} {id : Id}
    (keyed : m.keyOf? first = some id) (separate : versionProperty? m ≠ some m.key.property)
    {row : Row} {current : String → Value} (distinct : Distinct row)
    (holds : row.Holds τ m (Indexed m) current) (key : current m.key.property = id.toValue) :
    (row.put m.key.column id.toValue).Holds τ m (Indexed m) current := by
  have keyMem := Mapping.mem_properties built.key_mem
  have present : id.toValue ≠ .null := by cases id <;> exact Value.noConfusion
  have stores := built.stores_valueOf keyMem first
  rw [Mapping.valueOf_of_keyOf? keyed] at stores
  have indexed : Indexed m m.key :=
    ⟨by simpa using (List.mem_filter.mp built.key_mem).2, separate⟩
  have kept : (fun q => Indexed m q ∨ q = m.key) = Indexed m := by
    funext q
    refine propext (or_iff_left_of_imp ?_)
    rintro rfl
    exact indexed
  have values : (fun q => if q = m.key.property then id.toValue else current q) = current := by
    funext q
    split_ifs with here
    · rw [here, key]
    · rfl
  have put := holds.put built distinct keyMem stores present
  rwa [kept, values] at put

theorem rowOfHit_unversioned (version : m.version = none) (id : Id) (hit : SearchHit) :
    rowOfHit m id hit = (Row.ofDocument hit.source).put m.key.column id.toValue := by
  unfold rowOfHit putVersion versionProperty?
  rw [version]
  rfl

theorem rowOfHit_unreported {hit : SearchHit} (none : hit.version = none) (id : Id) :
    rowOfHit m id hit = (Row.ofDocument hit.source).put m.key.column id.toValue := by
  unfold rowOfHit putVersion
  rw [none]
  split
  · contradiction
  · rfl

theorem rowOfHit_versioned (built : Mapping.Built τ.descriptor .search m) {p : PropertyMapping}
    (version : m.version = some p) (id : Id) (raw : String) (v : Int64) (source : Json) :
    rowOfHit m id ⟨raw, some v, source⟩ =
      ((Row.ofDocument source).put m.key.column id.toValue).put p.column (.int64 v) := by
  have column := built.columnOf? (built.version p version).1
  unfold rowOfHit putVersion versionProperty?
  rw [version, Option.map_some]
  simp only [column]

theorem entityOfHit_eq_ok {hit : SearchHit} {id : Id} {e : Entity τ}
    (parsed : parseId m hit.id = .ok id) (mapped : Row.toEntity τ m (rowOfHit m id hit) = .ok e) :
    entityOfHit τ m hit = .ok e := by
  unfold entityOfHit
  rw [parsed]
  show (Row.toEntity τ m (rowOfHit m id hit)).mapError _ = _
  rw [mapped]
  rfl

/-- An entity is found as it was last written: under the id of its key, the version property has the
version of the engine, every other stored property the value last written for it, and every other
transient one its blank. -/
theorem hit_reads_back (build : Mapping.build τ.descriptor .search = .ok m)
    (nulls : τ.NullsByDefault) (separate : versionProperty? m ≠ some m.key.property)
    {first : Entity τ} {changes : List (Change τ)} {id : Id} (keyed : m.keyOf? first = some id)
    (sameKey : ∀ c ∈ changes, m.keyOf? c.entity = some id)
    (finite : first.Finite) (finiteChanges : ∀ c ∈ changes, c.entity.Finite)
    {doc : Document} (ran : mergeEach m (document m first) changes = .ok doc)
    {v : Int64} (fits : VersionFits m v) :
    ∃ e : Entity τ, entityOfHit τ m ⟨id.display, some v, .object doc⟩ = .ok e ∧
      ∀ p ∈ m.properties,
        (versionProperty? m = some p.property →
          ∃ w, e.get? p.property = some w ∧ integer? w = some v.toInt) ∧
        (versionProperty? m ≠ some p.property → e.get? p.property = some (
          if p.transient then (Entity.blank τ).valueOf p.property
          else latest m first changes p.property)) := by
  have built := Mapping.built_of_build build
  obtain ⟨sorted, holds⟩ := holds_mergeEach built finiteChanges (Document.sorted_ofFields _)
    (holds_document built finite) ran
  have distinct : Distinct (Row.ofDocument (.object doc)) := by
    unfold Distinct
    rw [Row.columns_ofDocument]
    exact Document.distinct_of_sorted sorted
  have withKey := holds_put_key built keyed separate distinct holds (latest_key keyed sameKey)
  have parsed := parseId_display built keyed
  cases hv : m.version with
  | none =>
    -- The version of the engine goes nowhere.
    have unversioned : versionProperty? m = none := by rw [versionProperty?, hv]; rfl
    have row := rowOfHit_unversioned hv id ⟨id.display, some v, .object doc⟩
    obtain ⟨e, he, reads⟩ := Row.toEntity_of_holds built nulls withKey (List.Perm.refl _)
    refine ⟨e, entityOfHit_eq_ok parsed (row ▸ he), fun p hp => ⟨?_, fun _ => ?_⟩⟩
    · rw [unversioned]
      rintro ⟨⟩
    · split_ifs with transient
      · rw [(reads p hp).2 (by simp [Indexed, transient]), built.get?_eq_valueOf hp]
      · exact (reads p hp).1 ⟨by simpa using transient, by rw [unversioned]; simp⟩
  | some pv =>
    have versioned : versionProperty? m = some pv.property := by rw [versionProperty?, hv]; rfl
    obtain ⟨hpv, -⟩ := built.version pv hv
    obtain ⟨w, stores, integer, present⟩ := stores_version built hv fits
    -- The document has nothing under the version, which is put into the row after the key.
    have row := rowOfHit_versioned built hv id id.display v (.object doc)
    have withVersion :=
      withKey.put built (Row.overwrites_put.fit distinct) hpv stores present
    obtain ⟨e, he, reads⟩ := Row.toEntity_of_holds built nulls withVersion (List.Perm.refl _)
    refine ⟨e, entityOfHit_eq_ok parsed (row ▸ he), fun p hp => ⟨fun same => ?_, fun other => ?_⟩⟩
    · rw [versioned, Option.some.injEq] at same
      obtain rfl := built.eq_of_property hpv hp same
      refine ⟨w, ?_, integer⟩
      rw [(reads pv hp).1 (.inr rfl), if_pos rfl]
    · have ne : p.property ≠ pv.property := by
        rintro same
        exact other (versioned.trans (congrArg some same.symm))
      have isNot : p ≠ pv := fun same => ne (congrArg PropertyMapping.property same)
      split_ifs with transient
      · rw [(reads p hp).2 (by simp [Indexed, transient, isNot]), built.get?_eq_valueOf hp]
      · rw [(reads p hp).1 (.inl ⟨by simpa using transient, other⟩), if_neg ne]
        rfl

def noteChanges : List (Change notes) :=
  [⟨note ⟨.text "second", rfl⟩, ["title"]⟩, ⟨note ⟨.null, rfl⟩, []⟩]

theorem note_reads_back :
    Mapping.build notes.descriptor .search = .ok noteMapping ∧ notes.NullsByDefault ∧
    versionProperty? noteMapping ≠ some noteMapping.key.property ∧
    noteMapping.keyOf? (note ⟨.text "first", rfl⟩) = some (.int 7) ∧
    (∀ c ∈ noteChanges, noteMapping.keyOf? c.entity = some (.int 7)) ∧
    (note ⟨.text "first", rfl⟩).Finite ∧ (∀ c ∈ noteChanges, c.entity.Finite) ∧
    VersionFits noteMapping 3 ∧
    ∃ doc, mergeEach noteMapping (document noteMapping (note ⟨.text "first", rfl⟩)) noteChanges =
        .ok doc ∧
      ∃ e : Entity notes,
        entityOfHit notes noteMapping ⟨(Id.int 7).display, some 3, .object doc⟩ = .ok e ∧
        e.get? "title" = some .null ∧
        ∃ w, e.get? "version" = some w ∧ integer? w = some 3 := by
  have build : Mapping.build notes.descriptor .search = .ok noteMapping := by decide +kernel
  have nulls : notes.NullsByDefault := by
    intro f hf nullable
    simp only [notes, List.mem_cons, List.not_mem_nil, or_false] at hf
    rcases hf with rfl | rfl | rfl | rfl <;> first | rfl | cases nullable
  have separate : versionProperty? noteMapping ≠ some noteMapping.key.property := by decide
  have finite : ∀ title, (note title).Finite := by
    intro title s hs x hx
    simp only [note, List.mem_cons, List.not_mem_nil, or_false] at hs
    rcases hs with rfl | rfl | rfl | rfl
    · cases hx
    · have held := title.held
      rw [show title.value = .float64 x from hx] at held
      cases held
    · cases hx
      decide
    · cases hx
  have sameKey : ∀ c ∈ noteChanges, noteMapping.keyOf? c.entity = some (.int 7) := by
    intro c hc
    simp only [noteChanges, List.mem_cons, List.not_mem_nil, or_false] at hc
    rcases hc with rfl | rfl <;> rfl
  have finiteChanges : ∀ c ∈ noteChanges, c.entity.Finite := by
    intro c hc
    simp only [noteChanges, List.mem_cons, List.not_mem_nil, or_false] at hc
    rcases hc with rfl | rfl <;> exact finite _
  have fits : VersionFits noteMapping 3 := by
    rintro p ⟨⟩ -
    decide
  obtain ⟨doc, ran⟩ : ∃ doc, mergeEach noteMapping
      (document noteMapping (note ⟨.text "first", rfl⟩)) noteChanges = .ok doc := ⟨_, rfl⟩
  obtain ⟨e, he, reads⟩ := hit_reads_back build nulls separate rfl sameKey (finite _)
    finiteChanges ran fits
  refine ⟨build, nulls, separate, rfl, sameKey, finite _, finiteChanges, fits, doc, ran, e, he,
    ?_, ?_⟩
  · exact (reads ⟨"title", "title", .text, true, false⟩ (by simp [noteMapping])).2 (by decide)
  · exact (reads ⟨"version", "version", .int32, false, false⟩ (by simp [noteMapping])).1 rfl

end Search

end EntityStore
