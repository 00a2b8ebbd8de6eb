import EntityStore.Proofs.Overwrite
import EntityStore.Proofs.Relational.Request
import EntityStore.Proofs.Visited

/-!
# What a selection brings back

A selection lists columns, and some of them for the size of a group. The name of every column of the
answer leads back to the property that it was asked for, so that a row of the answer is mapped to an
entity which has the values of these properties and is blank otherwise.
-/

namespace EntityStore.Relational

/-! ## Columns of the answer -/

/-- One column of the answer to a selection: the property that takes it, and whether it is the size
of a group. -/
structure Output where
  property : String
  counted : Bool
  deriving DecidableEq, Repr

def Output.item (o : Output) (name : String) : String :=
  if o.counted then "COUNT(*) AS " ++ name else name

def groupOutputs (g : GroupBy) : List Output :=
  ⟨g.key, false⟩ :: (Text.nonBlank? g.countAlias).toList.map fun counter => ⟨counter, true⟩

/-- What a query asks for: its groups if it has any, else its fields if it has any, else all that is
stored. -/
def outputs (τ : EntityType) (q : Query) : List Output :=
  if q.groupBys.isEmpty then
    if q.fields.isEmpty then
      (τ.fields.filter (!·.transient)).map fun f => ⟨f.property, false⟩
    else q.fields.map fun property => ⟨property, false⟩
  else q.groupBys.flatMap groupOutputs

variable {τ : EntityType} {m : Mapping} {q : Query}

theorem groupNames_eq (g : GroupBy) :
    groupNames m g = (groupOutputs g).map fun o => o.item (m.named o.property) := by
  unfold groupNames groupOutputs
  cases Text.nonBlank? g.countAlias <;> simp [Output.item]

section

variable (built : Mapping.Built τ.descriptor .relational m)
include built

theorem selectNames_eq :
    selectNames m q = (outputs τ q).map fun o => o.item (m.named o.property) := by
  unfold selectNames outputs
  split_ifs
  · -- Without a list all stored properties are listed, each under its own column.
    have stored : m.persisted =
        (τ.fields.filter (!·.transient)).map (·.spec.mapping .relational) := by
      rw [built.persisted, EntityType.descriptor, List.filter_map, List.map_map]
      rfl
    rw [stored, List.map_map, List.map_map]
    refine List.map_congr_left fun f hf => ?_
    have mem : f.spec.mapping .relational ∈ m.properties := by
      apply Mapping.mem_properties
      rw [stored]
      exact List.mem_map_of_mem hf
    exact (Mapping.named_of_mem built.distinct mem).symm
  · simp [Output.item]
  · simp only [List.map_flatMap, ← groupNames_eq]

theorem known_of_selectList {items : List String} (ok : selectList m q = .ok items) :
    ∀ o ∈ outputs τ q, ∃ p ∈ m.properties, p.property = o.property := by
  have known {parameter : Parameter} {property column : String}
      (found : m.column parameter property = .ok column) :
      ∃ p ∈ m.properties, p.property = property := by
    obtain ⟨p, hp, own, -⟩ := Mapping.mem_of_columnOf? (Mapping.column_eq_ok.mp found)
    exact ⟨p, hp, own⟩
  unfold selectList at ok
  unfold outputs
  intro o mem
  by_cases grouped : q.groupBys.isEmpty
  · by_cases listed : q.fields.isEmpty
    · simp only [grouped, listed, if_true] at mem
      obtain ⟨f, hf, rfl⟩ := List.mem_map.mp mem
      refine ⟨f.spec.mapping .relational, ?_, rfl⟩
      rw [built.properties, EntityType.descriptor, List.map_map]
      exact List.mem_map_of_mem (f := (·.mapping .relational) ∘ Field.spec)
        (List.mem_of_mem_filter hf)
    · simp [grouped, listed] at ok mem
      obtain ⟨property, there, rfl⟩ := mem
      obtain ⟨column, found⟩ := exists_of_mapM ok property there
      exact known found
  · simp [grouped] at ok mem
    obtain ⟨g, there, mem⟩ := mem
    obtain ⟨lists, each, -⟩ := map_eq_ok.mp ok
    obtain ⟨columns, found⟩ := exists_of_mapM each g there
    obtain ⟨key, hkey, found⟩ := bind_eq_ok.mp found
    unfold groupOutputs at mem
    rcases List.mem_cons.mp mem with rfl | mem
    · exact known hkey
    · obtain ⟨counter, counted, rfl⟩ := List.mem_map.mp mem
      rw [Option.mem_toList.mp counted] at found
      obtain ⟨column, hcolumn, -⟩ := bind_eq_ok.mp found
      exact known hcolumn

end

/-! ## Rows of the answer -/

/-- One value for every column of the answer, each under the name of the column in some spelling and
such as its property takes. -/
def AnsweredBy (τ : EntityType) (m : Mapping) (outputs : List Output) (cells : Row) : Prop :=
  List.Forall₂ (fun o cell => Text.lower cell.1 = Text.lower (m.named o.property) ∧
    cell.2.isNull = false ∧ ∃ w, τ.Converts o.property cell.2 w) outputs cells

/-- The entity has what the cells say of what is asked for, and is blank otherwise. -/
structure Restores (τ : EntityType) (outputs : List Output) (cells : Row) (e : Entity τ) :
    Prop where
  /-- A property that is asked for more than once has the value of one of its columns. -/
  given : ∀ x ∈ outputs.zip cells, ∃ y ∈ outputs.zip cells, y.1.property = x.1.property ∧
    τ.Converts x.1.property y.2.2 (e.valueOf x.1.property)
  /-- Where all its columns say the same, that is what it has. -/
  own : ∀ x ∈ outputs.zip cells,
    (∀ y ∈ outputs.zip cells, y.1.property = x.1.property → y.2.2 = x.2.2) →
    τ.Converts x.1.property x.2.2 (e.valueOf x.1.property)
  other : ∀ f ∈ τ.fields, f.property ∉ outputs.map (·.property) →
    e.get? f.property = (Entity.blank τ).get? f.property

section Answered

variable {asked : List Output} {cells visited : Row}

theorem exists_place (answered : AnsweredBy τ m asked cells) {cell : String × Value}
    (mem : cell ∈ cells) : ∃ o, (o, cell) ∈ asked.zip cells := by
  have all : (asked.zip cells).map Prod.snd = cells :=
    List.map_snd_zip (Nat.le_of_eq (List.Forall₂.length_eq answered).symm)
  rw [← all] at mem
  obtain ⟨⟨o, _⟩, zipped, rfl⟩ := List.mem_map.mp mem
  exact ⟨o, zipped⟩

structure Leads (τ : EntityType) (m : Mapping) (property : String) (cell : String × Value) :
    Prop where
  present : cell.2.isNull = false
  converts : ∃ w, τ.Converts property cell.2 w
  found : ∃ p, m.propertyOfColumn? cell.1 = some p ∧ p.property = property

theorem leads_of_place (built : Mapping.Built τ.descriptor .relational m)
    (known : ∀ o ∈ asked, ∃ p ∈ m.properties, p.property = o.property)
    (answered : AnsweredBy τ m asked cells) {o : Output} {cell : String × Value}
    (zipped : (o, cell) ∈ asked.zip cells) : Leads τ m o.property cell := by
  obtain ⟨spelled, present, converts⟩ := (List.forall₂_iff_zip.mp answered).2 zipped
  obtain ⟨p, hp, own⟩ := known o (List.of_mem_zip zipped).1
  refine ⟨present, converts, p, ?_, own⟩
  rw [Row.propertyOfColumn?_of_lower spelled, ← own, Mapping.named_of_mem built.distinct hp]
  exact built.propertyOfColumn?_column hp

theorem restores_of_answeredBy (built : Mapping.Built τ.descriptor .relational m)
    (known : ∀ o ∈ asked, ∃ p ∈ m.properties, p.property = o.property)
    (answered : AnsweredBy τ m asked cells) (same : visited.Perm (writeAll Row.put cells [])) :
    ∃ e, Row.toEntity τ m visited = .ok e ∧ Restores τ asked cells e := by
  -- A visited cell has the place of a column, and leads to what was asked for there.
  have placed : ∀ cell ∈ visited,
      ∃ o, (o, cell) ∈ asked.zip cells ∧ Leads τ m o.property cell := by
    intro cell mem
    obtain ⟨o, zipped⟩ := exists_place answered
      (Row.overwrites_put.mem_of_writeAll Update.distinct_nil (same.subset mem))
    exact ⟨o, zipped, leads_of_place built known answered zipped⟩
  have convertible : Row.Convertible τ m visited := by
    intro cell mem p hp _
    obtain ⟨o, -, -, ⟨w, converts⟩, p', found, own⟩ := placed cell mem
    obtain rfl := Option.some.inj (hp.symm.trans found)
    exact ⟨w, own ▸ converts⟩
  obtain ⟨e, mapped⟩ := (Row.exists_fill_iff built (Entity.blank τ)).mpr convertible
  have given : ∀ x ∈ asked.zip cells, ∃ y ∈ asked.zip cells, y.1.property = x.1.property ∧
      τ.Converts x.1.property y.2.2 (e.valueOf x.1.property) := by
    rintro ⟨o, cell⟩ zipped
    rcases Row.converts_of_fill built mapped o.property with
      ⟨cell', mem, p, -, found, own, -, converts⟩ | ⟨none, -⟩
    · obtain ⟨o', zipped', -, -, p', found', own'⟩ := placed cell' mem
      obtain rfl := Option.some.inj (found.symm.trans found')
      exact ⟨(o', cell'), zipped', own'.symm.trans own, converts⟩
    · -- The row has a cell of this name, if not with this value.
      obtain ⟨-, -, p, found, own⟩ := leads_of_place built known answered zipped
      have column : cell.1 ∈ visited.map (·.1) := by
        rw [(same.map _).mem_iff, Row.overwrites_put.mem_keys_of_writeAll Update.distinct_nil]
        exact List.mem_map_of_mem (List.of_mem_zip zipped).2
      obtain ⟨cell', mem, spelled⟩ := List.mem_map.mp column
      obtain ⟨-, -, present, -⟩ := placed cell' mem
      rw [← spelled] at found
      exact absurd ⟨cell', mem, p, found, own, present⟩ none
  refine ⟨e, mapped, given, ?_, ?_⟩
  · intro x hx alike
    obtain ⟨y, hy, own, converts⟩ := given x hx
    rwa [alike y hy own] at converts
  · intro f hf absent
    rcases Row.converts_of_fill built mapped f.property with
      ⟨cell, mem, p, -, found, own, -, -⟩ | ⟨-, unchanged⟩
    · obtain ⟨o, zipped, -, -, p', found', own'⟩ := placed cell mem
      obtain rfl := Option.some.inj (found.symm.trans found')
      exact absurd (List.mem_map.mpr
        ⟨o, (List.of_mem_zip zipped).1, own'.symm.trans own⟩) absent
    · exact unchanged

end Answered

/-- Every column of a selection is listed under a name that leads back to the property which was
asked for in its place. A row of the answer is mapped to an entity with the values of these
properties, and blank otherwise, whatever the spelling and the order of its columns. -/
theorem projection_restores (build : Mapping.build τ.descriptor .relational = .ok m)
    {clause : String} (selected : selectClause m q = .ok clause) :
    clause = "SELECT " ++
        ",".intercalate ((outputs τ q).map fun o => o.item (m.named o.property)) ++ " " ∧
      (∀ o ∈ outputs τ q, ∃ p ∈ m.properties, p.property = o.property ∧
        p.column = m.named o.property ∧ m.propertyOfColumn? (m.named o.property) = some p) ∧
      ∀ cells visited : Row, AnsweredBy τ m (outputs τ q) cells →
        visited.Perm (writeAll Row.put cells []) →
        ∃ e, Row.toEntity τ m visited = .ok e ∧ Restores τ (outputs τ q) cells e := by
  have built := Mapping.built_of_build build
  obtain ⟨items, listed, rfl⟩ := map_eq_ok.mp selected
  have known := known_of_selectList built listed
  refine ⟨?_, ?_, fun cells visited => restores_of_answeredBy built known⟩
  · rw [selectNames_of_selectList listed, selectNames_eq built]
  · intro o mem
    obtain ⟨p, hp, own⟩ := known o mem
    rw [← own, Mapping.named_of_mem built.distinct hp]
    exact ⟨p, hp, rfl, rfl, built.propertyOfColumn?_column hp⟩

def tallies : EntityType where
  typeName := "Tally"
  names := { table := some "tallies" }
  fields := [
    ⟨"id", ⟨.int32, false⟩, .derived, true, false, false⟩,
    ⟨"regionName", ⟨.text, true⟩, .derived, false, false, false⟩,
    ⟨"total", ⟨.int64, false⟩, .missing, false, true, false⟩]

def tallyMapping : Mapping where
  typeName := "Tally"
  policy := .relational
  properties := [
    ⟨"id", "id", .int32, false, false⟩,
    ⟨"regionName", "region_name", .text, true, false⟩,
    ⟨"total", "total", .int64, false, true⟩]
  key := ⟨"id", "id", .int32, false, false⟩
  version := none
  names := { table := some "tallies" }

def regionTotals : Query := { groupBys := [⟨"regionName", some "total"⟩] }

theorem regionTotals_restores :
    Mapping.build tallies.descriptor .relational = .ok tallyMapping ∧
    selectClause tallyMapping regionTotals = .ok "SELECT region_name,COUNT(*) AS total " ∧
    AnsweredBy tallies tallyMapping (outputs tallies regionTotals)
      [("REGION_NAME", .text "north"), ("Total", .int32 3)] ∧
    ∃ e, Row.toEntity tallies tallyMapping
        [("Total", .int32 3), ("REGION_NAME", .text "north")] = .ok e ∧
      Restores tallies (outputs tallies regionTotals)
        [("REGION_NAME", .text "north"), ("Total", .int32 3)] e ∧
      e.values = [("id", .int32 0), ("regionName", .text "north"), ("total", .int64 3)] := by
  have build : Mapping.build tallies.descriptor .relational = .ok tallyMapping := by
    decide +kernel
  have selected : selectClause tallyMapping regionTotals =
      .ok "SELECT region_name,COUNT(*) AS total " := by rfl
  have answered : AnsweredBy tallies tallyMapping (outputs tallies regionTotals)
      [("REGION_NAME", .text "north"), ("Total", .int32 3)] := by
    refine .cons ⟨by decide +kernel, rfl, .text "north", ?_⟩
      (.cons ⟨by decide +kernel, rfl, .int64 3, ?_⟩ .nil)
    · exact ⟨_, List.mem_cons_of_mem _ List.mem_cons_self, rfl, _, rfl, rfl⟩
    · exact ⟨_, List.mem_cons_of_mem _ (List.mem_cons_of_mem _ List.mem_cons_self), rfl, _, rfl,
        rfl⟩
  obtain ⟨-, -, restores⟩ := projection_restores build selected
  have same : [("Total", Value.int32 3), ("REGION_NAME", .text "north")] =
      writeAll Row.put [("REGION_NAME", .text "north"), ("Total", .int32 3)] [] := rfl
  obtain ⟨e, mapped, restored⟩ := restores _ _ answered (.of_eq same)
  refine ⟨build, selected, answered, e, mapped, restored, ?_⟩
  have values : (Row.toEntity tallies tallyMapping
      [("Total", .int32 3), ("REGION_NAME", .text "north")]).toOption.map Entity.values =
        some [("id", .int32 0), ("regionName", .text "north"), ("total", .int64 3)] := by rfl
  rw [mapped] at values
  exact Option.some.inj values

end EntityStore.Relational
