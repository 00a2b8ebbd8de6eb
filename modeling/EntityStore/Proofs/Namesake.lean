import EntityStore.Proofs.Lookup
import EntityStore.Proofs.Template
import EntityStore.Relational.Statement

/-!
# Properties of one name

Nothing keeps a declaration from giving two properties one name, as long as their columns differ.
The name then leads to the one declared last. If a namesake stands behind the key, a row is deleted
by the column of the key and looked for by the column of the namesake.
-/

namespace EntityStore

/-! ## Namesakes -/

def Descriptor.Shadowed (d : Descriptor) (f : FieldSpec) : Prop :=
  ∃ before after, d.fields = before ++ f :: after ∧ ∃ g ∈ after, g.property = f.property

namespace Mapping

variable {d : Descriptor} {policy : Policy} {m : Mapping} {f : FieldSpec} {p : PropertyMapping}

theorem property?_eq_self_iff {before after : List PropertyMapping}
    (split : m.properties = before ++ p :: after) (once : p ∉ after) :
    m.property? p.property = some p ↔ ∀ q ∈ after, q.property ≠ p.property := by
  unfold property?
  rw [split, List.reverse_append, List.reverse_cons, List.append_assoc, List.find?_append]
  cases found : after.reverse.find? (·.property == p.property) with
  | none =>
    refine iff_of_true (by simp) fun q hq same => ?_
    have other := List.find?_eq_none.mp found q (List.mem_reverse.mpr hq)
    exact other (by simp [same])
  | some q =>
    have hq : q ∈ after := List.mem_reverse.mp (List.mem_of_find?_eq_some found)
    have same : q.property = p.property := by simpa using List.find?_some found
    refine iff_of_false ?_ fun others => others q hq same
    rintro ⟨⟩
    exact once hq

theorem Built.nodup (built : Built d policy m) : m.properties.Nodup :=
  built.columns.of_map

theorem Built.property?_of_split (built : Built d policy m) {before after : List FieldSpec}
    (split : d.fields = before ++ f :: after) :
    m.property? f.property = some (f.mapping policy) ↔ ∀ g ∈ after, g.property ≠ f.property := by
  have splits : m.properties =
      before.map (·.mapping policy) ++ f.mapping policy :: after.map (·.mapping policy) := by
    rw [built.properties, split, List.map_append, List.map_cons]
  have nodup := built.nodup
  rw [splits] at nodup
  have once := (List.nodup_cons.mp (List.nodup_append.mp nodup).2.1).1
  apply (property?_eq_self_iff splits once).trans
  exact List.forall_mem_map

theorem Built.property?_field_iff (built : Built d policy m) (hf : f ∈ d.fields) :
    m.property? f.property = some (f.mapping policy) ↔ ¬ d.Shadowed f := by
  constructor
  · rintro found ⟨before, after, split, g, hg, same⟩
    exact (built.property?_of_split split).mp found g hg same
  · intro last
    obtain ⟨before, after, split⟩ := List.append_of_mem hf
    apply (built.property?_of_split split).mpr
    exact fun g hg same => last ⟨before, after, split, g, hg, same⟩

theorem Built.forall_property?_iff (built : Built d policy m) :
    (∀ p ∈ m.properties, m.property? p.property = some p) ↔ (d.fields.map (·.property)).Nodup := by
  constructor
  · intro each
    have names : d.fields.map (·.property) = m.properties.map (·.property) := by
      rw [built.properties, List.map_map]
      rfl
    rw [names]
    apply built.nodup.map_on
    intro p hp q hq same
    have found := each p hp
    rw [same, each q hq] at found
    exact (Option.some.inj found).symm
  · exact fun distinct p hp => property?_of_mem (built.nodup_properties distinct) hp

end Mapping

/-! ## Rows by their key -/

namespace Relational

variable {m : Mapping} {column : String}

/-- Updates and searches by id look for the row in the column `sought`, deletions in `deleted`. -/
structure KeyColumns (m : Mapping) (sought deleted : String) : Prop where
  sought : ∀ id : Id, ∃ condition,
    whereClause m (some (.equal m.key.property id.toValue)) = .ok condition ∧
      condition.sql = "WHERE " ++ sought ++ " = ? " ∧ condition.params = [id.toValue]
  deleted : ∀ id : Id,
    (deleteById m id).sql = "DELETE " ++ fromClause m ++ "WHERE " ++ deleted ++ " = ?" ∧
      (deleteById m id).params = [id.toValue]

theorem whereClause_key (found : m.columnOf? m.key.property = some column) (id : Id) :
    whereClause m (some (.equal m.key.property id.toValue)) =
      .ok [.fixed "WHERE ", .fixed (column ++ " = "), .bound id.toValue, .fixed " "] := by
  have scalar : id.toValue.isList = false := by cases id <;> rfl
  have start : column ++ " " ++ "=" ++ " " = column ++ " = " := by simp [String.append_assoc]
  have single : predicate m ⟨m.key.property, .eq, id.toValue⟩ =
      .ok [.fixed (column ++ " = "), .bound id.toValue] := by
    unfold predicate Criterion.singleValue
    rw [Mapping.column_eq_ok.mpr found, ← start]
    simp [scalar, Operator.shape, Operator.symbol]
    rfl
  unfold whereClause Criteria.equal Criteria.single Criteria.nodes
  simp [predicates, single, Template.separated]

theorem keyColumns (found : m.columnOf? m.key.property = some column) :
    KeyColumns m column m.key.column where
  sought id := by
    refine ⟨_, whereClause_key found id, ?_, rfl⟩
    simp [String.append_assoc]
  deleted id := by
    refine ⟨?_, rfl⟩
    unfold deleteById fromClause
    simp [String.append_assoc]
    rfl

end Relational

namespace Mapping

variable {d : Descriptor} {policy : Policy} {m : Mapping}

/-- A property is found by its name exactly where no later one has the same name. The column in which
rows are looked for by their key is then the one by which they are deleted exactly where no property
behind the key has the name of the key. -/
theorem found_by_name_iff (build : Mapping.build d policy = .ok m) :
    (∀ f ∈ d.fields, m.property? f.property = some (f.mapping policy) ↔ ¬ d.Shadowed f) ∧
    ((∀ p ∈ m.properties, m.property? p.property = some p) ↔
      (d.fields.map (·.property)).Nodup) ∧
    ∃ key sought, d.IsKey key ∧ m.key = key.mapping policy ∧
      m.columnOf? m.key.property = some sought ∧
      Relational.KeyColumns m sought m.key.column ∧
      (sought = m.key.column ↔ ¬ d.Shadowed key) := by
  have built := built_of_build build
  obtain ⟨key, isKey, hkey⟩ := built.key
  have keyMem := mem_properties built.key_mem
  obtain ⟨p, found⟩ := exists_property? keyMem
  have column := columnOf?_of_property? found
  refine ⟨fun f hf => built.property?_field_iff hf, built.forall_property?_iff, key, p.column,
    isKey, hkey, column, Relational.keyColumns column, ?_⟩
  rw [← built.property?_field_iff isKey.mem, ← hkey]
  have own : key.property = m.key.property := by
    rw [hkey]
    rfl
  rw [own, found, Option.some.injEq]
  constructor
  · -- No two properties share a column, so the column tells which property was found.
    intro same
    exact built.eq_of_lower (mem_of_property? found).1 keyMem (by rw [same])
  · rintro rfl
    rfl

def badges : Descriptor where
  typeName := "Badge"
  names := { table := some "badges" }
  fields := [
    { property := "id", kind := .int64, column := .named "badge_id", primaryKey := true },
    { property := "id", kind := .text, column := .named "label" }]

def badgeMapping : Mapping where
  typeName := "Badge"
  policy := .relational
  properties := [⟨"id", "badge_id", .int64, false, false⟩, ⟨"id", "label", .text, false, false⟩]
  key := ⟨"id", "badge_id", .int64, false, false⟩
  version := none
  names := { table := some "badges" }

theorem build_badges : build badges .relational = .ok badgeMapping := by
  decide +kernel

theorem badge_sought_by_label :
    build badges .relational = .ok badgeMapping ∧
    badgeMapping.columnOf? "id" = some "label" ∧
    Relational.KeyColumns badgeMapping "label" "badge_id" := by
  obtain ⟨-, -, key, sought, -, -, column, columns, -⟩ := found_by_name_iff build_badges
  cases column
  exact ⟨build_badges, rfl, columns⟩

theorem not_found_by_name :
    (¬ ∀ d policy m, build d policy = .ok m → ∀ p ∈ m.properties, m.property? p.property = some p) ∧
    ¬ ∀ d policy m, build d policy = .ok m → m.columnOf? m.key.property = some m.key.column := by
  constructor
  · intro each
    have found := each badges .relational badgeMapping build_badges _ List.mem_cons_self
    revert found
    decide
  · intro always
    have column := always badges .relational badgeMapping build_badges
    revert column
    decide

end Mapping

end EntityStore
