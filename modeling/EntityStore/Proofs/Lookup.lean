import EntityStore.Proofs.Mapping

/-!
# Properties and columns find each other

A mapping answers for names in both directions: a property leads to its column, and a column in any
spelling back to its property. Where the properties of a descriptor have distinct names, every mapping
that is built from it answers so.
-/

namespace EntityStore

namespace Text

theorem nonBlank?_eq_some {given : Option String} {name : String} :
    nonBlank? given = some name ↔ given = some name ∧ isBlank name = false := by
  unfold nonBlank?
  rw [Option.filter_eq_some_iff]
  simp

end Text

/-! ## Names of places -/

def Names.place? (names : Names) : Policy → Option String
  | .relational | .wideColumn => names.table
  | .search => names.index

theorem Names.isBlank_of_place? {names : Names} {policy : Policy} {name : String}
    (present : names.present.place? policy = some name) : Text.isBlank name = false := by
  unfold Names.place? Names.present at present
  cases policy with
  | relational => exact (Text.nonBlank?_eq_some.mp present).2
  | search => exact (Text.nonBlank?_eq_some.mp present).2
  | wideColumn => exact (Text.nonBlank?_eq_some.mp present).2

theorem Descriptor.exists_place_of_checkName {names : Names} {policy : Policy}
    (ok : checkName names policy = .ok ()) : ∃ name, names.place? policy = some name := by
  have given (place : Option String) (fault : EntityFault)
      (ok : (if place.isNone then .error fault else .ok () : Except EntityFault Unit) = .ok ()) :
      ∃ name, place = some name := by
    cases place with
    | none => cases ok
    | some name => exact ⟨name, rfl⟩
  cases policy with
  | relational => exact given names.table _ ok
  | search => exact given names.index _ ok
  | wideColumn => exact given names.table _ ok

namespace Mapping

variable {d : Descriptor} {policy : Policy} {m : Mapping}

theorem exists_place_of_build (ok : build d policy = .ok m) :
    ∃ name, m.names.place? policy = some name ∧ Text.isBlank name = false := by
  obtain ⟨_, _, -, -, -, named, rfl⟩ := parts_of_build ok
  obtain ⟨name, present⟩ := Descriptor.exists_place_of_checkName named
  exact ⟨name, present, Names.isBlank_of_place? present⟩

/-! ## Looking up -/

theorem Built.nodup_properties (built : Built d policy m)
    (distinct : (d.fields.map (·.property)).Nodup) : (m.properties.map (·.property)).Nodup := by
  rw [built.properties, List.map_map]
  exact distinct

theorem Built.persisted (built : Built d policy m) :
    m.persisted = (d.fields.filter (!·.transient)).map (·.mapping policy) := by
  unfold Mapping.persisted
  rw [built.properties, List.filter_map]
  rfl

theorem Built.propertyOfColumn?_eq_some (built : Built d policy m) {p : PropertyMapping}
    (hp : p ∈ m.properties) (name : String) :
    m.propertyOfColumn? name = some p ↔ Text.lower name = Text.lower p.column := by
  constructor
  · intro found
    have same := List.find?_some found
    exact (by simpa using same : Text.lower p.column = Text.lower name).symm
  · intro same
    have found := built.propertyOfColumn?_column hp
    unfold Mapping.propertyOfColumn? at found ⊢
    rw [same]
    exact found

theorem propertyOfColumn?_eq_none {name : String} :
    m.propertyOfColumn? name = none ↔
      ∀ p ∈ m.properties, Text.lower name ≠ Text.lower p.column := by
  unfold propertyOfColumn?
  rw [List.find?_eq_none]
  simp only [beq_iff_eq]
  constructor
  · intro none p hp same
    exact none p hp same.symm
  · intro other p hp same
    exact other p hp same.symm

theorem columnOf?_of_mem (distinct : (m.properties.map (·.property)).Nodup) {p : PropertyMapping}
    (hp : p ∈ m.properties) : m.columnOf? p.property = some p.column :=
  columnOf?_of_property? (property?_of_mem distinct hp)

/-- The properties of a mapping and their columns find each other; one of the stored properties is
the key, and the place of the entities has a name. -/
structure Answers (d : Descriptor) (policy : Policy) (m : Mapping) : Prop where
  properties : m.properties = d.fields.map (·.mapping policy)
  persisted : m.persisted = (d.fields.filter (!·.transient)).map (·.mapping policy)
  columns : (m.properties.map fun p => Text.lower p.column).Nodup
  property : ∀ p ∈ m.properties, m.property? p.property = some p
  column : ∀ p ∈ m.properties, ∀ name,
    m.propertyOfColumn? name = some p ↔ Text.lower name = Text.lower p.column
  noColumn : ∀ name, m.propertyOfColumn? name = none ↔
    ∀ p ∈ m.properties, Text.lower name ≠ Text.lower p.column
  key : ∃ f, d.fields.filter (·.primaryKey) = [f] ∧ m.key = f.mapping policy
  keyStored : m.key ∈ m.persisted ∧ m.key.transient = false
  keyKind : m.key.kind = .int64 ∨ m.key.kind = .int32 ∨ m.key.kind = .text
  keyColumn : m.columnOf? m.key.property = some m.key.column
  place : ∃ name, m.names.place? policy = some name ∧ Text.isBlank name = false

/-- Where the properties of a descriptor have distinct names, a mapping of it answers for them and
for their columns. -/
theorem answers_of_build (distinct : (d.fields.map (·.property)).Nodup)
    (ok : build d policy = .ok m) : Answers d policy m := by
  have built := built_of_build ok
  have properties := built.nodup_properties distinct
  obtain ⟨f, isKey, hkey⟩ := built.key
  have keyMem := mem_properties built.key_mem
  refine {
    properties := built.properties
    persisted := built.persisted
    columns := built.columns
    property := fun p hp => property?_of_mem properties hp
    column := fun p hp name => built.propertyOfColumn?_eq_some hp name
    noColumn := fun name => propertyOfColumn?_eq_none
    key := ⟨f, isKey.only, hkey⟩
    keyStored := ⟨built.key_mem, ?_⟩
    keyKind := built.key_kind
    keyColumn := columnOf?_of_mem properties keyMem
    place := exists_place_of_build ok }
  rw [hkey]
  exact isKey.stored

theorem accounts_answer :
    (accounts.descriptor.fields.map (·.property)).Nodup ∧
    build accounts.descriptor .relational = .ok accountMapping ∧
    accountMapping.columnOf? "id" = some "id" ∧
    accountMapping.propertyOfColumn? "OWNER_Name" =
      some ⟨"ownerName", "owner_name", .text, true, false⟩ ∧
    accountMapping.propertyOfColumn? "ownerName" = none := by
  have distinct : (accounts.descriptor.fields.map (·.property)).Nodup := by decide
  have answers := answers_of_build distinct build_accounts
  refine ⟨distinct, build_accounts, answers.keyColumn, ?_, ?_⟩
  · exact (answers.column _ (by decide) "OWNER_Name").mpr (by decide +kernel)
  · exact (answers.noColumn "ownerName").mpr (by decide +kernel)

end Mapping

end EntityStore
