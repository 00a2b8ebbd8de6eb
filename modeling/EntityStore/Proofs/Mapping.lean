import EntityStore.Mapping.Row
import EntityStore.Proofs.Result
import Mathlib.Data.List.Nodup

/-!
# Built mappings

What the checks of a descriptor leave to rely on: one mapping a field, one key among the stored
properties, and no column twice. A property and its column then find each other.
-/

namespace EntityStore

/-! ## What the checks say -/

namespace Descriptor

structure IsKey (d : Descriptor) (f : FieldSpec) : Prop where
  only : d.fields.filter (·.primaryKey) = [f]
  stored : f.transient = false
  kind : f.kind = .int64 ∨ f.kind = .int32 ∨ f.kind = .text

theorem IsKey.mem {d : Descriptor} {f : FieldSpec} (isKey : d.IsKey f) : f ∈ d.fields := by
  apply List.mem_of_mem_filter (p := (·.primaryKey))
  simp [isKey.only]

theorem isKey_of_keyField {d : Descriptor} {f : FieldSpec} (ok : d.keyField = .ok f) :
    d.IsKey f := by
  unfold keyField at ok
  split at ok
  · rename_i g hg
    split_ifs at ok with ht hk
    cases ok
    exact ⟨hg, by simpa using ht, hk⟩
  · cases ok

theorem isVersion_of_versionField {d : Descriptor} {f : FieldSpec}
    (ok : d.versionField = .ok (some f)) :
    f ∈ d.fields ∧ f.version = true ∧ (f.kind = .int64 ∨ f.kind = .int32) := by
  unfold versionField at ok
  split at ok
  · cases ok
  · rename_i g hg
    split_ifs at ok with hk
    cases ok
    have hf : f ∈ d.fields.filter (·.version) := by simp [hg]
    obtain ⟨hf, version⟩ := List.mem_filter.mp hf
    exact ⟨hf, version, hk⟩
  · cases ok

theorem nodup_of_checkColumns {policy : Policy} {taken : List String} {fields : List FieldSpec}
    (ok : checkColumns policy taken fields = .ok ()) :
    (fields.map fun f => Text.lower (f.columnName policy)).Nodup ∧
      ∀ f ∈ fields, Text.lower (f.columnName policy) ∉ taken := by
  induction fields generalizing taken with
  | nil => simp
  | cons f rest ih =>
    rw [checkColumns] at ok
    split_ifs at ok with _ fresh
    obtain ⟨distinct, others⟩ := ih ok
    refine ⟨List.nodup_cons.mpr ⟨?_, distinct⟩, ?_⟩
    · intro again
      obtain ⟨g, hg, same⟩ := List.mem_map.mp again
      exact others g hg (same ▸ List.mem_cons_self)
    · intro g hg
      rcases List.mem_cons.mp hg with rfl | hg
      · exact fresh
      · exact fun found => others g hg (List.mem_cons_of_mem _ found)

end Descriptor

namespace Mapping

structure Built (d : Descriptor) (policy : Policy) (m : Mapping) : Prop where
  properties : m.properties = d.fields.map (·.mapping policy)
  key : ∃ f, d.IsKey f ∧ m.key = f.mapping policy
  version : ∀ p, m.version = some p →
    p ∈ m.properties ∧ (p.kind = .int64 ∨ p.kind = .int32)
  columns : (m.properties.map fun p => Text.lower p.column).Nodup

theorem parts_of_build {d : Descriptor} {policy : Policy} {m : Mapping}
    (ok : build d policy = .ok m) :
    ∃ key version, d.keyField = .ok key ∧ d.versionField = .ok version ∧
      Descriptor.checkColumns policy [] d.fields = .ok () ∧
      Descriptor.checkName d.names.present policy = .ok () ∧
      m = {
        typeName := d.typeName
        policy := policy
        properties := d.fields.map (·.mapping policy)
        key := key.mapping policy
        version := version.map (·.mapping policy)
        names := d.names.present } := by
  rw [build, mapError_eq_ok] at ok
  unfold Descriptor.mapping? at ok
  split_ifs at ok
  · cases ok
  simp only [bind_eq_ok] at ok
  obtain ⟨key, hkey, version, hversion, ⟨⟩, hcolumns, ⟨⟩, named, ok⟩ := ok
  cases ok
  exact ⟨key, version, hkey, hversion, hcolumns, named, rfl⟩

theorem built_of_build {d : Descriptor} {policy : Policy} {m : Mapping}
    (ok : build d policy = .ok m) : Built d policy m := by
  obtain ⟨key, version, hkey, hversion, hcolumns, -, rfl⟩ := parts_of_build ok
  refine ⟨rfl, ⟨key, Descriptor.isKey_of_keyField hkey, rfl⟩, ?_, ?_⟩
  · intro p hp
    obtain ⟨f, rfl, rfl⟩ := Option.map_eq_some_iff.mp hp
    obtain ⟨hf, -, hkind⟩ := Descriptor.isVersion_of_versionField hversion
    exact ⟨List.mem_map_of_mem hf, hkind⟩
  · rw [List.map_map]
    exact (Descriptor.nodup_of_checkColumns hcolumns).1

variable {m : Mapping} {d : Descriptor} {policy : Policy}

theorem exists_version_of_build (ok : build d policy = .ok m) {p : PropertyMapping}
    (versioned : m.version = some p) :
    ∃ f ∈ d.fields, f.version = true ∧ f.mapping policy = p := by
  obtain ⟨_, _, -, hversion, -, -, rfl⟩ := parts_of_build ok
  obtain ⟨f, rfl, rfl⟩ := Option.map_eq_some_iff.mp versioned
  obtain ⟨hf, version, -⟩ := Descriptor.isVersion_of_versionField hversion
  exact ⟨f, hf, version, rfl⟩

theorem Built.key_mem (built : Built d policy m) : m.key ∈ m.persisted := by
  obtain ⟨f, isKey, hkey⟩ := built.key
  rw [persisted, List.mem_filter, built.properties, hkey]
  exact ⟨List.mem_map_of_mem isKey.mem, by simp [FieldSpec.mapping, isKey.stored]⟩

theorem Built.key_kind (built : Built d policy m) :
    m.key.kind = .int64 ∨ m.key.kind = .int32 ∨ m.key.kind = .text := by
  obtain ⟨f, isKey, hkey⟩ := built.key
  rw [hkey]
  exact isKey.kind

theorem mem_properties {p : PropertyMapping} (hp : p ∈ m.persisted) : p ∈ m.properties :=
  List.mem_of_mem_filter hp

/-! ## Properties and columns -/

theorem mem_of_property? {property : String} {p : PropertyMapping}
    (found : m.property? property = some p) : p ∈ m.properties ∧ p.property = property := by
  refine ⟨List.mem_reverse.mp (List.mem_of_find?_eq_some found), ?_⟩
  simpa using List.find?_some found

theorem columnOf?_of_property? {property : String} {p : PropertyMapping}
    (found : m.property? property = some p) : m.columnOf? property = some p.column := by
  rw [columnOf?, found]
  rfl

theorem mem_of_columnOf? {property column : String} (found : m.columnOf? property = some column) :
    ∃ p ∈ m.properties, p.property = property ∧ p.column = column := by
  obtain ⟨p, hp, rfl⟩ := Option.map_eq_some_iff.mp found
  obtain ⟨mem, rfl⟩ := mem_of_property? hp
  exact ⟨p, mem, rfl, rfl⟩

theorem column_eq_ok {parameter : Parameter} {property column : String} :
    m.column parameter property = .ok column ↔ m.columnOf? property = some column := by
  unfold Mapping.column
  split <;> simp_all

theorem exists_property? {p : PropertyMapping} (hp : p ∈ m.properties) :
    ∃ q, m.property? p.property = some q := by
  rw [← Option.isSome_iff_exists, property?, List.find?_isSome]
  exact ⟨p, List.mem_reverse.mpr hp, by simp⟩

theorem property?_of_mem (distinct : (m.properties.map (·.property)).Nodup) {p : PropertyMapping}
    (hp : p ∈ m.properties) : m.property? p.property = some p := by
  obtain ⟨q, hq⟩ := exists_property? hp
  obtain ⟨mem, same⟩ := mem_of_property? hq
  rw [hq, List.inj_on_of_nodup_map distinct mem hp same]

theorem Built.eq_of_lower (built : Built d policy m) {p q : PropertyMapping}
    (hp : p ∈ m.properties) (hq : q ∈ m.properties)
    (same : Text.lower p.column = Text.lower q.column) : p = q :=
  List.inj_on_of_nodup_map built.columns hp hq same

theorem Built.propertyOfColumn?_column (built : Built d policy m) {p : PropertyMapping}
    (hp : p ∈ m.properties) : m.propertyOfColumn? p.column = some p := by
  obtain ⟨q, hq⟩ : ∃ q, m.propertyOfColumn? p.column = some q := by
    rw [← Option.isSome_iff_exists, propertyOfColumn?, List.find?_isSome]
    exact ⟨p, hp, by simp⟩
  have mem := List.mem_of_find?_eq_some hq
  have same := List.find?_some hq
  rw [hq, built.eq_of_lower mem hp (by simpa using same)]

end Mapping

/-! ## A table of accounts -/

def accountId : Field := ⟨"id", ⟨.int64, false⟩, .derived, true, false, false⟩

def accountName : Field := ⟨"ownerName", ⟨.text, true⟩, .derived, false, false, false⟩

def accountMark : Field := ⟨"mark", ⟨.boolean, false⟩, .missing, false, true, false⟩

/-- Accounts, with a name that may be missing and a mark that is not stored. -/
def accounts : EntityType where
  typeName := "Account"
  names := { table := some "accounts" }
  fields := [accountId, accountName, accountMark]

def accountMapping : Mapping where
  typeName := "Account"
  policy := .relational
  properties := [
    ⟨"id", "id", .int64, false, false⟩,
    ⟨"ownerName", "owner_name", .text, true, false⟩,
    ⟨"mark", "mark", .boolean, false, true⟩]
  key := ⟨"id", "id", .int64, false, false⟩
  version := none
  names := { table := some "accounts" }

theorem build_accounts : Mapping.build accounts.descriptor .relational = .ok accountMapping := by
  decide +kernel

end EntityStore
