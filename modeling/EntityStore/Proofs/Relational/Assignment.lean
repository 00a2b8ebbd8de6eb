import EntityStore.Proofs.Refusal
import EntityStore.Proofs.Relational.Alignment
import EntityStore.Proofs.Update

/-!
# What an update sets

An update is compiled where all its properties are known, one of them is stored and its conditions
are accepted. It then sets the columns of the stored ones in its own order, and none of them twice.
-/

namespace EntityStore

/-! ## Stored properties -/

namespace Descriptor

def keeps (d : Descriptor) (property : String) : Bool :=
  d.fields.any fun f => f.property == property && !f.transient

theorem keeps_iff {d : Descriptor} {property : String} :
    d.keeps property = true ↔ ∃ f ∈ d.fields, f.property = property ∧ f.transient = false := by
  simp [keeps]

theorem declares_iff {d : Descriptor} {property : String} :
    d.declares property = true ↔ ∃ f ∈ d.fields, f.property = property := by
  simp [declares]

theorem undeclared?_eq_none {d : Descriptor} {parameter : Parameter} {property : String} :
    d.undeclared? parameter property = none ↔ d.declares property = true := by
  unfold undeclared?
  split_ifs with declared <;> simp [declared]

end Descriptor

namespace Update

def undeclared? (d : Descriptor) (u : Update) : Option StoreError :=
  u.keys.findSome? (d.undeclared? .update)

def unkept? (d : Descriptor) (u : Update) : Option StoreError :=
  if u.keys.any d.keeps then none else some (.invalidArgument .update .nothingPersisted)

theorem undeclared?_eq_none {d : Descriptor} {u : Update} :
    u.undeclared? d = none ↔ ∀ key ∈ u.keys, d.declares key = true := by
  simp only [undeclared?, List.findSome?_eq_none_iff, Descriptor.undeclared?_eq_none]

theorem unkept?_eq_none {d : Descriptor} {u : Update} :
    u.unkept? d = none ↔ ∃ key ∈ u.keys, d.keeps key = true := by
  unfold unkept?
  rw [← List.any_eq_true]
  split_ifs with stored <;> simp [stored]

end Update

namespace Mapping

variable {d : Descriptor} {policy : Policy} {m : Mapping}

theorem Built.mem_field (built : Built d policy m) {f : FieldSpec} (hf : f ∈ d.fields) :
    f.mapping policy ∈ m.properties := by
  rw [built.properties]
  exact List.mem_map_of_mem hf

section

variable (distinct : (d.fields.map (·.property)).Nodup) (built : Built d policy m)
include distinct built

theorem Built.named_field {f : FieldSpec} (hf : f ∈ d.fields) :
    m.named f.property = f.columnName policy :=
  named_of_mem (built.nodup_properties distinct) (built.mem_field hf)

theorem Built.not_isTransient {property : String} (declared : d.declares property = true) :
    (!m.isTransient property) = d.keeps property := by
  obtain ⟨f, hf, rfl⟩ := Descriptor.declares_iff.mp declared
  have known : m.property? f.property = some (f.mapping policy) :=
    property?_of_mem (built.nodup_properties distinct) (built.mem_field hf)
  have own : m.isTransient f.property = f.transient := by
    rw [Mapping.isTransient, known]
    rfl
  rw [own, Bool.eq_iff_iff, Descriptor.keeps_iff]
  constructor
  · intro stored
    exact ⟨f, hf, rfl, by simpa using stored⟩
  · rintro ⟨g, hg, same, stored⟩
    obtain rfl := List.inj_on_of_nodup_map distinct hg hf same
    simp [stored]

end

end Mapping

namespace Relational

variable {d : Descriptor} {m : Mapping} {u : Update} {criteria : Criteria}

/-! ## The columns that are set -/

/-- The columns of the stored properties of an update, with their values and in its order. -/
structure Sets (d : Descriptor) (u : Update) (sets : List (String × Value)) : Prop where
  each : List.Forall₂
    (fun cell entry => cell.2 = entry.2 ∧
      ∃ f ∈ d.fields, f.property = entry.1 ∧ cell.1 = f.columnName .relational)
    sets (u.entries.filter fun entry => d.keeps entry.1)
  /-- No column is set twice, not even under another spelling. -/
  once : (sets.map fun cell => Text.lower cell.1).Nodup

section

variable (distinct : (d.fields.map (·.property)).Nodup) (built : Mapping.Built d .relational m)
include distinct built

theorem settings_eq (declared : ∀ key ∈ u.keys, d.declares key = true) :
    settings m u.entries = (u.entries.filter fun entry => d.keeps entry.1).map
      fun entry => (m.named entry.1, entry.2) := by
  unfold settings
  congr 1
  refine List.filter_congr fun entry mem => ?_
  exact built.not_isTransient distinct (declared _ (List.mem_map_of_mem mem))

theorem sets_settings (once : Distinct u.entries)
    (declared : ∀ key ∈ u.keys, d.declares key = true) : Sets d u (settings m u.entries) := by
  rw [settings_eq distinct built declared]
  have field : ∀ entry ∈ u.entries.filter (fun entry => d.keeps entry.1),
      ∃ f ∈ d.fields, f.property = entry.1 ∧ m.named entry.1 = f.columnName .relational := by
    intro entry mem
    obtain ⟨f, hf, own, -⟩ := Descriptor.keeps_iff.mp (List.mem_filter.mp mem).2
    exact ⟨f, hf, own, own ▸ built.named_field distinct hf⟩
  constructor
  · rw [List.forall₂_map_left_iff, List.forall₂_same]
    exact fun entry mem => ⟨rfl, field entry mem⟩
  · rw [List.map_map]
    have entries : (u.entries.filter fun entry => d.keeps entry.1).Nodup :=
      (List.Nodup.of_map _ once).filter _
    refine entries.map_on fun x hx y hy same => ?_
    obtain ⟨f, hf, own, column⟩ := field x hx
    obtain ⟨g, hg, own', column'⟩ := field y hy
    -- Columns that are spelled alike are those of one field, and this stands in the update once.
    have one : f = g := by
      have columns := built.columns
      rw [built.properties, List.map_map] at columns
      refine List.inj_on_of_nodup_map columns hf hg ?_
      simpa [column, column', FieldSpec.mapping] using same
    refine List.inj_on_of_nodup_map once (List.mem_of_mem_filter hx) (List.mem_of_mem_filter hy) ?_
    rw [← own, ← own', one]

theorem isEmpty_settings (declared : ∀ key ∈ u.keys, d.declares key = true) :
    (!(settings m u.entries).isEmpty) = u.keys.any d.keeps := by
  rw [settings_eq distinct built declared, Bool.eq_iff_iff]
  simp [Update.keys, List.filter_eq_nil_iff]

end

/-! ## What is refused -/

theorem refusal?_assignments (built : Mapping.Built d .relational m)
    (entries : List (String × Value)) :
    refusal? (assignments m entries) =
      (entries.map (·.1)).findSome? (d.undeclared? .update) := by
  induction entries with
  | nil => rfl
  | cons entry rest ih =>
    -- A transient property is looked up before it is passed over.
    rw [assignments, List.map_cons, List.findSome?_cons, ← built.refusal?_column, ← ih]
    rw [refusal?_bind fun column _ => refusal?_bind fun later _ => refusal?_pure _, Option.or_none]
    cases refusal? (m.column .update entry.1) <;> rfl

theorem declares_of_assignments (built : Mapping.Built d .relational m)
    {sets : List (String × Value)} (ok : assignments m u.entries = .ok sets) :
    ∀ key ∈ u.keys, d.declares key = true := by
  apply Update.undeclared?_eq_none.mp
  rw [Update.undeclared?, Update.keys, ← refusal?_assignments built, ok, refusal?_ok]

theorem refusal?_update (distinct : (d.fields.map (·.property)).Nodup)
    (built : Mapping.Built d .relational m) :
    refusal? (update m u criteria) =
      (u.undeclared? d).or ((u.unkept? d).or (refusal? (whereClause m (some criteria)))) := by
  unfold update
  rw [Update.undeclared?, Update.keys, ← refusal?_assignments built]
  refine refusal?_bind fun sets ok => ?_
  have stored : (!sets.isEmpty) = u.keys.any d.keeps := by
    rw [settings_of_assignments ok]
    exact isEmpty_settings distinct built (declares_of_assignments built ok)
  have required : refusal? (require (!sets.isEmpty) .update .nothingPersisted) = u.unkept? d := by
    unfold require Update.unkept?
    rw [stored]
    split_ifs <;> rfl
  rw [← required]
  refine refusal?_bind fun _ _ => ?_
  rw [refusal?_bind fun condition _ => refusal?_pure _, Option.or_none]

/-! ## Compiled updates -/

/-- An update compiles where all its properties are declared, one of them is stored and the
conditions are accepted, and is refused for the first of the three that fails. -/
structure Compiled (d : Descriptor) (m : Mapping) (u : Update) (criteria : Criteria) : Prop where
  succeeds : (∃ t, update m u criteria = .ok t) ↔
    (∀ key ∈ u.keys, d.declares key = true) ∧ (∃ key ∈ u.keys, d.keeps key = true) ∧
      ∃ condition, whereClause m (some criteria) = .ok condition
  sets : ∀ t, update m u criteria = .ok t → ∃ sets condition, Sets d u sets ∧
    whereClause m (some criteria) = .ok condition ∧
    t.statement.sql = "UPDATE " ++ m.tableName ++ " SET " ++
      ",".intercalate (sets.map fun cell => cell.1 ++ "=?") ++ " " ++ condition.sql ∧
    t.statement.params = sets.map (·.2) ++ condition.params
  refused : refusal? (update m u criteria) =
    (u.undeclared? d).or ((u.unkept? d).or (refusal? (whereClause m (some criteria))))

theorem sql_setList (sets : List (String × Value)) :
    Template.sql (Template.separated "," (sets.map fun (column, value) =>
      [.fixed (column ++ "="), .bound value])) =
      ",".intercalate (sets.map fun cell => cell.1 ++ "=?") := by
  rw [Template.sql_separated, List.map_map]
  congr 1
  refine List.map_congr_left fun cell _ => ?_
  simp [String.append_assoc]

theorem params_setList (sets : List (String × Value)) :
    Template.params (Template.separated "," (sets.map fun (column, value) =>
      [.fixed (column ++ "="), .bound value])) = sets.map (·.2) := by
  rw [Template.params_separated, List.flatMap_map, List.map_eq_flatMap]
  rfl

/-- However an update was built, it sets the columns of its stored properties, each once. -/
theorem update_compiled (distinct : (d.fields.map (·.property)).Nodup)
    (build : Mapping.build d .relational = .ok m) (edits : List Update.Edit)
    (criteria : Criteria) : Compiled d m (Update.edited edits) criteria := by
  have built := Mapping.built_of_build build
  refine ⟨?_, ?_, refusal?_update distinct built⟩
  · rw [← refusal?_eq_none, ← refusal?_eq_none, refusal?_update distinct built,
      Option.or_eq_none_iff, Option.or_eq_none_iff, Update.undeclared?_eq_none,
      Update.unkept?_eq_none]
  · intro t ok
    unfold update at ok
    obtain ⟨sets, hsets, ok⟩ := bind_eq_ok.mp ok
    obtain ⟨_, -, ok⟩ := bind_eq_ok.mp ok
    obtain ⟨condition, hcondition, ok⟩ := bind_eq_ok.mp ok
    cases ok
    have own : Sets d (Update.edited edits) sets := by
      rw [settings_of_assignments hsets]
      exact sets_settings distinct built (Update.distinct_edited edits)
        (declares_of_assignments built hsets)
    refine ⟨sets, condition, own, hcondition, ?_, ?_⟩
    · simp [Template.statement, sql_setList, String.append_assoc]
    · simp [Template.statement, params_setList]

def nameEdits : List Update.Edit :=
  [.set "id" (.int64 7), .set "ownerName" (.text "smith"), .set "mark" (.boolean true),
    .erase "id", .set "ownerName" (.text "jones"), .set "id" (.int64 9)]

theorem nameEdits_compiled :
    (accounts.descriptor.fields.map (·.property)).Nodup ∧
    Mapping.build accounts.descriptor .relational = .ok accountMapping ∧
    Compiled accounts.descriptor accountMapping (Update.edited nameEdits)
      (Criteria.single "id" .eq (.int64 7)) ∧
    ∃ t, update accountMapping (Update.edited nameEdits) (Criteria.single "id" .eq (.int64 7)) =
        .ok t ∧
      t.statement.sql = "UPDATE accounts SET owner_name=?,id=? WHERE id = ? " ∧
      t.statement.params = [.text "jones", .int64 9, .int64 7] := by
  have distinct : (accounts.descriptor.fields.map (·.property)).Nodup := by decide
  refine ⟨distinct, build_accounts, update_compiled distinct build_accounts nameEdits _, _, rfl, ?_⟩
  exact ⟨by decide +kernel, rfl⟩

/-- Nothing would be stored and a condition is at fault, but an unknown property is told first. -/
example : refusal? (update accountMapping
    (Update.edited [.set "mark" (.boolean true), .set "nick" .null])
    (Criteria.single "colour" .isNull .null)) = some (.unknownProperty .update "nick") := by
  decide +kernel

end Relational

end EntityStore
