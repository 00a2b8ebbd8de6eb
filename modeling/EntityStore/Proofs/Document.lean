import EntityStore.Proofs.Overwrite
import EntityStore.Proofs.Conversion
import EntityStore.Proofs.Row
import Mathlib.Data.String.Basic

/-!
# Documents that are merged

The fields of a document stand in the order of their keys, and stay so when a field is given a value.
That makes documents lists that are written over, field by field. A value that is put into a document
is taken back as it was by the field it came from.
-/

namespace EntityStore

namespace Document

def Sorted (doc : Document) : Prop := doc.Pairwise fun a b => a.1 < b.1

theorem mem_insert {key : String} {value : Json} {doc : Document} (sorted : doc.Sorted)
    (field : String × Json) :
    field ∈ insert key value doc ↔ field = (key, value) ∨ field.1 ≠ key ∧ field ∈ doc := by
  induction doc with
  | nil => simp [insert]
  | cons first rest ih =>
    obtain ⟨k, v⟩ := first
    obtain ⟨above, sorted⟩ := List.pairwise_cons.mp sorted
    rw [insert]
    split_ifs with before here
    · refine mem_cons_front ?_ field
      rintro other mem rfl
      rcases List.mem_cons.mp mem with rfl | mem
      · exact lt_irrefl _ before
      · exact lt_asymm before (above other mem)
    · subst here
      refine mem_cons_replaced v ?_ field
      rintro other mem rfl
      exact lt_irrefl _ (above other mem)
    · exact mem_cons_kept (fun same => here same.symm) (ih sorted)

theorem sorted_insert {key : String} {value : Json} {doc : Document} (sorted : doc.Sorted) :
    (insert key value doc).Sorted := by
  induction doc with
  | nil => exact List.pairwise_singleton _ _
  | cons first rest ih =>
    obtain ⟨k, v⟩ := first
    obtain ⟨above, others⟩ := List.pairwise_cons.mp sorted
    rw [insert]
    split_ifs with before here
    · refine List.pairwise_cons.mpr ⟨?_, sorted⟩
      intro field mem
      rcases List.mem_cons.mp mem with rfl | mem
      · exact before
      · exact lt_trans before (above field mem)
    · subst here
      exact List.pairwise_cons.mpr ⟨above, others⟩
    · refine List.pairwise_cons.mpr ⟨?_, ih others⟩
      intro field mem
      rcases (mem_insert others field).mp mem with rfl | ⟨-, mem⟩
      · exact lt_of_le_of_ne (not_lt.mp before) fun same => here same.symm
      · exact above field mem

theorem overwrites_insert : Overwrites Sorted insert := ⟨sorted_insert, mem_insert⟩

theorem sorted_nil : Sorted ([] : Document) := List.Pairwise.nil

theorem sorted_ofFields (fields : List (String × Json)) : (ofFields fields).Sorted :=
  overwrites_insert.fit_writeAll sorted_nil

theorem mem_ofFields {fields : List (String × Json)} {field : String × Json}
    (mem : field ∈ ofFields fields) : field ∈ fields :=
  overwrites_insert.mem_of_writeAll sorted_nil mem

theorem mem_keys_ofFields {fields : List (String × Json)} (key : String) :
    key ∈ (ofFields fields).map (·.1) ↔ key ∈ fields.map (·.1) :=
  overwrites_insert.mem_keys_of_writeAll sorted_nil key

theorem distinct_of_sorted {doc : Document} (sorted : doc.Sorted) : Distinct doc := by
  unfold Distinct List.Nodup
  rw [List.pairwise_map]
  exact sorted.imp fun less => less.ne

end Document

variable {τ : EntityType}

/-! ## Values in documents -/

/-- A number that is not finite has no place in a document. -/
def Value.Finite (v : Value) : Prop := ∀ x, v = .float64 x → x.isFinite = true

def Entity.Finite (e : Entity τ) : Prop := ∀ s ∈ e.slots, s.value.Finite

theorem Entity.Finite.valueOf {e : Entity τ} (finite : e.Finite) (q : String) :
    (e.valueOf q).Finite := by
  unfold Entity.valueOf Entity.get?
  cases h : e.slots.find? (·.property == q) with
  | none => rintro x ⟨⟩
  | some s => exact finite s (List.mem_of_find?_eq_some h)

/-- An integer comes back as a wide one and is narrowed where its field is narrow. -/
theorem Scalar.convert_ofJson_toJson (s : Scalar) {v : Value} (h : v.kind = s.kind)
    (finite : v.Finite) : s.convert (Value.ofJson v.toJson) = .ok ⟨v, h⟩ := by
  rw [Value.ofJson_toJson]
  cases v with
  | null => cases s <;> cases h
  | list items => cases s <;> cases h
  | text t =>
    cases s <;> cases h
    rfl
  | boolean b =>
    cases s <;> cases h
    rfl
  | float64 x =>
    cases s <;> cases h
    rw [Value.normal, if_pos (finite x rfl)]
    rfl
  | int64 n =>
    cases s <;> cases h
    rfl
  | int32 n =>
    cases s <;> cases h
    rw [Value.normal]
    unfold convert
    simp only [Int32.toInt_toInt64, n.minValue_le_toInt, n.toInt_le, and_self, if_true,
      Int32.toInt32_toInt64]

theorem Mapping.Built.stores_ofJson {m : Mapping} {policy : Policy}
    (built : Mapping.Built τ.descriptor policy m) {p : PropertyMapping} (hp : p ∈ m.properties)
    {e : Entity τ} (finite : (e.valueOf p.property).Finite) :
    τ.Stores p.property (Value.ofJson (e.valueOf p.property).toJson) (e.valueOf p.property) := by
  obtain ⟨f, hf, rfl⟩ := built.exists_field hp
  obtain ⟨c, hc⟩ := Entity.get?_of_mem hf e
  have value : e.valueOf f.property = c.value := by
    rw [Entity.valueOf, hc, Option.getD_some]
  show τ.Stores f.property (Value.ofJson (e.valueOf f.property).toJson) (e.valueOf f.property)
  have finite : (e.valueOf f.property).Finite := finite
  rw [value] at finite ⊢
  by_cases null : c.value.isNull = true
  · rw [Value.eq_null null]
    rfl
  · have kind := c.kind_of_present (by simpa using null)
    apply EntityType.stores_of_converts
    exact ⟨f, hf, rfl, _, Content.convert_of_scalar
      (Scalar.convert_ofJson_toJson _ kind finite), rfl⟩

end EntityStore
