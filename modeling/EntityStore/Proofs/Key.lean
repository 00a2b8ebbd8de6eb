import EntityStore.Proofs.Entity

/-!
# Entities under another key

An insertion may give an entity the key that its row or its document has got. The key is converted
to the type of its field, which takes every text where it is one, and every number that it can hold.
-/

namespace EntityStore

/-! ## What a field takes -/

/-- A number that a field of the type can hold: any, unless it holds narrow integers alone. -/
def FieldType.Fits (t : FieldType) (n : Int64) : Prop :=
  t.scalar = .int32 → Int32.minValue.toInt ≤ n.toInt ∧ n.toInt ≤ Int32.maxValue.toInt

namespace Content

theorem convert_of_refused {t : FieldType} {v : Value} {failure : StoreError}
    (present : v.isNull = false) (refused : t.scalar.convert v = .error failure) :
    convert t v = .error failure := by
  unfold convert
  rw [dif_neg (by simp [present]), refused]
  rfl

theorem convert_integer {t : FieldType}
    (integral : t.scalar.kind = .int64 ∨ t.scalar.kind = .int32) (n : Int64) :
    (t.Fits n → ∃ c, convert t (.int64 n) = .ok c) ∧
    (¬ t.Fits n → convert t (.int64 n) = .error (.typeMismatch (.outOfRange n))) := by
  obtain ⟨scalar, nullable⟩ := t
  unfold FieldType.Fits
  cases scalar with
  | int64 => exact ⟨fun _ => ⟨_, convert_of_scalar rfl⟩, fun unfit => absurd nofun unfit⟩
  | int32 =>
    simp only [forall_const]
    exact ⟨fun fits => ⟨_, convert_of_scalar (if_pos fits)⟩,
      fun unfit => convert_of_refused rfl (if_neg unfit)⟩
  | float64 => simp [Scalar.kind] at integral
  | text => simp [Scalar.kind] at integral
  | boolean => simp [Scalar.kind] at integral

theorem convert_text {t : FieldType} (textual : t.scalar.kind = .text) (s : String) :
    convert t (.text s) = .ok ⟨.text s, by simp [FieldType.holds, Value.kind, textual]⟩ :=
  convert_of_scalar (Scalar.convert_held t.scalar (v := .text s) textual.symm)

end Content

/-! ## The entity -/

theorem EntityType.mem_of_single {τ : EntityType} {key : Field}
    (single : τ.fields.filter (·.primaryKey) = [key]) :
    key ∈ τ.fields ∧ key.primaryKey = true :=
  List.mem_filter.mp (by simp [single])

namespace Entity

variable {τ : EntityType} {e keyed : Entity τ} {key : Field} {v : Value}

/-- The entity with the value as its key, converted to the type of the key, and otherwise as it
was. -/
structure Rekeyed (e : Entity τ) (key : Field) (v : Value) (keyed : Entity τ) : Prop where
  taken : ∃ c : Content key.type, Content.convert key.type v = .ok c ∧
    keyed.get? key.property = some c.value
  others : ∀ property, property ≠ key.property → keyed.get? property = e.get? property

theorem set_eq_ok_iff_rekeyed (hkey : key ∈ τ.fields) :
    e.set key.property v = .ok keyed ↔ e.Rekeyed key v keyed := by
  constructor
  · intro ok
    obtain ⟨f, hf, same, c, converted, value⟩ := converts_of_set hkey ok
    obtain rfl := List.inj_on_of_nodup_map τ.distinct hf hkey same
    exact ⟨⟨c, converted, by rw [get?_eq_valueOf hkey, value]⟩, fun _ ne => get?_set_of_ne ok ne⟩
  · rintro ⟨⟨c, converted, value⟩, others⟩
    obtain ⟨written, ok, reads⟩ := set_of_converts e ⟨key, hkey, rfl, c, converted, rfl⟩
    have same : written = keyed := by
      refine ext_get? fun f hf => ?_
      by_cases own : f.property = key.property
      · rw [own, reads, value]
      · rw [get?_set_of_ne ok own, others _ own]
    rw [ok, same]

theorem set_eq_error_iff (hkey : key ∈ τ.fields) {failure : StoreError} :
    e.set key.property v = .error failure ↔ Content.convert key.type v = .error failure := by
  cases converted : Content.convert key.type v with
  | error refused => simp [set_of_refused hkey converted]
  | ok c =>
    obtain ⟨written, ok, -⟩ := set_of_converted hkey converted e
    simp [ok]

end Entity

end EntityStore
