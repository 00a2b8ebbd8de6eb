import EntityStore.Entity
import EntityStore.Proofs.Result
import Mathlib.Data.List.Nodup

/-!
# Reading and writing entities

What a field holds is converted to itself. A property that was written is read back as it was
converted, and every other property as it was before.
-/

namespace EntityStore

/-! ## Contents -/

theorem Value.eq_null {v : Value} (h : v.isNull = true) : v = .null := by
  cases v <;> first | rfl | cases h

theorem Scalar.convert_held (s : Scalar) {v : Value} (h : v.kind = s.kind) :
    s.convert v = .ok ⟨v, h⟩ := by
  cases s <;> cases v <;> first | rfl | cases h

theorem Scalar.convert_null (s : Scalar) : s.convert .null = .error (.wrongKind s.kind .null) := by
  cases s <;> rfl

theorem Scalar.convert_narrow {s : Scalar} {n : Int64} (h : (Value.int32 n.toInt32).kind = s.kind)
    (fits : Int32.minValue.toInt ≤ n.toInt ∧ n.toInt ≤ Int32.maxValue.toInt) :
    s.convert (.int64 n) = .ok ⟨.int32 n.toInt32, h⟩ := by
  cases s <;> cases h
  exact if_pos fits

theorem Content.kind_of_present {t : FieldType} (c : Content t) (present : c.value.isNull = false) :
    c.value.kind = t.scalar.kind := by
  have held := c.held
  unfold FieldType.holds at held
  rw [present, Bool.and_false, Bool.or_false] at held
  exact eq_of_beq held

theorem Content.nullable_of_null {t : FieldType} (c : Content t) (h : c.value = .null) :
    t.nullable = true := by
  have held := c.held
  rw [h] at held
  unfold FieldType.holds at held
  cases hs : t.scalar <;> simp_all [Value.kind, Scalar.kind]

theorem Content.convert_of_scalar {t : FieldType} {v : Value} {held : t.scalar.Held}
    (ok : t.scalar.convert v = .ok held) : Content.convert t v = .ok (.ofHeld held) := by
  unfold convert
  split
  · rename_i null
    rw [Value.eq_null null.2, Scalar.convert_null] at ok
    cases ok
  · rw [ok]
    rfl

theorem Content.convert_value {t : FieldType} (c : Content t) :
    Content.convert t c.value = .ok c := by
  by_cases null : c.value.isNull = true
  · unfold convert
    rw [dif_pos ⟨c.nullable_of_null (Value.eq_null null), null⟩]
  · have kind := c.kind_of_present (by simpa using null)
    exact convert_of_scalar (Scalar.convert_held _ kind)

/-! ## Slots -/

namespace Slot

variable {property q : String} {v : Value} {slots written : List Slot} {s t : Slot}

theorem property_put (ok : s.put v = .ok t) : t.property = s.property := by
  rw [Slot.property, field_put ok, Slot.property]

theorem eq_of_value (field : s.field = t.field) (value : s.value = t.value) : s = t := by
  obtain ⟨f, v, held⟩ := s
  obtain ⟨f', v', held'⟩ := t
  obtain rfl : f = f' := field
  obtain rfl : v = v' := value
  rfl

theorem find?_write_of_ne (ok : write property v slots = .ok written) (ne : q ≠ property) :
    written.find? (·.property == q) = slots.find? (·.property == q) := by
  induction slots generalizing written with
  | nil => cases ok; rfl
  | cons s rest ih =>
    rw [write] at ok
    split_ifs at ok with here
    · obtain ⟨t, ht, rfl⟩ := map_eq_ok.mp ok
      have other : ¬ s.property = q := fun h => ne (h ▸ here)
      rw [List.find?_cons_of_neg (by simpa [property_put ht] using other),
        List.find?_cons_of_neg (by simpa using other)]
    · obtain ⟨later, hlater, rfl⟩ := map_eq_ok.mp ok
      rw [List.find?_cons, List.find?_cons, ih hlater]

theorem exists_write (found : slots.find? (·.property == property) = some s)
    (hput : s.put v = .ok t) : ∃ written, write property v slots = .ok written := by
  induction slots with
  | nil => cases found
  | cons first rest ih =>
    rw [write]
    split_ifs with here
    · rw [List.find?_cons_of_pos (by simpa using here)] at found
      obtain rfl := Option.some.inj found
      exact ⟨t :: rest, map_eq_ok.mpr ⟨t, hput, rfl⟩⟩
    · rw [List.find?_cons_of_neg (by simpa using here)] at found
      obtain ⟨later, hlater⟩ := ih found
      exact ⟨first :: later, map_eq_ok.mpr ⟨later, hlater, rfl⟩⟩

theorem write_eq_error {failure : StoreError}
    (found : slots.find? (·.property == property) = some s) (refused : s.put v = .error failure) :
    write property v slots = .error failure := by
  induction slots with
  | nil => cases found
  | cons first rest ih =>
    rw [write]
    split_ifs with here
    · rw [List.find?_cons_of_pos (by simpa using here)] at found
      obtain rfl := Option.some.inj found
      exact map_eq_error.mpr refused
    · rw [List.find?_cons_of_neg (by simpa using here)] at found
      exact map_eq_error.mpr (ih found)

theorem find?_write_self (found : slots.find? (·.property == property) = some s)
    (ok : write property v slots = .ok written) :
    ∃ t, s.put v = .ok t ∧ written.find? (·.property == property) = some t := by
  induction slots generalizing written with
  | nil => cases found
  | cons first rest ih =>
    rw [write] at ok
    split_ifs at ok with here
    · rw [List.find?_cons_of_pos (by simpa using here)] at found
      obtain rfl := Option.some.inj found
      obtain ⟨t, ht, rfl⟩ := map_eq_ok.mp ok
      refine ⟨t, ht, List.find?_cons_of_pos ?_⟩
      simpa [property_put ht] using here
    · rw [List.find?_cons_of_neg (by simpa using here)] at found
      obtain ⟨later, hlater, rfl⟩ := map_eq_ok.mp ok
      obtain ⟨t, ht, same⟩ := ih found hlater
      refine ⟨t, ht, ?_⟩
      rw [List.find?_cons_of_neg (by simpa using here), same]

theorem write_of_absent (absent : ∀ s ∈ slots, s.property ≠ property) :
    write property v slots = .ok slots := by
  induction slots with
  | nil => rfl
  | cons first rest ih =>
    obtain ⟨here, later⟩ := List.forall_mem_cons.mp absent
    rw [write, if_neg here, ih later]
    rfl

theorem write_exchange {w : Value} {both : List Slot} (ne : q ≠ property)
    (first : write property v slots = .ok written) (second : write q w written = .ok both) :
    ∃ other, write q w slots = .ok other ∧ write property v other = .ok both := by
  induction slots generalizing written both with
  | nil =>
    cases first
    cases second
    exact ⟨[], rfl, rfl⟩
  | cons s rest ih =>
    rw [write] at first
    split_ifs at first with here
    · obtain ⟨t, put, rfl⟩ := map_eq_ok.mp first
      have other : s.property ≠ q := fun same => ne (same.symm.trans here)
      rw [write, if_neg (by rwa [property_put put])] at second
      obtain ⟨later, hlater, rfl⟩ := map_eq_ok.mp second
      refine ⟨s :: later, ?_, ?_⟩
      · rw [write, if_neg other, hlater]
        rfl
      · rw [write, if_pos here, put]
        rfl
    · obtain ⟨later, hlater, rfl⟩ := map_eq_ok.mp first
      rw [write] at second
      split_ifs at second with there
      · obtain ⟨t, put, rfl⟩ := map_eq_ok.mp second
        refine ⟨t :: rest, ?_, ?_⟩
        · rw [write, if_pos there, put]
          rfl
        · rw [write, if_neg (by rwa [property_put put]), hlater]
          rfl
      · obtain ⟨last, hlast, rfl⟩ := map_eq_ok.mp second
        obtain ⟨other, hother, same⟩ := ih hlater hlast
        refine ⟨s :: other, ?_, ?_⟩
        · rw [write, if_neg there, hother]
          rfl
        · rw [write, if_neg here, same]
          rfl

end Slot

/-! ## Entities -/

/-- Writing `v` to the property leaves `w` in it. -/
def EntityType.Converts (τ : EntityType) (property : String) (v w : Value) : Prop :=
  ∃ f ∈ τ.fields, f.property = property ∧
    ∃ c : Content f.type, Content.convert f.type v = .ok c ∧ c.value = w

/-- What allows null holds null before anything is written to it. -/
def EntityType.NullsByDefault (τ : EntityType) : Prop :=
  ∀ f ∈ τ.fields, f.type.nullable = true → (τ.initial f).default.value = .null

namespace Entity

variable {τ : EntityType} {e written : Entity τ} {property q : String} {v w : Value}

theorem set_eq_ok : e.set property v = .ok written ↔
    Slot.write property v e.slots = .ok written.slots := by
  unfold set
  split
  · rename_i h
    simp [h]
  · rename_i slots h
    simp only [h, Except.ok.injEq]
    constructor
    · rintro rfl
      rfl
    · rintro rfl
      rfl

theorem find?_slots {f : Field} (hf : f ∈ τ.fields) (e : Entity τ) :
    ∃ c : Content f.type, e.slots.find? (·.property == f.property) = some ⟨f, c⟩ := by
  obtain ⟨s, hs⟩ : ∃ s, e.slots.find? (·.property == f.property) = some s := by
    rw [← e.shape] at hf
    obtain ⟨s, hs, rfl⟩ := List.mem_map.mp hf
    rw [← Option.isSome_iff_exists, List.find?_isSome]
    exact ⟨s, hs, by simp [Slot.property]⟩
  have same : s.field = f := by
    have mem : s.field ∈ τ.fields := e.shape ▸ List.mem_map_of_mem (List.mem_of_find?_eq_some hs)
    refine List.inj_on_of_nodup_map τ.distinct mem hf ?_
    simpa [Slot.property] using List.find?_some hs
  obtain ⟨field, content⟩ := s
  cases same
  exact ⟨content, hs⟩

theorem get?_of_mem {f : Field} (hf : f ∈ τ.fields) (e : Entity τ) :
    ∃ c : Content f.type, e.get? f.property = some c.value := by
  obtain ⟨c, hc⟩ := find?_slots hf e
  exact ⟨c, by rw [get?, hc]; rfl⟩

theorem get?_eq_valueOf {f : Field} (hf : f ∈ τ.fields) (e : Entity τ) :
    e.get? f.property = some (e.valueOf f.property) := by
  obtain ⟨c, hc⟩ := get?_of_mem hf e
  rw [valueOf, hc, Option.getD_some]

theorem converts_valueOf {f : Field} (hf : f ∈ τ.fields) (e : Entity τ) :
    τ.Converts f.property (e.valueOf f.property) (e.valueOf f.property) := by
  obtain ⟨c, hc⟩ := get?_of_mem hf e
  rw [valueOf, hc, Option.getD_some]
  exact ⟨f, hf, rfl, c, c.convert_value, rfl⟩

theorem nullable_of_valueOf {f : Field} (hf : f ∈ τ.fields) (h : e.valueOf f.property = .null) :
    f.type.nullable = true := by
  obtain ⟨c, hc⟩ := get?_of_mem hf e
  rw [valueOf, hc, Option.getD_some] at h
  exact c.nullable_of_null h

theorem get?_blank {f : Field} (hf : f ∈ τ.fields) :
    (blank τ).get? f.property = some (τ.initial f).default.value := by
  obtain ⟨c, hc⟩ := find?_slots hf (blank τ)
  have mem := List.mem_of_find?_eq_some hc
  obtain ⟨g, -, same⟩ := List.mem_map.mp mem
  obtain ⟨rfl, same⟩ := Slot.mk.inj same
  rw [get?, hc, ← eq_of_heq same]
  rfl

theorem get?_of_slot {s : Slot} (mem : s ∈ e.slots) : e.get? s.property = some s.value := by
  have distinct : (e.slots.map Slot.property).Nodup := by
    have whole := τ.distinct
    rw [← e.shape, List.map_map] at whole
    exact whole
  have hf : s.field ∈ τ.fields := e.shape ▸ List.mem_map_of_mem mem
  obtain ⟨c, hc⟩ := find?_slots hf e
  have here : (⟨s.field, c⟩ : Slot) = s :=
    List.inj_on_of_nodup_map distinct (List.mem_of_find?_eq_some hc) mem rfl
  rw [here] at hc
  exact congrArg (Option.map Slot.value) hc

theorem ext_get? {e e' : Entity τ}
    (same : ∀ f ∈ τ.fields, e.get? f.property = e'.get? f.property) : e = e' := by
  have shapes : e.slots.map Slot.field = e'.slots.map Slot.field := e.shape.trans e'.shape.symm
  have slots : e.slots = e'.slots := by
    refine List.ext_getElem (by simpa using congrArg List.length shapes) fun i here there => ?_
    have field : e.slots[i].field = e'.slots[i].field := by
      rw [← List.getElem_map Slot.field (h := by simpa using here),
        ← List.getElem_map Slot.field (h := by simpa using there)]
      simp only [shapes]
    have mem : e.slots[i].field ∈ τ.fields :=
      e.shape ▸ List.mem_map_of_mem (List.getElem_mem here)
    have value := get?_of_slot (List.getElem_mem here)
    have value' := get?_of_slot (List.getElem_mem there)
    rw [Slot.property, same _ mem, field] at value
    exact Slot.eq_of_value field (Option.some.inj (value.symm.trans value'))
  cases e
  cases e'
  exact (Entity.mk.injEq ..).mpr slots

theorem get?_set_of_ne (ok : e.set property v = .ok written) (ne : q ≠ property) :
    written.get? q = e.get? q := by
  rw [get?, get?, Slot.find?_write_of_ne (set_eq_ok.mp ok) ne]

theorem valueOf_set_of_ne (ok : e.set property v = .ok written) (ne : q ≠ property) :
    written.valueOf q = e.valueOf q := by
  rw [valueOf, get?_set_of_ne ok ne, valueOf]

theorem set_eq_error {failure : StoreError}
    (refused : Slot.write property v e.slots = .error failure) :
    e.set property v = .error failure := by
  unfold set
  split
  · rename_i h
    cases refused.symm.trans h
    rfl
  · rename_i h
    cases refused.symm.trans h

theorem set_of_converts (e : Entity τ) (h : τ.Converts property v w) :
    ∃ written, e.set property v = .ok written ∧ written.get? property = some w := by
  obtain ⟨f, hf, rfl, c, hc, rfl⟩ := h
  obtain ⟨old, hold⟩ := find?_slots hf e
  have hput : Slot.put ⟨f, old⟩ v = .ok ⟨f, c⟩ := map_eq_ok.mpr ⟨c, hc, rfl⟩
  obtain ⟨slots, hslots⟩ := Slot.exists_write hold hput
  obtain ⟨t, ht, found⟩ := Slot.find?_write_self hold hslots
  obtain rfl := Except.ok.inj (hput.symm.trans ht)
  refine ⟨⟨slots, by rw [Slot.map_field_write hslots, e.shape]⟩, set_eq_ok.mpr hslots, ?_⟩
  rw [get?, found]
  rfl

theorem set_of_refused {f : Field} (hf : f ∈ τ.fields) {failure : StoreError}
    (refused : Content.convert f.type v = .error failure) (e : Entity τ) :
    e.set f.property v = .error failure := by
  obtain ⟨old, hold⟩ := find?_slots hf e
  have hput : Slot.put ⟨f, old⟩ v = .error failure := map_eq_error.mpr refused
  exact set_eq_error (Slot.write_eq_error hold hput)

theorem set_of_converted {f : Field} (hf : f ∈ τ.fields) {c : Content f.type}
    (converted : Content.convert f.type v = .ok c) (e : Entity τ) :
    ∃ written, e.set f.property v = .ok written ∧ written.valueOf f.property = c.value := by
  obtain ⟨written, ok, value⟩ := set_of_converts e ⟨f, hf, rfl, c, converted, rfl⟩
  exact ⟨written, ok, by rw [valueOf, value, Option.getD_some]⟩

theorem converts_of_set {f : Field} (hf : f ∈ τ.fields) (ok : e.set f.property v = .ok written) :
    τ.Converts f.property v (written.valueOf f.property) := by
  obtain ⟨old, hold⟩ := find?_slots hf e
  obtain ⟨t, ht, found⟩ := Slot.find?_write_self hold (set_eq_ok.mp ok)
  obtain ⟨c, hc, rfl⟩ := map_eq_ok.mp ht
  refine ⟨f, hf, rfl, c, hc, ?_⟩
  rw [valueOf, get?, found]
  rfl

theorem set_of_unknown (unknown : ∀ f ∈ τ.fields, f.property ≠ property) (e : Entity τ) :
    e.set property v = .ok e := by
  refine set_eq_ok.mpr (Slot.write_of_absent fun s hs => unknown s.field ?_)
  rw [← e.shape]
  exact List.mem_map_of_mem hs

theorem exists_set_iff (e : Entity τ) : (∃ written, e.set property v = .ok written) ↔
    ∀ f ∈ τ.fields, f.property = property → ∃ c, Content.convert f.type v = .ok c := by
  constructor
  · rintro ⟨written, ok⟩ f hf rfl
    cases converted : Content.convert f.type v with
    | error failure => cases (set_of_refused hf converted e).symm.trans ok
    | ok c => exact ⟨c, rfl⟩
  · intro converts
    by_cases known : ∃ f ∈ τ.fields, f.property = property
    · obtain ⟨f, hf, rfl⟩ := known
      obtain ⟨c, converted⟩ := converts f hf rfl
      obtain ⟨written, ok, -⟩ := set_of_converted hf converted e
      exact ⟨written, ok⟩
    · push Not at known
      exact ⟨e, set_of_unknown known e⟩

theorem set_exchange {both : Entity τ} (ne : q ≠ property) (first : e.set property v = .ok written)
    (second : written.set q w = .ok both) :
    ∃ other, e.set q w = .ok other ∧ other.set property v = .ok both := by
  obtain ⟨slots, front, back⟩ := Slot.write_exchange ne (set_eq_ok.mp first) (set_eq_ok.mp second)
  refine ⟨⟨slots, by rw [Slot.map_field_write front, e.shape]⟩, ?_, ?_⟩
  · exact set_eq_ok.mpr front
  · exact set_eq_ok.mpr back

end Entity

end EntityStore
