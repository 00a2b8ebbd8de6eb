import EntityStore.Entity.Record
import EntityStore.Proofs.Entity
import EntityStore.Proofs.Integer

/-!
# The laws of the accessors

What a field makes of a value is said without the conversion that the program runs: a relation, with
one rule for each reading of a value. A write of a property succeeds where that relation gives
something, and leaves the record as it was where it gives nothing. On the writes that succeed the
accessors behave as those of a record should.
-/

namespace EntityStore

/-! ## What a field makes of a value -/

inductive Value.Whole : Value → Int → Prop where
  | int32 {m : Int32} {n : Int} (same : m.toInt = n) : Whole (.int32 m) n
  | int64 {m : Int64} {n : Int} (same : m.toInt = n) : Whole (.int64 m) n

/-- A scalar takes its own kind as it is. Of the other kinds it takes whole numbers, where it can hold
the same number, the nearest double, or the truth value that 0 or 1 stands for. -/
inductive Scalar.Becomes : Scalar → Value → Value → Prop where
  | own {s : Scalar} {v : Value} (kind : v.kind = s.kind) : Becomes s v v
  | whole {s : Scalar} {v w : Value} {n : Int} (read : v.Whole n) (held : w.Whole n)
    (kind : w.kind = s.kind) : Becomes s v w
  | double {v : Value} {n : Int} (read : v.Whole n) : Becomes .float64 v (.float64 (.ofInt n))
  | truth {v : Value} (b : Bool) (read : v.Whole b.toNat) : Becomes .boolean v (.boolean b)

inductive FieldType.Becomes (t : FieldType) : Value → Value → Prop where
  | null (nullable : t.nullable = true) : Becomes t .null .null
  | scalar {v w : Value} (becomes : t.scalar.Becomes v w) : Becomes t v w

namespace Scalar

variable {s : Scalar} {v w : Value}

theorem becomes_of_convert {held : s.Held} (ok : s.convert v = .ok held) : s.Becomes v held.val := by
  cases s with
  | int32 =>
    cases v with
    | int32 n => cases ok; exact .own rfl
    | int64 n =>
      rw [convert] at ok
      split_ifs at ok with fits
      cases ok
      exact .whole (.int64 rfl) (.int32 (toInt_toInt32 fits)) rfl
    | _ => cases ok
  | int64 =>
    cases v with
    | int32 n => cases ok; exact .whole (.int32 rfl) (.int64 n.toInt_toInt64) rfl
    | int64 n => cases ok; exact .own rfl
    | _ => cases ok
  | float64 =>
    cases v with
    | int32 n => cases ok; exact .double (.int32 rfl)
    | int64 n => cases ok; exact .double (.int64 rfl)
    | float64 x => cases ok; exact .own rfl
    | _ => cases ok
  | text =>
    cases v with
    | text s => cases ok; exact .own rfl
    | _ => cases ok
  | boolean =>
    cases v with
    | int32 n =>
      rw [convert] at ok
      split_ifs at ok with zero one
      · cases ok; exact .truth false (.int32 (zero ▸ rfl))
      · cases ok; exact .truth true (.int32 (one ▸ rfl))
    | int64 n =>
      rw [convert] at ok
      split_ifs at ok with zero one
      · cases ok; exact .truth false (.int64 (zero ▸ rfl))
      · cases ok; exact .truth true (.int64 (one ▸ rfl))
    | boolean b => cases ok; exact .own rfl
    | _ => cases ok

theorem convert_of_becomes (becomes : s.Becomes v w) : ∃ kind, s.convert v = .ok ⟨w, kind⟩ := by
  cases becomes with
  | own kind => exact ⟨kind, convert_held s kind⟩
  | whole read held kind =>
    refine ⟨kind, ?_⟩
    -- Of each width there is one integer that is the number, so the conversion can give no other.
    cases read with
    | @int32 m n same =>
      cases held with
      | int32 same' =>
        obtain rfl := Int32.toInt_inj.mp (same.trans same'.symm)
        exact convert_held s kind
      | int64 same' =>
        obtain rfl := Int64.toInt_inj.mp (m.toInt_toInt64.trans (same.trans same'.symm))
        cases s <;> cases kind
        rfl
    | @int64 m n same =>
      cases held with
      | @int32 m' _ same' =>
        have fits : Int32.minValue.toInt ≤ m.toInt ∧ m.toInt ≤ Int32.maxValue.toInt := by
          rw [same, ← same']
          exact ⟨m'.minValue_le_toInt, m'.toInt_le⟩
        obtain rfl := Int32.toInt_inj.mp ((toInt_toInt32 fits).trans (same.trans same'.symm))
        exact convert_narrow kind fits
      | int64 same' =>
        obtain rfl := Int64.toInt_inj.mp (same.trans same'.symm)
        exact convert_held s kind
  | double read =>
    refine ⟨rfl, ?_⟩
    cases read with
    | int32 same => rw [← same]; rfl
    | int64 same => rw [← same]; rfl
  | truth b read =>
    refine ⟨rfl, ?_⟩
    cases read with
    | int32 same =>
      cases b
      · rw [Int32.toInt_inj.mp (same.trans Int32.toInt_zero.symm)]; rfl
      · rw [Int32.toInt_inj.mp (same.trans Int32.toInt_one.symm)]; rfl
    | int64 same =>
      cases b
      · rw [Int64.toInt_inj.mp (same.trans Int64.toInt_zero.symm)]; rfl
      · rw [Int64.toInt_inj.mp (same.trans Int64.toInt_one.symm)]; rfl

end Scalar

theorem Content.exists_convert_iff {t : FieldType} {v w : Value} :
    (∃ c, convert t v = .ok c ∧ c.value = w) ↔ t.Becomes v w := by
  constructor
  · rintro ⟨c, ok, rfl⟩
    unfold convert at ok
    split_ifs at ok with null
    · obtain rfl := Value.eq_null null.2
      cases ok
      exact .null null.1
    · obtain ⟨held, converted, rfl⟩ := map_eq_ok.mp ok
      exact .scalar (Scalar.becomes_of_convert converted)
  · intro becomes
    cases becomes with
    | null nullable => exact ⟨_, dif_pos ⟨nullable, rfl⟩, rfl⟩
    | scalar becomes =>
      obtain ⟨kind, ok⟩ := Scalar.convert_of_becomes becomes
      exact ⟨_, convert_of_scalar ok, rfl⟩

theorem Content.becomes_iff_of_convert {t : FieldType} {v w : Value} {c : Content t}
    (ok : convert t v = .ok c) : t.Becomes v w ↔ w = c.value := by
  rw [← exists_convert_iff, ok]
  simp [eq_comm]

theorem Content.exists_becomes_iff {t : FieldType} {v : Value} :
    (∃ w, t.Becomes v w) ↔ ∃ c, convert t v = .ok c := by
  constructor
  · rintro ⟨w, becomes⟩
    obtain ⟨c, ok, -⟩ := exists_convert_iff.mpr becomes
    exact ⟨c, ok⟩
  · rintro ⟨c, ok⟩
    exact ⟨c.value, (becomes_iff_of_convert ok).mpr rfl⟩

/-! ## Writing in place -/

namespace Entity

variable {τ : EntityType} {e : Entity τ} {f : Field} {c : Content f.type} {q : String} {v : Value}

theorem find?_store (e : Entity τ) (c : Content f.type) (q : String) :
    (e.store f c).slots.find? (·.property == q) =
      (e.slots.find? (·.property == q)).map fun s => if s.field = f then ⟨f, c⟩ else s := by
  have same : ((fun s : Slot => s.property == q) ∘ fun s => if s.field = f then ⟨f, c⟩ else s) =
      fun s => s.property == q := by
    funext s
    rw [Function.comp_apply]
    split_ifs with here
    · rw [Slot.property, Slot.property, here]
    · rfl
  rw [store, List.find?_map, same]

theorem get?_store_self (hf : f ∈ τ.fields) (e : Entity τ) (c : Content f.type) :
    (e.store f c).get? f.property = some c.value := by
  obtain ⟨old, found⟩ := find?_slots hf e
  rw [get?, find?_store, found, Option.map_some, if_pos rfl]
  rfl

theorem get?_store_of_ne (e : Entity τ) (c : Content f.type) (ne : q ≠ f.property) :
    (e.store f c).get? q = e.get? q := by
  rw [get?, get?, find?_store]
  cases found : e.slots.find? (·.property == q) with
  | none => rfl
  | some s =>
    have here : s.property = q := by simpa using List.find?_some found
    have other : s.field ≠ f := fun same => ne (by rw [← here, Slot.property, same])
    rw [Option.map_some, if_neg other]

theorem eq_of_set {written e' : Entity τ} (ok : e.set q v = .ok written)
    (here : e'.get? q = written.get? q) (others : ∀ p, p ≠ q → e'.get? p = e.get? p) :
    written = e' := by
  refine ext_get? fun g _ => ?_
  by_cases same : g.property = q
  · rw [same, here]
  · rw [get?_set_of_ne ok same, others _ same]

theorem set_eq_store (hf : f ∈ τ.fields) (converted : Content.convert f.type v = .ok c)
    (e : Entity τ) : e.set f.property v = .ok (e.store f c) := by
  obtain ⟨written, ok, value⟩ := set_of_converts e ⟨f, hf, rfl, c, converted, rfl⟩
  have here : (e.store f c).get? f.property = written.get? f.property := by
    rw [get?_store_self hf, value]
  rw [ok, eq_of_set ok here fun p ne => get?_store_of_ne e c ne]

theorem exists_get?_iff (e : Entity τ) (q : String) :
    (∃ v, e.get? q = some v) ↔ ∃ f ∈ τ.fields, f.property = q := by
  constructor
  · rintro ⟨v, read⟩
    obtain ⟨s, found, -⟩ := Option.map_eq_some_iff.mp read
    refine ⟨s.field, ?_, by simpa [Slot.property] using List.find?_some found⟩
    rw [← e.shape]
    exact List.mem_map_of_mem (List.mem_of_find?_eq_some found)
  · rintro ⟨f, hf, rfl⟩
    obtain ⟨c, read⟩ := get?_of_mem hf e
    exact ⟨c.value, read⟩

theorem set_get? (read : e.get? q = some v) : e.set q v = .ok e := by
  obtain ⟨f, hf, rfl⟩ := (exists_get?_iff e q).mp ⟨v, read⟩
  have own := converts_valueOf hf e
  rw [valueOf, read, Option.getD_some] at own
  obtain ⟨written, ok, value⟩ := set_of_converts e own
  rw [ok, eq_of_set ok (read.trans value.symm) fun _ _ => rfl]

theorem exists_set_of_set {e' written : Entity τ} (ok : e.set q v = .ok written) :
    ∃ written', e'.set q v = .ok written' :=
  (exists_set_iff e').mpr ((exists_set_iff e).mp ⟨written, ok⟩)

end Entity

theorem RecordType.mem_fields {ρ : RecordType} {f : Field} :
    f ∈ ρ.entityType.fields ↔ .property f ∈ ρ.members := by
  unfold entityType
  rw [List.mem_filterMap]
  constructor
  · rintro ⟨m, mem, kept⟩
    cases m with
    | property field =>
      obtain rfl := Option.some.inj kept
      exact mem
    | skipped name => cases kept
  · intro mem
    exact ⟨.property f, mem, rfl⟩

theorem RecordType.ne_of_skipped {ρ : RecordType} {f : Field} {name : String}
    (hidden : .skipped name ∈ ρ.members) (mem : .property f ∈ ρ.members) : f.property ≠ name := by
  intro same
  cases List.inj_on_of_nodup_map ρ.distinct mem hidden same

namespace Record

variable {ρ : RecordType} {κ : Type} {r left right : Record ρ κ} {p q : String} {v w : Value}
  {failure : StoreError}

/-- The write in place does to the properties what a write makes of the entity, and leaves everything
as it was where that fails. -/
theorem after_assign (r : Record ρ κ) (p : String) (v : Value) :
    r.after (assign p v) =
      match r.entity.set p v with
      | .ok e => (.ok (), { r with entity := e })
      | .error failure => (.error failure, r) := by
  unfold after assign
  cases found : ρ.entityType.fields.find? (·.property == p) with
  | none =>
    have unknown : ∀ f ∈ ρ.entityType.fields, f.property ≠ p := by
      simpa using List.find?_eq_none.mp found
    rw [Entity.set_of_unknown unknown]
    rfl
  | some f =>
    obtain rfl : f.property = p := by simpa using List.find?_some found
    have hf := List.mem_of_find?_eq_some found
    dsimp only
    cases converted : Content.convert f.type v with
    | error failure =>
      rw [Entity.set_of_refused hf converted]
      rfl
    | ok c =>
      rw [Entity.set_eq_store hf converted]
      rfl

theorem after_assign_eq_ok : r.after (assign p v) = (.ok (), left) ↔
    ∃ e, r.entity.set p v = .ok e ∧ left = { r with entity := e } := by
  rw [after_assign]
  cases r.entity.set p v with
  | error failure => simp
  | ok e => simp [eq_comm]

theorem after_assign_eq_error : r.after (assign p v) = (.error failure, left) ↔
    r.entity.set p v = .error failure ∧ left = r := by
  rw [after_assign]
  cases r.entity.set p v with
  | error failure => simp [eq_comm]
  | ok e => simp

theorem after_bind {first second : ExceptT StoreError (StateM (Record ρ κ)) Unit}
    (ok : r.after first = (.ok (), left)) :
    r.after (do first; second) = left.after second := by
  unfold after at ok ⊢
  rw [ExceptT.run_bind, StateT.run_bind, ok]
  rfl

theorem ignored (r : Record ρ κ) (absent : ∀ f, .property f ∈ ρ.members → f.property ≠ p) :
    r.get? p = none ∧ ∀ v, r.after (assign p v) = (.ok (), r) := by
  have unknown : ∀ f ∈ ρ.entityType.fields, f.property ≠ p :=
    fun f hf => absent f (RecordType.mem_fields.mp hf)
  refine ⟨Option.eq_none_iff_forall_ne_some.mpr fun v read => ?_, fun v => ?_⟩
  · obtain ⟨f, hf, same⟩ := (Entity.exists_get?_iff r.entity p).mp ⟨v, read⟩
    exact unknown f hf same
  · exact after_assign_eq_ok.mpr ⟨_, Entity.set_of_unknown unknown _, rfl⟩

theorem fails_iff_not_becomes (r : Record ρ κ) (p : String) (v : Value) :
    (∃ failure left, r.after (assign p v) = (.error failure, left)) ↔
      ∃ f, .property f ∈ ρ.members ∧ f.property = p ∧ ¬ ∃ w, f.type.Becomes v w := by
  simp only [Content.exists_becomes_iff, ← RecordType.mem_fields]
  constructor
  · rintro ⟨failure, left, failed⟩
    have never : ¬ ∃ written, r.entity.set p v = .ok written := by
      rintro ⟨written, wrote⟩
      cases (after_assign_eq_error.mp failed).1.symm.trans wrote
    rw [Entity.exists_set_iff] at never
    push Not at never
    simpa only [not_exists] using never
  · rintro ⟨f, hf, rfl, none⟩
    cases converted : Content.convert f.type v with
    | ok c => exact absurd ⟨c, converted⟩ none
    | error failure =>
      have refused := Entity.set_of_refused hf converted r.entity
      exact ⟨failure, r, after_assign_eq_error.mpr ⟨refused, rfl⟩⟩

theorem get?_after_assign {f : Field} (mem : .property f ∈ ρ.members)
    (ok : r.after (assign f.property v) = (.ok (), left)) :
    ∃ w, left.get? f.property = some w ∧ ∀ w', f.type.Becomes v w' ↔ w' = w := by
  have hf := RecordType.mem_fields.mpr mem
  obtain ⟨e, wrote, rfl⟩ := after_assign_eq_ok.mp ok
  cases converted : Content.convert f.type v with
  | error failure => cases (Entity.set_of_refused hf converted r.entity).symm.trans wrote
  | ok c =>
    obtain rfl := Except.ok.inj ((Entity.set_eq_store hf converted r.entity).symm.trans wrote)
    exact ⟨c.value, Entity.get?_store_self hf r.entity c,
      fun w' => Content.becomes_iff_of_convert converted⟩

theorem assign_commutes (ne : p ≠ q) (first : r.after (assign p v) = (.ok (), left))
    (second : r.after (assign q w) = (.ok (), right)) :
    ∃ both, r.after (do assign p v; assign q w) = (.ok (), both) ∧
      r.after (do assign q w; assign p v) = (.ok (), both) := by
  obtain ⟨e, wrote, rfl⟩ := after_assign_eq_ok.mp first
  obtain ⟨e', wrote', rfl⟩ := after_assign_eq_ok.mp second
  obtain ⟨last, there⟩ := Entity.exists_set_of_set wrote'
  obtain ⟨other, here, back⟩ := Entity.set_exchange ne.symm wrote there
  obtain rfl := Except.ok.inj (wrote'.symm.trans here)
  refine ⟨{ r with entity := last }, ?_, ?_⟩
  · rw [after_bind first]
    exact after_assign_eq_ok.mpr ⟨last, there, rfl⟩
  · rw [after_bind second]
    exact after_assign_eq_ok.mpr ⟨last, back, rfl⟩

/-! ## The laws -/

/-- What holds of the accessors of a record, whatever it holds. A property is known where it is a
member of the record that is not skipped. -/
structure Lawful (r : Record ρ κ) : Prop where
  ofEntity : ∀ p v, r.after (assign p v) =
    match r.entity.set p v with
    | .ok e => (.ok (), { r with entity := e })
    | .error failure => (.error failure, r)
  fails_iff : ∀ p v, (∃ failure left, r.after (assign p v) = (.error failure, left)) ↔
    ∃ f, .property f ∈ ρ.members ∧ f.property = p ∧ ¬ ∃ w, f.type.Becomes v w
  unchanged : ∀ {p v failure left}, r.after (assign p v) = (.error failure, left) → left = r
  converted : ∀ {f v left}, .property f ∈ ρ.members →
    r.after (assign f.property v) = (.ok (), left) →
    ∃ w, left.get? f.property = some w ∧ ∀ w', f.type.Becomes v w' ↔ w' = w
  others : ∀ {p v left}, r.after (assign p v) = (.ok (), left) →
    left.skipped = r.skipped ∧ ∀ q, q ≠ p → left.get? q = r.get? q
  writeBack : ∀ {p v}, r.get? p = some v → r.after (assign p v) = (.ok (), r)
  commute : ∀ {p q v w left right}, p ≠ q → r.after (assign p v) = (.ok (), left) →
    r.after (assign q w) = (.ok (), right) →
    ∃ both, r.after (do assign p v; assign q w) = (.ok (), both) ∧
      r.after (do assign q w; assign p v) = (.ok (), both)
  unknown : ∀ {p}, (∀ f, .property f ∈ ρ.members → f.property ≠ p) →
    r.get? p = none ∧ ∀ v, r.after (assign p v) = (.ok (), r)
  skipped : ∀ {p}, .skipped p ∈ ρ.members →
    r.get? p = none ∧ ∀ v, r.after (assign p v) = (.ok (), r)
  known : ∀ p, (∃ v, r.get? p = some v) ↔ ∃ f, .property f ∈ ρ.members ∧ f.property = p
  described : ∀ p, p ∈ ρ.entityType.descriptor.fields.map (·.property) ↔
    ∃ f, .property f ∈ ρ.members ∧ f.property = p

theorem accessors_lawful (r : Record ρ κ) : r.Lawful where
  ofEntity := r.after_assign
  fails_iff := r.fails_iff_not_becomes
  unchanged failed := (after_assign_eq_error.mp failed).2
  converted := get?_after_assign
  others ok := by
    obtain ⟨e, wrote, rfl⟩ := after_assign_eq_ok.mp ok
    exact ⟨rfl, fun q ne => Entity.get?_set_of_ne wrote ne⟩
  writeBack read := after_assign_eq_ok.mpr ⟨r.entity, Entity.set_get? read, rfl⟩
  commute := assign_commutes
  unknown := r.ignored
  skipped hidden := r.ignored fun f mem => RecordType.ne_of_skipped hidden mem
  known p := by
    simp only [← RecordType.mem_fields]
    exact Entity.exists_get?_iff r.entity p
  described p := by
    simp only [← RecordType.mem_fields]
    rw [EntityType.descriptor, List.map_map, List.mem_map]
    rfl

end Record

end EntityStore
