import EntityStore.Proofs.Accessor
import EntityStore.Proofs.Rounding

/-!
# What a field keeps of a whole number

A field that takes a whole number holds that number, unless it is a field of doubles. This one holds
the nearest number that doubles have, so that numbers of more than fifty-three bits may be read as one.
-/

namespace EntityStore

/-! ## The number in a value -/

/-- The whole number that a value stands for, 0 and 1 for the truth values. -/
inductive Value.Means : Value → Int → Prop where
  | whole {v : Value} {n : Int} (whole : v.Whole n) : Means v n
  | double {x : Binary64} {n : Int} (denotes : x.Denotes n) : Means (.float64 x) n
  | truth (b : Bool) : Means (.boolean b) b.toNat

def Scalar.kept : Scalar → Int → Int
  | .float64, n => Binary64.nearest n
  | _, n => n

namespace Value

variable {v w : Value} {a b n : Int}

theorem Whole.unique (ha : v.Whole a) (hb : v.Whole b) : a = b := by
  cases ha with
  | int32 same => cases hb with | int32 same' => exact same.symm.trans same'
  | int64 same => cases hb with | int64 same' => exact same.symm.trans same'

theorem Whole.fits (whole : v.Whole n) : n.natAbs < 2 ^ 64 := by
  cases whole with
  | @int32 m n same =>
    have least := m.le_toInt
    have most := m.toInt_lt
    omega
  | @int64 m n same =>
    have least := m.le_toInt
    have most := m.toInt_lt
    omega

theorem Means.unique (ha : v.Means a) (hb : v.Means b) : a = b := by
  cases ha with
  | whole whole =>
    cases hb with
    | whole whole' => exact whole.unique whole'
    | double => cases whole
    | truth => cases whole
  | double denotes =>
    cases hb with
    | whole whole => cases whole
    | double denotes' => exact denotes.unique denotes'
  | truth =>
    cases hb with
    | whole whole => cases whole
    | truth => rfl

theorem Means.eq_of_kind (hv : v.Means n) (hw : w.Means n) (kind : v.kind = w.kind)
    (integral : v.kind ≠ .float64) : v = w := by
  cases hv with
  | double => exact absurd rfl integral
  | truth b =>
    generalize number : (b.toNat : Int) = n at hw
    cases hw with
    | whole whole => cases whole <;> cases kind
    | double => cases kind
    | truth b' =>
      have one : b' = b := by
        revert number
        cases b <;> cases b' <;> decide
      rw [one]
  | whole whole =>
    cases hw with
    | double => cases whole <;> cases kind
    | truth => cases whole <;> cases kind
    | whole whole' =>
      cases whole with
      | int32 same =>
        cases whole' with
        | int32 same' => rw [Int32.toInt_inj.mp (same.trans same'.symm)]
        | int64 => cases kind
      | int64 same =>
        cases whole' with
        | int32 => cases kind
        | int64 same' => rw [Int64.toInt_inj.mp (same.trans same'.symm)]

end Value

namespace Scalar

variable {s : Scalar} {v w v' w' : Value} {a b n : Int}

theorem kept_of_ne (integral : s ≠ .float64) (n : Int) : s.kept n = n := by
  cases s with
  | float64 => exact absurd rfl integral
  | _ => rfl

theorem Becomes.kind (becomes : s.Becomes v w) : w.kind = s.kind := by
  cases becomes with
  | own kind => exact kind
  | whole _ _ kind => exact kind
  | double => rfl
  | truth => rfl

theorem Becomes.means_kept (whole : v.Whole n) (becomes : s.Becomes v w) :
    (s = .float64 → w = .float64 (.ofInt n)) ∧ w.Means (s.kept n) := by
  cases becomes with
  | own kind =>
    have integral : s ≠ .float64 := by
      rintro rfl
      cases whole <;> cases kind
    rw [kept_of_ne integral]
    exact ⟨fun double => absurd double integral, .whole whole⟩
  | whole read held kind =>
    have integral : s ≠ .float64 := by
      rintro rfl
      cases held <;> cases kind
    rw [kept_of_ne integral, whole.unique read]
    exact ⟨fun double => absurd double integral, .whole held⟩
  | double read =>
    rw [whole.unique read]
    exact ⟨fun _ => rfl, .double (Binary64.denotes_ofInt read.fits)⟩
  | truth b read =>
    rw [whole.unique read]
    exact ⟨nofun, .truth b⟩

theorem Becomes.eq_iff (wholeA : v.Whole a) (wholeB : v'.Whole b) (becomesA : s.Becomes v w)
    (becomesB : s.Becomes v' w') : w = w' ↔ s.kept a = s.kept b := by
  obtain ⟨doubleA, meansA⟩ := becomesA.means_kept wholeA
  obtain ⟨doubleB, meansB⟩ := becomesB.means_kept wholeB
  constructor
  · rintro rfl
    exact meansA.unique meansB
  · intro same
    by_cases double : s = .float64
    · rw [doubleA double, doubleB double]
      subst double
      rw [(Binary64.ofInt_eq_iff wholeA.fits wholeB.fits).mpr same]
    · have kind := becomesA.kind.trans becomesB.kind.symm
      refine meansA.eq_of_kind (same ▸ meansB) kind ?_
      rw [becomesA.kind]
      cases s with
      | float64 => exact absurd rfl double
      | _ => decide

end Scalar

theorem FieldType.becomes_whole {t : FieldType} {v : Value} {n : Int} {x : Content t}
    (whole : v.Whole n) (takes : Content.convert t v = .ok x) : t.scalar.Becomes v x.value := by
  have becomes := (Content.becomes_iff_of_convert takes).mpr rfl
  generalize x.value = w at becomes
  cases becomes with
  | null => cases whole
  | scalar becomes => exact becomes

/-! ## What a field tells apart -/

/-- How a field reads the whole numbers `a` and `b`, as the values `x` and `y`. -/
structure FieldType.Reads (t : FieldType) (a b : Int) (x y : Value) : Prop where
  means : x.Means (t.scalar.kept a)
  /-- No double is a whole number nearer to what is read. -/
  nearest : ∀ (z : Binary64) (m : Int), z.Denotes m →
    (t.scalar.kept a - a).natAbs ≤ (m - a).natAbs
  exact : x.Means a ↔ (t.scalar = .float64 → Binary64.Short a)
  same : x = y ↔ t.scalar.kept a = t.scalar.kept b
  apart : x = y → a ≠ b → t.scalar = .float64 ∧ 2 ^ 53 ≤ a.natAbs ∧ 2 ^ 53 ≤ b.natAbs

/-- A field tells all the whole numbers apart that it takes, but for two of more than fifty-three bits
that a field of doubles rounds to one; such a field holds the number itself exactly where it has
fifty-three bits and a power of two. -/
theorem whole_reads {t : FieldType} {v w : Value} {a b : Int} {x y : Content t}
    (wholeA : v.Whole a) (wholeB : w.Whole b) (takesA : Content.convert t v = .ok x)
    (takesB : Content.convert t w = .ok y) : t.Reads a b x.value y.value := by
  have becomesA := FieldType.becomes_whole wholeA takesA
  have becomesB := FieldType.becomes_whole wholeB takesB
  obtain ⟨-, meansA⟩ := becomesA.means_kept wholeA
  have same := becomesA.eq_iff wholeA wholeB becomesB
  refine ⟨meansA, ?_, ?_, same, ?_⟩
  · intro z m denotes
    by_cases double : t.scalar = .float64
    · rw [double]
      exact Binary64.nearest_nearest a denotes.short
    · rw [Scalar.kept_of_ne double]
      omega
  · constructor
    · intro means double
      have kept := meansA.unique means
      rw [double] at kept
      exact Binary64.nearest_eq_self_iff.mp kept
    · intro short
      by_cases double : t.scalar = .float64
      · have kept := Binary64.nearest_eq_self_iff.mpr (short double)
        rw [double] at meansA
        exact kept ▸ meansA
      · exact Scalar.kept_of_ne double a ▸ meansA
  · intro one ne
    have kept := same.mp one
    by_cases double : t.scalar = .float64
    · rw [double] at kept
      exact ⟨double, Binary64.le_natAbs_of_nearest_eq kept ne,
        Binary64.le_natAbs_of_nearest_eq kept.symm ne.symm⟩
    · rw [Scalar.kept_of_ne double, Scalar.kept_of_ne double] at kept
      exact absurd kept ne

def weightType : FieldType := ⟨.float64, true⟩

def weightLimit : Content weightType := ⟨.float64 ⟨0x4340000000000000⟩, rfl⟩

theorem limit_read :
    (Value.int64 9007199254740993).Whole 9007199254740993 ∧
    (Value.int64 9007199254740992).Whole 9007199254740992 ∧
    Content.convert weightType (.int64 9007199254740993) = .ok weightLimit ∧
    Content.convert weightType (.int64 9007199254740992) = .ok weightLimit ∧
    weightType.Reads 9007199254740993 9007199254740992 weightLimit.value weightLimit.value := by
  have above : (Value.int64 9007199254740993).Whole 9007199254740993 := .int64 rfl
  have at_limit : (Value.int64 9007199254740992).Whole 9007199254740992 := .int64 rfl
  have takes : Content.convert weightType (.int64 9007199254740993) = .ok weightLimit := rfl
  have takes' : Content.convert weightType (.int64 9007199254740992) = .ok weightLimit := rfl
  exact ⟨above, at_limit, takes, takes', whole_reads above at_limit takes takes'⟩

theorem not_always_told_apart :
    ¬ ∀ (t : FieldType) (v w : Value) (a b : Int) (x y : Content t), v.Whole a → w.Whole b →
      a ≠ b → Content.convert t v = .ok x → Content.convert t w = .ok y → x.value ≠ y.value := by
  intro always
  exact always weightType (.int64 9007199254740993) (.int64 9007199254740992) 9007199254740993
    9007199254740992 weightLimit weightLimit (.int64 rfl) (.int64 rfl) (by decide) rfl rfl rfl

end EntityStore
