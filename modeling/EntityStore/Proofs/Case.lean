import EntityStore.Mapping
import EntityStore.Text.Case
import Mathlib.Data.List.Basic

/-!
# Names in snake case

Deriving a name in snake case a second time leaves it as it is. Not every capital is gone from a
derived name: one without a lower-case form stays, and is then the start of a word, so that a second
pass finds no place before it for another `_`.
-/

namespace EntityStore.Text

/-! ## Runs that do not meet -/

/-- Its members are all even or all odd. -/
def Run.alternates (r : Run) : Bool :=
  r.step % 2 == 0 || r.first == r.last

/-- No number is in both runs: one ends before the other starts, or one has the even and the other
the odd numbers. -/
def Run.apart (r q : Run) : Bool :=
  r.last < q.first || q.last < r.first ||
    (r.alternates && q.alternates && r.first % 2 != q.first % 2)

variable {r q : Run} {s : Shift} {n : Nat}

theorem Run.holds_iff : r.holds n ↔ r.first ≤ n ∧ n ≤ r.last ∧ (n - r.first) % r.step = 0 := by
  simp [Run.holds, and_assoc]

theorem Run.parity (alternates : r.alternates) (holds : r.holds n) : n % 2 = r.first % 2 := by
  obtain ⟨above, below, onStep⟩ := Run.holds_iff.mp holds
  simp only [Run.alternates, Bool.or_eq_true, beq_iff_eq] at alternates
  rcases alternates with even | single
  · have twos : 2 ∣ n - r.first :=
      Nat.dvd_trans (Nat.dvd_of_mod_eq_zero even) (Nat.dvd_of_mod_eq_zero onStep)
    omega
  · omega

theorem Run.not_holds_of_apart (apart : r.apart q) (holds : r.holds n) : ¬ q.holds n := by
  intro holds'
  obtain ⟨above, below, -⟩ := Run.holds_iff.mp holds
  obtain ⟨above', below', -⟩ := Run.holds_iff.mp holds'
  simp only [Run.apart, Bool.or_eq_true, Bool.and_eq_true, decide_eq_true_eq, bne_iff_ne] at apart
  rcases apart with (before | after) | ⟨⟨evens, odds⟩, differ⟩
  · omega
  · omega
  · exact differ ((Run.parity evens holds).symm.trans (Run.parity odds holds'))

def Shift.image (s : Shift) : Run where
  first := (s.run.first + s.distance).toNat
  last := (s.run.last + s.distance).toNat
  step := s.run.step

/-- None of its members ends up in one of the runs. -/
def Shift.leaves (s : Shift) (runs : List Run) : Bool :=
  0 ≤ s.run.first + s.distance && runs.all s.image.apart

theorem Shift.image_holds (lands : 0 ≤ s.run.first + s.distance) (holds : s.run.holds n) :
    s.image.holds (n + s.distance).toNat := by
  obtain ⟨above, below, onStep⟩ := Run.holds_iff.mp holds
  have same : (n + s.distance).toNat - (s.run.first + s.distance).toNat = n - s.run.first := by
    omega
  exact Run.holds_iff.mpr ⟨by simp only [Shift.image]; omega, by simp only [Shift.image]; omega,
    by simp only [Shift.image, same, onStep]⟩

/-! ## What lower case leaves of capitals -/

theorem lowerShifts_leave : lowerShifts.all (·.leaves upperRuns) := by decide +kernel

theorem isUpper_ofNat (outside : ∀ r ∈ upperRuns, ¬ r.holds n) :
    isUpper (Char.ofNat n) = false := by
  by_cases valid : n.isValidChar
  · have back : (Char.ofNat n).toNat = n := by
      rw [Char.ofNat, dif_pos valid]
      rfl
    simpa [isUpper, inRuns, back] using outside
  · -- a number that is no character is read as the null character
    have null : Char.ofNat n = '\x00' := by
      rw [Char.ofNat, dif_neg valid]
      rfl
    rw [null]
    decide +kernel

theorem lowerChar_settled (c : Char) :
    lowerChar c = [c] ∨ ∀ d ∈ lowerChar c, isUpper d = false := by
  unfold lowerChar
  split
  · exact .inr (List.forall_mem_cons.mpr
      ⟨by decide +kernel, List.forall_mem_singleton.mpr (by decide +kernel)⟩)
  · unfold shifted?
    cases found : lowerShifts.find? (·.run.holds c.toNat) with
    | none => exact .inl rfl
    | some s =>
      have holds : s.run.holds c.toNat := by simpa using List.find?_some found
      have leaves := List.all_eq_true.mp lowerShifts_leave s (List.mem_of_find?_eq_some found)
      simp only [Shift.leaves, Bool.and_eq_true, decide_eq_true_eq, List.all_eq_true] at leaves
      have outside : ∀ r ∈ upperRuns, ¬ r.holds (c.toNat + s.distance).toNat := fun r hr =>
        Run.not_holds_of_apart (leaves.2 r hr) (Shift.image_holds leaves.1 holds)
      exact .inr (by simpa using isUpper_ofNat outside)

/-! ## Names that are in snake case -/

/-- The next character is the first of a word. -/
def Opened (name : List Char) : Prop := name = [] ∨ name.getLast? = some '_'

/-- A capital stands in the name only where it starts a word, and has no lower-case form. -/
inductive Snaked : List Char → Prop
  | nil : Snaked []
  | small {name : List Char} {c : Char} : Snaked name → isUpper c = false → Snaked (name ++ [c])
  | capital {name : List Char} {c : Char} :
      Snaked name → Opened name → lowerChar c = [c] → Snaked (name ++ [c])

def openWord (name : List Char) : List Char :=
  if name.isEmpty || name.getLast? == some '_' then name else name ++ ['_']

variable {name more : List Char} {c : Char}

theorem snakeStep_of_isUpper (upper : isUpper c) :
    snakeStep name c = openWord name ++ lowerChar c := by
  simp [snakeStep, openWord, upper]

theorem snakeStep_of_not_isUpper (other : isUpper c = false) : snakeStep name c = name ++ [c] := by
  simp [snakeStep, other]

theorem openWord_eq (opened : Opened name) : openWord name = name := by
  rcases opened with rfl | last
  · rfl
  · simp [openWord, last]

theorem opened_openWord (name : List Char) : Opened (openWord name) := by
  unfold openWord
  split
  · rename_i already
    simpa [Opened] using already
  · exact .inr List.getLast?_concat

theorem Snaked.append (snaked : Snaked name) (small : ∀ d ∈ more, isUpper d = false) :
    Snaked (name ++ more) := by
  induction more generalizing name with
  | nil => simpa using snaked
  | cons d more ih =>
    rw [List.forall_mem_cons] at small
    simpa using ih (snaked.small small.1) small.2

theorem Snaked.openWord (snaked : Snaked name) : Snaked (openWord name) := by
  unfold Text.openWord
  split
  · exact snaked
  · exact snaked.small (by decide +kernel)

theorem Snaked.step (snaked : Snaked name) (c : Char) : Snaked (snakeStep name c) := by
  cases upper : isUpper c with
  | false => simpa [snakeStep_of_not_isUpper upper] using snaked.small upper
  | true =>
    rw [snakeStep_of_isUpper upper]
    rcases lowerChar_settled c with stays | goes
    · rw [stays]
      exact snaked.openWord.capital (opened_openWord name) stays
    · exact snaked.openWord.append goes

theorem snakeChars_concat (cs : List Char) (c : Char) :
    snakeChars (cs ++ [c]) = snakeStep (snakeChars cs) c := by
  rw [snakeChars, List.foldl_append]
  rfl

theorem snaked_snakeChars (cs : List Char) : Snaked (snakeChars cs) :=
  List.foldlRecOn cs snakeStep .nil fun _ snaked c _ => snaked.step c

theorem Snaked.snakeChars_eq (snaked : Snaked name) : snakeChars name = name := by
  induction snaked with
  | nil => rfl
  | small _ other ih => rw [snakeChars_concat, ih, snakeStep_of_not_isUpper other]
  | @capital _ c _ opened stays ih =>
    rw [snakeChars_concat, ih]
    cases upper : isUpper c with
    | false => exact snakeStep_of_not_isUpper upper
    | true => rw [snakeStep_of_isUpper upper, openWord_eq opened, stays]

theorem snakeChars_eq_iff (cs : List Char) : snakeChars cs = cs ↔ Snaked cs :=
  ⟨fun same => same ▸ snaked_snakeChars cs, Snaked.snakeChars_eq⟩

theorem snake_eq_iff (s : String) : snake s = s ↔ Snaked s.toList := by
  rw [← snakeChars_eq_iff, ← String.toList_inj, snake, String.toList_ofList]

theorem snake_snake (s : String) : snake (snake s) = snake s := by
  rw [snake_eq_iff, snake, String.toList_ofList]
  exact snaked_snakeChars s.toList

/-- Deriving a name again changes nothing, and the names that deriving leaves as they are are those
in snake case. So a property that is named after a column has that column. -/
theorem snake_idempotent (s : String) (f : FieldSpec) (policy : Policy) :
    snake (snake s) = snake s ∧ (snake s = s ↔ Snaked s.toList) ∧
      { f with property := f.columnName policy }.columnName policy = f.columnName policy := by
  refine ⟨snake_snake s, snake_eq_iff s, ?_⟩
  cases policy <;> cases column : f.column <;> simp [FieldSpec.columnName, column, snake_snake]

/-- The dotted capital becomes two characters, and the capital without a lower-case form stays. -/
example : snake "myİd𝐗" = "my_i\u0307d_𝐗" := by decide +kernel

end EntityStore.Text
