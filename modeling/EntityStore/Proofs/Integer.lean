import EntityStore.Text.Integer
import Mathlib.Data.List.Basic

/-!
# Integers of a fixed width

What is taken to be an integer of a fixed width is the number it was. An integer is read back from
the text that it is written as, and is written as it was read where the text was tidy.
-/

namespace EntityStore

theorem toInt_of_checkedInt64 {n : Int} {x : Int64} (ok : checkedInt64 n = some x) :
    x.toInt = n := by
  unfold checkedInt64 at ok
  split_ifs at ok with fits
  rw [Int64.toInt_minValue, Int64.toInt_maxValue] at fits
  cases ok
  exact Int64.toInt_ofInt_of_le fits.1 (by omega)

theorem checkedInt64_toInt (n : Int64) : checkedInt64 n.toInt = some n := by
  unfold checkedInt64
  rw [if_pos ⟨n.minValue_le_toInt, n.toInt_le⟩, Int64.ofInt_toInt]

theorem checkedInt64_eq_some {n : Int} {x : Int64} : checkedInt64 n = some x ↔ x.toInt = n := by
  constructor
  · exact toInt_of_checkedInt64
  · rintro rfl
    exact checkedInt64_toInt x

theorem exists_checkedInt64_iff {n : Int} :
    (∃ x, checkedInt64 n = some x) ↔ Int64.minValue.toInt ≤ n ∧ n ≤ Int64.maxValue.toInt := by
  rw [← Option.isSome_iff_exists]
  unfold checkedInt64
  split_ifs with fits
  · exact iff_of_true rfl fits
  · exact iff_of_false nofun fits

theorem exists_checkedInt64 {n : Int} (nonneg : 0 ≤ n) (fits : n ≤ Int64.maxValue.toInt) :
    ∃ x : Int64, x.toInt = n ∧ checkedInt64 n = some x := by
  have least : Int64.minValue.toInt ≤ n := Int.le_trans (by decide) nonneg
  obtain ⟨x, some⟩ := exists_checkedInt64_iff.mpr ⟨least, fits⟩
  exact ⟨x, toInt_of_checkedInt64 some, some⟩

theorem toInt_of_checkedInt32 {n : Int} {x : Int32} (ok : checkedInt32 n = some x) :
    x.toInt = n := by
  unfold checkedInt32 at ok
  split_ifs at ok with fits
  rw [Int32.toInt_minValue, Int32.toInt_maxValue] at fits
  cases ok
  exact Int32.toInt_ofInt_of_le fits.1 (by omega)

theorem checkedInt32_toInt (n : Int32) : checkedInt32 n.toInt = some n := by
  unfold checkedInt32
  rw [if_pos ⟨n.minValue_le_toInt, n.toInt_le⟩, Int32.ofInt_toInt]

theorem toInt_toInt32 {n : Int64}
    (fits : Int32.minValue.toInt ≤ n.toInt ∧ n.toInt ≤ Int32.maxValue.toInt) :
    n.toInt32.toInt = n.toInt := by
  rw [Int32.toInt_minValue, Int32.toInt_maxValue] at fits
  rw [Int64.toInt_toInt32, Int.bmod_eq_of_le (by omega) (by omega)]

/-! ## Unsigned numbers -/

theorem toInt_toInt64 (n : UInt64) :
    n.toInt64.toInt =
      if (n.toNat : Int) ≤ Int64.maxValue.toInt then (n.toNat : Int)
      else n.toNat - (UInt64.size : Int) := by
  have signed : n.toInt64.toInt = n.toInt64.toBitVec.toInt := rfl
  rw [signed, UInt64.toBitVec_toInt64, BitVec.toInt_eq_toNat_cond, UInt64.toNat_toBitVec,
    Int64.toInt_maxValue]
  have width : UInt64.size = 18446744073709551616 := rfl
  split_ifs <;> omega

theorem toInt64_lt_iff {n : UInt64} {m : Int64} (least : 1 ≤ m) :
    n.toInt64 < m ↔ (n.toNat : Int) < m.toInt ∨ Int64.maxValue.toInt < n.toNat := by
  have least := Int64.le_iff_toInt_le.mp least
  have one : (1 : Int64).toInt = 1 := by decide
  have width : n.toNat < UInt64.size := n.toNat_lt
  rw [Int64.lt_iff_toInt_lt, toInt_toInt64]
  split_ifs <;> omega

namespace Text

/-! ## Digits -/

theorem isDigit_of_toDigits (n : Nat) : ∀ c ∈ Nat.toDigits 10 n, c.isDigit = true :=
  fun _ mem => Nat.isDigit_of_mem_toDigits (by omega) (by omega) mem

theorem readDigits?_eq_some {cs : List Char} {n : Nat} :
    readDigits? cs = some n ↔
      cs ≠ [] ∧ (∀ c ∈ cs, c.isDigit = true) ∧ Nat.ofDigitChars 10 cs 0 = n := by
  unfold readDigits?
  rw [Option.ite_none_right_eq_some, Bool.and_eq_true, List.all_eq_true, and_assoc]
  simp

theorem value_lt_ten {c : Char} (digit : c.isDigit = true) : c.toNat - '0'.toNat < 10 := by
  obtain ⟨-, most⟩ := Char.isDigit_iff_toNat.mp digit
  have nine : '9'.toNat = '0'.toNat + 9 := rfl
  omega

theorem toDigits_value {c : Char} (digit : c.isDigit = true) :
    Nat.toDigits 10 (c.toNat - '0'.toNat) = [c] := by
  have small := value_lt_ten digit
  obtain ⟨least, -⟩ := Char.isDigit_iff_toNat.mp digit
  have zero : '0'.toNat = 48 := rfl
  have same : (c.toNat - '0'.toNat).digitChar.toNat = c.toNat := by
    rw [Nat.toNat_digitChar_of_lt_ten small]
    omega
  rw [Nat.toDigits_of_lt_base small, Char.toNat_inj.mp same]

theorem toDigits_ofDigitChars {cs : List Char} (digits : ∀ c ∈ cs, c.isDigit = true) {read : Nat}
    (pos : 0 < read) :
    Nat.toDigits 10 (Nat.ofDigitChars 10 cs read) = Nat.toDigits 10 read ++ cs := by
  induction cs generalizing read with
  | nil => simp
  | cons c rest ih =>
    obtain ⟨digit, digits⟩ := List.forall_mem_cons.mp digits
    calc Nat.toDigits 10 (Nat.ofDigitChars 10 (c :: rest) read)
        = Nat.toDigits 10 (10 * read + (c.toNat - '0'.toNat)) ++ rest := by
          rw [Nat.ofDigitChars_cons, ih digits (by omega)]
      _ = Nat.toDigits 10 read ++ [c] ++ rest := by
          rw [← Nat.toDigits_append_toDigits (by omega) pos (value_lt_ten digit),
            toDigits_value digit]
      _ = Nat.toDigits 10 read ++ c :: rest := (List.append_cons ..).symm

theorem head?_toDigits_ne {n : Nat} (pos : 0 < n) : (Nat.toDigits 10 n).head? ≠ some '0' := by
  induction n using Nat.base_induction 10 (by omega) with
  | single n small =>
    rw [Nat.toDigits_of_lt_base small]
    simp only [List.head?_cons, ne_eq, Option.some.injEq, Nat.digitChar_eq_zero]
    omega
  | digit n d small more ih =>
    rw [← Nat.toDigits_append_toDigits (by omega) more small,
      List.head?_append_of_ne_nil _ Nat.toDigits_ne_nil]
    exact ih more

theorem toDigits_eq_iff {cs : List Char} {n : Nat} (read : readDigits? cs = some n) :
    Nat.toDigits 10 n = cs ↔ (cs.head? = some '0' → cs = ['0']) := by
  obtain ⟨some, digits, rfl⟩ := readDigits?_eq_some.mp read
  cases cs with
  | nil => exact absurd rfl some
  | cons c rest =>
    obtain ⟨digit, digits⟩ := List.forall_mem_cons.mp digits
    rw [Nat.ofDigitChars_cons, Nat.mul_zero, Nat.zero_add]
    by_cases zero : c = '0'
    · subst zero
      constructor
      · intro same _
        rcases Nat.eq_zero_or_pos (Nat.ofDigitChars 10 rest ('0'.toNat - '0'.toNat)) with none | pos
        · rw [none] at same
          exact same.symm
        · exact absurd (congrArg List.head? same) (head?_toDigits_ne pos)
      · intro tidy
        cases tidy rfl
        rfl
    · have pos : 0 < c.toNat - '0'.toNat := by
        obtain ⟨least, -⟩ := Char.isDigit_iff_toNat.mp digit
        have other : c.toNat ≠ '0'.toNat := fun same => zero (Char.toNat_inj.mp same)
        omega
      rw [toDigits_ofDigitChars digits pos, toDigits_value digit]
      simp [zero]

theorem readDigits?_repr (n : Nat) : readDigits? n.repr.toList = some n := by
  rw [Nat.toList_repr]
  exact readDigits?_eq_some.mpr
    ⟨Nat.toDigits_ne_nil, isDigit_of_toDigits n, Nat.ofDigitChars_ten_toDigits⟩

/-! ## Signs -/

theorem readInt?_repr (n : Nat) : readInt? n.repr.toList = some (n : Int) := by
  have digit : ∀ c ∈ n.repr.toList, c.isDigit = true := by
    rw [Nat.toList_repr]
    exact isDigit_of_toDigits n
  have read := readDigits?_repr n
  unfold readInt?
  split
  · rename_i rest hrest
    have minus := digit '-' (by simp [hrest])
    simp at minus
  · unfold readNat?
    split
    · rename_i rest hrest
      have plus := digit '+' (by simp [hrest])
      simp at plus
    · rw [read]
      rfl

theorem toString_natCast (n : Nat) : (toString (n : Int)).toList = Nat.toDigits 10 n := by
  rw [Int.toString_eq_repr, Int.repr_eq_if, if_pos (Int.natCast_nonneg n), Nat.toList_repr,
    Int.toNat_natCast]

theorem toString_neg {n : Nat} (pos : 0 < n) :
    (toString (-(n : Int))).toList = '-' :: Nat.toDigits 10 n := by
  rw [Int.toString_eq_repr, Int.repr_eq_if, if_neg (by omega), String.toList_append,
    Nat.toList_repr, Int.neg_neg, Int.toNat_natCast]
  rfl

theorem readInt?_toString (n : Int) : readInt? (toString n).toList = some n := by
  obtain ⟨m, rfl | rfl⟩ := n.eq_nat_or_neg
  · rw [toString_natCast, ← Nat.toList_repr]
    exact readInt?_repr m
  · rcases Nat.eq_zero_or_pos m with rfl | pos
    · rfl
    · rw [toString_neg pos, ← Nat.toList_repr]
      unfold readInt?
      simp only [readDigits?_repr]
      rfl

/-- An integer without a plus, without a minus before zero, and without zeros before its other
digits. -/
def Tidy (cs : List Char) : Prop :=
  cs.head? ≠ some '+' ∧ (cs.head? = some '-' → cs.tail.head? ≠ some '0') ∧
    (cs.head? = some '0' → cs = ['0'])

instance : DecidablePred Tidy := fun _ => inferInstanceAs (Decidable (_ ∧ _ ∧ _))

theorem toString_eq_iff_of_minus {digits : List Char} {n : Nat}
    (read : readDigits? digits = some n) :
    (toString (-(n : Int))).toList = '-' :: digits ↔ digits.head? ≠ some '0' := by
  rcases Nat.eq_zero_or_pos n with rfl | pos
  · refine iff_of_false nofun fun lead => lead ?_
    rw [← (toDigits_eq_iff read).mpr fun zero => absurd zero lead]
    rfl
  · rw [toString_neg pos, List.cons_inj_right]
    constructor
    · rintro rfl
      exact head?_toDigits_ne pos
    · exact fun lead => (toDigits_eq_iff read).mpr fun zero => absurd zero lead

theorem toString_eq_iff_tidy {cs : List Char} {n : Int} (read : readInt? cs = some n) :
    (toString n).toList = cs ↔ Tidy cs := by
  unfold readInt? at read
  split at read
  · rename_i rest
    cases digits : readDigits? rest with
    | none =>
      rw [digits] at read
      cases read
    | some m =>
      rw [digits] at read
      cases read
      rw [Tidy]
      simpa using toString_eq_iff_of_minus digits
  · rename_i signless
    obtain ⟨m, digits, rfl⟩ := Option.map_eq_some_iff.mp read
    rw [Int.ofNat_eq_natCast, toString_natCast]
    unfold readNat? at digits
    split at digits
    · refine iff_of_false (fun same => ?_) fun tidy => tidy.1 rfl
      have digit := isDigit_of_toDigits m '+' (by simp [same])
      cases digit
    · rename_i unplussed
      have plain : cs.head? ≠ some '+' ∧ cs.head? ≠ some '-' := by
        cases cs with
        | nil => simp
        | cons c rest =>
          simp only [List.head?_cons, ne_eq, Option.some.injEq]
          refine ⟨fun plus => unplussed rest ?_, fun minus => signless rest ?_⟩
          · rw [plus]
          · rw [minus]
      rw [toDigits_eq_iff digits]
      simp [Tidy, plain]

/-! ## Widths -/

theorem readInt64?_toString (n : Int64) : readInt64? (toString n.toInt) = some n := by
  unfold readInt64?
  rw [readInt?_toString, Option.bind_some, checkedInt64_toInt]

theorem readInt32?_toString (n : Int32) : readInt32? (toString n.toInt) = some n := by
  unfold readInt32?
  rw [readInt?_toString, Option.bind_some, checkedInt32_toInt]

theorem toString_eq_iff_of_readInt64? {s : String} {n : Int64} (read : readInt64? s = some n) :
    toString n.toInt = s ↔ Tidy s.toList := by
  obtain ⟨m, number, fits⟩ := Option.bind_eq_some_iff.mp read
  rw [toInt_of_checkedInt64 fits, ← String.toList_inj]
  exact toString_eq_iff_tidy number

theorem toString_eq_iff_of_readInt32? {s : String} {n : Int32} (read : readInt32? s = some n) :
    toString n.toInt = s ↔ Tidy s.toList := by
  obtain ⟨m, number, fits⟩ := Option.bind_eq_some_iff.mp read
  rw [toInt_of_checkedInt32 fits, ← String.toList_inj]
  exact toString_eq_iff_tidy number

end Text

end EntityStore
