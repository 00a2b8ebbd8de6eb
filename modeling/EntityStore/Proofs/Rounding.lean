import EntityStore.Binary64.Shortest
import Mathlib.Tactic.Ring

/-!
# Whole numbers as doubles

A double holds the whole numbers that are written with fifty-three bits and a power of two. Any other
becomes one of them, and none of them lies nearer to it.
-/

namespace EntityStore.Binary64

def Denotes (x : Binary64) (n : Int) : Prop :=
  x.isFinite = true ∧
    (if x.isNegative then -(x.fraction.1 : Int) else x.fraction.1) = n * x.fraction.2

/-- Fifty-three bits and a power of two make the number. -/
def Short (n : Int) : Prop := ∃ m k : Nat, m < 2 ^ 53 ∧ n.natAbs = m * 2 ^ k

/-- The whole number that a double is made of. -/
def nearest (n : Int) : Int := n.sign * nearestWhole n.natAbs

/-! ## Rounding -/

theorem roundShift_cases (n shift : Nat) :
    (roundShift n shift = n / 2 ^ shift ∧ 2 * (n % 2 ^ shift) ≤ 2 ^ shift) ∨
      (roundShift n shift = n / 2 ^ shift + 1 ∧ 2 ^ shift ≤ 2 * (n % 2 ^ shift)) := by
  unfold roundShift
  simp only [Nat.pow_eq]
  split_ifs <;> omega

theorem roundShift_mul (q shift : Nat) : roundShift (q * 2 ^ shift) shift = q := by
  have positive : 0 < 2 ^ shift := Nat.two_pow_pos shift
  have cases := roundShift_cases (q * 2 ^ shift) shift
  rw [Nat.mul_div_cancel _ positive, Nat.mul_mod_left] at cases
  omega

theorem roundShift_nearest (n shift k : Nat) :
    ((roundShift n shift * 2 ^ shift : Nat) - n : Int).natAbs ≤
      ((k * 2 ^ shift : Nat) - n : Int).natAbs := by
  have whole := Nat.div_add_mod' n (2 ^ shift)
  have left := Nat.mod_lt n (Nat.two_pow_pos shift)
  have above : (n / 2 ^ shift + 1) * 2 ^ shift = n / 2 ^ shift * 2 ^ shift + 2 ^ shift := by ring
  have sides : k * 2 ^ shift ≤ n / 2 ^ shift * 2 ^ shift ∨
      (n / 2 ^ shift + 1) * 2 ^ shift ≤ k * 2 ^ shift := by
    rcases Nat.lt_or_ge (n / 2 ^ shift) k with more | less
    · exact .inr (Nat.mul_le_mul_right _ more)
    · exact .inl (Nat.mul_le_mul_right _ less)
  rcases roundShift_cases n shift with ⟨down, half⟩ | ⟨up, half⟩
  · rw [down]
    omega
  · rw [up]
    omega

/-- The low bits of a number that fifty-three do not reach. -/
def excess (n : Nat) : Nat := n.log2 - 52

theorem nearestWhole_eq (n : Nat) : nearestWhole n = roundShift n (excess n) * 2 ^ excess n := by
  unfold nearestWhole excess
  simp only [Nat.pow_eq]
  split_ifs with small
  · have exact := roundShift_mul n 0
    rw [Nat.sub_eq_zero_of_le small]
    simpa using exact.symm
  · rfl

theorem two_pow_le {n : Nat} (long : 0 < excess n) : 2 ^ 52 * 2 ^ excess n ≤ n := by
  unfold excess at long ⊢
  have positive : n ≠ 0 := by
    rintro rfl
    simp at long
  rw [← Nat.pow_add, Nat.add_sub_cancel' (by omega)]
  exact Nat.log2_self_le positive

theorem lt_two_pow (n : Nat) : n < 2 ^ 53 * 2 ^ excess n := by
  rw [← Nat.pow_add]
  refine Nat.lt_of_lt_of_le Nat.lt_log2_self (Nat.pow_le_pow_right (by decide) ?_)
  unfold excess
  omega

theorem roundShift_excess_le (n : Nat) : roundShift n (excess n) ≤ 2 ^ 53 := by
  have quotient : n / 2 ^ excess n < 2 ^ 53 := by
    apply Nat.div_lt_of_lt_mul
    rw [Nat.mul_comm]
    exact lt_two_pow n
  have cases := roundShift_cases n (excess n)
  omega

theorem le_roundShift_excess {n : Nat} (long : 0 < excess n) :
    2 ^ 52 ≤ roundShift n (excess n) := by
  have quotient : 2 ^ 52 ≤ n / 2 ^ excess n :=
    (Nat.le_div_iff_mul_le (Nat.two_pow_pos _)).mpr (two_pow_le long)
  have cases := roundShift_cases n (excess n)
  omega

theorem short_nearestWhole (n : Nat) : Short (nearestWhole n) := by
  have bound := roundShift_excess_le n
  rw [nearestWhole_eq]
  rcases Nat.lt_or_ge (roundShift n (excess n)) (2 ^ 53) with below | above
  · exact ⟨_, _, below, rfl⟩
  · have carried : roundShift n (excess n) = 2 ^ 53 := by omega
    refine ⟨1, 53 + excess n, by decide, ?_⟩
    rw [carried, Int.natAbs_natCast, ← Nat.pow_add, one_mul]

theorem nearestWhole_nearest (n : Nat) {m : Nat} (short : Short m) :
    (nearestWhole n - n : Int).natAbs ≤ (m - n : Int).natAbs := by
  obtain ⟨a, k, ha, rfl⟩ := short
  rw [nearestWhole_eq]
  rcases Nat.lt_or_ge k (excess n) with finer | coarser
  · -- Off the grid there is nothing above its point below `n`.
    have point := two_pow_le (n := n) (by omega)
    have below : a * 2 ^ k ≤ 2 ^ 52 * 2 ^ excess n := by
      calc a * 2 ^ k ≤ 2 ^ 53 * 2 ^ k := Nat.mul_le_mul_right _ (Nat.le_of_lt ha)
        _ = 2 ^ 52 * 2 ^ (k + 1) := by ring
        _ ≤ 2 ^ 52 * 2 ^ excess n :=
          Nat.mul_le_mul_left _ (Nat.pow_le_pow_right (by decide) finer)
    have grid := roundShift_nearest n (excess n) (2 ^ 52)
    omega
  · have onGrid : a * 2 ^ k = a * 2 ^ (k - excess n) * 2 ^ excess n := by
      rw [Nat.mul_assoc, ← Nat.pow_add, Nat.sub_add_cancel coarser]
    rw [onGrid]
    exact roundShift_nearest n (excess n) _

theorem natAbs_sign_mul {n : Int} {m : Nat} (zero : n = 0 → m = 0) : (n.sign * m).natAbs = m := by
  rcases eq_or_ne n 0 with rfl | ne
  · simp [zero rfl]
  · rw [Int.natAbs_mul, Int.natAbs_sign_of_ne_zero ne, Nat.one_mul, Int.natAbs_natCast]

theorem natAbs_nearest (n : Int) : (nearest n).natAbs = nearestWhole n.natAbs := by
  apply natAbs_sign_mul
  rintro rfl
  rfl

theorem short_nearest (n : Int) : Short (nearest n) := by
  obtain ⟨m, k, hm, whole⟩ := short_nearestWhole n.natAbs
  exact ⟨m, k, hm, (natAbs_nearest n).trans whole⟩

theorem short_zero : Short 0 := ⟨0, 0, by decide, rfl⟩

/-- Nothing that a double can hold lies nearer to a whole number than what it becomes. -/
theorem nearest_nearest (n : Int) {m : Int} (short : Short m) :
    (nearest n - n).natAbs ≤ (m - n).natAbs := by
  have own := nearestWhole_nearest n.natAbs (m := m.natAbs) short
  have zero := nearestWhole_nearest n.natAbs (m := 0) short_zero
  unfold nearest
  rcases Int.lt_trichotomy n 0 with negative | rfl | positive
  · rw [Int.sign_eq_neg_one_of_neg negative]
    omega
  · simp
  · rw [Int.sign_eq_one_of_pos positive]
    omega

theorem nearest_eq_self_iff {n : Int} : nearest n = n ↔ Short n := by
  constructor
  · intro same
    exact same ▸ short_nearest n
  · intro short
    have near := nearest_nearest n short
    omega

theorem short_of_lt {n : Int} (small : n.natAbs < 2 ^ 53) : Short n := ⟨n.natAbs, 0, small, by simp⟩

theorem le_natAbs_of_nearest_eq {a b : Int} (same : nearest a = nearest b) (ne : a ≠ b) :
    2 ^ 53 ≤ a.natAbs := by
  by_contra small
  have kept : nearest a = a := nearest_eq_self_iff.mpr (short_of_lt (by omega))
  have near := nearest_nearest b (m := if b < 0 then -2 ^ 53 else 2 ^ 53)
    ⟨1, 53, by decide, by split_ifs <;> rfl⟩
  have long : 2 ^ 53 ≤ b.natAbs := by
    by_contra small
    exact ne (kept.symm.trans (same.trans (nearest_eq_self_iff.mpr (short_of_lt (by omega)))))
  split_ifs at near <;> omega

/-! ## The bits of a whole number -/

/-- The significand before a carry: `2 ^ 52` at least, and `2 ^ 53` where it is rounded up to that. -/
def wholeSignificand (n : Nat) : Nat := roundShift n (excess n) * 2 ^ (52 - n.log2)

theorem natBits_eq {n : Nat} (positive : n ≠ 0) :
    natBits n = (n.log2 + 1022) * 2 ^ 52 + wholeSignificand n := by
  unfold natBits wholeSignificand excess
  simp only [Nat.pow_eq, if_neg positive]
  split_ifs with small
  · have exact := roundShift_mul n 0
    rw [Nat.sub_eq_zero_of_le small]
    simpa using exact.symm
  · rw [Nat.sub_eq_zero_of_le (by omega : 52 ≤ n.log2)]
    simp

theorem wholeSignificand_bounds {n : Nat} (positive : n ≠ 0) :
    2 ^ 52 ≤ wholeSignificand n ∧ wholeSignificand n ≤ 2 ^ 53 := by
  unfold wholeSignificand
  rcases Nat.eq_zero_or_pos (excess n) with short | long
  · have exact : roundShift n 0 = n := by simpa using roundShift_mul n 0
    have small : n.log2 ≤ 52 := by
      unfold excess at short
      omega
    rw [short, exact]
    constructor
    · calc 2 ^ 52 = 2 ^ n.log2 * 2 ^ (52 - n.log2) := by
            rw [← Nat.pow_add, Nat.add_sub_cancel' small]
        _ ≤ n * 2 ^ (52 - n.log2) := Nat.mul_le_mul_right _ (Nat.log2_self_le positive)
    · calc n * 2 ^ (52 - n.log2) ≤ 2 ^ (n.log2 + 1) * 2 ^ (52 - n.log2) :=
            Nat.mul_le_mul_right _ (Nat.le_of_lt Nat.lt_log2_self)
        _ = 2 ^ 53 := by
          rw [← Nat.pow_add]
          congr 1
          omega
  · have none : 52 - n.log2 = 0 := by
      unfold excess at long
      omega
    rw [none, Nat.pow_zero, Nat.mul_one]
    exact ⟨le_roundShift_excess long, roundShift_excess_le n⟩

theorem wholeSignificand_mul (n : Nat) :
    wholeSignificand n * 2 ^ n.log2 = nearestWhole n * 2 ^ 52 := by
  have widths : 52 - n.log2 + n.log2 = excess n + 52 := by
    unfold excess
    omega
  rw [nearestWhole_eq, wholeSignificand, Nat.mul_assoc, Nat.mul_assoc, ← Nat.pow_add,
    ← Nat.pow_add, widths]

theorem log2_lt {n : Nat} (positive : n ≠ 0) (fits : n < 2 ^ 64) : n.log2 < 64 :=
  (Nat.log2_lt positive).mpr fits

theorem natBits_lt {n : Nat} (fits : n < 2 ^ 64) : natBits n < 2047 * 2 ^ 52 := by
  rcases eq_or_ne n 0 with rfl | positive
  · decide
  · have bounds := wholeSignificand_bounds positive
    have top := log2_lt positive fits
    rw [natBits_eq positive]
    omega

theorem toNat_bits_ofInt {n : Int} (fits : n.natAbs < 2 ^ 64) :
    (ofInt n).bits.toNat = if n < 0 then 2 ^ 63 + natBits n.natAbs else natBits n.natAbs := by
  have below := natBits_lt fits
  unfold ofInt
  simp only [Nat.pow_eq, UInt64.toNat_ofNat']
  split_ifs <;> omega

theorem isFinite_ofInt {n : Int} (fits : n.natAbs < 2 ^ 64) : (ofInt n).isFinite = true := by
  have below := natBits_lt fits
  unfold isFinite exponentField
  rw [toNat_bits_ofInt fits]
  simp only [Nat.pow_eq, bne_iff_ne]
  split_ifs <;> omega

theorem isNegative_ofInt {n : Int} (fits : n.natAbs < 2 ^ 64) :
    (ofInt n).isNegative = true ↔ n < 0 := by
  have below := natBits_lt fits
  unfold isNegative
  rw [toNat_bits_ofInt fits]
  simp only [Nat.pow_eq, decide_eq_true_eq]
  split_ifs <;> omega

theorem fraction_pos (x : Binary64) : 0 < x.fraction.2 := by
  unfold fraction
  split_ifs
  · exact Nat.one_pos
  · exact Nat.two_pow_pos _

theorem fraction_eq {x : Binary64} {up down m : Nat} (scale : x.scale = up - down)
    (weight : x.significand * 2 ^ up = m * 2 ^ down) : x.fraction.1 = m * x.fraction.2 := by
  unfold fraction
  simp only [Nat.pow_eq]
  split_ifs with whole
  · rw [Nat.mul_one]
    apply Nat.eq_of_mul_eq_mul_right (Nat.two_pow_pos down)
    rw [← weight, Nat.mul_assoc, ← Nat.pow_add]
    congr 2
    omega
  · apply Nat.eq_of_mul_eq_mul_right (Nat.two_pow_pos up)
    rw [weight, Nat.mul_assoc, ← Nat.pow_add]
    congr 2
    omega

theorem significand_ofInt {n : Int} (fits : n.natAbs < 2 ^ 64) (ne : n ≠ 0) :
    ∃ up : Nat, (ofInt n).scale = up - (52 : Nat) ∧
      (ofInt n).significand * 2 ^ up = nearestWhole n.natAbs * 2 ^ 52 := by
  have positive : n.natAbs ≠ 0 := Int.natAbs_ne_zero.mpr ne
  obtain ⟨least, most⟩ := wholeSignificand_bounds positive
  have top := log2_lt positive fits
  have bits := toNat_bits_ofInt fits
  rw [natBits_eq positive] at bits
  have weight := wholeSignificand_mul n.natAbs
  have exponent : (ofInt n).exponentField =
      n.natAbs.log2 + 1022 + wholeSignificand n.natAbs / 2 ^ 52 := by
    unfold exponentField
    rw [bits]
    simp only [Nat.pow_eq]
    split_ifs <;> omega
  have fraction : (ofInt n).fractionField = wholeSignificand n.natAbs % 2 ^ 52 := by
    unfold fractionField
    rw [bits]
    simp only [Nat.pow_eq]
    split_ifs <;> omega
  have normal : (ofInt n).exponentField ≠ 0 := by omega
  unfold scale significand
  rw [if_neg normal, if_neg normal, exponent, fraction, ← weight]
  simp only [Nat.pow_eq]
  rcases Nat.lt_or_ge (wholeSignificand n.natAbs) (2 ^ 53) with below | carried
  · refine ⟨n.natAbs.log2, by omega, ?_⟩
    congr 1
    omega
  · refine ⟨n.natAbs.log2 + 1, by omega, ?_⟩
    have full : wholeSignificand n.natAbs = 2 ^ 53 := by omega
    rw [full]
    ring

theorem denotes_ofInt {n : Int} (fits : n.natAbs < 2 ^ 64) : (ofInt n).Denotes (nearest n) := by
  refine ⟨isFinite_ofInt fits, ?_⟩
  rcases eq_or_ne n 0 with rfl | ne
  · have weight : (ofInt 0).significand * 2 ^ 0 = 0 * 2 ^ 1074 := by
      rw [Nat.zero_mul]
      rfl
    rw [fraction_eq (x := ofInt 0) rfl weight, Nat.zero_mul, nearest, Int.sign_zero, Int.zero_mul,
      Int.zero_mul]
    split_ifs <;> rfl
  · obtain ⟨up, scale, weight⟩ := significand_ofInt fits ne
    rw [fraction_eq scale weight, nearest]
    split_ifs with negative
    · rw [Int.sign_eq_neg_one_of_neg ((isNegative_ofInt fits).mp negative)]
      push_cast
      ring
    · have positive : 0 < n := by
        rw [isNegative_ofInt fits] at negative
        omega
      rw [Int.sign_eq_one_of_pos positive]
      push_cast
      ring

theorem natBits_of_excess {n : Nat} (long : 0 < excess n) :
    natBits n = (excess n + 1074) * 2 ^ 52 + roundShift n (excess n) := by
  have top : n.log2 = excess n + 52 := by
    unfold excess at long ⊢
    omega
  have ne : n ≠ 0 := by
    rintro rfl
    simp [excess] at long
  rw [natBits_eq ne, wholeSignificand, top, Nat.sub_eq_zero_of_le (by omega), Nat.pow_zero,
    Nat.mul_one]

theorem excess_mul {q shift : Nat} (least : 2 ^ 52 ≤ q) (most : q < 2 ^ 53) :
    excess (q * 2 ^ shift) = shift := by
  have ne : q * 2 ^ shift ≠ 0 := Nat.mul_ne_zero (by omega) (Nat.two_pow_pos shift).ne'
  have lower : 52 + shift ≤ (q * 2 ^ shift).log2 := by
    rw [Nat.le_log2 ne, Nat.pow_add]
    exact Nat.mul_le_mul_right _ least
  have upper : (q * 2 ^ shift).log2 < 53 + shift := by
    rw [Nat.log2_lt ne, Nat.pow_add]
    exact Nat.mul_lt_mul_of_pos_right most (Nat.two_pow_pos shift)
  unfold excess
  omega

theorem natBits_nearestWhole (n : Nat) : natBits (nearestWhole n) = natBits n := by
  rcases Nat.eq_zero_or_pos (excess n) with short | long
  · have exact := roundShift_mul n 0
    rw [nearestWhole_eq, short]
    congr 1
    simpa using exact
  have least := le_roundShift_excess long
  have most := roundShift_excess_le n
  rw [natBits_of_excess long, nearestWhole_eq]
  rcases Nat.lt_or_ge (roundShift n (excess n)) (2 ^ 53) with below | carried
  · have width : excess (roundShift n (excess n) * 2 ^ excess n) = excess n := excess_mul least below
    rw [natBits_of_excess (by rwa [width]), width, roundShift_mul]
  · -- The carry makes a power of two, whose significand is the least one.
    have full : roundShift n (excess n) = 2 ^ 53 := by omega
    have halved : 2 ^ 53 * 2 ^ excess n = 2 ^ 52 * 2 ^ (excess n + 1) := by ring
    have width : excess (2 ^ 52 * 2 ^ (excess n + 1)) = excess n + 1 :=
      excess_mul (by decide) (by decide)
    rw [full, halved, natBits_of_excess (by rw [width]; omega), width, roundShift_mul]
    ring

theorem nearest_neg_iff (n : Int) : nearest n < 0 ↔ n < 0 := by
  have unit := nearest_nearest n (m := n.sign)
  have zero : nearest 0 = 0 := rfl
  rcases Int.lt_trichotomy n 0 with negative | rfl | positive
  · rw [Int.sign_eq_neg_one_of_neg negative] at unit
    have near := unit (short_of_lt (by decide))
    omega
  · simp [zero]
  · rw [Int.sign_eq_one_of_pos positive] at unit
    have near := unit (short_of_lt (by decide))
    omega

theorem ofInt_nearest (n : Int) : ofInt (nearest n) = ofInt n := by
  unfold ofInt
  simp only [nearest_neg_iff, natAbs_nearest, natBits_nearestWhole]

theorem Denotes.unique {x : Binary64} {a b : Int} (ha : x.Denotes a) (hb : x.Denotes b) :
    a = b := by
  have positive := fraction_pos x
  apply Int.eq_of_mul_eq_mul_right (a := x.fraction.2) (by omega)
  exact ha.2.symm.trans hb.2

theorem significand_lt (x : Binary64) : x.significand < 2 ^ 53 := by
  have field : x.fractionField < 2 ^ 52 := Nat.mod_lt _ (by decide)
  unfold significand
  simp only [Nat.pow_eq]
  split_ifs <;> omega

theorem Denotes.natAbs {x : Binary64} {n : Int} (denotes : x.Denotes n) :
    x.fraction.1 = n.natAbs * x.fraction.2 := by
  have sides := congrArg Int.natAbs denotes.2
  rw [Int.natAbs_mul, Int.natAbs_natCast] at sides
  rw [← sides]
  split_ifs <;> simp

theorem Denotes.short {x : Binary64} {n : Int} (denotes : x.Denotes n) : Short n := by
  have weight := denotes.natAbs
  have bound := significand_lt x
  unfold fraction at weight
  split_ifs at weight with whole
  · exact ⟨_, _, bound, by simpa using weight.symm⟩
  · apply short_of_lt
    have positive := Nat.two_pow_pos (-x.scale).toNat
    have least := Nat.le_mul_of_pos_right n.natAbs positive
    simp only [Nat.pow_eq] at weight
    omega

theorem ofInt_eq_iff {a b : Int} (fitsA : a.natAbs < 2 ^ 64) (fitsB : b.natAbs < 2 ^ 64) :
    ofInt a = ofInt b ↔ nearest a = nearest b := by
  constructor
  · intro same
    exact (denotes_ofInt fitsA).unique (same ▸ denotes_ofInt fitsB)
  · intro same
    rw [← ofInt_nearest a, same, ofInt_nearest b]

end EntityStore.Binary64
