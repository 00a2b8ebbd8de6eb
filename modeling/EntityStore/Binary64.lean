/-!
# Floating point numbers

An IEEE 754 double is kept as its 64 bits, so that two numbers are equal exactly when their bits
are. What the bits mean is read off them in whole numbers; no arithmetic of the machine is used.
-/

namespace EntityStore

/-- A double precision number, as its bits. -/
structure Binary64 where
  bits : UInt64
  deriving DecidableEq, Repr, Inhabited

namespace Binary64

def isNegative (x : Binary64) : Bool := Nat.pow 2 63 ≤ x.bits.toNat

def exponentField (x : Binary64) : Nat := x.bits.toNat / Nat.pow 2 52 % Nat.pow 2 11

def fractionField (x : Binary64) : Nat := x.bits.toNat % Nat.pow 2 52

def isFinite (x : Binary64) : Bool := x.exponentField != 2047

def isNaN (x : Binary64) : Bool := !x.isFinite && x.fractionField != 0

def isZero (x : Binary64) : Bool := x.exponentField == 0 && x.fractionField == 0

/-- The whole number whose multiple by a power of two is the absolute value of a finite number. -/
def significand (x : Binary64) : Nat :=
  if x.exponentField = 0 then x.fractionField else Nat.pow 2 52 + x.fractionField

def scale (x : Binary64) : Int :=
  if x.exponentField = 0 then -1074 else (x.exponentField : Int) - 1075

def zero : Binary64 := ⟨0⟩

def nan : Binary64 := ⟨0x7ff8000000000000⟩

/-! ## From whole numbers -/

/-- A quotient by a power of two, rounded to the nearest whole number, a half to the even one. -/
def roundShift (n shift : Nat) : Nat :=
  let q := n / Nat.pow 2 shift
  let r := n % Nat.pow 2 shift
  if Nat.pow 2 shift < 2 * r ∨ (2 * r = Nat.pow 2 shift ∧ q % 2 = 1) then q + 1 else q

/-- The whole number nearest to `n` that fifty-three bits and a power of two can hold, a half going to
the even significand. -/
def nearestWhole (n : Nat) : Nat :=
  let top := Nat.log2 n
  if top ≤ 52 then n else roundShift n (top - 52) * Nat.pow 2 (top - 52)

/-- The bits of the double nearest to `n`. A significand that rounds up to `2 ^ 53` carries into the
exponent by itself. -/
def natBits (n : Nat) : Nat :=
  if n = 0 then 0
  else
    let top := Nat.log2 n
    let significand := if top ≤ 52 then n * Nat.pow 2 (52 - top) else roundShift n (top - 52)
    (top + 1022) * Nat.pow 2 52 + significand

/-- The double nearest to a whole number, a tie going to the even significand. -/
def ofInt (n : Int) : Binary64 :=
  ⟨UInt64.ofNat (if n < 0 then Nat.pow 2 63 + natBits n.natAbs else natBits n.natAbs)⟩

end Binary64

abbrev FiniteFloat := { x : Binary64 // x.isFinite = true }

end EntityStore
