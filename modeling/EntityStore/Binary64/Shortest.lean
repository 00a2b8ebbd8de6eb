import EntityStore.Binary64

/-!
# The fewest digits that read back

A finite double is shown by the shortest decimal that lies nearer to it than to any other double.
For one digit, two digits and so on, the decimals of that length next to the number on either side
are tried; the first length with a hit wins, and of two hits the nearer. What a tie does is left to
the format.
-/

namespace EntityStore

/-- The number `0.d₁d₂… · 10 ^ point`, without trailing zeros; no digits for zero. -/
structure Decimal where
  digits : List Char
  point : Int
  deriving DecidableEq, Repr

namespace Decimal

def digitCount (n : Nat) : Nat := if n = 0 then 0 else (Nat.toDigits 10 n).length

def ofScaled (n : Nat) (exponent : Int) : Decimal :=
  if n = 0 then ⟨[], 0⟩
  else
    let digits := Nat.toDigits 10 n
    ⟨(digits.reverse.dropWhile (· == '0')).reverse, exponent + digits.length⟩

end Decimal

inductive Tie
  | up
  | even
  deriving DecidableEq, Repr

namespace Binary64

def fraction (x : Binary64) : Nat × Nat :=
  if 0 ≤ x.scale then (x.significand * Nat.pow 2 x.scale.toNat, 1)
  else (x.significand, Nat.pow 2 (-x.scale).toNat)

/-- The power of ten just above a positive fraction: `10 ^ (k - 1) ≤ n / d < 10 ^ k`. -/
def magnitude (n d : Nat) : Int :=
  if d ≤ n then Decimal.digitCount (n / d) else 1 - (Decimal.digitCount ((d - 1) / n) : Int)

def divPow10 (n d : Nat) (k : Int) : Nat × Nat :=
  if 0 ≤ k then (n, d * Nat.pow 10 k.toNat) else (n * Nat.pow 10 (-k).toNat, d)

/-- A quarter of the gap below is half of the one above where the significand is a power of two. -/
def gapBelow (x : Binary64) : Nat :=
  if x.fractionField = 0 ∧ 1 < x.exponentField then 1 else 2

/-- One of the two decimals next to the number on the grid of multiples of `10 ^ k`, if either reads
back. The number is `n / d` and `m` its significand, so the space that reads back reaches
`n / d / (2 * m)` upwards. -/
def gridHit? (tie : Tie) (x : Binary64) (n d : Nat) (k : Int) : Option Nat :=
  let (a, b) := divPow10 n d k
  let m := x.significand
  let low := a / b
  let below := a % b
  let above := b - below
  let within (distance gap : Nat) : Bool :=
    distance * 4 * m < a * gap || (distance * 4 * m == a * gap && m % 2 == 0)
  let lowHit := within below x.gapBelow
  let highHit := within above 2
  if lowHit && highHit then
    if below < above then some low
    else if above < below then some (low + 1)
    else match tie with
      | .up => some (low + 1)
      | .even => some (if low % 2 = 0 then low else low + 1)
  else if lowHit then some low
  else if highHit then some (low + 1)
  else none

/-- The shortest decimal that reads back as the absolute value of a finite number. Seventeen digits
are always enough. -/
def shortest (tie : Tie) (x : Binary64) : Decimal :=
  if x.isZero then ⟨[], 0⟩
  else
    let (n, d) := x.fraction
    let k := magnitude n d
    let found := (List.range 17).findSome? fun i =>
      let grid := k - (i + 1 : Nat)
      (gridHit? tie x n d grid).map fun hit => Decimal.ofScaled hit grid
    found.getD (Decimal.ofScaled n 0)

end Binary64

end EntityStore
