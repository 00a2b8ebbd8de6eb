/-!
# Runs of code points

A property of characters is written as a list of runs: the code points from `first` to `last`, one
every `step`. A shift is a run whose members move by one distance.
-/

namespace EntityStore.Text

/-- The code points `first`, `first + step`, … up to `last`. -/
structure Run where
  first : Nat
  last : Nat
  step : Nat
  deriving Repr, DecidableEq

def Run.holds (r : Run) (n : Nat) : Bool :=
  r.first ≤ n && n ≤ r.last && (n - r.first) % r.step == 0

def inRuns (runs : List Run) (c : Char) : Bool :=
  runs.any (·.holds c.toNat)

/-- A run whose members move by `distance`. -/
structure Shift where
  run : Run
  distance : Int
  deriving Repr, DecidableEq

/-- Where the shifts send a character: by the first shift whose run holds it, else nowhere. -/
def shifted? (shifts : List Shift) (c : Char) : Option Char :=
  (shifts.find? (·.run.holds c.toNat)).map fun s => Char.ofNat ((c.toNat : Int) + s.distance).toNat

end EntityStore.Text
