import EntityStore.Text.Blank
import EntityStore.Value

/-!
# Primary keys

A key is an integer of either width or a text.
-/

namespace EntityStore

inductive Id where
  | long (n : Int64)
  | int (n : Int32)
  | text (s : String)
  deriving DecidableEq, Repr

namespace Id

/-- A key that may be looked up: an integer that is not negative, or a text that is not blank. -/
def isValid : Id → Bool
  | long n => 0 ≤ n
  | int n => 0 ≤ n
  | text s => !Text.isBlank s

/-- A key that its caller has chosen: a positive integer, or a text that is not blank. -/
def isSet : Id → Bool
  | long n => 0 < n
  | int n => 0 < n
  | text s => !Text.isBlank s

def ofValue? : Value → Option Id
  | .int64 n => some (long n)
  | .int32 n => some (int n)
  | .text s => some (text s)
  | _ => none

def toValue : Id → Value
  | long n => .int64 n
  | int n => .int32 n
  | text s => .text s

def display : Id → String
  | long n => toString n.toInt
  | int n => toString n.toInt
  | text s => s

end Id

end EntityStore
