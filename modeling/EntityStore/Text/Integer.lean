import EntityStore.Checked

/-!
# Integers in text

An integer is read from an optional sign and one or more decimal digits; leading zeros are allowed.
-/

namespace EntityStore.Text

def readDigits? (cs : List Char) : Option Nat :=
  if !cs.isEmpty && cs.all Char.isDigit then some (Nat.ofDigitChars 10 cs 0) else none

def readNat? : List Char → Option Nat
  | '+' :: rest => readDigits? rest
  | cs => readDigits? cs

def readInt? : List Char → Option Int
  | '-' :: rest => (readDigits? rest).map fun n => -(n : Int)
  | cs => (readNat? cs).map Int.ofNat

def readInt64? (s : String) : Option Int64 :=
  (readInt? s.toList).bind checkedInt64

def readInt32? (s : String) : Option Int32 :=
  (readInt? s.toList).bind checkedInt32

def readUInt16? (cs : List Char) : Option UInt16 :=
  (readNat? cs).bind fun n => if n < UInt16.size then some (UInt16.ofNat n) else none

end EntityStore.Text
