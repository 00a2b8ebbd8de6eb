import EntityStore.Binary64.Shortest

/-!
# How floating point numbers are written

The two formats of the library as values of one record: literals in statements, which are always
positional, and numbers in documents, which turn to scientific notation outside a window.
-/

namespace EntityStore

/-- The decisions of a number format. -/
structure FloatLayout where
  tie : Tie
  positional : Int → Bool
  /-- What follows a positional number that has no fraction. -/
  wholeMark : List Char

namespace FloatLayout

/-- Literals in statements show every digit and nothing after a whole number. -/
def literal : FloatLayout := ⟨.up, fun _ => true, []⟩

/-- Numbers in documents show `.0` after a whole number, and an exponent below `1e-5` and from
`1e16` on. -/
def document : FloatLayout := ⟨.even, fun e => -5 ≤ e && e ≤ 15, ['.', '0']⟩

def positionalChars (wholeMark : List Char) (d : Decimal) : List Char :=
  if d.digits.isEmpty then '0' :: wholeMark
  else if d.point ≤ 0 then ['0', '.'] ++ List.replicate (-d.point).toNat '0' ++ d.digits
  else
    let whole := d.point.toNat
    if d.digits.length ≤ whole then
      d.digits ++ List.replicate (whole - d.digits.length) '0' ++ wholeMark
    else d.digits.take whole ++ '.' :: d.digits.drop whole

def scientificChars (d : Decimal) : List Char :=
  let exponent := d.point - 1
  d.digits.take 1 ++ (if d.digits.length ≤ 1 then [] else '.' :: d.digits.drop 1) ++
    ['e', if exponent < 0 then '-' else '+'] ++ Nat.toDigits 10 exponent.natAbs

def finiteChars (layout : FloatLayout) (x : Binary64) : List Char :=
  let d := x.shortest layout.tie
  let sign := if x.isNegative then ['-'] else []
  sign ++ if d.digits.isEmpty || layout.positional (d.point - 1) then
    positionalChars layout.wholeMark d
  else scientificChars d

end FloatLayout

def Binary64.literalChars (x : Binary64) : List Char :=
  if x.isNaN then ['N', 'a', 'N']
  else if !x.isFinite then (if x.isNegative then ['-'] else []) ++ ['i', 'n', 'f']
  else FloatLayout.literal.finiteChars x

def FiniteFloat.documentChars (x : FiniteFloat) : List Char :=
  FloatLayout.document.finiteChars x.val

end EntityStore
