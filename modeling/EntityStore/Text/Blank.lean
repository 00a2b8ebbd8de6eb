/-!
# Blanks

The characters that count as blank, text that holds nothing else, and text with its outer blanks
taken off.
-/

namespace EntityStore.Text

def isBlankChar (c : Char) : Bool :=
  let n := c.toNat
  (0x09 ≤ n && n ≤ 0x0D) || n == 0x20 || n == 0x85 || n == 0xA0 || n == 0x1680 ||
    (0x2000 ≤ n && n ≤ 0x200A) || n == 0x2028 || n == 0x2029 || n == 0x202F || n == 0x205F ||
    n == 0x3000

def isBlank (s : String) : Bool :=
  s.toList.all isBlankChar

def trimChars (cs : List Char) : List Char :=
  ((cs.dropWhile isBlankChar).reverse.dropWhile isBlankChar).reverse

def trim (s : String) : String :=
  String.ofList (trimChars s.toList)

/-- A name that was given and is not blank. -/
def nonBlank? (s : Option String) : Option String :=
  s.filter fun t => !isBlank t

end EntityStore.Text
