import EntityStore.Text.CaseTable

/-!
# Letter case

Lower-case forms of characters and of text, and names in snake case. A capital sigma that ends a
word becomes a final sigma in text, but not in a name that is taken character by character.
-/

namespace EntityStore.Text

def isUpper (c : Char) : Bool := inRuns upperRuns c

def isCased (c : Char) : Bool := inRuns casedRuns c

def isCaseIgnorable (c : Char) : Bool := inRuns caseIgnorableRuns c

/-- The lower-case form of one character, two characters long for `İ`. -/
def lowerChar (c : Char) : List Char :=
  if c = 'İ' then ['i', '\u0307'] else [(shifted? lowerShifts c).getD c]

/-- The nearest character that is not looked through has letter case. -/
def meetsCased (cs : List Char) : Bool :=
  ((cs.dropWhile isCaseIgnorable).head?.map isCased).getD false

/-- The lower-case form of a capital sigma between `before`, read backwards, and `after`. -/
def lowerSigma (before after : List Char) : Char :=
  if meetsCased before && !meetsCased after then 'ς' else 'σ'

/-- The lower-case form of the characters that follow `before`, read backwards. -/
def lowerAfter (before : List Char) : List Char → List Char
  | [] => []
  | c :: rest =>
    (if c = 'Σ' then [lowerSigma before rest] else lowerChar c) ++ lowerAfter (c :: before) rest

def lowerChars (cs : List Char) : List Char := lowerAfter [] cs

def lower (s : String) : String :=
  String.ofList (lowerChars s.toList)

/-! ## Snake case -/

/-- Adds one character to a snake-case name: a capital starts a new word. -/
def snakeStep (name : List Char) (c : Char) : List Char :=
  if isUpper c then
    let opened := if name.isEmpty || name.getLast? == some '_' then name else name ++ ['_']
    opened ++ lowerChar c
  else name ++ [c]

def snakeChars (cs : List Char) : List Char :=
  cs.foldl snakeStep []

/-- A name such as `userName` with its words in lower case and parted by `_`. -/
def snake (s : String) : String :=
  String.ofList (snakeChars s.toList)

end EntityStore.Text
