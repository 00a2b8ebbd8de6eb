import EntityStore.Text.PrintTable

/-!
# Quoted text

Text as it is shown in log lines: between double quotes, with a backslash before whatever could be
misread and a code point in hexadecimal for whatever cannot be seen.
-/

namespace EntityStore.Text

/-- A character that shows a shape of its own. -/
def hasShape (c : Char) : Bool := !inRuns shapelessRuns c

/-- A mark that attaches to the character before it. -/
def isExtender (c : Char) : Bool := inRuns extendRuns c

/-- A code point in hexadecimal digits, between braces after `\u`. -/
def codePoint (c : Char) : List Char :=
  ['\\', 'u', '{'] ++ Nat.toDigits 16 c.toNat ++ ['}']

def quotedChar (c : Char) : List Char :=
  if c = '\x00' then ['\\', '0']
  else if c = '\t' then ['\\', 't']
  else if c = '\r' then ['\\', 'r']
  else if c = '\n' then ['\\', 'n']
  else if c = '\\' || c = '"' then ['\\', c]
  else if isExtender c || !hasShape c then codePoint c
  else [c]

def quoted (s : String) : String :=
  String.ofList (['"'] ++ s.toList.flatMap quotedChar ++ ['"'])

def quotedList (items : List String) : String :=
  "[" ++ String.intercalate ", " (items.map quoted) ++ "]"

def quotedOption : Option String → String
  | none => "None"
  | some s => "Some(" ++ quoted s ++ ")"

end EntityStore.Text
