import EntityStore.Json

/-!
# The text of a document

Compact: no blanks, the keys of an object in their order, and of all characters only the quote, the
backslash and the controls below the space escaped.
-/

namespace EntityStore.Json

def hexByte (n : Nat) : List Char := [Nat.digitChar (n / 16 % 16), Nat.digitChar (n % 16)]

def escapedChar (c : Char) : List Char :=
  if c = '"' || c = '\\' then ['\\', c]
  else if c = '\x08' then ['\\', 'b']
  else if c = '\x0c' then ['\\', 'f']
  else if c = '\n' then ['\\', 'n']
  else if c = '\r' then ['\\', 'r']
  else if c = '\t' then ['\\', 't']
  else if c.toNat < 0x20 then ['\\', 'u', '0', '0'] ++ hexByte c.toNat
  else [c]

def stringChars (s : String) : List Char :=
  '"' :: s.toList.flatMap escapedChar ++ ['"']

mutual

def chars : Json → List Char
  | .null => "null".toList
  | .bool b => if b then "true".toList else "false".toList
  | .int n => (toString n.val).toList
  | .float x => FiniteFloat.documentChars x
  | .text s => stringChars s
  | .array items => '[' :: [','].intercalate (itemChars items) ++ [']']
  | .object fields => '{' :: [','].intercalate (fieldChars fields) ++ ['}']

def itemChars : List Json → List (List Char)
  | [] => []
  | item :: rest => chars item :: itemChars rest

def fieldChars : List (String × Json) → List (List Char)
  | [] => []
  | (key, value) :: rest => (stringChars key ++ ':' :: chars value) :: fieldChars rest

end

def render (j : Json) : String := String.ofList (chars j)

end EntityStore.Json
