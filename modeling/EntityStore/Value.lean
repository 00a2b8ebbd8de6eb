import EntityStore.Json.Text

/-!
# Values

What is bound to a statement, compared in a criteria chain, held in a column of a row and kept in a
field of an entity. A value is written as a literal for people to read, and goes into documents and
back.
-/

namespace EntityStore

inductive Value where
  | null
  | int32 (n : Int32)
  | int64 (n : Int64)
  | float64 (x : Binary64)
  | text (s : String)
  | boolean (b : Bool)
  | list (items : List Value)
  deriving Inhabited

inductive ValueKind where
  | null
  | int32
  | int64
  | float64
  | text
  | boolean
  | list
  deriving DecidableEq, Repr

def ValueKind.name : ValueKind → String
  | null => "Null"
  | int32 => "Int32"
  | int64 => "Int64"
  | float64 => "Float64"
  | text => "Utf8"
  | boolean => "Boolean"
  | list => "List"

namespace Value

def kind : Value → ValueKind
  | null => .null
  | int32 _ => .int32
  | int64 _ => .int64
  | float64 _ => .float64
  | text _ => .text
  | boolean _ => .boolean
  | list _ => .list

def isNull : Value → Bool
  | null => true
  | _ => false

def isList : Value → Bool
  | list _ => true
  | _ => false

/-! ## Literals -/

def doubleQuotes (cs : List Char) : List Char :=
  cs.flatMap fun c => if c = '\'' then ['\'', '\''] else [c]

mutual

def literalChars : Value → List Char
  | null => "NULL".toList
  | int32 n => (toString n.toInt).toList
  | int64 n => (toString n.toInt).toList
  | float64 x => x.literalChars
  | text s => '\'' :: doubleQuotes s.toList ++ ['\'']
  | boolean b => if b then "TRUE".toList else "FALSE".toList
  | list items => '(' :: [','].intercalate (itemLiterals items) ++ [')']

def itemLiterals : List Value → List (List Char)
  | [] => []
  | item :: rest => literalChars item :: itemLiterals rest

end

/-- The value as it would stand in a statement. -/
def literal (v : Value) : String := String.ofList v.literalChars

/-- The value as it stands in a log line: text without quotes. -/
def display : Value → String
  | text s => s
  | v => v.literal

/-! ## Documents -/

mutual

/-- Both widths of integers become whole numbers, and a number that is not finite becomes null. -/
def toJson : Value → Json
  | null => .null
  | int32 n => Json.ofInt32 n
  | int64 n => Json.ofInt64 n
  | float64 x => Json.ofFloat x
  | text s => .text s
  | boolean b => .bool b
  | list items => .array (itemsToJson items)

def itemsToJson : List Value → List Json
  | [] => []
  | item :: rest => toJson item :: itemsToJson rest

end

mutual

/-- A whole number above the signed range becomes the nearest double, and an object the text of
itself. -/
def ofJson : Json → Value
  | .null => null
  | .bool b => boolean b
  | .int n =>
    if n.val < 9223372036854775808 then int64 (Int64.ofInt n.val)
    else float64 (Binary64.ofInt n.val)
  | .float x => float64 x.val
  | .text s => text s
  | .array items => list (itemsOfJson items)
  | .object fields => text (Json.render (.object fields))

def itemsOfJson : List Json → List Value
  | [] => []
  | item :: rest => ofJson item :: itemsOfJson rest

end

end Value

end EntityStore
