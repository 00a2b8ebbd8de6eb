import EntityStore.Value

/-!
# Statements

A statement is text with places for values, and the values in the order of the places. It is
composed as a template: pieces of fixed text and values to bind, from which the text, the values and
the text with the values written in are all read off.
-/

namespace EntityStore

/-- Text with a question mark for every value, and the values. -/
structure Statement where
  sql : String
  params : List Value

/-! ## Templates -/

/-- A stretch of fixed text, or a value to bind. -/
inductive Piece where
  | fixed (s : String)
  | bound (v : Value)

abbrev Template := List Piece

namespace Piece

def marked : Piece → String
  | fixed s => s
  | bound _ => "?"

def written : Piece → String
  | fixed s => s
  | bound v => v.literal

def value? : Piece → Option Value
  | fixed _ => none
  | bound v => some v

end Piece

namespace Template

def sql (t : Template) : String := String.join (t.map Piece.marked)

def params (t : Template) : List Value := t.filterMap Piece.value?

/-- The text with every value in its place. -/
def inlined (t : Template) : String := String.join (t.map Piece.written)

def statement (t : Template) : Statement := ⟨t.sql, t.params⟩

def separated (separator : String) (ts : List Template) : Template :=
  List.intercalate [Piece.fixed separator] ts

def boundList (values : List Value) : Template :=
  separated "," (values.map fun v => [Piece.bound v])

end Template

/-! ## Statements as people read them -/

/-- Puts literals for the question marks outside quotes, as long as there are values. -/
def formatChars (quoted : Bool) : List Char → List Value → List Char
  | [], _ => []
  | c :: rest, values =>
    if c = '\'' then c :: formatChars (!quoted) rest values
    else if c = '?' ∧ quoted = false then
      match values with
      | [] => c :: formatChars quoted rest []
      | v :: later => v.literalChars ++ formatChars quoted rest later
    else c :: formatChars quoted rest values

namespace Statement

def format (sql : String) (params : List Value) : String :=
  String.ofList (formatChars false sql.toList params)

def formatted (s : Statement) : String := format s.sql s.params

end Statement

end EntityStore
