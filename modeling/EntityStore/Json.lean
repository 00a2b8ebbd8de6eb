import EntityStore.Binary64.Layout

/-!
# Documents

A document is a JSON tree. Its whole numbers reach from the least signed to the greatest unsigned
64-bit number, its other numbers are finite, and the fields of an object stand in the order of
their keys.
-/

namespace EntityStore

/-- A whole number that fits in 64 bits, signed or unsigned. -/
abbrev WideInt := { n : Int // -9223372036854775808 ≤ n ∧ n < 18446744073709551616 }

inductive Json where
  | null
  | bool (b : Bool)
  | int (n : WideInt)
  | float (x : FiniteFloat)
  | text (s : String)
  | array (items : List Json)
  | object (fields : List (String × Json))
  deriving Inhabited

abbrev Document := List (String × Json)

namespace Document

/-- Gives the field `key` a value, in its place among the keys. -/
def insert (key : String) (value : Json) : Document → Document
  | [] => [(key, value)]
  | (k, v) :: rest =>
    if key < k then (key, value) :: (k, v) :: rest
    else if key = k then (key, value) :: rest
    else (k, v) :: insert key value rest

/-- The document with the given fields, the last of each key. -/
def ofFields (fields : List (String × Json)) : Document :=
  fields.foldl (fun doc (key, value) => doc.insert key value) []

def get? (doc : Document) (key : String) : Option Json :=
  (doc.find? (·.1 == key)).map (·.2)

def merge (doc newer : Document) : Document :=
  newer.foldl (fun doc (key, value) => doc.insert key value) doc

end Document

namespace Json

def ofInt64 (n : Int64) : Json :=
  .int ⟨n.toInt, by have := n.le_toInt; have := n.toInt_lt; omega⟩

def ofInt32 (n : Int32) : Json :=
  .int ⟨n.toInt, by have := n.le_toInt; have := n.toInt_lt; omega⟩

def ofFloat (x : Binary64) : Json :=
  if h : x.isFinite = true then .float ⟨x, h⟩ else .null

def single (key : String) (value : Json) : Json := .object [(key, value)]

def ofOption (s : Option String) : Json := s.elim .null .text

end Json

end EntityStore
