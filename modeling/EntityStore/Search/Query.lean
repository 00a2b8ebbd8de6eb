import EntityStore.Value

/-!
# Search queries

The structured queries of a search engine and the JSON in which the engine is sent them.
-/

namespace EntityStore

inductive RangeOp where
  | gt
  | gte
  | lt
  | lte
  deriving DecidableEq, Repr

def RangeOp.key : RangeOp → String
  | gt => "gt"
  | gte => "gte"
  | lt => "lt"
  | lte => "lte"

inductive SearchQuery where
  | matchAll
  | term (field : String) (value : Value)
  | terms (field : String) (values : List Value)
  | range (field : String) (op : RangeOp) (value : Value)
  | startsWith (field start : String)
  | wildcard (field pattern : String)
  | fullText (field : String) (value : Value)
  | phrase (field : String) (value : Value)
  | present (field : String)
  | bool (must mustNot : List SearchQuery)
  | raw (query : String)
  deriving Inhabited

namespace SearchQuery

/-- A list under a key, left out when it is empty. -/
def listField (key : String) (items : List Json) : Document :=
  if items.isEmpty then [] else [(key, .array items)]

mutual

def toJson : SearchQuery → Json
  | matchAll => .single "match_all" (.object [])
  | term field value => .single "term" (.single field value.toJson)
  | terms field values => .single "terms" (.single field (.array (Value.itemsToJson values)))
  | range field op value => .single "range" (.single field (.single op.key value.toJson))
  | startsWith field start => .single "prefix" (.single field (.text start))
  | wildcard field pattern => .single "wildcard" (.single field (.text pattern))
  | fullText field value => .single "match" (.single field value.toJson)
  | phrase field value => .single "match_phrase" (.single field value.toJson)
  | present field => .single "exists" (.single "field" (.text field))
  | bool must mustNot =>
    .single "bool" (.object
      (listField "must" (listToJson must) ++ listField "must_not" (listToJson mustNot)))
  | raw query => .single "wrapper" (.single "query" (.text query))

def listToJson : List SearchQuery → List Json
  | [] => []
  | q :: rest => toJson q :: listToJson rest

end

end SearchQuery

end EntityStore
