import EntityStore.Query
import EntityStore.Search.Query

/-!
# Requests to a search engine

What the engine is asked and what it answers.
-/

namespace EntityStore

/-- A count of the documents by the values of one field. -/
structure TermsAggregation where
  name : String
  field : String
  size : Int64
  deriving DecidableEq, Repr

structure SearchRequest where
  index : String
  docType : Option String := none
  query : SearchQuery
  start : Int64 := 0
  size : Int64 := 0
  /-- The fields to bring back: all of them, or the listed ones. -/
  source : Option (List String) := none
  sort : List (String × Direction) := []
  aggregation : Option TermsAggregation := none
  preference : Option String := none

namespace SearchRequest

/-- A request for nothing but the number of documents. -/
def isCount (r : SearchRequest) : Bool := r.size == 0 && r.aggregation.isNone

def sourceField : Option (List String) → Document
  | none => []
  | some [] => [("_source", .bool false)]
  | some fields => [("_source", .single "includes" (.array (fields.map .text)))]

def directionName : Direction → String
  | .asc => "asc"
  | .desc => "desc"

def sortField (sort : List (String × Direction)) : Document :=
  SearchQuery.listField "sort" (sort.map fun (field, d) =>
    .single field (.single "order" (.text (directionName d))))

def aggregationField : Option TermsAggregation → Document
  | none => []
  | some a =>
    [("aggs", .single a.name (.single "terms"
      (.object [("field", .text a.field), ("size", .ofInt64 a.size)])))]

def toJson (r : SearchRequest) : Json :=
  .object (sourceField r.source ++ aggregationField r.aggregation ++
    [("from", .ofInt64 r.start), ("query", r.query.toJson), ("size", .ofInt64 r.size)] ++
    sortField r.sort)

end SearchRequest

/-! ## Answers -/

structure SearchHit where
  id : String
  version : Option Int64
  source : Json

/-- A value of the field that is counted by, and how many documents have it. -/
structure Bucket where
  key : Value
  count : Int64

structure SearchResponse where
  totalHits : Int64 := 0
  hits : List SearchHit := []
  buckets : List Bucket := []

/-! ## Writing documents -/

inductive WriteMode where
  | create
  | overwrite
  deriving DecidableEq, Repr

structure IndexRequest where
  index : String
  docType : Option String
  /-- The engine chooses an id where there is none. -/
  id : Option String
  mode : WriteMode
  source : Document

structure IndexResponse where
  id : String
  version : Int64
  deriving DecidableEq, Repr

inductive VersionSpec where
  | any
  | pinned (version : Int64)
  deriving DecidableEq, Repr

def VersionSpec.shown : VersionSpec → String
  | any => "MatchAny"
  | pinned version => "Pinned(" ++ toString version.toInt ++ ")"

structure UpdateRequest where
  index : String
  docType : Option String
  id : String
  version : VersionSpec
  /-- The fields to write over those of the document. -/
  doc : Document

inductive WriteResult where
  | created
  | updated
  | deleted
  | notFound
  | noop
  deriving DecidableEq, Repr

structure WriteResponse where
  result : WriteResult
  version : Int64
  deriving DecidableEq, Repr

end EntityStore
