import EntityStore.Mapping.Row
import EntityStore.Search.Compile
import EntityStore.Text.Integer

/-!
# Entities from answers

A document that was found becomes an entity: its fields are mapped as a row is, the key is read from
the id and the version from what the engine keeps. A bucket becomes an entity that has its key and
its count. What cannot be mapped is skipped, and the log is told so.
-/

namespace EntityStore.Search

/-- The key that an id of a document stands for. -/
def parseId (m : Mapping) (raw : String) : Except StoreError Id :=
  let parsed : Option Id :=
    match m.key.kind with
    | .int64 => (Text.readInt64? raw).map .long
    | .int32 => (Text.readInt32? raw).map .int
    | _ => some (.text raw)
  match parsed with
  | some id => .ok id
  | none => .error (.typeMismatch (.documentId m.key.kind raw))

/-- A row with the version of its document, if the entity has a place for it. -/
def putVersion (m : Mapping) (version : Option Int64) (row : Row) : Row :=
  match versionProperty? m, version with
  | some property, some v =>
    match m.columnOf? property with
    | some column => row.put column (.int64 v)
    | none => row
  | _, _ => row

/-- The row of a document whose key is known. Its columns are visited in this order, the fields of the
document after the key and the version of the hit; where a field is named as one of these but for its
case, another order would make another entity. -/
def rowOfHit (m : Mapping) (id : Id) (hit : SearchHit) : Row :=
  putVersion m hit.version ((Row.ofDocument hit.source).put m.key.column id.toValue)

def badIdEvent (m : Mapping) (hit : SearchHit) (reason : StoreError) : LogEvent where
  level := .warn
  target := "zdao_core::dao::search"
  message := "document skipped: bad id"
  details := [("entity", m.typeName), ("id", hit.id), ("error", reason.message)]

/-- The entity of a document, or what the log is told instead. -/
def entityOfHit (τ : EntityType) (m : Mapping) (hit : SearchHit) : Except LogEvent (Entity τ) := do
  let id ← (parseId m hit.id).mapError (badIdEvent m hit)
  (Row.toEntity τ m (rowOfHit m id hit)).mapError (·.event m)

def badBucketEvent (m : Mapping) (bucket : Bucket) (reason : StoreError) : LogEvent where
  level := .warn
  target := "zdao_core::dao::search"
  message := "bucket skipped"
  details := [("entity", m.typeName), ("key", bucket.key.display), ("error", reason.message)]

/-- An entity with the key of a bucket, and with its count where one is asked for. -/
def fillBucket (τ : EntityType) (property : String) (countAlias : Option String) (bucket : Bucket) :
    Except StoreError (Entity τ) := do
  let keyed ← (Entity.blank τ).set property bucket.key
  match countAlias with
  | none => return keyed
  | some counter => keyed.set counter (.int64 bucket.count)

/-- The entities of buckets that count by the first group of a query. -/
def entitiesOfBuckets (τ : EntityType) (m : Mapping) (q : Query) (buckets : List Bucket) :
    List (Except LogEvent (Entity τ)) :=
  match q.groupBys with
  | [] => []
  | group :: _ =>
    match m.property? group.key with
    | none => []
    | some p => buckets.map fun bucket =>
      (fillBucket τ p.property (Text.nonBlank? group.countAlias) bucket).mapError
        (badBucketEvent m bucket)

end EntityStore.Search
