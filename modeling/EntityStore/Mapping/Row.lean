import EntityStore.Argument
import EntityStore.Entity
import EntityStore.Log
import EntityStore.Mapping

/-!
# Rows and entities

A row names columns and their values; a document becomes a row of its fields. A row is mapped to an
entity by writing every known column that is not null, and is skipped when a value does not convert.
In the other direction an entity gives its key, and an update of its properties.
-/

namespace EntityStore

abbrev Row := List (String × Value)

namespace Row

/-- The row with `value` in the column spelled exactly so. The columns of a row are in no order that
counts; what is put is visited first here. -/
def put (column : String) (value : Value) (row : Row) : Row :=
  (column, value) :: row.filter (·.1 != column)

/-- The fields of a document; nothing is taken from anything but an object. -/
def ofDocument : Json → Row
  | .object fields => fields.map fun (key, value) => (key, Value.ofJson value)
  | _ => []

/-- A column whose value a row could not be mapped for. -/
structure Skipped where
  column : String
  reason : StoreError
  deriving DecidableEq, Repr

def Skipped.event (m : Mapping) (s : Skipped) : LogEvent where
  level := .warn
  target := "zdao_core::mapping::row"
  message := "row skipped: column conversion failed"
  details := [("entity", m.typeName), ("column", s.column), ("error", s.reason.message)]

variable {τ : EntityType}

/-- Writes the columns of a row to an entity. Unknown columns and nulls have no effect. -/
def fill (m : Mapping) (e : Entity τ) : Row → Except Skipped (Entity τ)
  | [] => .ok e
  | (column, value) :: rest =>
    match m.propertyOfColumn? column with
    | none => fill m e rest
    | some p =>
      if value.isNull then fill m e rest
      else match e.set p.property value with
        | .error reason => .error ⟨column, reason⟩
        | .ok written => fill m written rest

/-- The entity of a row: what the row does not give keeps its blank. -/
def toEntity (τ : EntityType) (m : Mapping) (row : Row) : Except Skipped (Entity τ) :=
  fill m (.blank τ) row

def toEntities (τ : EntityType) (m : Mapping) (rows : List Row) : List (Entity τ) :=
  rows.filterMap fun row => (toEntity τ m row).toOption

/-- What the log is told of the rows that cannot be mapped. -/
def skippedEvents (τ : EntityType) (m : Mapping) (rows : List Row) : List LogEvent :=
  rows.filterMap fun row =>
    match toEntity τ m row with
    | .ok _ => none
    | .error s => some (s.event m)

end Row

namespace Mapping

variable {τ : EntityType}

/-! ## Keys of entities -/

def keyOf? (m : Mapping) (e : Entity τ) : Option Id :=
  (e.get? m.key.property).bind Id.ofValue?

/-- Whether the caller has chosen the key. -/
def hasKey (m : Mapping) (e : Entity τ) : Bool := (m.keyOf? e).any Id.isSet

def entityId (m : Mapping) (e : Entity τ) : Except StoreError Id := do
  match m.keyOf? e with
  | none => .error (.invalidArgument .entity (.keyNotSet m.key.property))
  | some id =>
    require id.isValid .entity (.keyInvalid id)
    return id

/-! ## Updates from entities -/

/-- The values of the named properties, each of which must be known. -/
def namedEntries (m : Mapping) (e : Entity τ) (properties : List String) :
    Except StoreError (List (String × Value)) :=
  properties.mapM fun p =>
    if (m.property? p).isSome then .ok (p, e.valueOf p) else .error (.unknownProperty .properties p)

/-- The update that brings the named properties to an entity's values, or all stored properties but
the key where none is named. -/
def updateOf (m : Mapping) (e : Entity τ) (properties : List String) :
    Except StoreError Update := do
  let entries ←
    if properties.isEmpty then .ok (m.persistedRest.map fun p => (p.property, e.valueOf p.property))
    else m.namedEntries e properties
  let update := Update.ofList entries
  update.check
  return update

end Mapping

end EntityStore
