import EntityStore.Value

/-!
# Descriptors

What the declaration of an entity says: the names of the places it is kept in, and for each property
its column, its kind and its part in the entity.
-/

namespace EntityStore

inductive ColumnSpec where
  | missing
  | derived
  | named (name : String)
  deriving DecidableEq, Repr

structure FieldSpec where
  property : String
  kind : ValueKind
  column : ColumnSpec := .missing
  primaryKey : Bool := false
  transient : Bool := false
  version : Bool := false
  nullable : Bool := false
  deriving DecidableEq, Repr

/-- The places an entity is kept in. -/
structure Names where
  table : Option String := none
  sequence : Option String := none
  index : Option String := none
  indexPattern : Option String := none
  docType : Option String := none
  keyspace : Option String := none
  deriving DecidableEq, Repr

structure Descriptor where
  typeName : String
  names : Names := {}
  fields : List FieldSpec
  deriving DecidableEq, Repr

end EntityStore
