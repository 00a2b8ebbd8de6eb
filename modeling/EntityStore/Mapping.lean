import EntityStore.Entity.Descriptor
import EntityStore.Error
import EntityStore.Text.Case

/-!
# Mappings

A mapping ties the properties of an entity to the columns of one kind of store. It is built from a
descriptor that passes every check, and then answers for names: which column a property has, and
which property a column belongs to whatever its case.
-/

namespace EntityStore

/-- How a kind of store names its columns. -/
inductive Policy where
  /-- Columns in snake case, explicit names in lower case; a table is required. -/
  | relational
  /-- Columns named as the properties; an index is required. -/
  | search
  /-- Columns named as the properties and needing no declaration; a table is required. -/
  | wideColumn
  deriving DecidableEq, Repr

structure PropertyMapping where
  property : String
  column : String
  kind : ValueKind
  nullable : Bool
  transient : Bool
  deriving DecidableEq, Repr

def Names.present (n : Names) : Names where
  table := Text.nonBlank? n.table
  sequence := Text.nonBlank? n.sequence
  index := Text.nonBlank? n.index
  indexPattern := Text.nonBlank? n.indexPattern
  docType := Text.nonBlank? n.docType
  keyspace := Text.nonBlank? n.keyspace

/-! ## Columns of fields -/

namespace FieldSpec

/-- Whether the field is declared well enough for the policy: a key, a transient field and a field
of a wide-column store need no column. -/
def hasColumn (f : FieldSpec) (policy : Policy) : Bool :=
  f.column != .missing || f.primaryKey || f.transient || policy == .wideColumn

def columnName (f : FieldSpec) (policy : Policy) : String :=
  match policy, f.column with
  | .relational, .named name => Text.lower name
  | .relational, _ => Text.snake f.property
  | _, .named name => name
  | _, _ => f.property

def mapping (f : FieldSpec) (policy : Policy) : PropertyMapping where
  property := f.property
  column := f.columnName policy
  kind := f.kind
  nullable := f.nullable
  transient := f.transient

end FieldSpec

/-! ## Building -/

/-- The property mappings of an entity for one kind of store. -/
structure Mapping where
  typeName : String
  policy : Policy
  properties : List PropertyMapping
  key : PropertyMapping
  version : Option PropertyMapping
  names : Names
  deriving DecidableEq, Repr

namespace Descriptor

def keyField (d : Descriptor) : Except EntityFault FieldSpec :=
  match d.fields.filter (·.primaryKey) with
  | [f] =>
    if f.transient then .error (.transientKey f.property)
    else if f.kind = .int64 ∨ f.kind = .int32 ∨ f.kind = .text then .ok f
    else .error (.keyKind f.property f.kind)
  | fs => .error (.keyCount fs.length)

def versionField (d : Descriptor) : Except EntityFault (Option FieldSpec) :=
  match d.fields.filter (·.version) with
  | [] => .ok none
  | [f] => if f.kind = .int64 ∨ f.kind = .int32 then .ok (some f) else .error (.versionKind f.property)
  | _ => .error .manyVersions

/-- Passes if every field has a column and no column is there twice, whatever its case. The columns
in `taken` are those of the fields before. -/
def checkColumns (policy : Policy) (taken : List String) : List FieldSpec → Except EntityFault Unit
  | [] => .ok ()
  | f :: rest =>
    let column := f.columnName policy
    if !f.hasColumn policy then .error (.noColumn f.property)
    else if Text.lower column ∈ taken then .error (.duplicateColumn column)
    else checkColumns policy (Text.lower column :: taken) rest

/-- Passes if the store's own name for the entity is present. -/
def checkName (names : Names) : Policy → Except EntityFault Unit
  | .relational | .wideColumn => if names.table.isNone then .error .noTable else .ok ()
  | .search => if names.index.isNone then .error .noIndex else .ok ()

/-- The mapping of a descriptor, or the first fault found in it. -/
def mapping? (d : Descriptor) (policy : Policy) : Except EntityFault Mapping := do
  if !d.fields.any (!·.transient) then .error .noPersistedField
  let key ← d.keyField
  let version ← d.versionField
  checkColumns policy [] d.fields
  checkName d.names.present policy
  return {
    typeName := d.typeName
    policy := policy
    properties := d.fields.map (·.mapping policy)
    key := key.mapping policy
    version := version.map (·.mapping policy)
    names := d.names.present }

end Descriptor

namespace Mapping

def faulty (typeName : String) (fault : EntityFault) : StoreError :=
  .configuration (.entity typeName fault)

def build (d : Descriptor) (policy : Policy) : Except StoreError Mapping :=
  (d.mapping? policy).mapError (faulty d.typeName)

/-! ## Names -/

/-- The mapping of a property, the last declared under the name. -/
def property? (m : Mapping) (property : String) : Option PropertyMapping :=
  m.properties.reverse.find? (·.property == property)

/-- The properties that are stored, in the order of declaration. -/
def persisted (m : Mapping) : List PropertyMapping := m.properties.filter (!·.transient)

def persistedRest (m : Mapping) : List PropertyMapping :=
  m.persisted.filter (·.property != m.key.property)

def columnOf? (m : Mapping) (property : String) : Option String :=
  (m.property? property).map (·.column)

def column (m : Mapping) (parameter : Parameter) (property : String) : Except StoreError String :=
  match m.columnOf? property with
  | some column => .ok column
  | none => .error (.unknownProperty parameter property)

/-- The property a column belongs to, whatever the case of its letters. -/
def propertyOfColumn? (m : Mapping) (column : String) : Option PropertyMapping :=
  m.properties.find? fun p => Text.lower p.column == Text.lower column

def isTransient (m : Mapping) (property : String) : Bool :=
  (m.property? property).any (·.transient)

/-- The table of the entity, by the name of its type where it has none. -/
def tableName (m : Mapping) : String := m.names.table.getD m.typeName

end Mapping

end EntityStore
