import EntityStore.Entity.Descriptor
import EntityStore.Entity.FieldType

/-!
# Entities

An entity type lists the fields of a record under distinct property names; an entity holds a value
of its type in every field. A property is read by name, and written by name after the value has been
converted to the field's type.
-/

namespace EntityStore

structure Field where
  property : String
  type : FieldType
  column : ColumnSpec := .missing
  primaryKey : Bool := false
  transient : Bool := false
  version : Bool := false
  deriving DecidableEq, Repr

def Field.spec (f : Field) : FieldSpec where
  property := f.property
  kind := f.type.scalar.kind
  column := f.column
  primaryKey := f.primaryKey
  transient := f.transient
  version := f.version
  nullable := f.type.nullable

structure EntityType where
  typeName : String
  names : Names := {}
  fields : List Field
  distinct : (fields.map Field.property).Nodup := by decide
  /-- What each field holds before anything is written to it: its blank, unless the type says
  otherwise. -/
  [initial : (f : Field) → Inhabited (Content f.type)]

def EntityType.descriptor (τ : EntityType) : Descriptor where
  typeName := τ.typeName
  names := τ.names
  fields := τ.fields.map Field.spec

structure Slot where
  field : Field
  content : Content field.type

namespace Slot

def property (s : Slot) : String := s.field.property

def value (s : Slot) : Value := s.content.value

def put (s : Slot) (v : Value) : Except StoreError Slot :=
  (Content.convert s.field.type v).map fun c => ⟨s.field, c⟩

/-- Writes `v` to the slot of a property; a property that no slot has is passed over. -/
def write (property : String) (v : Value) : List Slot → Except StoreError (List Slot)
  | [] => .ok []
  | s :: rest =>
    if s.property = property then (s.put v).map (· :: rest)
    else (write property v rest).map (s :: ·)

theorem field_put {s t : Slot} {v : Value} (h : s.put v = .ok t) : t.field = s.field := by
  unfold put at h
  cases hc : Content.convert s.field.type v with
  | error e => simp [hc, Except.map] at h
  | ok c => simp [hc, Except.map] at h; exact h ▸ rfl

theorem map_field_write {property : String} {v : Value} {slots written : List Slot}
    (h : write property v slots = .ok written) :
    written.map Slot.field = slots.map Slot.field := by
  induction slots generalizing written with
  | nil => simp only [write, Except.ok.injEq] at h; simp [← h]
  | cons s rest ih =>
    rw [write] at h
    split at h
    · cases hp : s.put v with
      | error e => simp [hp, Except.map] at h
      | ok t => simp [hp, Except.map] at h; simp [← h, field_put hp]
    · cases hw : write property v rest with
      | error e => simp [hw, Except.map] at h
      | ok r => simp [hw, Except.map] at h; simp [← h, ih hw]

end Slot

structure Entity (τ : EntityType) where
  slots : List Slot
  shape : slots.map Slot.field = τ.fields

namespace Entity

variable {τ : EntityType}

def blank (τ : EntityType) : Entity τ where
  slots := τ.fields.map fun f => ⟨f, (τ.initial f).default⟩
  shape := by simp [List.map_map, Function.comp_def]

def get? (e : Entity τ) (property : String) : Option Value :=
  (e.slots.find? (·.property == property)).map Slot.value

/-- The value of a property, null where the type does not have it. -/
def valueOf (e : Entity τ) (property : String) : Value :=
  (e.get? property).getD .null

/-- Writes a property. The entity is unchanged by a property its type does not have. -/
def set (e : Entity τ) (property : String) (v : Value) : Except StoreError (Entity τ) :=
  match h : Slot.write property v e.slots with
  | .error failure => .error failure
  | .ok slots => .ok ⟨slots, by rw [Slot.map_field_write h, e.shape]⟩

def values (e : Entity τ) : List (String × Value) :=
  e.slots.map fun s => (s.property, s.value)

end Entity

end EntityStore
