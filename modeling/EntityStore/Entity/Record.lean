import EntityStore.Entity

/-!
# Records

An entity type comes from the declaration of a record, whose members are properties unless they are
skipped. A skipped member is part of the record's state, and no property names it. A property is
written in place, once the value has been converted.
-/

namespace EntityStore

inductive Member where
  | property (field : Field)
  | skipped (name : String)
  deriving DecidableEq, Repr

namespace Member

def name : Member → String
  | property field => field.property
  | skipped name => name

def field? : Member → Option Field
  | property field => some field
  | skipped _ => none

theorem map_property_sublist (members : List Member) :
    ((members.filterMap field?).map Field.property).Sublist (members.map name) := by
  induction members with
  | nil => exact .slnil
  | cons m rest ih =>
    cases m with
    | property field => exact ih.cons_cons _
    | skipped _ => exact ih.cons _

end Member

structure RecordType where
  typeName : String
  names : Names := {}
  members : List Member
  distinct : (members.map Member.name).Nodup := by decide
  [initial : (f : Field) → Inhabited (Content f.type)]

/-- The type that is left without the skipped members. -/
def RecordType.entityType (ρ : RecordType) : EntityType where
  typeName := ρ.typeName
  names := ρ.names
  fields := ρ.members.filterMap Member.field?
  distinct := ρ.distinct.sublist (Member.map_property_sublist ρ.members)
  initial := ρ.initial

/-- The entity with other content in a field. -/
def Entity.store {τ : EntityType} (e : Entity τ) (f : Field) (c : Content f.type) : Entity τ where
  slots := e.slots.map fun s => if s.field = f then ⟨f, c⟩ else s
  shape := by
    rw [List.map_map, ← e.shape]
    refine List.map_congr_left fun s _ => ?_
    rw [Function.comp_apply]
    split
    · rename_i same
      exact same.symm
    · rfl

/-- What the properties hold, and what the skipped members do, whatever that is. -/
structure Record (ρ : RecordType) (κ : Type) where
  entity : Entity ρ.entityType
  skipped : κ

namespace Record

variable {ρ : RecordType} {κ : Type}

def get? (r : Record ρ κ) (property : String) : Option Value := r.entity.get? property

/-- Writes a property in place. -/
def assign (property : String) (v : Value) : ExceptT StoreError (StateM (Record ρ κ)) Unit := do
  match ρ.entityType.fields.find? (·.property == property) with
  | none => pure ()
  | some f =>
    let c ← Content.convert f.type v
    modify fun r => { r with entity := r.entity.store f c }

/-- How an action on the record ends, and what it leaves of the record. -/
def after (r : Record ρ κ) (action : ExceptT StoreError (StateM (Record ρ κ)) Unit) :
    Except StoreError Unit × Record ρ κ :=
  action.run.run r

end Record

end EntityStore
