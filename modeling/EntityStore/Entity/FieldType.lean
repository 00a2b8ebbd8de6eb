import EntityStore.Error

/-!
# Types of fields

A field holds one of five kinds of scalars and may allow null. A value is converted to the field's
own kind where that loses nothing, and refused otherwise.
-/

namespace EntityStore

inductive Scalar where
  | int32
  | int64
  | float64
  | text
  | boolean
  deriving DecidableEq, Repr

def Scalar.kind : Scalar → ValueKind
  | int32 => .int32
  | int64 => .int64
  | float64 => .float64
  | text => .text
  | boolean => .boolean

abbrev Scalar.Held (s : Scalar) := { v : Value // v.kind = s.kind }

def Scalar.blank : (s : Scalar) → s.Held
  | int32 => ⟨.int32 0, rfl⟩
  | int64 => ⟨.int64 0, rfl⟩
  | float64 => ⟨.float64 .zero, rfl⟩
  | text => ⟨.text "", rfl⟩
  | boolean => ⟨.boolean false, rfl⟩

/-- Brings a value to the scalar's kind: integers change their width where they fit, become doubles,
and 0 and 1 become truth values. -/
def Scalar.convert : (s : Scalar) → Value → Except StoreError s.Held
  | int32, .int32 n => .ok ⟨.int32 n, rfl⟩
  | int32, .int64 n =>
    if Int32.minValue.toInt ≤ n.toInt ∧ n.toInt ≤ Int32.maxValue.toInt then
      .ok ⟨.int32 n.toInt32, rfl⟩
    else .error (.typeMismatch (.outOfRange n))
  | int64, .int64 n => .ok ⟨.int64 n, rfl⟩
  | int64, .int32 n => .ok ⟨.int64 n.toInt64, rfl⟩
  | float64, .float64 x => .ok ⟨.float64 x, rfl⟩
  | float64, .int32 n => .ok ⟨.float64 (.ofInt n.toInt), rfl⟩
  | float64, .int64 n => .ok ⟨.float64 (.ofInt n.toInt), rfl⟩
  | text, .text s => .ok ⟨.text s, rfl⟩
  | boolean, .boolean b => .ok ⟨.boolean b, rfl⟩
  | boolean, .int32 n =>
    if n = 0 then .ok ⟨.boolean false, rfl⟩
    else if n = 1 then .ok ⟨.boolean true, rfl⟩
    else .error (.wrongKind .boolean .int32)
  | boolean, .int64 n =>
    if n = 0 then .ok ⟨.boolean false, rfl⟩
    else if n = 1 then .ok ⟨.boolean true, rfl⟩
    else .error (.wrongKind .boolean .int64)
  | s, v => .error (.wrongKind s.kind v.kind)

structure FieldType where
  scalar : Scalar
  nullable : Bool := false
  deriving DecidableEq, Repr

namespace FieldType

def holds (t : FieldType) (v : Value) : Bool :=
  v.kind == t.scalar.kind || (t.nullable && v.isNull)

end FieldType

structure Content (t : FieldType) where
  value : Value
  held : t.holds value = true

namespace Content

def ofHeld {t : FieldType} (v : t.scalar.Held) : Content t :=
  ⟨v.val, by simp [FieldType.holds, v.property]⟩

/-- Null in a field that allows it, and the scalar's own blank elsewhere. -/
def blank (t : FieldType) : Content t :=
  if h : t.nullable = true then ⟨.null, by simp [FieldType.holds, h, Value.isNull]⟩
  else ofHeld t.scalar.blank

instance (t : FieldType) : Inhabited (Content t) := ⟨blank t⟩

def convert (t : FieldType) (v : Value) : Except StoreError (Content t) :=
  if h : t.nullable = true ∧ v.isNull = true then
    .ok ⟨v, by simp [FieldType.holds, h.1, h.2]⟩
  else (t.scalar.convert v).map ofHeld

end Content

/-! ## Values taken as lists and texts -/

namespace Value

def asList : Value → Except StoreError (List Value)
  | list items => .ok items
  | v => .error (.wrongKind .list v.kind)

def asText : Value → Except StoreError String
  | text s => .ok s
  | v => .error (.wrongKind .text v.kind)

end Value

end EntityStore
