import EntityStore.Proofs.Rounding
import EntityStore.Value

/-!
# Values through documents

A value that goes into a document and back is its normal form: integers are wide, numbers that are
not finite are null, and all else is as it was. What comes out of a document is in normal form, and
goes back as the document itself exactly where no object stands in it and no whole number above the
signed range.
-/

namespace EntityStore

namespace Value

/-! ## Normal forms -/

mutual

/-- The value with every integer wide and null for every number that is not finite. -/
def normal : Value → Value
  | null => null
  | int32 n => int64 n.toInt64
  | int64 n => int64 n
  | float64 x => if x.isFinite then float64 x else null
  | text s => text s
  | boolean b => boolean b
  | list items => list (normalItems items)

def normalItems : List Value → List Value
  | [] => []
  | item :: rest => normal item :: normalItems rest

end

/-! ## Out of a document -/

theorem ofJson_ofInt64 (n : Int64) : ofJson (Json.ofInt64 n) = int64 n := by
  have fits : n.toInt < 9223372036854775808 := n.toInt_lt
  unfold Json.ofInt64
  rw [ofJson]
  simp [fits]

theorem ofJson_ofInt32 (n : Int32) : ofJson (Json.ofInt32 n) = int64 n.toInt64 := by
  have fits : n.toInt < 9223372036854775808 := by
    have narrow := n.toInt_lt
    omega
  unfold Json.ofInt32
  rw [ofJson, if_pos fits, Int64.ofInt_int32ToInt]

theorem ofJson_ofFloat (x : Binary64) :
    ofJson (Json.ofFloat x) = if x.isFinite then float64 x else null := by
  unfold Json.ofFloat
  split_ifs with finite <;> simp [ofJson]

mutual

theorem ofJson_toJson : ∀ v : Value, ofJson v.toJson = v.normal
  | null => by simp [toJson, ofJson, normal]
  | int32 n => by rw [toJson, normal, ofJson_ofInt32]
  | int64 n => by rw [toJson, normal, ofJson_ofInt64]
  | float64 x => by rw [toJson, normal, ofJson_ofFloat]
  | text s => by simp [toJson, ofJson, normal]
  | boolean b => by simp [toJson, ofJson, normal]
  | list items => by rw [toJson, ofJson, normal, itemsOfJson_itemsToJson items]

theorem itemsOfJson_itemsToJson : ∀ items : List Value,
    itemsOfJson (itemsToJson items) = normalItems items
  | [] => by simp [itemsToJson, itemsOfJson, normalItems]
  | item :: rest => by
    rw [itemsToJson, itemsOfJson, normalItems, ofJson_toJson item, itemsOfJson_itemsToJson rest]

end

/-! ## Into a document -/

mutual

theorem normal_ofJson : ∀ j : Json, (ofJson j).normal = ofJson j
  | .null => by simp [ofJson, normal]
  | .bool b => by simp [ofJson, normal]
  | .int n => by
    have finite : (Binary64.ofInt n.val).isFinite = true := by
      apply Binary64.isFinite_ofInt
      have range := n.property
      omega
    rw [ofJson]
    split_ifs <;> simp [normal, finite]
  | .float x => by simp [ofJson, normal, x.property]
  | .text s => by simp [ofJson, normal]
  | .array items => by rw [ofJson, normal, normalItems_itemsOfJson items]
  | .object fields => by simp [ofJson, normal]

theorem normalItems_itemsOfJson : ∀ items : List Json,
    normalItems (itemsOfJson items) = itemsOfJson items
  | [] => by simp [itemsOfJson, normalItems]
  | item :: rest => by
    rw [itemsOfJson, normalItems, normal_ofJson item, normalItems_itemsOfJson rest]

end

end Value

namespace Json

mutual

/-- No object stands in the document, and no whole number above the signed range. -/
def Plain : Json → Prop
  | .null => True
  | .bool _ => True
  | .int n => n.val ≤ Int64.maxValue.toInt
  | .float _ => True
  | .text _ => True
  | .array items => AllPlain items
  | .object _ => False

def AllPlain : List Json → Prop
  | [] => True
  | item :: rest => Plain item ∧ AllPlain rest

end

end Json

namespace Value

theorem toJson_ofJson_int (n : WideInt) :
    (ofJson (.int n)).toJson = .int n ↔ n.val ≤ Int64.maxValue.toInt := by
  have range := n.property
  rw [ofJson, Int64.toInt_maxValue]
  split_ifs with signed
  · have same : (Int64.ofInt n.val).toInt = n.val :=
      Int64.toInt_ofInt_of_le (by omega) (by omega)
    rw [toJson, Json.ofInt64]
    simp only [same, true_iff]
    omega
  · rw [toJson, Json.ofFloat]
    refine iff_of_false ?_ (by omega)
    split_ifs <;> nofun

mutual

theorem toJson_ofJson_iff : ∀ j : Json, (ofJson j).toJson = j ↔ j.Plain
  | .null => by simp [ofJson, toJson, Json.Plain]
  | .bool b => by simp [ofJson, toJson, Json.Plain]
  | .int n => by rw [toJson_ofJson_int, Json.Plain]
  | .float x => by simp [ofJson, toJson, Json.Plain, Json.ofFloat, x.property]
  | .text s => by simp [ofJson, toJson, Json.Plain]
  | .array items => by
    rw [ofJson, toJson, Json.Plain, Json.array.injEq, itemsToJson_itemsOfJson_iff items]
  | .object fields => by simp [ofJson, toJson, Json.Plain]

theorem itemsToJson_itemsOfJson_iff : ∀ items : List Json,
    itemsToJson (itemsOfJson items) = items ↔ Json.AllPlain items
  | [] => by simp [itemsOfJson, itemsToJson, Json.AllPlain]
  | item :: rest => by
    rw [itemsOfJson, itemsToJson, Json.AllPlain, List.cons.injEq, toJson_ofJson_iff item,
      itemsToJson_itemsOfJson_iff rest]

end

/-- A value comes out of a document in its normal form. What a document gives is left as it is by a
second passage, and makes the document again exactly where that holds no object and no whole number
above the signed range. -/
theorem conversion_projects :
    (∀ v : Value, ofJson v.toJson = v.normal) ∧
      ∀ j : Json, ofJson (ofJson j).toJson = ofJson j ∧ ((ofJson j).toJson = j ↔ j.Plain) := by
  refine ⟨ofJson_toJson, fun j => ⟨?_, toJson_ofJson_iff j⟩⟩
  rw [ofJson_toJson, normal_ofJson]

/-- The integral double stays a double. -/
example : ofJson (toJson (.list [.int32 1, .float64 ⟨0x3ff0000000000000⟩, .float64 .nan])) =
    .list [.int64 1, .float64 ⟨0x3ff0000000000000⟩, .null] := by
  rfl

end Value

end EntityStore
