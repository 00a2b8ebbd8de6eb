import EntityStore.Criteria
import EntityStore.Error

/-!
# Values of the right shape

What a condition is compared with, once it is known that its operator takes one value or several.
-/

namespace EntityStore.Criterion

/-- The one value of a condition, which must not be a list. -/
def singleValue (node : Criterion) : Except StoreError Value :=
  if node.value.isList then .error (.typeMismatch (.listForSingle node.operator node.key))
  else .ok node.value

/-- The several values of a condition: a list, and not an empty one. -/
def listValues (node : Criterion) : Except StoreError (List Value) :=
  match node.value with
  | .list [] => .error (.invalidArgument .criteria (.noValues node.operator node.key))
  | .list items => .ok items
  | v => .error (.typeMismatch (.singleForList node.operator node.key v.kind))

end EntityStore.Criterion
