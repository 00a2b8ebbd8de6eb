import EntityStore.Criteria.Operator
import EntityStore.Value

/-!
# Criteria

A chain of conditions that must all hold, in the order in which they are compiled. A chain has at
least one condition, because it starts with one.
-/

namespace EntityStore

/-- One condition. Nothing is asked of the value until the chain is compiled. -/
structure Criterion where
  key : String
  operator : Operator
  value : Value

structure Criteria where
  first : Criterion
  rest : List Criterion := []

namespace Criteria

def nodes (c : Criteria) : List Criterion := c.first :: c.rest

def single (key : String) (operator : Operator) (value : Value) : Criteria :=
  ⟨⟨key, operator, value⟩, []⟩

def equal (key : String) (value : Value) : Criteria := single key .eq value

def ofNodes? : List Criterion → Option Criteria
  | [] => none
  | first :: rest => some ⟨first, rest⟩

def and (c : Criteria) (key : String) (operator : Operator) (value : Value) : Criteria :=
  { c with rest := c.rest ++ [⟨key, operator, value⟩] }

def size (c : Criteria) : Nat := c.nodes.length

@[simp] theorem nodes_and (c : Criteria) (key : String) (operator : Operator) (value : Value) :
    (c.and key operator value).nodes = c.nodes ++ [⟨key, operator, value⟩] := rfl

@[simp] theorem nodes_ne_nil (c : Criteria) : c.nodes ≠ [] := by simp [nodes]

end Criteria

end EntityStore
