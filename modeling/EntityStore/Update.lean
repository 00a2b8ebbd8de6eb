import EntityStore.Value

/-!
# Updates

New values for properties, in the order in which the properties were first set. Setting a property
again changes its value where it stands.
-/

namespace EntityStore

structure Update where
  entries : List (String × Value) := []

namespace Update

def empty : Update := {}

def put (key : String) (value : Value) : List (String × Value) → List (String × Value)
  | [] => [(key, value)]
  | (k, v) :: rest => if k = key then (k, value) :: rest else (k, v) :: put key value rest

def set (u : Update) (key : String) (value : Value) : Update := ⟨put key value u.entries⟩

def get? (u : Update) (key : String) : Option Value :=
  (u.entries.find? (·.1 == key)).map (·.2)

def erase (u : Update) (key : String) : Update := ⟨u.entries.eraseP (·.1 == key)⟩

/-- What stood under the key, and the update without its entry. -/
def remove (u : Update) (key : String) : Option Value × Update :=
  match u.entries.findIdx? (·.1 == key) with
  | none => (none, u)
  | some place => (u.entries[place]?.map (·.2), ⟨u.entries.eraseIdx place⟩)

def keys (u : Update) : List String := u.entries.map (·.1)

def size (u : Update) : Nat := u.entries.length

def isEmpty (u : Update) : Bool := u.entries.isEmpty

/-- The update that sets the entries one after the other. -/
def ofList (entries : List (String × Value)) : Update :=
  entries.foldl (fun u (key, value) => u.set key value) empty

end Update

end EntityStore
