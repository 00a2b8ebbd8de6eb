import EntityStore.Log

/-!
# Registries

A registry keeps one client for each settings value, made when the value is first asked for. A
client that could not be made leaves no trace, and one that was made is never made again. Clients are
numbered in the order in which they were made, so that those who share one can name it.
-/

namespace EntityStore

structure Registry (κ γ : Type) where
  clients : List (κ × γ) := []
  deriving Repr

namespace Registry

variable {κ γ : Type} [DecidableEq κ]

def number? (r : Registry κ γ) (key : κ) : Option Nat := r.clients.findIdx? (·.1 == key)

def client? (r : Registry κ γ) (n : Nat) : Option γ := r.clients[n]?.map (·.2)

def get? (r : Registry κ γ) (key : κ) : Option γ := (r.number? key).bind r.client?

def add (r : Registry κ γ) (key : κ) (client : γ) : Registry κ γ := ⟨r.clients ++ [(key, client)]⟩

/-- The registry after the client of a number has changed its state. -/
def modify (r : Registry κ γ) (n : Nat) (change : γ → γ) : Registry κ γ :=
  ⟨r.clients.modify n fun (key, client) => (key, change client)⟩

def size (r : Registry κ γ) : Nat := r.clients.length

/-- What the log is told of a new client: the settings it was made for, as they are shown. -/
def createdEvent (shown : String) : LogEvent where
  level := .info
  target := "zdao_core::registry"
  message := "client created"
  details := [("settings", shown)]

end Registry

end EntityStore
