import EntityStore.Program
import EntityStore.Registry
import EntityStore.Settings.Shown

/-!
# Connections

Connecting to a backend is a call whose reply is a handle of some type `η`. Nothing is known of a
handle but that calls can be sent to it.
-/

namespace EntityStore.Connection

inductive Call where
  | dataSource (dialect : Dialect) (url : String)
  | searchClient (s : SearchSettings)
  | wideColumnSession (s : WideColumnSettings)

abbrev service (η : Type) : Service := ⟨Call, fun _ => η⟩

variable {η κ γ : Type} [DecidableEq κ]

/-- The number of the client of a key: the one in the registry, or else a new one, which the log is
told of. -/
def getOrCreate (registry : Registry κ γ) (key : κ) (shown : String)
    (create : Action (service η) γ) : Action (service η) (Nat × Registry κ γ) :=
  match registry.number? key with
  | some n => return (n, registry)
  | none => do
    let client ← create
    Action.log (Registry.createdEvent shown)
    return (registry.size, registry.add key client)

end EntityStore.Connection
