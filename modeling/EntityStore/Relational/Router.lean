import EntityStore.Connection
import EntityStore.Relational.Service

/-!
# Routers

A router spreads calls over data sources: those on the write route over the writers in turn, those on
the read route over the readers in turn, or over the writers where there are no readers. A call takes
its turn whether or not it succeeds.
-/

namespace EntityStore.Relational

/-- Data sources of type `η`, and how many calls each route has taken. -/
structure Router (η : Type) where
  writers : List η
  readers : List η
  writes : UInt64 := 0
  reads : UInt64 := 0
  hasWriter : writers ≠ []

namespace Router

variable {η : Type}

/-- A router over the given sources, at least one of them for writing. -/
def create (writers readers : List η) : Except StoreError (Router η) :=
  if h : writers = [] then .error (.configuration .noWriter)
  else .ok { writers := writers, readers := readers, hasWriter := h }

/-- The source whose turn it is, out of a list that is not empty. -/
def turn (sources : List η) (h : sources ≠ []) (taken : UInt64) : η :=
  sources.get ⟨taken.toNat % sources.length, Nat.mod_lt _ (List.length_pos_iff.mpr h)⟩

def nextWriter (r : Router η) : η × Router η :=
  (turn r.writers r.hasWriter r.writes, { r with writes := r.writes + 1 })

def next (r : Router η) : Route → η × Router η
  | .write => r.nextWriter
  | .read =>
    if h : r.readers = [] then r.nextWriter
    else (turn r.readers h r.reads, { r with reads := r.reads + 1 })

/-- The sources of a run of calls, and the router after them. -/
def assign (r : Router η) : List Route → List η × Router η
  | [] => ([], r)
  | route :: rest =>
    let (source, r) := r.next route
    let (sources, r) := r.assign rest
    (source :: sources, r)

/-! ## Connecting -/

/-- Opens the sources of the addresses that are not blank, up to the first that fails. -/
def openSources (dialect : Dialect) (urls : List String) :
    Action (Connection.service η) (List η) :=
  (urls.filter (!Text.isBlank ·)).mapM fun url =>
    Action.call (S := Connection.service η)
      (fun failure => .configuration (.cannotOpen (redactUrl url) failure.message))
      (.dataSource dialect url)

/-- A router over newly opened sources, those for writing opened first. -/
def connect (s : RelationalSettings) : Action (Connection.service η) (Router η) := do
  s.validate
  let writers ← openSources s.dialect s.writeUrls
  let readers ← openSources s.dialect s.readUrls
  create writers readers

end Router

end EntityStore.Relational
