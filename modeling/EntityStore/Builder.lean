import EntityStore.Relational.Router
import EntityStore.Relational.Store
import EntityStore.Search.Store
import EntityStore.WideColumn.Store

/-!
# Building stores

A builder makes the store of an entity type from settings. It connects through the connectors that
are registered with it and keeps every client it has made, so that stores with equal settings share
one. A client stays even where the store that it was made for is then refused.
-/

namespace EntityStore

/-- A store with the number of the client that its calls go to. -/
inductive BuiltStore (τ : EntityType) where
  | relational (store : Relational.Store τ) (router : Nat)
  | search (store : Search.Store τ) (client : Nat)
  | wideColumn (store : WideColumn.Store τ) (session : Nat)

/-- What is registered to connect with, and the clients made so far, over handles of type `η`. -/
structure Builder (η : Type) where
  sqlConnector : Bool
  searchConnector : Bool
  wideColumnConnector : Bool
  routers : Registry RelationalSettings (Relational.Router η) := {}
  searchClients : Registry SearchSettings η := {}
  sessions : Registry WideColumnSettings η := {}

namespace Builder

variable {η : Type}

abbrev Build (η : Type) (τ : EntityType) :=
  Program (Connection.service η) (Except StoreError (BuiltStore τ) × Builder η)

/-- Goes on with a client. Where there is none, the builder stays as it is. -/
def withClient {τ : EntityType} {κ γ : Type} (b : Builder η) (connector : Bool) (name : String)
    (client : Action (Connection.service η) (Nat × Registry κ γ))
    (proceed : Nat → Registry κ γ → Except StoreError (BuiltStore τ) × Builder η) : Build η τ :=
  if connector then do
    match ← client.run with
    | .error failure => return (.error failure, b)
    | .ok (n, registry) => return proceed n registry
  else return (.error (.configuration (.noConnector name)), b)

/-! ## Clients -/

def connectSearch (s : SearchSettings) : Action (Connection.service η) η := do
  s.validate
  Action.call (S := Connection.service η)
    (fun failure => .configuration (.cannotCreate "search client" failure.message))
    (.searchClient s)

def connectWideColumn (s : WideColumnSettings) : Action (Connection.service η) η := do
  s.validate
  Action.call (S := Connection.service η)
    (fun failure => .configuration (.cannotCreate "wide-column session" failure.message))
    (.wideColumnSession s)

/-! ## Stores -/

variable (b : Builder η) (τ : EntityType)

def relational (s : RelationalSettings) : Build η τ :=
  b.withClient b.sqlConnector "sql"
    (Connection.getOrCreate b.routers s s.shown (Relational.Router.connect s))
    fun n routers =>
      ((Relational.Store.create τ s.dialect).map (.relational · n), { b with routers := routers })

def search (s : SearchSettings) : Build η τ :=
  b.withClient b.searchConnector "search"
    (Connection.getOrCreate b.searchClients s s.shown (connectSearch s))
    fun n clients =>
      ((Search.Store.create τ s).map (.search · n), { b with searchClients := clients })

def wideColumn (s : WideColumnSettings) : Build η τ :=
  b.withClient b.wideColumnConnector "wide-column"
    (Connection.getOrCreate b.sessions s s.shown (connectWideColumn s))
    fun n sessions =>
      ((WideColumn.Store.create τ).map (.wideColumn · n), { b with sessions := sessions })

def build : StoreSettings → Build η τ
  | .relational s => b.relational τ s
  | .search s => b.search τ s
  | .wideColumn s => b.wideColumn τ s

end Builder

end EntityStore
