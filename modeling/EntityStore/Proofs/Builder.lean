import EntityStore.Proofs.Relational.Rotation

/-!
# One client for each settings value

Over any run of builds, whatever is asked for and whatever the backends answer: settings are
connected once at most, those who ask for them later share what came of it, and a client that could
not be connected leaves the builder as it was.
-/

namespace EntityStore

variable {η σ : Type} {τ : EntityType}

/-! ## Registries -/

namespace Registry

variable {κ γ : Type} [DecidableEq κ] {r : Registry κ γ} {key other : κ} {client added : γ}
  {n : Nat}

theorem key_of_number? (known : r.number? key = some n) : (r.clients[n]?).map (·.1) = some key := by
  obtain ⟨inside, same, -⟩ := List.findIdx?_eq_some_iff_getElem.mp known
  rw [List.getElem?_eq_getElem inside, Option.map_some, eq_of_beq same]

theorem number?_inj (known : r.number? key = some n) (also : r.number? other = some n) :
    key = other :=
  Option.some.inj ((key_of_number? known).symm.trans (key_of_number? also))

theorem number?_add_of_some (known : r.number? other = some n) :
    (r.add key client).number? other = some n := by
  unfold number? add at *
  rw [List.findIdx?_append, known]
  rfl

theorem number?_add_self (new : r.number? key = none) :
    (r.add key client).number? key = some r.size := by
  unfold number? add size at *
  rw [List.findIdx?_append, new]
  simp

omit [DecidableEq κ] in
theorem client?_add_of_some (known : r.client? n = some client) :
    (r.add key added).client? n = some client := by
  unfold client? at *
  obtain ⟨entry, there, rfl⟩ := Option.map_eq_some_iff.mp known
  obtain ⟨inside, -⟩ := List.getElem?_eq_some_iff.mp there
  unfold add
  rw [List.getElem?_append_left inside, there]
  rfl

end Registry

/-! ## Clients of a builder -/

inductive Client where
  | router (n : Nat)
  | searchClient (n : Nat)
  | session (n : Nat)
  deriving DecidableEq, Repr

def StoreSettings.client : StoreSettings → Nat → Client
  | relational _ => .router
  | search _ => .searchClient
  | wideColumn _ => .session

def StoreSettings.create (τ : EntityType) :
    StoreSettings → Nat → Except StoreError (BuiltStore τ)
  | relational s, n => (Relational.Store.create τ s.dialect).map (.relational · n)
  | search s, n => (Search.Store.create τ s).map (.search · n)
  | wideColumn _, n => (WideColumn.Store.create τ).map (.wideColumn · n)

def BuiltStore.client : BuiltStore τ → Client
  | relational _ n => .router n
  | search _ n => .searchClient n
  | wideColumn _ n => .session n

theorem client_of_create {settings : StoreSettings} {n : Nat} {store : BuiltStore τ}
    (created : settings.create τ n = .ok store) : store.client = settings.client n := by
  cases settings <;> obtain ⟨inner, -, rfl⟩ := map_eq_ok.mp created <;> rfl

namespace Builder

def number? (b : Builder η) : StoreSettings → Option Nat
  | .relational s => b.routers.number? s
  | .search s => b.searchClients.number? s
  | .wideColumn s => b.sessions.number? s

def handles? (b : Builder η) : Client → Option (List η)
  | .router n => (b.routers.client? n).map Relational.Router.sources
  | .searchClient n => (b.searchClients.client? n).map ([·])
  | .session n => (b.sessions.client? n).map ([·])

structure Equipped (b : Builder η) : Prop where
  sql : b.sqlConnector = true
  search : b.searchConnector = true
  wideColumn : b.wideColumnConnector = true

inductive Gains (b : Builder η) : StoreSettings → List η → Builder η → Prop where
  | router {s : RelationalSettings} {router : Relational.Router η}
    (connected : Relational.Router.Connected s router) :
    Gains b (.relational s) router.sources { b with routers := b.routers.add s router }
  | searchClient {s : SearchSettings} {client : η} :
    Gains b (.search s) [client] { b with searchClients := b.searchClients.add s client }
  | session {s : WideColumnSettings} {session : η} :
    Gains b (.wideColumn s) [session] { b with sessions := b.sessions.add s session }

/-- What a build calls and comes to, and the builder after it. -/
inductive Builds (b : Builder η) (τ : EntityType) (settings : StoreSettings) :
    List (Exchange (Connection.service η)) → Except StoreError (BuiltStore τ) → Builder η →
    Prop where
  /-- The client is there: nothing is called. -/
  | shared {n : Nat} (known : b.number? settings = some n) :
    Builds b τ settings [] (settings.create τ n) b
  /-- No client comes of the attempt: nothing changes. -/
  | failed {xs : List (Exchange (Connection.service η))} {e : StoreError}
    (new : b.number? settings = none) (attempt : Attempt settings xs (.error e)) :
    Builds b τ settings xs (.error e) b
  /-- The client is added, also where the store is then refused. -/
  | connected {xs : List (Exchange (Connection.service η))} {handles : List η} {n : Nat}
    {after : Builder η} (new : b.number? settings = none)
    (attempt : Attempt settings xs (.ok handles)) (gains : b.Gains settings handles after)
    (known : after.number? settings = some n)
    (held : after.handles? (settings.client n) = some handles) :
    Builds b τ settings xs (settings.create τ n) after

/-! ## One build -/

section Client

variable {κ γ : Type} [DecidableEq κ] {b : Builder η} {name shown : String}
  {registry : Registry κ γ} {key : κ} {create : Action (Connection.service η) γ}
  {proceed : Nat → Registry κ γ → Except StoreError (BuiltStore τ) × Builder η}
  {xs : List (Exchange (Connection.service η))} {o : Except StoreError (BuiltStore τ) × Builder η}

theorem says_withClient {connector : Bool} (there : connector = true)
    (said : (b.withClient connector name (Connection.getOrCreate registry key shown create)
      proceed).Says xs o) :
    (∃ n, registry.number? key = some n ∧ xs = [] ∧ o = proceed n registry) ∨
    registry.number? key = none ∧
      ((∃ e, create.Says xs (.error e) ∧ o = (.error e, b)) ∨
        ∃ client, create.Says xs (.ok client) ∧
          o = proceed registry.size (registry.add key client)) := by
  subst there
  obtain ⟨r, first, later, obtained, rest, rfl⟩ := Program.says_bind.mp said
  unfold Connection.getOrCreate at obtained
  cases known : registry.number? key with
  | some n =>
    rw [known] at obtained
    obtain ⟨rfl, rfl⟩ := Action.says_pure.mp obtained
    obtain ⟨rfl, rfl⟩ := Program.says_done.mp rest
    exact .inl ⟨n, rfl, rfl, rfl⟩
  | none =>
    rw [known] at obtained
    refine .inr ⟨rfl, ?_⟩
    rcases Action.says_bind.mp obtained with
      ⟨e, failed, rfl⟩ | ⟨client, most, last, made, noted, rfl⟩
    · obtain ⟨rfl, rfl⟩ := Program.says_done.mp rest
      rw [List.append_nil]
      exact .inl ⟨e, failed, rfl⟩
    · have added := Action.says_log_bind.mp noted
      obtain ⟨rfl, rfl⟩ := Action.says_pure.mp added
      obtain ⟨rfl, rfl⟩ := Program.says_done.mp rest
      rw [List.append_nil, List.append_nil]
      exact .inr ⟨client, made, rfl⟩

end Client

variable {b after : Builder η} {settings : StoreSettings}
  {xs : List (Exchange (Connection.service η))} {o : Except StoreError (BuiltStore τ) × Builder η}
  {result : Except StoreError (BuiltStore τ)}

theorem builds_relational (equipped : b.Equipped) {s : RelationalSettings}
    (said : (b.relational τ s).Says xs o) : b.Builds τ (.relational s) xs o.1 o.2 := by
  rcases says_withClient equipped.sql said with
    ⟨n, known, rfl, rfl⟩ | ⟨new, ⟨e, failed, rfl⟩ | ⟨router, made, rfl⟩⟩
  · exact .shared known
  · exact .failed new (Relational.Router.attempt_connect failed).1
  · obtain ⟨attempt, connected⟩ := Relational.Router.attempt_connect made
    refine .connected new attempt (.router (connected router rfl))
      (Registry.number?_add_self new) ?_
    simp [handles?, StoreSettings.client, Registry.client?, Registry.add, Registry.size]

theorem builds_search (equipped : b.Equipped) {s : SearchSettings}
    (said : (b.search τ s).Says xs o) : b.Builds τ (.search s) xs o.1 o.2 := by
  rcases says_withClient equipped.search said with
    ⟨n, known, rfl, rfl⟩ | ⟨new, ⟨e, failed, rfl⟩ | ⟨client, made, rfl⟩⟩
  · exact .shared known
  · exact .failed new (attempt_connectSearch failed)
  · refine .connected new (attempt_connectSearch made) .searchClient
      (Registry.number?_add_self new) ?_
    simp [handles?, StoreSettings.client, Registry.client?, Registry.add, Registry.size]

theorem builds_wideColumn (equipped : b.Equipped) {s : WideColumnSettings}
    (said : (b.wideColumn τ s).Says xs o) : b.Builds τ (.wideColumn s) xs o.1 o.2 := by
  rcases says_withClient equipped.wideColumn said with
    ⟨n, known, rfl, rfl⟩ | ⟨new, ⟨e, failed, rfl⟩ | ⟨client, made, rfl⟩⟩
  · exact .shared known
  · exact .failed new (attempt_connectWideColumn failed)
  · refine .connected new (attempt_connectWideColumn made) .session
      (Registry.number?_add_self new) ?_
    simp [handles?, StoreSettings.client, Registry.client?, Registry.add, Registry.size]

theorem builds_build (equipped : b.Equipped) (said : (b.build τ settings).Says xs o) :
    b.Builds τ settings xs o.1 o.2 := by
  cases settings with
  | relational s => exact builds_relational equipped said
  | search s => exact builds_search equipped said
  | wideColumn s => exact builds_wideColumn equipped said

/-! ## What builds keep -/

structure Extends (b after : Builder η) : Prop where
  number : ∀ settings n, b.number? settings = some n → after.number? settings = some n
  handles : ∀ client handles, b.handles? client = some handles →
    after.handles? client = some handles

theorem Extends.refl (b : Builder η) : b.Extends b := ⟨fun _ _ h => h, fun _ _ h => h⟩

theorem Extends.trans {c : Builder η} (first : b.Extends after) (then_ : after.Extends c) :
    b.Extends c where
  number settings n known := then_.number settings n (first.number settings n known)
  handles client handles held := then_.handles client handles (first.handles client handles held)

theorem Gains.extends {handles : List η} (gains : b.Gains settings handles after) :
    b.Extends after := by
  cases gains with
  | router connected =>
    constructor
    case number =>
      rintro (s | s | s) n known
      · exact Registry.number?_add_of_some known
      · exact known
      · exact known
    case handles =>
      rintro (n | n | n) handles held
      · obtain ⟨router, there, rfl⟩ := Option.map_eq_some_iff.mp held
        exact congrArg (Option.map _) (Registry.client?_add_of_some there)
      · exact held
      · exact held
  | searchClient =>
    constructor
    case number =>
      rintro (s | s | s) n known
      · exact known
      · exact Registry.number?_add_of_some known
      · exact known
    case handles =>
      rintro (n | n | n) handles held
      · exact held
      · obtain ⟨client, there, rfl⟩ := Option.map_eq_some_iff.mp held
        exact congrArg (Option.map _) (Registry.client?_add_of_some there)
      · exact held
  | session =>
    constructor
    case number =>
      rintro (s | s | s) n known
      · exact known
      · exact known
      · exact Registry.number?_add_of_some known
    case handles =>
      rintro (n | n | n) handles held
      · exact held
      · exact held
      · obtain ⟨session, there, rfl⟩ := Option.map_eq_some_iff.mp held
        exact congrArg (Option.map _) (Registry.client?_add_of_some there)

theorem Gains.equipped {handles : List η} (gains : b.Gains settings handles after)
    (equipped : b.Equipped) : after.Equipped := by
  cases gains <;> exact ⟨equipped.sql, equipped.search, equipped.wideColumn⟩

theorem Builds.extends (builds : b.Builds τ settings xs result after) : b.Extends after := by
  cases builds with
  | shared => exact .refl b
  | failed => exact .refl b
  | connected _ _ gains => exact gains.extends

theorem Builds.equipped (builds : b.Builds τ settings xs result after) (equipped : b.Equipped) :
    after.Equipped := by
  cases builds with
  | shared => exact equipped
  | failed => exact equipped
  | connected _ _ gains => exact gains.equipped equipped

theorem Builds.of_known {n : Nat} (builds : b.Builds τ settings xs result after)
    (known : b.number? settings = some n) :
    xs = [] ∧ result = settings.create τ n ∧ after = b := by
  cases builds with
  | shared also =>
    rw [known] at also
    cases also
    exact ⟨rfl, rfl, rfl⟩
  | failed new => exact absurd (known.symm.trans new) nofun
  | connected new => exact absurd (known.symm.trans new) nofun

theorem Builds.client_eq {store : BuiltStore τ}
    (builds : b.Builds τ settings xs (.ok store) after) :
    ∃ n, after.number? settings = some n ∧ store.client = settings.client n := by
  generalize same : Except.ok store = result at builds
  cases builds with
  | shared known => exact ⟨_, known, client_of_create same.symm⟩
  | failed => cases same
  | connected _ _ _ known => exact ⟨_, known, client_of_create same.symm⟩

theorem settings_of_client {other : StoreSettings} {n k : Nat} (known : b.number? settings = some n)
    (also : b.number? other = some k) (same : settings.client n = other.client k) :
    settings = other := by
  cases settings <;> cases other <;> cases same
  case relational => exact congrArg _ (Registry.number?_inj known also)
  case search => exact congrArg _ (Registry.number?_inj known also)
  case wideColumn => exact congrArg _ (Registry.number?_inj known also)

end Builder

/-! ## Runs of builds -/

/-- How a builder is asked for a store: with settings of any kind, or with those of one kind. -/
inductive BuildCall where
  | build (s : StoreSettings)
  | relational (s : RelationalSettings)
  | search (s : SearchSettings)
  | wideColumn (s : WideColumnSettings)

namespace BuildCall

def settings : BuildCall → StoreSettings
  | build s => s
  | relational s => .relational s
  | search s => .search s
  | wideColumn s => .wideColumn s

def perform (b : Builder η) (τ : EntityType) : BuildCall → Builder.Build η τ
  | build s => b.build τ s
  | relational s => b.relational τ s
  | search s => b.search τ s
  | wideColumn s => b.wideColumn τ s

theorem builds_perform {b : Builder η} (equipped : b.Equipped) (call : BuildCall)
    {xs : List (Exchange (Connection.service η))}
    {o : Except StoreError (BuiltStore τ) × Builder η} (said : (call.perform b τ).Says xs o) :
    b.Builds τ call.settings xs o.1 o.2 := by
  cases call with
  | build s => exact Builder.builds_build equipped said
  | relational s => exact Builder.builds_relational equipped said
  | search s => exact Builder.builds_search equipped said
  | wideColumn s => exact Builder.builds_wideColumn equipped said

end BuildCall

/-- One build of a run: what was asked, what was called and answered, what it came to, and the
builder before it and after it. -/
structure Visit (η : Type) where
  τ : EntityType
  call : BuildCall
  before : Builder η
  exchanges : List (Exchange (Connection.service η))
  result : Except StoreError (BuiltStore τ)
  after : Builder η

namespace Visit

def settings (v : Visit η) : StoreSettings := v.call.settings

def Connects (v : Visit η) : Prop :=
  v.before.number? v.settings = none ∧ ∃ n, v.after.number? v.settings = some n

end Visit

namespace Builder

def visits (answer : (c : Connection.Call) → σ → (Connection.service η).Answer c × σ)
    (b : Builder η) (s : σ) : List (EntityType × BuildCall) → List (Visit η)
  | [] => []
  | (τ, call) :: rest =>
    let build := call.perform b τ
    let run := build.run answer s
    ⟨τ, call, b, build.exchanges answer s, run.result.1, run.result.2⟩ ::
      visits answer run.result.2 run.state rest

variable (answer : (c : Connection.Call) → σ → (Connection.service η).Answer c × σ)
  {b : Builder η} {s : σ}

theorem builds_visits (equipped : b.Equipped) (requests : List (EntityType × BuildCall)) :
    (∀ v ∈ b.visits answer s requests,
      b.Extends v.before ∧ v.before.Builds v.τ v.settings v.exchanges v.result v.after) ∧
    (b.visits answer s requests).Pairwise fun v w => v.after.Extends w.before := by
  induction requests generalizing b s with
  | nil =>
    unfold visits
    exact ⟨fun v mem => absurd mem List.not_mem_nil, .nil⟩
  | cons request rest ih =>
    obtain ⟨τ, call⟩ := request
    have here : b.Builds τ call.settings _ _ _ := BuildCall.builds_perform equipped call
      (Program.says_exchanges answer (call.perform b τ) s)
    obtain ⟨each, pairwise⟩ := ih (s := ((call.perform b τ).run answer s).state)
      (here.equipped equipped)
    constructor
    · intro v mem
      rcases List.mem_cons.mp mem with rfl | mem
      · exact ⟨.refl b, here⟩
      · obtain ⟨later, builds⟩ := each v mem
        exact ⟨here.extends.trans later, builds⟩
    · exact List.pairwise_cons.mpr ⟨fun w mem => (each w mem).1, pairwise⟩

structure OneClientEach (visits : List (Visit η)) : Prop where
  /-- Each attempt stands for itself: a client is added by one that succeeds, and nothing changes by
  one that fails. -/
  builds : ∀ v ∈ visits, v.before.Builds v.τ v.settings v.exchanges v.result v.after
  /-- Settings that have a client make no call any more. -/
  reused : visits.Pairwise fun v w => ∀ n, v.after.number? v.settings = some n →
    w.settings = v.settings →
      w.exchanges = [] ∧ w.result = w.settings.create w.τ n ∧ w.after = w.before
  /-- A client is never replaced. -/
  kept : visits.Pairwise fun v w => ∀ client handles,
    v.after.handles? client = some handles → w.after.handles? client = some handles
  /-- Settings are connected once at most. -/
  once : visits.Pairwise fun v w => v.Connects → w.Connects → v.settings ≠ w.settings
  /-- Stores that share a client have equal settings. -/
  apart : visits.Pairwise fun v w => ∀ store other, v.result = .ok store → w.result = .ok other →
    store.client = other.client → v.settings = w.settings

/-- Whatever is asked for and whatever is answered, there is one client for each settings value. -/
theorem oneClientEach (equipped : b.Equipped) (s : σ) (requests : List (EntityType × BuildCall)) :
    OneClientEach (b.visits answer s requests) := by
  obtain ⟨each, pairwise⟩ := builds_visits answer (s := s) equipped requests
  have builds : ∀ v ∈ b.visits answer s requests,
      v.before.Builds v.τ v.settings v.exchanges v.result v.after := fun v mem => (each v mem).2
  constructor
  case builds => exact builds
  case reused =>
    refine pairwise.imp_of_mem fun {v w} _ mem later n known same => ?_
    apply (builds w mem).of_known
    rw [same]
    exact later.number _ _ known
  case kept =>
    refine pairwise.imp_of_mem fun {v w} _ mem later client handles held => ?_
    exact (later.trans (builds w mem).extends).handles _ _ held
  case once =>
    refine pairwise.imp fun {v w} later first second same => ?_
    obtain ⟨-, n, known⟩ := first
    obtain ⟨new, -⟩ := second
    have still := later.number _ _ known
    rw [same, new] at still
    cases still
  case apart =>
    refine pairwise.imp_of_mem fun {v w} memV memW later store other first second same => ?_
    have buildsV := builds v memV
    have buildsW := builds w memW
    rw [first] at buildsV
    rw [second] at buildsW
    obtain ⟨n, known, clientV⟩ := buildsV.client_eq
    obtain ⟨k, also, clientW⟩ := buildsW.client_eq
    have still := (later.trans buildsW.extends).number _ _ known
    exact settings_of_client still also (clientV.symm.trans (same.trans clientW))

def fresh : Builder Nat where
  sqlConnector := true
  searchConnector := true
  wideColumnConnector := true

def refusesSecond (_ : Connection.Call) (asked : Nat) : Except BackendError Nat × Nat :=
  (if asked = 1 then .error ⟨.connection, "refused", none⟩ else .ok asked, asked + 1)

def unplaced : EntityType := { accounts with names := {} }

def requests : List (EntityType × BuildCall) := [
  (accounts, .relational Relational.pooled),
  (unplaced, .build (.relational Relational.pooled)),
  (accounts, .build (.relational Relational.pooled)),
  (accounts, .search ⟨"", none, none, none, .required, 1000, 1000⟩),
  (accounts, .relational { Relational.pooled with readUrls := [] })]

/-- The first attempt stops at the second address. The next one makes the client, although its store
is refused, and the third build shares it. Settings that are not valid call nothing, and other
settings get a client of their own. -/
theorem pooled_oneClientEach :
    fresh.Equipped ∧
    let visits := fresh.visits refusesSecond 0 requests
    OneClientEach visits ∧
      visits.map (fun v => (v.exchanges.length, refusal? v.result, v.after.routers.size)) = [
        (2, some (.configuration (.cannotOpen "mysql://second" "refused")), 0),
        (3, some (.configuration (.entity "Account" .noTable)), 1),
        (0, none, 1),
        (0, some (.configuration .noAddress), 1),
        (2, none, 2)] := by
  have equipped : fresh.Equipped := ⟨rfl, rfl, rfl⟩
  exact ⟨equipped, oneClientEach refusesSecond equipped 0 requests, by decide +kernel⟩

end Builder

end EntityStore
