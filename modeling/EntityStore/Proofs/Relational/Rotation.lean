import EntityStore.Proofs.Connection
import EntityStore.Proofs.Relational.Routes
import EntityStore.Proofs.Untried
import Mathlib.Data.List.Rotate

/-!
# Whose turn it is

A router has a source for every address that is not blank. Whatever operations are performed and
whatever they come to, the calls that go to the writers are taken by them in turn, and so are those
that go to the readers.
-/

namespace EntityStore.Relational

variable {η σ : Type}

/-! ## Turns -/

/-- The sources are asked in turn: the `k`-th time it is the source `k` places after the start,
counted round the list. -/
def Rotates (sources : List η) (start : Nat) (asked : List η) : Prop :=
  ∀ k source, asked[k]? = some source → sources[(start + k) % sources.length]? = some source

namespace Rotates

variable {sources asked : List η} {start : Nat} {source : η}

theorem nil : Rotates sources start [] := nofun

theorem cons (first : sources[start % sources.length]? = some source)
    (later : Rotates sources (start + 1) asked) : Rotates sources start (source :: asked) := by
  intro k given same
  cases k with
  | zero =>
    rw [List.getElem?_cons_zero] at same
    cases same
    exact first
  | succ k =>
    rw [List.getElem?_cons_succ] at same
    have next := later k given same
    rw [show start + 1 + k = start + (k + 1) by omega] at next
    exact next

/-- Any turns in a row, as many as there are sources, are one of each. -/
theorem perm_window (rotates : Rotates sources start asked) {i : Nat}
    (whole : i + sources.length ≤ asked.length) :
    ((asked.drop i).take sources.length).Perm sources := by
  have same : (asked.drop i).take sources.length = sources.rotate (start + i) := by
    apply List.ext_getElem?
    intro k
    by_cases inside : k < sources.length
    · have there : i + k < asked.length := by omega
      have turn := rotates (i + k) asked[i + k] (List.getElem?_eq_getElem there)
      rw [List.getElem?_take_of_lt inside, List.getElem?_drop, List.getElem?_rotate inside,
        List.getElem?_eq_getElem there, ← turn]
      congr 2
      omega
    · have width : ((asked.drop i).take sources.length).length ≤ k := by
        rw [List.length_take]
        omega
      have round : (sources.rotate (start + i)).length ≤ k := by
        rw [List.length_rotate]
        omega
      rw [List.getElem?_eq_none width, List.getElem?_eq_none round]
  rw [same]
  exact List.rotate_perm sources (start + i)

end Rotates

namespace Router

variable {r : Router η} {route : Route}

/-! ## Assigning calls -/

/-- A call goes to the writers if it writes, or if there are no readers. -/
def toWriters (r : Router η) (route : Route) : Bool := route == .write || r.readers.isEmpty

def along (chosen : Route → Bool) (routes : List Route) (asked : List η) : List η :=
  ((routes.zip asked).filter fun x => chosen x.1).map (·.2)

def onWriters (r : Router η) (routes : List Route) (asked : List η) : List η :=
  along r.toWriters routes asked

def onReaders (r : Router η) (routes : List Route) (asked : List η) : List η :=
  along (fun route => !r.toWriters route) routes asked

section Along

variable {chosen : Route → Bool} {routes : List Route} {asked : List η} {source : η}

theorem along_cons_of_pos (here : chosen route = true) :
    along chosen (route :: routes) (source :: asked) = source :: along chosen routes asked := by
  unfold along
  simp [here]

theorem along_cons_of_neg (elsewhere : chosen route = false) :
    along chosen (route :: routes) (source :: asked) = along chosen routes asked := by
  unfold along
  simp [elsewhere]

end Along

theorem getElem?_turn (sources : List η) (some : sources ≠ []) (taken : UInt64) :
    sources[taken.toNat % sources.length]? = .some (turn sources some taken) := by
  have inside : taken.toNat % sources.length < sources.length :=
    Nat.mod_lt _ (List.length_pos_iff.mpr some)
  rw [List.getElem?_eq_getElem inside]
  rfl

theorem next_of_toWriters (writes : r.toWriters route = true) : r.next route = r.nextWriter := by
  unfold toWriters at writes
  cases route with
  | write => rfl
  | read =>
    have none : r.readers = [] := by simpa using writes
    unfold next
    exact dif_pos none

theorem next_of_not_toWriters (reads : r.toWriters route = false) :
    ∃ some : r.readers ≠ [], r.next route =
      (turn r.readers some r.reads, { r with reads := r.reads + 1 }) := by
  unfold toWriters at reads
  cases route with
  | write => cases reads
  | read =>
    have some : r.readers ≠ [] := by simpa using reads
    refine ⟨some, ?_⟩
    unfold next
    exact dif_neg some

theorem toNat_succ {taken : UInt64} (room : taken.toNat + 1 < UInt64.size) :
    (taken + 1).toNat = taken.toNat + 1 := by
  rw [UInt64.toNat_add]
  exact Nat.mod_eq_of_lt room

theorem length_assign (routes : List Route) (r : Router η) :
    (r.assign routes).1.length = routes.length := by
  induction routes generalizing r with
  | nil => rfl
  | cons route rest ih => exact congrArg (· + 1) (ih _)

theorem rotates_assign (routes : List Route) (r : Router η)
    (writes : r.writes.toNat + routes.length < UInt64.size)
    (reads : r.reads.toNat + routes.length < UInt64.size) :
    Rotates r.writers r.writes.toNat (r.onWriters routes (r.assign routes).1) ∧
      Rotates r.readers r.reads.toNat (r.onReaders routes (r.assign routes).1) := by
  induction routes generalizing r with
  | nil => exact ⟨.nil, .nil⟩
  | cons route rest ih =>
    -- A call moves one of the two counters by one, and the other sources wait where they are.
    rw [List.length_cons] at writes reads
    cases side : r.toWriters route with
    | true =>
      let moved : Router η := { r with writes := r.writes + 1 }
      have assigned : (r.assign (route :: rest)).1 =
          turn r.writers r.hasWriter r.writes :: (moved.assign rest).1 := by
        simp only [assign, next_of_toWriters side, nextWriter, moved]
      have stands : moved.writes.toNat = r.writes.toNat + 1 := toNat_succ (by omega)
      have stays : moved.reads = r.reads := rfl
      obtain ⟨onWriters, onReaders⟩ := ih moved (by omega) (by rw [stays]; omega)
      rw [stands] at onWriters
      unfold Router.onWriters Router.onReaders
      rw [assigned, along_cons_of_pos side, along_cons_of_neg (by simp [side])]
      exact ⟨.cons (getElem?_turn _ _ _) onWriters, onReaders⟩
    | false =>
      obtain ⟨some, next⟩ := next_of_not_toWriters side
      let moved : Router η := { r with reads := r.reads + 1 }
      have assigned : (r.assign (route :: rest)).1 =
          turn r.readers some r.reads :: (moved.assign rest).1 := by
        simp only [assign, next, moved]
      have stands : moved.reads.toNat = r.reads.toNat + 1 := toNat_succ (by omega)
      have stays : moved.writes = r.writes := rfl
      obtain ⟨onWriters, onReaders⟩ := ih moved (by rw [stays]; omega) (by omega)
      rw [stands] at onReaders
      unfold Router.onWriters Router.onReaders
      rw [assigned, along_cons_of_neg side, along_cons_of_pos (by simp [side])]
      exact ⟨onWriters, .cons (getElem?_turn _ _ _) onReaders⟩

/-! ## Runs -/

def noting (execute : η → (command : Command) → σ → Except BackendError command.Reply × σ)
    (source : η) (command : Command) : σ × List η → Except BackendError command.Reply × (σ × List η)
  | (s, asked) =>
    let (answer, s) := execute source command s
    (answer, (s, asked ++ [source]))

theorem noted_routed {α : Type}
    (execute : η → (command : Command) → σ → Except BackendError command.Reply × σ)
    (p : Program service α) (r : Router η) (s : σ) (asked : List η) :
    let run := p.run (routed (noting execute)) (r, (s, asked))
    run.state.2.2 = asked ++ (r.assign (run.calls.map (·.route))).1 := by
  induction p generalizing r s asked with
  | done a => exact (List.append_nil asked).symm
  | log event rest ih => exact ih r s asked
  | call c k ih =>
    refine (ih _ _ _ _).trans ?_
    rw [List.append_assoc]
    rfl

/-! ## Connecting -/

open Connection

def Opens (answer : (c : Connection.Call) → σ → (Connection.service η).Answer c × σ) : Prop :=
  ∀ dialect url s, ∃ source : η, (answer (.dataSource dialect url) s).1 = .ok source

/-- The calls that open the sources of addresses. -/
def openings (dialect : Dialect) (urls : List String) : List Connection.Call :=
  (sourceUrls urls).map (.dataSource dialect)

theorem length_openings (dialect : Dialect) (urls : List String) :
    (openings dialect urls).length = (sourceUrls urls).length :=
  List.length_map _

variable {answer : (c : Connection.Call) → σ → (Connection.service η).Answer c × σ} {s : σ}
  {xs : List (Exchange (Connection.service η))} {settings : RelationalSettings}

theorem opened_of_attempt (opens : Opens answer) (valid : settings.validate = .ok ())
    {r : Except StoreError (List η)} (answered : Program.Answered answer s xs)
    (attempt : Attempt (.relational settings) xs r) :
    ∃ sources, r = .ok sources ∧
      xs = handed (openings settings.dialect settings.writeUrls ++
        openings settings.dialect settings.readUrls) sources := by
  unfold openings
  rw [← List.map_append]
  cases attempt with
  | invalid refused => cases refused.symm.trans valid
  | tried _ opening =>
    cases opening with
    | opened => exact ⟨_, rfl, rfl⟩
    | @refused front later c _ failure split =>
      obtain ⟨-, between, failed, -⟩ := answered.split
      have mem : c ∈ front ++ c :: later := List.mem_append_right _ List.mem_cons_self
      obtain ⟨url, -, rfl⟩ := List.mem_map.mp (split ▸ mem)
      obtain ⟨source, opened⟩ := opens settings.dialect url between
      cases failed.trans opened

theorem connected_connect (opens : Opens answer) (valid : settings.validate = .ok ())
    {r : Except StoreError (Router η)} (answered : Program.Answered answer s xs)
    (whole : (connect settings).Says xs r) :
    ∃ router, r = .ok router ∧ Connected settings router ∧
      xs = handed (openings settings.dialect settings.writeUrls) router.writers ++
        handed (openings settings.dialect settings.readUrls) router.readers := by
  obtain ⟨attempt, connected⟩ := attempt_connect whole
  obtain ⟨all, result, rfl⟩ := opened_of_attempt opens valid answered attempt
  obtain ⟨router, rfl, rfl⟩ := map_eq_ok.mp result
  refine ⟨router, rfl, connected router rfl, handed_append ?_⟩
  exact (connected router rfl).writers.trans (length_openings _ _).symm

theorem rotates_of_fresh (r : Router η) (fresh : r.writes = 0 ∧ r.reads = 0)
    (routes : List Route) (few : routes.length < UInt64.size) :
    Rotates r.writers 0 (r.onWriters routes (r.assign routes).1) ∧
      Rotates r.readers 0 (r.onReaders routes (r.assign routes).1) := by
  have writes : r.writes.toNat = 0 := by rw [fresh.1]; rfl
  have reads : r.reads.toNat = 0 := by rw [fresh.2]; rfl
  have rotates := rotates_assign routes r (by omega) (by omega)
  rw [writes, reads] at rotates
  exact rotates

end Router

/-! ## Operations -/

structure Task where
  τ : EntityType
  store : Store τ
  operation : Operation τ

def performEach : List Task → Program service Unit
  | [] => .done ()
  | t :: rest => (t.store.repository.perform t.operation).bind fun _ => performEach rest

theorem serves_of_performEach {tasks : List Task} {xs : List (Exchange service)}
    (whole : (performEach tasks).Says xs ()) :
    ∃ parts : List (List (Exchange service)), xs = parts.flatten ∧
      List.Forall₂ (fun (t : Task) part => t.store.Serves t.operation part) tasks parts := by
  induction tasks generalizing xs with
  | nil =>
    obtain ⟨rfl, -⟩ := Program.says_done.mp whole
    exact ⟨[], rfl, .nil⟩
  | cons t rest ih =>
    obtain ⟨o, first, later, performed, others, rfl⟩ := Program.says_bind.mp whole
    obtain ⟨parts, rfl, serves⟩ := ih others
    exact ⟨first :: parts, rfl, .cons (Store.serves_of_perform performed) serves⟩

open Router Connection

structure Spread (router : Router η) (tasks : List Task) (xs : List (Exchange service))
    (asked : List η) : Prop where
  /-- Each operation has its part in what is said. -/
  serves : ∃ parts : List (List (Exchange service)), xs = parts.flatten ∧
    List.Forall₂ (fun (t : Task) part => t.store.Serves t.operation part) tasks parts
  /-- Each call asks one source. -/
  length : asked.length = xs.length
  writers : xs.length < UInt64.size →
    Rotates router.writers 0 (router.onWriters (xs.map (·.call.route)) asked)
  readers : xs.length < UInt64.size →
    Rotates router.readers 0 (router.onReaders (xs.map (·.call.route)) asked)
  /-- Any calls in a row that go to the writers, as many as there are writers, ask each of them
  once. -/
  window : xs.length < UInt64.size → ∀ i,
    let onWriters := router.onWriters (xs.map (·.call.route)) asked
    i + router.writers.length ≤ onWriters.length →
      ((onWriters.drop i).take router.writers.length).Perm router.writers

theorem spread_performEach {router : Router η} (fresh : router.writes = 0 ∧ router.reads = 0)
    (execute : η → (command : Command) → σ → Except BackendError command.Reply × σ) (s : σ)
    (tasks : List Task) :
    Spread router tasks ((performEach tasks).exchanges (routed (noting execute)) (router, (s, [])))
      ((performEach tasks).run (routed (noting execute)) (router, (s, []))).state.2.2 := by
  have asked := noted_routed execute (performEach tasks) router s []
  have serves := serves_of_performEach
    (Program.says_exchanges (routed (noting execute)) (performEach tasks) (router, (s, [])))
  simp only [List.nil_append] at asked
  rw [← Program.map_call_exchanges, List.map_map] at asked
  rw [asked]
  generalize (performEach tasks).exchanges (routed (noting execute)) (router, (s, [])) = xs at *
  have rotates (few : xs.length < UInt64.size) :=
    rotates_of_fresh router fresh (xs.map (·.call.route)) (by rwa [List.length_map])
  constructor
  case serves => exact serves
  case length => exact (length_assign _ _).trans (List.length_map _)
  case writers => exact fun few => (rotates few).1
  case readers => exact fun few => (rotates few).2
  case window => exact fun few i whole => (rotates few).1.perm_window whole

/-- Settings that are valid connect to a router: its writers are the sources that are opened for the
addresses to write to, and its readers those for the addresses to read from. Whatever the sources
answer: each operation makes its calls on its route, and the calls go round the sources. -/
theorem calls_spread {settings : RelationalSettings} (valid : settings.validate = .ok ())
    {ρ : Type} {answer : (c : Connection.Call) → ρ → (Connection.service η).Answer c × ρ}
    (opens : Opens answer) (s : ρ) :
    let connecting := (Router.connect settings).run
    let run := connecting.run answer s
    ∃ router : Router η, run.result = .ok router ∧ Connected settings router ∧
      connecting.exchanges answer s =
        handed (openings settings.dialect settings.writeUrls) router.writers ++
          handed (openings settings.dialect settings.readUrls) router.readers ∧
      run.calls = (sourceUrls settings.writeUrls ++ sourceUrls settings.readUrls).map
        (Connection.Call.dataSource settings.dialect) ∧
      ∀ {σ : Type}
        (execute : η → (command : Command) → σ → Except BackendError command.Reply × σ)
        (s : σ) (tasks : List Task),
        let program := performEach tasks
        Spread router tasks (program.exchanges (routed (noting execute)) (router, (s, [])))
          (program.run (routed (noting execute)) (router, (s, []))).state.2.2 := by
  have whole := Program.says_exchanges answer (Router.connect settings).run s
  have answered := Program.answered_exchanges answer (Router.connect settings).run s
  obtain ⟨router, result, connected, handles⟩ := connected_connect opens valid answered whole
  refine ⟨router, result, connected, handles, ?_, ?_⟩
  · have writers := connected.writers.trans (length_openings settings.dialect _).symm
    have readers := connected.readers.trans (length_openings settings.dialect _).symm
    rw [← Program.map_call_exchanges, handles, List.map_append, map_call_handed writers,
      map_call_handed readers]
    exact List.map_append.symm
  · intro σ execute s tasks
    exact spread_performEach connected.fresh execute s tasks

def pooled : RelationalSettings where
  dialect := .mysql
  writeUrls := ["mysql://first", " ", "mysql://second"]
  readUrls := ["mysql://third"]

/-- The handle of a source is its address. -/
def opensAll : (c : Connection.Call) → Unit → (Connection.service String).Answer c × Unit
  | .dataSource _ url, _ => (.ok url, ())
  | _, _ => (.ok "", ())

def fourTasks : List Task := [
  ⟨accounts, .accountStore, .findAll⟩,
  ⟨accounts, .accountStore, .deleteById (.long 7)⟩,
  ⟨accounts, .accountStore, .countAll⟩,
  ⟨accounts, .accountStore, .deleteById (.long 8)⟩]

def pooledRouter : Router String where
  writers := ["mysql://first", "mysql://second"]
  readers := ["mysql://third"]
  hasWriter := nofun

theorem pooled_spread :
    pooled.validate = .ok () ∧ Opens opensAll ∧
    ((Router.connect pooled).run.run opensAll ()).result = .ok pooledRouter ∧
    (Router.connect pooled).run.exchanges opensAll () =
      handed [.dataSource .mysql "mysql://first", .dataSource .mysql "mysql://second"]
          ["mysql://first", "mysql://second"] ++
        handed [.dataSource .mysql "mysql://third"] ["mysql://third"] ∧
    ((performEach fourTasks).run (routed (noting brokenSource)) (pooledRouter, (0, []))).state.2.2 =
      ["mysql://third", "mysql://first", "mysql://third", "mysql://second"] ∧
    Rotates pooledRouter.writers 0 ["mysql://first", "mysql://second"] := by
  have valid : pooled.validate = .ok () := by decide +kernel
  have opens : Opens opensAll := fun dialect url _ => ⟨url, rfl⟩
  have known : ((Router.connect pooled).run.run opensAll ()).result = .ok pooledRouter := by rfl
  have asked : ((performEach fourTasks).run (routed (noting brokenSource))
      (pooledRouter, (0, []))).state.2.2 =
    ["mysql://third", "mysql://first", "mysql://third", "mysql://second"] := by decide +kernel
  obtain ⟨router, result, -, handles, -, spread⟩ := calls_spread valid opens ()
  cases result.symm.trans known
  have turns := (spread brokenSource 0 fourTasks).writers (by decide +kernel)
  rw [asked] at turns
  exact ⟨valid, opens, known, handles, asked, turns⟩

end EntityStore.Relational
