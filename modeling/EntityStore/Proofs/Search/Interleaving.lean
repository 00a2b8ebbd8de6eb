import EntityStore.Proofs.Search.Course
import EntityStore.Proofs.Search.Index
import Mathlib.Logic.Relation

/-!
# Clients of one index

Any number of clients look up entities and update them, and the engine answers their calls in any
order. An update of an entity that was looked up is applied only if nothing has changed its document
since it was read. What carries this is the version: it is read with the document, stays in the
entity, and is named by the update.
-/

namespace EntityStore.Search

variable {τ : EntityType} {m : Mapping} {pv : PropertyMapping}

/-! ## What clients say -/

/-- What clients do with an entity that has a version. -/
inductive Plain : Operation τ → Prop where
  | findOneById (id : Id) : Plain (.findOneById id)
  | update (e : Entity τ) : Plain (.update e)
  | updateById (id : Id) (u : Update) : Plain (.updateById id u)

namespace Session

variable {d : Session τ} {xs : List (Exchange service)}

theorem gets_of_findOneById {id : Id} {r : Except StoreError (Option (Entity τ))}
    (whole : (d.findOneById id).Says xs r) :
    (xs = [] ∧ ∃ e, r = .error e) ∨
      ∃ answer, xs = [⟨.get d.index d.docType id.display, answer⟩] ∧
        ∀ e, r = .ok (some e) → ∃ hit, answer = .ok (some hit) ∧
          entityOfHit τ d.mapping hit = .ok e := by
  rcases Action.says_lift_bind.mp whole with ⟨e, -, rfl, rfl⟩ | ⟨_, -, whole⟩
  · exact .inl ⟨rfl, e, rfl⟩
  rcases Action.says_bind.mp (Action.says_log_bind.mp whole) with
    ⟨e, called, rfl⟩ | ⟨hit, _, _, called, mapped, rfl⟩
  · obtain ⟨answer, rfl, -⟩ := Action.says_call.mp called
    exact .inr ⟨answer, rfl, fun _ => nofun⟩
  obtain ⟨answer, rfl, same⟩ := Action.says_call.mp called
  rw [eq_comm, mapError_eq_ok] at same
  rcases Action.says_bind.mp mapped with ⟨e, kept, rfl⟩ | ⟨found, _, _, kept, rest, rfl⟩
  · obtain ⟨rfl, ⟨⟩⟩ := says_keep.mp kept
  obtain ⟨rfl, found⟩ := says_keep.mp kept
  obtain ⟨rfl, rfl⟩ := Action.says_pure.mp rest
  cases found
  refine .inr ⟨answer, rfl, fun e here => ?_⟩
  cases hit with
  | none => cases here
  | some hit =>
    refine ⟨hit, same, ?_⟩
    cases outcome : entityOfHit τ d.mapping hit with
    | error event => simp [outcome, Except.toOption] at here
    | ok e' => simpa [outcome, Except.toOption] using here

theorem sends_of_update {e : Entity τ} {r : Except StoreError Int64}
    (whole : (d.updateProperties e []).Says xs r) :
    (xs = [] ∧ ∃ failure, r = .error failure) ∨
      ∃ id u request outcome, d.mapping.entityId e = .ok id ∧ d.mapping.updateOf e [] = .ok u ∧
        d.updateRequest id u = .ok request ∧ Sends id request xs outcome ∧
        r = outcome.map changed := by
  rcases Action.says_lift_bind.mp whole with ⟨failure, -, rfl, rfl⟩ | ⟨id, keyed, whole⟩
  · exact .inl ⟨rfl, failure, rfl⟩
  rcases Action.says_lift_bind.mp whole with ⟨failure, -, rfl, rfl⟩ | ⟨u, hu, whole⟩
  · exact .inl ⟨rfl, failure, rfl⟩
  rcases sends_of_updateById whole with refused | ⟨request, outcome, ok, sends, rfl⟩
  · exact .inl refused
  · exact .inr ⟨id, u, request, outcome, keyed, hu, ok, sends, rfl⟩

theorem versionOf_updateOf (version : d.mapping.version = some pv)
    (own : pv ∈ d.mapping.persistedRest) {e : Entity τ} {u : Update}
    (hu : d.mapping.updateOf e [] = .ok u) {v : Int64} (least : 1 ≤ v)
    (holds : integer? (e.valueOf pv.property) = some v.toInt) :
    d.versionOf u = .ok (.pinned v) := by
  obtain ⟨stored, notKey⟩ := List.mem_filter.mp own
  obtain ⟨sound, full⟩ := Mapping.covers_of_updateOf (c := ⟨e, []⟩) hu
  have covered : Change.Covers d.mapping ⟨e, []⟩ pv.property := by
    simpa [Change.Covers] using notKey
  have given : u.get? pv.property = some (e.valueOf pv.property) := by
    obtain ⟨entry, hentry⟩ : ∃ entry, u.entries.find? (·.1 == pv.property) = some entry := by
      obtain ⟨entry, mem, same⟩ := List.mem_map.mp (full pv stored covered)
      rw [← Option.isSome_iff_exists, List.find?_isSome]
      exact ⟨entry, mem, by simpa using same⟩
    obtain ⟨-, value, -⟩ := sound entry (List.mem_of_find?_eq_some hentry)
    have same : entry.1 = pv.property := by simpa using List.find?_some hentry
    rw [Update.get?, hentry, Option.map_some, value, same]
  have positive : 0 < v := Int64.lt_of_lt_of_le (by decide) least
  unfold versionOf versionProperty?
  rw [version, Option.map_some, Option.bind_some, given]
  cases value : e.valueOf pv.property with
  | int64 n =>
    rw [value] at holds
    obtain rfl := Int64.toInt_inj.mp (Option.some.inj holds)
    simp [positive]
  | int32 n =>
    rw [value] at holds
    have same : n.toInt64 = v := Int64.toInt_inj.mp (by simpa using Option.some.inj holds)
    simp [same, positive]
  | _ => rw [value] at holds; cases holds

theorem sends_of_plain {operation : Operation τ} (plain : Plain operation) {o : Outcome τ}
    (whole : Program.Says (d.repository.perform operation) xs o) :
    (∀ x ∈ xs, ∀ request, x.call ≠ .update request) ∨
      ∃ id u request outcome, d.updateRequest id u = .ok request ∧ Sends id request xs outcome := by
  cases plain with
  | findOneById id =>
    obtain ⟨r, whole, -⟩ := Repository.says_outcome.mp whole
    refine .inl ?_
    rcases gets_of_findOneById whole with ⟨rfl, -⟩ | ⟨answer, rfl, -⟩
    · simp
    · intro x mem request call
      obtain rfl := List.mem_singleton.mp mem
      cases call
  | update e =>
    obtain ⟨r, whole, -⟩ := Repository.says_outcome.mp whole
    rcases sends_of_update whole with ⟨rfl, -⟩ | ⟨id, u, request, outcome, -, -, ok, sends, -⟩
    · exact .inl (by simp)
    · exact .inr ⟨id, u, request, outcome, ok, sends⟩
  | updateById id u =>
    obtain ⟨r, whole, -⟩ := Repository.says_outcome.mp whole
    rcases sends_of_updateById whole with ⟨rfl, -⟩ | ⟨request, outcome, ok, sends, -⟩
    · exact .inl (by simp)
    · exact .inr ⟨id, u, request, outcome, ok, sends⟩

end Session

/-! ## Worlds -/

/-- An operation of a client, and what is left of it. -/
structure Task (τ : EntityType) where
  session : Session τ
  operation : Operation τ
  rest : Program service (Outcome τ)

/-- The documents of an index, the operations of its clients so far, and the calls that were
answered. -/
structure World (τ : EntityType) where
  docs : Documents
  tasks : List (Task τ) := []
  history : List Event := []

inductive Step (m : Mapping) (index : String) : World τ → World τ → Prop where
  | begin {w : World τ} {d : Session τ} {operation : Operation τ} (mapping : d.mapping = m)
    (same : d.index = index) (plain : Plain operation) :
    Step m index w
      { w with tasks := w.tasks ++ [⟨d, operation, d.repository.perform operation⟩] }
  | log {w : World τ} {n : Nat} {t : Task τ} {event : LogEvent} {rest : Program service (Outcome τ)}
    (here : w.tasks[n]? = some t) (next : t.rest = .log event rest) :
    Step m index w { w with tasks := w.tasks.set n { t with rest := rest } }
  | answer {w : World τ} {n : Nat} {t : Task τ} {c : Call}
    {k : service.Answer c → Program service (Outcome τ)} {answer : service.Answer c}
    {applied : Bool} {docs : Documents} (here : w.tasks[n]? = some t) (next : t.rest = .call c k)
    (takes : Takes w.docs ⟨c, answer⟩ applied docs) :
    Step m index w
      { docs := docs
        tasks := w.tasks.set n { t with rest := k answer }
        history := w.history ++ [⟨n, ⟨c, answer⟩, applied⟩] }

def said (n : Nat) (history : List Event) : List (Exchange service) :=
  (history.filter (·.task == n)).map (·.exchange)

theorem said_append (n : Nat) (xs ys : List Event) :
    said n (xs ++ ys) = said n xs ++ said n ys := by
  rw [said, List.filter_append, List.map_append]
  rfl

theorem said_singleton (n : Nat) (x : Event) :
    said n [x] = if x.task = n then [x.exchange] else [] := by
  unfold said
  split_ifs with own
  · rw [List.filter_cons_of_pos (by simpa using own)]
    rfl
  · rw [List.filter_cons_of_neg (by simpa using own)]
    rfl

theorem said_fresh {n : Nat} {history : List Event} (known : ∀ x ∈ history, x.task < n) :
    said n history = [] := by
  rw [said, List.filter_eq_nil_iff.mpr, List.map_nil]
  intro x mem
  have lt := known x mem
  simp only [beq_iff_eq]
  omega

theorem mem_said {n : Nat} {history : List Event} {x : Exchange service} :
    x ∈ said n history ↔ ∃ y ∈ history, y.task = n ∧ y.exchange = x := by
  simp only [said, List.mem_map, List.mem_filter, beq_iff_eq, and_assoc]

namespace World

variable {w : World τ} {n : Nat} {t : Task τ} {start : Documents}

def Found (w : World τ) (n : Nat) (e : Entity τ) : Prop :=
  ∃ d id, w.tasks[n]? = some ⟨d, .findOneById id, .done ⟨.ok (.entity (some e)), []⟩⟩

def Updated (w : World τ) (n : Nat) (e : Entity τ) : Prop :=
  ∃ d, w.tasks[n]? = some ⟨d, .update e, .done ⟨.ok (.number 1), []⟩⟩

/-- The task has come from its beginning to where it is by what it has said. -/
structure Reached (m : Mapping) (history : List Event) (n : Nat) (t : Task τ) : Prop where
  mapping : t.session.mapping = m
  plain : Plain t.operation
  reaches : Program.Reaches (t.session.repository.perform t.operation) (said n history) t.rest

/-- The documents are what the calls so far have left, and every task is where its own have
brought it. -/
structure Sound (m : Mapping) (start : Documents) (w : World τ) : Prop where
  served : Served start w.history w.docs
  known : ∀ x ∈ w.history, x.task < w.tasks.length
  reached : ∀ n t, w.tasks[n]? = some t → Reached m w.history n t

theorem reached_set (sound : w.Sound m start) {history : List Event}
    (mine : Reached m history n t)
    (others : ∀ k, k ≠ n → said k history = said k w.history) :
    ∀ k t', (w.tasks.set n t)[k]? = some t' → Reached m history k t' := by
  intro k t' there
  by_cases same : k = n
  · subst same
    obtain ⟨_, rfl⟩ := List.getElem?_eq_some_iff.mp there
    rwa [List.getElem_set_self]
  · rw [List.getElem?_set_ne (Ne.symm same)] at there
    obtain ⟨mapping, plain, reaches⟩ := sound.reached k t' there
    exact ⟨mapping, plain, (others k same).symm ▸ reaches⟩

theorem Sound.begin (sound : w.Sound m start) {d : Session τ} {operation : Operation τ}
    (mapping : d.mapping = m) (plain : Plain operation) :
    Sound m start
      { w with tasks := w.tasks ++ [⟨d, operation, d.repository.perform operation⟩] } where
  served := sound.served
  known := by
    intro x mem
    have lt := sound.known x mem
    rw [List.length_append]
    omega
  reached := by
    intro n t there
    rcases Nat.lt_trichotomy n w.tasks.length with lt | rfl | gt
    · rw [List.getElem?_append_left lt] at there
      exact sound.reached n t there
    · rw [List.getElem?_concat_length] at there
      cases there
      refine ⟨mapping, plain, ?_⟩
      rw [said_fresh sound.known]
      exact .refl _
    · rw [List.getElem?_eq_none (by simp; omega)] at there
      cases there

theorem Sound.log (sound : w.Sound m start) {event : LogEvent} {rest : Program service (Outcome τ)}
    (here : w.tasks[n]? = some t) (next : t.rest = .log event rest) :
    Sound m start { w with tasks := w.tasks.set n { t with rest := rest } } where
  served := sound.served
  known := by
    intro x mem
    rw [List.length_set]
    exact sound.known x mem
  reached := by
    obtain ⟨mapping, plain, reaches⟩ := sound.reached n t here
    refine reached_set sound ⟨mapping, plain, ?_⟩ fun _ _ => rfl
    rw [next] at reaches
    simpa using reaches.trans (.log (.refl rest))

theorem Sound.answer (sound : w.Sound m start) {c : Call}
    {k : service.Answer c → Program service (Outcome τ)} {answer : service.Answer c}
    {applied : Bool} {docs : Documents} (here : w.tasks[n]? = some t) (next : t.rest = .call c k)
    (takes : Takes w.docs ⟨c, answer⟩ applied docs) :
    Sound m start
      { docs := docs
        tasks := w.tasks.set n { t with rest := k answer }
        history := w.history ++ [⟨n, ⟨c, answer⟩, applied⟩] } where
  served := served_append.mpr ⟨w.docs, sound.served, .cons takes .nil⟩
  known := by
    intro x mem
    rw [List.length_set]
    rcases List.mem_append.mp mem with mem | mem
    · exact sound.known x mem
    · obtain rfl := List.mem_singleton.mp mem
      exact (List.getElem?_eq_some_iff.mp here).1
  reached := by
    obtain ⟨mapping, plain, reaches⟩ := sound.reached n t here
    refine reached_set sound ⟨mapping, plain, ?_⟩ fun k other => ?_
    · rw [next] at reaches
      rw [said_append, said_singleton, if_pos rfl]
      exact reaches.trans (.call (.refl (k answer)))
    · rw [said_append, said_singleton, if_neg (Ne.symm other), List.append_nil]

theorem sound_of_run {index : String} {docs : Documents}
    (run : Relation.ReflTransGen (Step m index) ⟨docs, [], []⟩ w) : w.Sound m docs := by
  induction run with
  | refl => exact ⟨.nil, by simp, by simp⟩
  | tail _ step ih =>
    cases step with
    | begin mapping _ plain => exact ih.begin mapping plain
    | log here next => exact ih.log here next
    | answer here next takes => exact ih.answer here next takes

/-! ## What tasks have said -/

theorem Sound.sends (sound : w.Sound m start) {x : Event} (mem : x ∈ w.history)
    {request : UpdateRequest} (call : x.exchange.call = .update request) :
    ∃ (d : Session τ) (id : Id) (u : Update) (later : List (Exchange service))
      (outcome : Except StoreError WriteResponse), d.mapping = m ∧
      d.updateRequest id u = .ok request ∧
      Sends id request (said x.task w.history ++ later) outcome := by
  have there := List.getElem?_eq_getElem (sound.known x mem)
  obtain ⟨mapping, plain, reaches⟩ := sound.reached _ _ there
  obtain ⟨later, o, whole⟩ := reaches.exists_whole
  have own : x.exchange ∈ said x.task w.history ++ later :=
    List.mem_append_left _ (mem_said.mpr ⟨x, mem, rfl, rfl⟩)
  rcases Session.sends_of_plain plain whole with none | ⟨id, u, sent, outcome, ok, sends⟩
  · exact absurd call (none _ own request)
  · obtain rfl := sends.request_eq own call
    exact ⟨_, id, u, later, outcome, mapping, ok, sends⟩

theorem Sound.ours (sound : w.Sound m start) {x : Event} (mem : x ∈ w.history)
    {request : UpdateRequest} (call : x.exchange.call = .update request) :
    ∃ u, partialDocument m u = .ok request.doc := by
  obtain ⟨d, id, u, -, -, rfl, ok, -⟩ := sound.sends mem call
  obtain ⟨version, doc, -, hdoc, rfl⟩ := Session.updateRequest_eq_ok.mp ok
  exact ⟨u, hdoc⟩

theorem Sound.last_of_pinned (sound : w.Sound m start) {before after : List Event} {x : Event}
    (split : w.history = before ++ x :: after) {request : UpdateRequest} {version : Int64}
    (call : x.exchange.call = .update request) (pinned : request.version = .pinned version) :
    ∀ y ∈ after, y.task ≠ x.task := by
  intro y mem same
  have there : x ∈ w.history := split ▸ List.mem_append_right _ List.mem_cons_self
  obtain ⟨d, id, u, later, outcome, -, -, sends⟩ := sound.sends there call
  obtain ⟨answer, only, -⟩ := sends.eq_singleton pinned
  have again : y.exchange ∈ said x.task after := mem_said.mpr ⟨y, mem, same, rfl⟩
  have length := congrArg List.length only
  rw [split, List.append_cons, said_append, said_append, said_singleton, if_pos rfl] at length
  have positive := List.length_pos_of_mem again
  simp only [List.length_append, List.length_singleton] at length
  omega

theorem Sound.reads (sound : w.Sound m start) (built : Mapping.Built τ.descriptor .search m)
    (version : m.version = some pv) (separate : pv ≠ m.key) (kept : Kept τ m start)
    {e : Entity τ} (found : w.Found n e) :
    ∃ read ∈ w.history, read.task = n ∧ ∃ (id : Id) (v : Int64), read.Reads id.display v ∧ 1 ≤ v ∧
      e.valueOf m.key.property = id.toValue ∧
      integer? (e.valueOf pv.property) = some v.toInt := by
  obtain ⟨d, asked, there⟩ := found
  obtain ⟨rfl, -, reaches⟩ := sound.reached n _ there
  obtain ⟨r, whole, same⟩ := Repository.says_outcome.mp reaches
  obtain rfl : r = .ok (some e) := by
    cases r with
    | error failure => cases same
    | ok found => cases same; rfl
  rcases Session.gets_of_findOneById whole with ⟨-, _, ⟨⟩⟩ | ⟨answer, only, hits⟩
  obtain ⟨hit, rfl, mapped⟩ := hits e rfl
  obtain ⟨read, mem, own, exchange⟩ := mem_said.mp (only ▸ List.mem_singleton_self _)
  refine ⟨read, mem, own, ?_⟩
  -- The documents at the moment of the lookup were written by the stores too.
  obtain ⟨before, later, split⟩ := List.append_of_mem mem
  obtain ⟨docs, served, _ | ⟨takes, -⟩⟩ := served_append.mp (split ▸ sound.served)
  have past : ∀ x ∈ before, x ∈ w.history := fun x mem => split ▸ List.mem_append_left _ mem
  have keptThen : Kept τ d.mapping docs :=
    kept_of_served kept (fun x mem request => sound.ours (past x mem)) served
  rw [exchange] at takes
  obtain ⟨-, stored, here, rfl⟩ := stored_of_found takes
  obtain ⟨written, least⟩ := keptThen _ _ here
  obtain ⟨id, parsed, key, holds⟩ :=
    found_reads built version separate written.sorted written.fieldsOf mapped
  obtain ⟨id', parsed', name⟩ := written.exists_key built
  obtain rfl := Except.ok.inj (parsed.symm.trans parsed')
  rw [← name] at exchange
  exact ⟨id, stored.version, ⟨_, _, _, exchange⟩, least, key, holds⟩

theorem Sound.pins (sound : w.Sound m start) (version : m.version = some pv)
    (own : pv ∈ m.persistedRest) {e : Entity τ} (updated : w.Updated n e) {id : Id} {v : Int64}
    (least : 1 ≤ v) (key : e.valueOf m.key.property = id.toValue)
    (holds : integer? (e.valueOf pv.property) = some v.toInt) :
    ∃ write ∈ w.history, write.task = n ∧ write.Pins id.display v := by
  obtain ⟨d, there⟩ := updated
  obtain ⟨rfl, -, reaches⟩ := sound.reached n _ there
  obtain ⟨r, whole, same⟩ := Repository.says_outcome.mp reaches
  obtain rfl : r = .ok 1 := by
    cases r with
    | error failure => cases same
    | ok count => cases same; rfl
  rcases Session.sends_of_update whole with
    ⟨-, _, ⟨⟩⟩ | ⟨id', u, request, outcome, keyed, hu, ok, sends, counted⟩
  have same := (Mapping.valueOf_of_keyOf? (Mapping.keyOf?_of_entityId keyed)).symm.trans key
  obtain rfl : id' = id := by cases id' <;> cases id <;> cases same <;> rfl
  obtain ⟨names, doc, hnames, -, rfl⟩ := Session.updateRequest_eq_ok.mp ok
  obtain rfl := Except.ok.inj
    ((Session.versionOf_updateOf version own hu least holds).symm.trans hnames)
  obtain ⟨answer, only, rfl⟩ := sends.eq_singleton rfl
  obtain ⟨write, mem, mine, exchange⟩ := mem_said.mp (only ▸ List.mem_singleton_self _)
  refine ⟨write, mem, mine, ?_, _, congrArg Exchange.call exchange, rfl, rfl⟩
  -- What is counted was applied.
  cases answer with
  | error failure => cases counted
  | ok response =>
    obtain ⟨before, later, split⟩ := List.append_of_mem mem
    obtain ⟨docs, -, _ | ⟨takes, -⟩⟩ := served_append.mp (split ▸ sound.served)
    rw [exchange] at takes
    refine applied_of_changed takes fun none => ?_
    simp [settled, Except.mapError, Except.map, none] at counted

end World

/-! ## No update is lost -/

/-- The entity was read, and has its key and its version as they were. -/
structure BasedOn (m : Mapping) (read e : Entity τ) : Prop where
  key : e.valueOf m.key.property = read.valueOf m.key.property
  version : ∀ p, m.version = some p → e.valueOf p.property = read.valueOf p.property

/-- What was written over was known to the writer. -/
structure NoneLost (m : Mapping) (w : World τ) : Prop where
  /-- Where an entity is updated that was looked up before, the update names the version that was
  read, and nothing has changed the document in between. -/
  unchanged : ∀ n k read e, w.Found n read → BasedOn m read e → w.Updated k e →
    ∃ id v before reading between writing later,
      w.history = before ++ reading :: between ++ writing :: later ∧
      reading.task = n ∧ reading.Reads id v ∧ writing.task = k ∧ writing.Pins id v ∧
      ∀ x ∈ between, ¬ x.Changes id
  /-- Of two updates of what was read at one version at most one succeeds. -/
  once : ∀ n k l read e e', w.Found n read → BasedOn m read e → BasedOn m read e' → k ≠ l →
    w.Updated k e → ¬ w.Updated l e'
  /-- An update that names a version is the last call of its operation. -/
  last : ∀ before x later request v, w.history = before ++ x :: later →
    x.exchange.call = .update request → request.version = .pinned v →
    ∀ y ∈ later, y.task ≠ x.task

/-- Whatever the order of the calls, no update is lost of entities whose version is stored with them
and is not their key. -/
theorem no_update_lost (build : Mapping.build τ.descriptor .search = .ok m)
    (version : m.version = some pv) (own : pv ∈ m.persistedRest) {index : String}
    {docs : Documents} (kept : Kept τ m docs) {w : World τ}
    (run : Relation.ReflTransGen (Step m index) ⟨docs, [], []⟩ w) : NoneLost m w := by
  have built := Mapping.built_of_build build
  have sound := World.sound_of_run run
  have separate : pv ≠ m.key := by
    rintro rfl
    simpa using (List.mem_filter.mp own).2
  constructor
  case unchanged =>
    intro n k read e found based updated
    obtain ⟨reading, hreading, task, id, v, reads, least, key, holds⟩ :=
      sound.reads built version separate kept found
    obtain ⟨writing, hwriting, task', pins⟩ := sound.pins version own updated least
      (based.key.trans key) ((based.version pv version).symm ▸ holds)
    obtain ⟨before, between, later, split, unchanged⟩ :=
      unchanged_since_read sound.served hreading hwriting reads pins
    exact ⟨id.display, v, before, reading, between, writing, later, split, task, reads, task', pins,
      unchanged⟩
  case once =>
    intro n k l read e e' found based based' ne updated updated'
    obtain ⟨-, -, -, id, v, -, least, key, holds⟩ := sound.reads built version separate kept found
    obtain ⟨x, hx, task, pins⟩ := sound.pins version own updated least
      (based.key.trans key) ((based.version pv version).symm ▸ holds)
    obtain ⟨y, hy, task', pins'⟩ := sound.pins version own updated' least
      (based'.key.trans key) ((based'.version pv version).symm ▸ holds)
    obtain rfl := pinned_once sound.served hx hy pins pins'
    exact ne (task.symm.trans task')
  case last =>
    intro before x later request v split call pinned
    exact sound.last_of_pinned split call pinned

theorem run_answer {index : String} {start w : World τ} {n : Nat} {t : Task τ} {event : LogEvent}
    {c : Call} {k : service.Answer c → Program service (Outcome τ)} {answer : service.Answer c}
    {applied : Bool} {docs : Documents} (run : Relation.ReflTransGen (Step m index) start w)
    (here : w.tasks[n]? = some t) (next : t.rest = .log event (.call c k))
    (takes : Takes w.docs ⟨c, answer⟩ applied docs) :
    Relation.ReflTransGen (Step m index) start
      { docs := docs
        tasks := w.tasks.set n { t with rest := k answer }
        history := w.history ++ [⟨n, ⟨c, answer⟩, applied⟩] } := by
  obtain ⟨there, -⟩ := List.getElem?_eq_some_iff.mp here
  have called := (run.tail (.log here next)).tail (.answer (List.getElem?_set_self there) rfl takes)
  rwa [List.set_set] at called

def noteDocs : Documents := fun id =>
  if id = "7" then some ⟨3, document noteMapping (note ⟨.text "first", rfl⟩)⟩ else none

theorem exists_note_run : ∃ w : World notes,
    Relation.ReflTransGen (Step noteMapping "notes") ⟨noteDocs, [], []⟩ w ∧
    w.Found 0 (noteRead ⟨.text "first", rfl⟩) ∧ w.Updated 1 (noteRead ⟨.text "second", rfl⟩) := by
  obtain ⟨event, k, asks, comes⟩ : ∃ event k,
      noteSession.repository.perform (.findOneById (.int 7)) =
        .log event (.call (.get "notes" none "7") k) ∧
      k (.ok (some ⟨"7", some 3, .object (document noteMapping (note ⟨.text "first", rfl⟩))⟩)) =
        .done ⟨.ok (.entity (some (noteRead ⟨.text "first", rfl⟩))), []⟩ := ⟨_, _, rfl, rfl⟩
  obtain ⟨event', request, k', here, names, asks', comes'⟩ : ∃ event request k',
      request.id = "7" ∧ request.version = .pinned 3 ∧
      noteSession.repository.perform (.update (noteRead ⟨.text "second", rfl⟩)) =
        .log event (.call (.update request) k') ∧
      k' (.ok ⟨.updated, 4⟩) = .done ⟨.ok (.number 1), []⟩ := ⟨_, _, _, rfl, rfl, rfl, rfl⟩
  have stored : noteDocs request.id =
      some ⟨3, document noteMapping (note ⟨.text "first", rfl⟩)⟩ := by rw [here]; rfl
  have start : Relation.ReflTransGen (Step noteMapping "notes") ⟨noteDocs, [], []⟩
    (⟨noteDocs, [], []⟩ : World notes) := .refl
  have begun := start.tail (.begin (d := noteSession) rfl rfl (.findOneById (.int 7)))
  have found := run_answer (n := 0) begun rfl asks (.found rfl)
  have again := found.tail
    (.begin (d := noteSession) rfl rfl (.update (noteRead ⟨.text "second", rfl⟩)))
  have updated := run_answer (n := 1) again rfl asks'
    (.applied stored (.inr names) (show (3 : Int64) < 4 by decide) (.ok ⟨.updated, 4⟩))
  refine ⟨_, updated, ⟨noteSession, .int 7, ?_⟩, ⟨noteSession, ?_⟩⟩
  · rw [← comes]
    rfl
  · rw [← comes']
    rfl

theorem note_not_lost :
    Mapping.build notes.descriptor .search = .ok noteMapping ∧
    noteMapping.version = some ⟨"version", "version", .int32, false, false⟩ ∧
    ⟨"version", "version", .int32, false, false⟩ ∈ noteMapping.persistedRest ∧
    Kept notes noteMapping noteDocs ∧
    BasedOn noteMapping (noteRead ⟨.text "first", rfl⟩) (noteRead ⟨.text "second", rfl⟩) ∧
    ∃ w : World notes,
      Relation.ReflTransGen (Step noteMapping "notes") ⟨noteDocs, [], []⟩ w ∧
      w.Found 0 (noteRead ⟨.text "first", rfl⟩) ∧ w.Updated 1 (noteRead ⟨.text "second", rfl⟩) ∧
      ∃ id v before reading between writing later,
        w.history = before ++ reading :: between ++ writing :: later ∧
        reading.task = 0 ∧ reading.Reads id v ∧ writing.task = 1 ∧ writing.Pins id v ∧
        ∀ x ∈ between, ¬ x.Changes id := by
  have version : noteMapping.version = some ⟨"version", "version", .int32, false, false⟩ := rfl
  have own : ⟨"version", "version", .int32, false, false⟩ ∈ noteMapping.persistedRest := by decide
  have kept : Kept notes noteMapping noteDocs := by
    intro name stored here
    unfold noteDocs at here
    split_ifs at here with same
    cases here
    subst same
    have keyed : noteMapping.entityId (note ⟨.text "first", rfl⟩) = .ok (.int 7) := rfl
    exact ⟨.inserted keyed, by decide⟩
  have based : BasedOn noteMapping (noteRead ⟨.text "first", rfl⟩)
      (noteRead ⟨.text "second", rfl⟩) := by
    refine ⟨rfl, ?_⟩
    rintro p ⟨⟩
    rfl
  obtain ⟨w, run, found, updated⟩ := exists_note_run
  exact ⟨build_notes, version, own, kept, based, w, run, found, updated,
    (no_update_lost build_notes version own kept run).unchanged 0 1 _ _ found based updated⟩

/-! ## A version that is the key -/

def revisionNumber : Field := ⟨"number", ⟨.int64, false⟩, .derived, true, false, true⟩

def revisionTitle : Field := ⟨"title", ⟨.text, true⟩, .derived, false, false, false⟩

/-- Revisions, with a key that is the version of their document too. -/
def revisions : EntityType where
  typeName := "Revision"
  names := { index := some "revisions" }
  fields := [revisionNumber, revisionTitle]

def revisionMapping : Mapping where
  typeName := "Revision"
  policy := .search
  properties := [
    ⟨"number", "number", .int64, false, false⟩,
    ⟨"title", "title", .text, true, false⟩]
  key := ⟨"number", "number", .int64, false, false⟩
  version := some ⟨"number", "number", .int64, false, false⟩
  names := { index := some "revisions" }

def revision (title : Content revisionTitle.type) : Entity revisions where
  slots := [⟨revisionNumber, ⟨.int64 1, rfl⟩⟩, ⟨revisionTitle, title⟩]
  shape := rfl

def revisionSession : Session revisions where
  mapping := revisionMapping
  indexName := ⟨"revisions", none⟩
  idPolicy := .required
  maxUpdateSize := 100
  maxResultWindow := 100
  index := "revisions"

def revisionDocs : Documents := fun id =>
  if id = "1" then some ⟨1, document revisionMapping (revision ⟨.text "first", rfl⟩)⟩ else none

/-- Two clients change the title of what a third has looked up, and both are told that they did. -/
theorem exists_revision_run : ∃ w : World revisions,
    Relation.ReflTransGen (Step revisionMapping "revisions") ⟨revisionDocs, [], []⟩ w ∧
    w.Found 0 (revision ⟨.text "first", rfl⟩) ∧ w.Updated 1 (revision ⟨.text "second", rfl⟩) ∧
    w.Updated 2 (revision ⟨.text "third", rfl⟩) := by
  obtain ⟨event, k, asks, comes⟩ : ∃ event k,
      revisionSession.repository.perform (.findOneById (.long 1)) =
        .log event (.call (.get "revisions" none "1") k) ∧
      k (.ok (some ⟨"1", some 1,
        .object (document revisionMapping (revision ⟨.text "first", rfl⟩))⟩)) =
        .done ⟨.ok (.entity (some (revision ⟨.text "first", rfl⟩))), []⟩ := ⟨_, _, rfl, rfl⟩
  -- The key is no part of an update, so that neither update names a version.
  have sends (title : Content revisionTitle.type) : ∃ event request k',
      request.id = "1" ∧ request.version = .any ∧
      revisionSession.repository.perform (.update (revision title)) =
        .log event (.call (.update request) k') ∧
      ∀ v, k' (.ok ⟨.updated, v⟩) = .done ⟨.ok (.number 1), []⟩ :=
    ⟨_, _, _, rfl, rfl, rfl, fun _ => rfl⟩
  obtain ⟨event', request, k', here, free, asks', comes'⟩ := sends ⟨.text "second", rfl⟩
  obtain ⟨event'', request', k'', here', free', asks'', comes''⟩ := sends ⟨.text "third", rfl⟩
  have stored : revisionDocs request.id =
      some ⟨1, document revisionMapping (revision ⟨.text "first", rfl⟩)⟩ := by rw [here]; rfl
  have start : Relation.ReflTransGen (Step revisionMapping "revisions") ⟨revisionDocs, [], []⟩
    (⟨revisionDocs, [], []⟩ : World revisions) := .refl
  have begun := start.tail (.begin (d := revisionSession) rfl rfl (.findOneById (.long 1)))
  have found := run_answer (n := 0) begun rfl asks (.found rfl)
  have first := found.tail
    (.begin (d := revisionSession) rfl rfl (.update (revision ⟨.text "second", rfl⟩)))
  have second := first.tail
    (.begin (d := revisionSession) rfl rfl (.update (revision ⟨.text "third", rfl⟩)))
  have updated := run_answer (n := 1) second rfl asks'
    (.applied stored (.inl free) (show (1 : Int64) < 2 by decide) (.ok ⟨.updated, 2⟩))
  have again : (revisionDocs.put request.id
      ⟨2, (document revisionMapping (revision ⟨.text "first", rfl⟩)).merge request.doc⟩) request'.id =
      some ⟨2, (document revisionMapping (revision ⟨.text "first", rfl⟩)).merge request.doc⟩ :=
    if_pos (here'.trans here.symm)
  have lost := run_answer (n := 2) updated rfl asks''
    (.applied again (.inl free') (show (2 : Int64) < 3 by decide) (.ok ⟨.updated, 3⟩))
  refine ⟨_, lost, ⟨revisionSession, .long 1, ?_⟩, ⟨revisionSession, ?_⟩, ⟨revisionSession, ?_⟩⟩
  · rw [← comes]
    rfl
  · rw [← comes' 2]
    rfl
  · rw [← comes'' 3]
    rfl

/-- Where the version is the key, an update is lost. -/
theorem revision_lost :
    Mapping.build revisions.descriptor .search = .ok revisionMapping ∧
    revisionMapping.version = some revisionMapping.key ∧
    revisionMapping.key ∈ revisionMapping.persisted ∧
    Kept revisions revisionMapping revisionDocs ∧
    ∃ w : World revisions,
      Relation.ReflTransGen (Step revisionMapping "revisions") ⟨revisionDocs, [], []⟩ w ∧
      w.Found 0 (revision ⟨.text "first", rfl⟩) ∧
      w.Updated 1 (revision ⟨.text "second", rfl⟩) ∧
      w.Updated 2 (revision ⟨.text "third", rfl⟩) ∧
      ¬ NoneLost revisionMapping w := by
  have build : Mapping.build revisions.descriptor .search = .ok revisionMapping := by decide +kernel
  have stored : revisionMapping.key ∈ revisionMapping.persisted := by decide
  have kept : Kept revisions revisionMapping revisionDocs := by
    intro name stored here
    unfold revisionDocs at here
    split_ifs at here with same
    cases here
    subst same
    have keyed : revisionMapping.entityId (revision ⟨.text "first", rfl⟩) = .ok (.long 1) := rfl
    exact ⟨.inserted keyed, by decide⟩
  have based (title : Content revisionTitle.type) :
      BasedOn revisionMapping (revision ⟨.text "first", rfl⟩) (revision title) := by
    refine ⟨rfl, ?_⟩
    rintro p ⟨⟩
    rfl
  obtain ⟨w, run, found, updated, updated'⟩ := exists_revision_run
  refine ⟨build, rfl, stored, kept, w, run, found, updated, updated', fun none => ?_⟩
  exact none.once 0 1 2 _ _ _ found (based _) (based _) (by decide) updated updated'

end EntityStore.Search
