import EntityStore.Proofs.Program
import EntityStore.Operation

/-!
# How programs behave

What may be called whatever is answered, two programs that say and call the same, and two programs
that come to the same in worlds of their own.
-/

namespace EntityStore

variable {S : Service} {α β γ δ σ : Type}

/-! ## Every call -/

def Program.Asks (allowed : S.Call → Prop) : Program S α → Prop
  | .done _ => True
  | .log _ rest => rest.Asks allowed
  | .call c k => allowed c ∧ ∀ answer, (k answer).Asks allowed

def Action.Asks (allowed : S.Call → Prop) (x : Action S α) : Prop := Program.Asks allowed x.run

section Asks

variable {allowed : S.Call → Prop}

theorem Program.asks_bind {p : Program S α} {f : α → Program S β} (first : p.Asks allowed)
    (next : ∀ a, (f a).Asks allowed) : (p.bind f).Asks allowed := by
  induction p with
  | done a => exact next a
  | log event rest ih => exact ih first
  | call c k ih =>
    obtain ⟨here, later⟩ := first
    exact ⟨here, fun answer => ih answer (later answer)⟩

theorem Program.Asks.calls {p : Program S α} (asks : p.Asks allowed)
    (answer : (c : S.Call) → σ → S.Answer c × σ) (s : σ) :
    ∀ c ∈ (p.run answer s).calls, allowed c := by
  induction p generalizing s with
  | done a => exact fun c mem => absurd mem List.not_mem_nil
  | log event rest ih => exact ih asks s
  | call c k ih =>
    obtain ⟨here, later⟩ := asks
    exact List.forall_mem_cons.mpr ⟨here, ih _ (later _) _⟩

namespace Action

theorem asks_call {classify : BackendError → StoreError} {c : S.Call} (here : allowed c) :
    (call classify c).Asks allowed :=
  ⟨here, fun _ => trivial⟩

theorem asks_bind {x : Action S α} {f : α → Action S β} (first : x.Asks allowed)
    (next : ∀ a, (f a).Asks allowed) : (x >>= f).Asks allowed := by
  refine Program.asks_bind first fun r => ?_
  cases r with
  | error e => trivial
  | ok a => exact next a

theorem asks_check {x : Except StoreError α} {f : α → Action S β}
    (next : ∀ a, x = .ok a → (f a).Asks allowed) : (liftM x >>= f).Asks allowed := by
  cases x with
  | error e => trivial
  | ok a => exact next a rfl

end Action

theorem Repository.asks_insertAll {τ : EntityType} {insert : Entity τ → Program S (Insertion τ)}
    {amount : Int64 → Int64} (each : ∀ e, (insert e).Asks allowed) (es : List (Entity τ)) :
    (insertAll insert amount es).Asks allowed := by
  have all : ∀ es, (insertEach insert amount es).Asks allowed := by
    intro es
    induction es with
    | nil => trivial
    | cons e rest ih =>
      refine Program.asks_bind (each e) fun first => ?_
      cases outcome : first.result with
      | error failure => trivial
      | ok n => exact Program.asks_bind ih fun _ => trivial
  unfold insertAll
  split
  · trivial
  · exact all es

end Asks

/-! ## The same calls -/

/-- Two programs log and call the same, whatever is answered, and come to related results. -/
inductive Program.Same (R : α → β → Prop) : Program S α → Program S β → Prop where
  | done {a : α} {b : β} (related : R a b) : Same R (.done a) (.done b)
  | log {event : LogEvent} {p : Program S α} {q : Program S β} (rest : Same R p q) :
    Same R (.log event p) (.log event q)
  | call {c : S.Call} {k : S.Answer c → Program S α} {l : S.Answer c → Program S β}
    (rest : ∀ answer, Same R (k answer) (l answer)) : Same R (.call c k) (.call c l)

def Action.Same (R : α → β → Prop) (x : Action S α) (y : Action S β) : Prop :=
  Program.Same (Agree R) x.run y.run

section Same

variable {R : α → β → Prop} {T : γ → δ → Prop}

theorem Program.Same.refl {R : α → α → Prop} (related : ∀ a, R a a) (p : Program S α) :
    Same R p p := by
  induction p with
  | done a => exact .done (related a)
  | log event rest ih => exact .log ih
  | call c k ih => exact .call ih

theorem Program.same_self (p : Program S α) : Same (· = ·) p p := .refl (fun _ => rfl) p

theorem Program.Same.bind {p : Program S α} {q : Program S β} {f : α → Program S γ}
    {g : β → Program S δ} (first : Same R p q) (next : ∀ a b, R a b → Same T (f a) (g b)) :
    Same T (p.bind f) (q.bind g) := by
  induction first with
  | done related => exact next _ _ related
  | log _ ih => exact .log ih
  | call _ ih => exact .call ih

theorem Program.Same.run {p : Program S α} {q : Program S β} (same : Same R p q)
    (answer : (c : S.Call) → σ → S.Answer c × σ) (s : σ) :
    (p.run answer s).steps = (q.run answer s).steps ∧
      (p.run answer s).state = (q.run answer s).state ∧
      R (p.run answer s).result (q.run answer s).result := by
  induction same generalizing s with
  | done related => exact ⟨rfl, rfl, related⟩
  | @log event _ _ _ ih =>
    obtain ⟨steps, rest⟩ := ih s
    exact ⟨congrArg (List.cons (Step.logged event)) steps, rest⟩
  | @call c _ _ _ ih =>
    obtain ⟨steps, rest⟩ := ih (answer c s).1 (answer c s).2
    exact ⟨congrArg (List.cons (Step.called c)) steps, rest⟩

namespace Action

theorem same_self (x : Action S α) : Same (· = ·) x x :=
  Program.Same.refl (Agree.refl fun _ => rfl) x.run

theorem same_pure {a : α} {b : β} (related : R a b) :
    Same R (pure a : Action S α) (pure b : Action S β) :=
  .done (.ok related)

theorem same_lift {x : Except StoreError α} {y : Except StoreError β} (agree : Agree R x y) :
    Same R (liftM x : Action S α) (liftM y : Action S β) :=
  .done agree

theorem Same.bind {x : Action S α} {y : Action S β} {f : α → Action S γ} {g : β → Action S δ}
    (first : Same R x y) (next : ∀ a b, R a b → Same T (f a) (g b)) :
    Same T (x >>= f) (y >>= g) := by
  refine Program.Same.bind first fun r t agree => ?_
  cases agree with
  | ok related => exact next _ _ related
  | error e => exact .done (.error e)

end Action

end Same

/-! ## Two worlds -/

section Worlds

variable (answer answer' : (c : S.Call) → σ → S.Answer c × σ)

/-- Two programs, each against its own answers, come to the same result and the same state. -/
def Program.Matches (p q : Program S α) : Prop :=
  ∀ s, (p.run answer s).result = (q.run answer' s).result ∧
    (p.run answer s).state = (q.run answer' s).state

theorem Program.result_bind (p : Program S α) (f : α → Program S β) (s : σ) :
    ((p.bind f).run answer s).result =
        ((f (p.run answer s).result).run answer (p.run answer s).state).result ∧
      ((p.bind f).run answer s).state =
        ((f (p.run answer s).result).run answer (p.run answer s).state).state := by
  induction p generalizing s with
  | done a => exact ⟨rfl, rfl⟩
  | log event rest ih => exact ih s
  | call c k ih => exact ih _ _

variable {answer answer'}

theorem Program.Matches.bind {p q : Program S α} {f g : α → Program S β}
    (first : Matches answer answer' p q) (rest : ∀ a, Matches answer answer' (f a) (g a)) :
    Matches answer answer' (p.bind f) (q.bind g) := by
  intro s
  obtain ⟨result, state⟩ := first s
  obtain ⟨later, after⟩ := rest (q.run answer' s).result (q.run answer' s).state
  obtain ⟨resultP, stateP⟩ := result_bind answer p f s
  obtain ⟨resultQ, stateQ⟩ := result_bind answer' q g s
  rw [resultP, stateP, resultQ, stateQ, result, state]
  exact ⟨later, after⟩

theorem Action.matches_lift (x : Except StoreError α) :
    Program.Matches answer answer' (liftM x : Action S α).run (liftM x : Action S α).run :=
  fun _ => ⟨rfl, rfl⟩

theorem Action.matches_bind {x y : Action S α} {f g : α → Action S β}
    (first : Program.Matches answer answer' x.run y.run)
    (rest : ∀ a, Program.Matches answer answer' (f a).run (g a).run) :
    Program.Matches answer answer' (x >>= f).run (y >>= g).run := by
  apply first.bind
  intro r
  cases r with
  | error e => exact fun s => ⟨rfl, rfl⟩
  | ok a => exact rest a

end Worlds

end EntityStore
