import EntityStore.Operation

/-!
# Conversations

A conversation is what a program has called so far with the answers that it got, whoever gave them.
It may stop anywhere, and can always be brought to an end. What a whole one comes to is taken apart
along the steps of the program.
-/

namespace EntityStore

variable {S : Service} {α β σ : Type}

structure Exchange (S : Service) where
  call : S.Call
  answer : S.Answer call

namespace Program

/-- After the exchanges the second program is what is left of the first. -/
inductive Reaches : Program S α → List (Exchange S) → Program S α → Prop where
  | refl (p : Program S α) : Reaches p [] p
  | log {event : LogEvent} {p q : Program S α} {xs : List (Exchange S)} (rest : Reaches p xs q) :
    Reaches (.log event p) xs q
  | call {c : S.Call} {k : S.Answer c → Program S α} {answer : S.Answer c} {q : Program S α}
    {xs : List (Exchange S)} (rest : Reaches (k answer) xs q) :
    Reaches (.call c k) (⟨c, answer⟩ :: xs) q

variable {p q r : Program S α} {xs ys : List (Exchange S)} {a : α}

theorem Reaches.trans (first : Reaches p xs q) (then_ : Reaches q ys r) :
    Reaches p (xs ++ ys) r := by
  induction first with
  | refl => exact then_
  | log _ ih => exact .log (ih then_)
  | call _ ih => exact .call (ih then_)

theorem exists_reaches_done (p : Program S α) : ∃ xs a, Reaches p xs (.done a) := by
  induction p with
  | done a => exact ⟨[], a, .refl _⟩
  | log event rest ih =>
    obtain ⟨xs, a, h⟩ := ih
    exact ⟨xs, a, .log h⟩
  | call c k ih =>
    obtain ⟨xs, a, h⟩ := ih (.error ⟨.other, "", none⟩)
    exact ⟨_, a, .call h⟩

/-! ## Whole conversations -/

/-- The program comes to the result after the exchanges. -/
def Says (p : Program S α) (xs : List (Exchange S)) (a : α) : Prop := Reaches p xs (.done a)

theorem says_done {b : α} : Says (.done a : Program S α) xs b ↔ xs = [] ∧ b = a := by
  constructor
  · rintro ⟨⟩
    exact ⟨rfl, rfl⟩
  · rintro ⟨rfl, rfl⟩
    exact .refl _

theorem says_log {event : LogEvent} : Says (.log event p) xs a ↔ Says p xs a := by
  constructor
  · rintro (_ | h)
    exact h
  · exact .log

theorem says_call {c : S.Call} {k : S.Answer c → Program S α} :
    Says (.call c k) xs a ↔
      ∃ answer later, xs = ⟨c, answer⟩ :: later ∧ Says (k answer) later a := by
  constructor
  · rintro (_ | _ | h)
    exact ⟨_, _, rfl, h⟩
  · rintro ⟨answer, later, rfl, h⟩
    exact .call h

theorem says_answer {event : LogEvent} {c : S.Call} {f : S.Answer c → α} :
    Says (.log event (.call c fun answer => .done (f answer))) xs a ↔
      ∃ answer, xs = [⟨c, answer⟩] ∧ a = f answer := by
  rw [says_log, says_call]
  simp only [says_done]
  constructor
  · rintro ⟨answer, _, rfl, rfl, rfl⟩
    exact ⟨answer, rfl, rfl⟩
  · rintro ⟨answer, rfl, rfl⟩
    exact ⟨answer, [], rfl, rfl, rfl⟩

theorem says_bind {f : α → Program S β} {b : β} :
    Says (p.bind f) xs b ↔ ∃ a first later, Says p first a ∧ Says (f a) later b ∧
      xs = first ++ later := by
  induction p generalizing xs with
  | done a =>
    simp only [done_bind, says_done]
    constructor
    · exact fun h => ⟨a, [], xs, ⟨rfl, rfl⟩, h, rfl⟩
    · rintro ⟨_, _, later, ⟨rfl, rfl⟩, h, rfl⟩
      exact h
  | log event rest ih => simp only [log_bind, says_log, ih]
  | call c k ih =>
    simp only [call_bind, says_call, ih]
    constructor
    · rintro ⟨answer, _, rfl, a, first, later, h, hf, rfl⟩
      exact ⟨a, _, later, ⟨answer, first, rfl, h⟩, hf, rfl⟩
    · rintro ⟨a, _, later, ⟨answer, first, rfl, h⟩, hf, rfl⟩
      exact ⟨answer, _, rfl, a, first, later, h, hf, rfl⟩

theorem Reaches.exists_whole (reached : Reaches p xs q) : ∃ ys a, Says p (xs ++ ys) a := by
  obtain ⟨ys, a, rest⟩ := exists_reaches_done q
  exact ⟨ys, a, reached.trans rest⟩

/-! ## Runs -/

/-- The exchanges are had with the service from the state. -/
def Answered (answer : (c : S.Call) → σ → S.Answer c × σ) : σ → List (Exchange S) → Prop
  | _, [] => True
  | s, x :: later => x.answer = (answer x.call s).1 ∧ Answered answer (answer x.call s).2 later

theorem Answered.split {answer : (c : S.Call) → σ → S.Answer c × σ} {s : σ}
    (answered : Answered answer s (xs ++ ys)) :
    Answered answer s xs ∧ ∃ between, Answered answer between ys := by
  induction xs generalizing s with
  | nil => exact ⟨trivial, s, answered⟩
  | cons x rest ih =>
    obtain ⟨here, later⟩ := answered
    obtain ⟨first, second⟩ := ih later
    exact ⟨⟨here, first⟩, second⟩

def exchanges (answer : (c : S.Call) → σ → S.Answer c × σ) : Program S α → σ → List (Exchange S)
  | done _, _ => []
  | log _ rest, s => rest.exchanges answer s
  | call c k, s =>
    let (reply, s') := answer c s
    ⟨c, reply⟩ :: (k reply).exchanges answer s'

variable (answer : (c : S.Call) → σ → S.Answer c × σ)

theorem says_exchanges (p : Program S α) (s : σ) :
    Says p (p.exchanges answer s) (p.run answer s).result := by
  induction p generalizing s with
  | done a => exact .refl _
  | log event rest ih => exact .log (ih s)
  | call c k ih => exact .call (ih _ _)

theorem answered_exchanges (p : Program S α) (s : σ) :
    Answered answer s (p.exchanges answer s) := by
  induction p generalizing s with
  | done a => trivial
  | log event rest ih => exact ih s
  | call c k ih => exact ⟨rfl, ih _ _⟩

theorem map_call_exchanges (p : Program S α) (s : σ) :
    (p.exchanges answer s).map (·.call) = (p.run answer s).calls := by
  induction p generalizing s with
  | done a => rfl
  | log event rest ih => exact ih s
  | call c k ih => exact congrArg (c :: ·) (ih _ _)

theorem state_of_no_calls (p : Program S α) (s : σ) (silent : p.exchanges answer s = []) :
    (p.run answer s).state = s := by
  induction p with
  | done a => rfl
  | log event rest ih => exact ih silent
  | call c k => cases silent

theorem exists_says_run (p : Program S α) (s : σ) :
    ∃ xs, Says p xs (p.run answer s).result ∧ Answered answer s xs ∧
      (p.run answer s).calls = xs.map (·.call) :=
  ⟨p.exchanges answer s, says_exchanges answer p s, answered_exchanges answer p s,
    (map_call_exchanges answer p s).symm⟩

end Program

/-! ## Actions -/

def Action.Says (x : Action S α) (xs : List (Exchange S)) (r : Except StoreError α) : Prop :=
  Program.Says x.run xs r

namespace Action

variable {xs : List (Exchange S)}

theorem says_pure {a : α} {r : Except StoreError α} :
    Says (pure a : Action S α) xs r ↔ xs = [] ∧ r = .ok a :=
  Program.says_done

theorem says_throw {e : StoreError} {r : Except StoreError α} :
    Says (throw e : Action S α) xs r ↔ xs = [] ∧ r = .error e :=
  Program.says_done

theorem says_log {event : LogEvent} {r : Except StoreError Unit} :
    Says (log event : Action S Unit) xs r ↔ xs = [] ∧ r = .ok () :=
  Program.says_log.trans Program.says_done

theorem says_call {classify : BackendError → StoreError} {c : S.Call}
    {r : Except StoreError (S.Reply c)} :
    Says (call classify c) xs r ↔ ∃ answer, xs = [⟨c, answer⟩] ∧ r = answer.mapError classify := by
  refine Program.says_call.trans ?_
  simp only [Program.says_done]
  constructor
  · rintro ⟨answer, _, rfl, rfl, rfl⟩
    exact ⟨answer, rfl, rfl⟩
  · rintro ⟨answer, rfl, rfl⟩
    exact ⟨answer, [], rfl, rfl, rfl⟩

theorem says_bind {x : Action S α} {f : α → Action S β} {r : Except StoreError β} :
    Says (x >>= f) xs r ↔
      (∃ e, Says x xs (.error e) ∧ r = .error e) ∨
      ∃ a first later, Says x first (.ok a) ∧ Says (f a) later r ∧ xs = first ++ later := by
  refine Program.says_bind.trans ?_
  constructor
  · rintro ⟨result, first, later, hx, hf, rfl⟩
    cases result with
    | error e =>
      obtain ⟨rfl, rfl⟩ := Program.says_done.mp hf
      rw [List.append_nil]
      exact .inl ⟨e, hx, rfl⟩
    | ok a => exact .inr ⟨a, first, later, hx, hf, rfl⟩
  · rintro (⟨e, hx, rfl⟩ | ⟨a, first, later, hx, hf, rfl⟩)
    · exact ⟨.error e, xs, [], hx, .refl _, (List.append_nil xs).symm⟩
    · exact ⟨.ok a, first, later, hx, hf, rfl⟩

theorem says_lift_bind {x : Except StoreError α} {f : α → Action S β} {r : Except StoreError β} :
    Says (liftM x >>= f) xs r ↔
      (∃ e, x = .error e ∧ xs = [] ∧ r = .error e) ∨ ∃ a, x = .ok a ∧ Says (f a) xs r := by
  cases x with
  | error e =>
    refine says_throw.trans ?_
    simp
  | ok a =>
    simp only [reduceCtorEq, false_and, exists_false, false_or, Except.ok.injEq, exists_eq_left']
    rfl

theorem says_ok_bind {x : Except StoreError α} {a : α} (ok : x = .ok a) {f : α → Action S β}
    {r : Except StoreError β} : Says (liftM x >>= f) xs r ↔ Says (f a) xs r := by
  subst ok
  rfl

theorem mapM_liftM (f : α → Except StoreError β) (as : List α) :
    as.mapM (fun a => (liftM (f a) : Action S β)) = liftM (as.mapM f) := by
  induction as with
  | nil => rfl
  | cons a rest ih =>
    rw [List.mapM_cons, List.mapM_cons, ih]
    cases f a with
    | error e => rfl
    | ok b => cases rest.mapM f <;> rfl

theorem says_logAll {events : List LogEvent} {r : Except StoreError Unit} :
    Says (logAll events : Action S Unit) xs r ↔ xs = [] ∧ r = .ok () := by
  induction events with
  | nil => exact Program.says_done
  | cons event rest ih => exact Program.says_log.trans ih

theorem says_log_bind {event : LogEvent} {f : Unit → Action S β} {r : Except StoreError β} :
    Says (log event >>= f) xs r ↔ Says (f ()) xs r :=
  Program.says_log

end Action

/-! ## Operations -/

theorem Repository.says_outcome {τ : EntityType} {reply : α → Reply τ} {action : Action S α}
    {xs : List (Exchange S)} {o : Outcome τ} :
    Program.Says (outcome reply action) xs o ↔ ∃ r, action.Says xs r ∧ o = ⟨r.map reply, []⟩ := by
  refine Program.says_bind.trans ?_
  constructor
  · rintro ⟨r, first, _, whole, rest, rfl⟩
    obtain ⟨rfl, rfl⟩ := Program.says_done.mp rest
    rw [List.append_nil]
    exact ⟨r, whole, rfl⟩
  · rintro ⟨r, whole, rfl⟩
    exact ⟨r, xs, [], whole, .refl _, (List.append_nil xs).symm⟩

end EntityStore
