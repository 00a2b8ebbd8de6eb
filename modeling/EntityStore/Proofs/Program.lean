import EntityStore.Program
import EntityStore.Proofs.Result

/-!
# Runs

What a program comes to, which calls it makes and which state its answers leave behind, taken apart
along the steps of the program.
-/

namespace EntityStore

variable {S : Service} {α β σ : Type}

/-! ## Programs -/

/-- Against the answers, the program comes to the result with the calls, and takes the first state
to the second. -/
structure Program.Ran (answer : (c : S.Call) → σ → S.Answer c × σ) (p : Program S α) (s : σ)
    (result : α) (calls : List S.Call) (after : σ) : Prop where
  result : (p.run answer s).result = result
  calls : (p.run answer s).calls = calls
  state : (p.run answer s).state = after

namespace Program

variable {answer : (c : S.Call) → σ → S.Answer c × σ} {s after : σ} {calls : List S.Call}

theorem ran_done {a b : α} (h : Ran answer (.done a) s b calls after) :
    b = a ∧ calls = [] ∧ after = s := by
  obtain ⟨rfl, rfl, rfl⟩ := h
  exact ⟨rfl, rfl, rfl⟩

theorem ran_log {event : LogEvent} {p : Program S α} {a : α}
    (h : Ran answer (.log event p) s a calls after) : Ran answer p s a calls after := by
  obtain ⟨rfl, rfl, rfl⟩ := h
  exact ⟨rfl, rfl, rfl⟩

theorem ran_call {c : S.Call} {k : S.Answer c → Program S α} {a : α}
    (h : Ran answer (.call c k) s a calls after) :
    ∃ later, calls = c :: later ∧
      Ran answer (k (answer c s).1) (answer c s).2 a later after := by
  obtain ⟨rfl, rfl, rfl⟩ := h
  exact ⟨_, rfl, rfl, rfl, rfl⟩

theorem ran_bind {p : Program S α} {f : α → Program S β} {b : β}
    (h : Ran answer (p.bind f) s b calls after) :
    ∃ a first between later, Ran answer p s a first between ∧
      Ran answer (f a) between b later after ∧ calls = first ++ later := by
  -- The first program is followed to its end, where the second takes over.
  induction p generalizing s calls with
  | done a => exact ⟨a, [], s, calls, ⟨rfl, rfl, rfl⟩, h, rfl⟩
  | log event rest ih =>
    obtain ⟨a, first, between, later, hfirst, hlater, rfl⟩ := ih (ran_log h)
    obtain ⟨rfl, rfl, rfl⟩ := hfirst
    exact ⟨_, _, _, later, ⟨rfl, rfl, rfl⟩, hlater, rfl⟩
  | call c k ih =>
    obtain ⟨rest, rfl, hrest⟩ := ran_call h
    obtain ⟨a, first, between, later, hfirst, hlater, rfl⟩ := ih _ hrest
    obtain ⟨rfl, rfl, rfl⟩ := hfirst
    exact ⟨_, _, _, later, ⟨rfl, rfl, rfl⟩, hlater, rfl⟩

end Program

/-! ## Actions -/

def Action.Ran (answer : (c : S.Call) → σ → S.Answer c × σ) (x : Action S α) (s : σ) (a : α)
    (calls : List S.Call) (after : σ) : Prop :=
  Program.Ran answer x.run s (.ok a) calls after

namespace Action

variable {answer : (c : S.Call) → σ → S.Answer c × σ} {s after : σ} {calls : List S.Call}

theorem ran_pure {a b : α} (h : Ran answer (pure a) s b calls after) :
    b = a ∧ calls = [] ∧ after = s := by
  obtain ⟨same, rest⟩ := Program.ran_done h
  exact ⟨Except.ok.inj same, rest⟩

theorem ran_lift {x : Except StoreError α} {a : α}
    (h : Ran answer (liftM x : Action S α) s a calls after) :
    x = .ok a ∧ calls = [] ∧ after = s := by
  obtain ⟨same, rest⟩ := Program.ran_done h
  exact ⟨same.symm, rest⟩

theorem ran_log {event : LogEvent} {u : Unit} (h : Ran answer (log event) s u calls after) :
    calls = [] ∧ after = s :=
  (Program.ran_done (Program.ran_log h)).2

theorem ran_call {classify : BackendError → StoreError} {c : S.Call} {reply : S.Reply c}
    (h : Ran answer (call classify c) s reply calls after) :
    (answer c s).1 = .ok reply ∧ calls = [c] ∧ after = (answer c s).2 := by
  obtain ⟨later, rfl, hlater⟩ := Program.ran_call h
  obtain ⟨same, rfl, rfl⟩ := Program.ran_done hlater
  exact ⟨mapError_eq_ok.mp same.symm, rfl, rfl⟩

theorem ran_bind {x : Action S α} {f : α → Action S β} {b : β}
    (h : Ran answer (x >>= f) s b calls after) :
    ∃ a first between later, Ran answer x s a first between ∧
      Ran answer (f a) between b later after ∧ calls = first ++ later := by
  obtain ⟨result, first, between, later, hx, hf, same⟩ := Program.ran_bind h
  cases result with
  | error e =>
    obtain ⟨refused, -⟩ := Program.ran_done hf
    cases refused
  | ok a => exact ⟨a, first, between, later, hx, hf, same⟩

theorem ran_program {p : Program S α} {a : α} (h : Ran answer (ExceptT.lift p) s a calls after) :
    Program.Ran answer p s a calls after := by
  obtain ⟨b, first, between, later, hp, hdone, rfl⟩ := Program.ran_bind h
  obtain ⟨same, rfl, rfl⟩ := Program.ran_done hdone
  rw [List.append_nil, Except.ok.inj same]
  exact hp

theorem ran_lift_bind {x : Except StoreError α} {f : α → Action S β} {b : β}
    (h : Ran answer (liftM x >>= f) s b calls after) :
    ∃ a, x = .ok a ∧ Ran answer (f a) s b calls after := by
  obtain ⟨a, first, between, later, hx, hf, same⟩ := ran_bind h
  obtain ⟨ok, rfl, rfl⟩ := ran_lift hx
  exact ⟨a, ok, same ▸ hf⟩

end Action

end EntityStore
