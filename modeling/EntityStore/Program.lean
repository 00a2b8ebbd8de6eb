import EntityStore.Error
import EntityStore.Log

/-!
# Programs

An operation of a store is a program: it tells the log something, calls a service and goes on with
the answer, or is done. A program is data. It is run by whatever answers its calls, and running it
gives its result and everything it did, in order.
-/

namespace EntityStore

/-- The calls that a service takes, and what it answers each of them. -/
structure Service where
  Call : Type
  Reply : Call → Type

/-- The answer to a call: a reply, or the failure that the backend reports. -/
abbrev Service.Answer (S : Service) (c : S.Call) := Except BackendError (S.Reply c)

inductive Program (S : Service) (α : Type) where
  | done (result : α)
  | log (event : LogEvent) (rest : Program S α)
  | call (c : S.Call) (rest : S.Answer c → Program S α)

namespace Program

variable {S : Service} {α β σ : Type}

def bind (p : Program S α) (f : α → Program S β) : Program S β :=
  match p with
  | done a => f a
  | log event rest => log event (rest.bind f)
  | call c rest => call c fun answer => (rest answer).bind f

instance : Monad (Program S) where
  pure := done
  bind := bind

@[simp] theorem pure_eq (a : α) : (pure a : Program S α) = done a := rfl

@[simp] theorem bind_eq (p : Program S α) (f : α → Program S β) : p >>= f = p.bind f := rfl

@[simp] theorem done_bind (a : α) (f : α → Program S β) : (done a).bind f = f a := rfl

@[simp] theorem log_bind (event : LogEvent) (p : Program S α) (f : α → Program S β) :
    (log event p).bind f = log event (p.bind f) := rfl

@[simp] theorem call_bind (c : S.Call) (k : S.Answer c → Program S α) (f : α → Program S β) :
    (call c k).bind f = call c fun answer => (k answer).bind f := rfl

theorem bind_done (p : Program S α) : p.bind done = p := by
  induction p with
  | done a => rfl
  | log event rest ih => simp [ih]
  | call c rest ih => simp [ih]

theorem bind_assoc {γ : Type} (p : Program S α) (f : α → Program S β) (g : β → Program S γ) :
    (p.bind f).bind g = p.bind fun a => (f a).bind g := by
  induction p with
  | done a => rfl
  | log event rest ih => simp [ih]
  | call c rest ih => simp [ih]

instance : LawfulMonad (Program S) :=
  LawfulMonad.mk' (Program S) (fun p => bind_done p) (fun _ _ => rfl) bind_assoc

def logAll (events : List LogEvent) (rest : Program S α) : Program S α :=
  events.foldr log rest

/-! ## Running -/

inductive Step (S : Service) where
  | logged (event : LogEvent)
  | called (c : S.Call)

/-- How a run ended: the result, the steps and the state that the answers left behind. -/
structure Run (S : Service) (α σ : Type) where
  result : α
  steps : List (Step S)
  state : σ

/-- Runs a program against whatever answers calls from a state. -/
def run (answer : (c : S.Call) → σ → S.Answer c × σ) : Program S α → σ → Run S α σ
  | done a, s => ⟨a, [], s⟩
  | log event rest, s =>
    let r := rest.run answer s
    { r with steps := .logged event :: r.steps }
  | call c rest, s =>
    let (reply, s') := answer c s
    let r := (rest reply).run answer s'
    { r with steps := .called c :: r.steps }

def Run.calls (r : Run S α σ) : List S.Call :=
  r.steps.filterMap fun
    | .called c => some c
    | .logged _ => none

def Run.events (r : Run S α σ) : List LogEvent :=
  r.steps.filterMap fun
    | .called _ => none
    | .logged event => some event

end Program

/-! ## Programs that can fail -/

abbrev Action (S : Service) (α : Type) := ExceptT StoreError (Program S) α

namespace Action

variable {S : Service}

def log (event : LogEvent) : Action S Unit := ExceptT.mk (.log event (.done (.ok ())))

def logAll (events : List LogEvent) : Action S Unit :=
  ExceptT.mk (Program.logAll events (.done (.ok ())))

/-- Calls the service; a failure becomes the error that `classify` makes of it. -/
def call (classify : BackendError → StoreError) (c : S.Call) : Action S (S.Reply c) :=
  ExceptT.mk (.call c fun answer => .done (answer.mapError classify))

end Action

end EntityStore
