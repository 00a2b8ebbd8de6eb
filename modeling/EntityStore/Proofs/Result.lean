import EntityStore.Argument
import Mathlib.Data.List.Forall2

/-!
# Computations that can fail

What it says about the steps of a computation that it came to a value, and what two computations
have in common step by step.
-/

namespace EntityStore

variable {ε α β : Type}

theorem bind_eq_ok {x : Except ε α} {f : α → Except ε β} {b : β} :
    x >>= f = .ok b ↔ ∃ a, x = .ok a ∧ f a = .ok b := by
  cases x with
  | error e => simp [bind, Except.bind]
  | ok a => simp [bind, Except.bind]

theorem bind_eq_error {x : Except ε α} {f : α → Except ε β} {e : ε} :
    x >>= f = .error e ↔ x = .error e ∨ ∃ a, x = .ok a ∧ f a = .error e := by
  cases x with
  | error e' => simp [bind, Except.bind]
  | ok a => simp [bind, Except.bind]

theorem map_eq_ok {x : Except ε α} {f : α → β} {b : β} :
    x.map f = .ok b ↔ ∃ a, x = .ok a ∧ f a = b := by
  cases x with
  | error e => simp [Except.map]
  | ok a => simp [Except.map]

theorem map_eq_error {x : Except ε α} {f : α → β} {e : ε} : x.map f = .error e ↔ x = .error e := by
  cases x with
  | error e' => simp [Except.map]
  | ok a => simp [Except.map]

theorem bind_map_congr {γ : Type} {x : Except ε α} {f : α → Except ε γ} {g : α → Except ε β}
    {h : β → γ} (each : ∀ a, f a = (g a).map h) :
    x >>= f = (x >>= g).map h := by
  cases x with
  | error e => rfl
  | ok a => exact each a

theorem mapError_eq_ok {δ : Type} {x : Except ε α} {f : ε → δ} {a : α} :
    x.mapError f = .ok a ↔ x = .ok a := by
  cases x with
  | error e => simp [Except.mapError]
  | ok b => simp [Except.mapError]

theorem mapError_eq_error {δ : Type} {x : Except ε α} {f : ε → δ} {e : δ} :
    x.mapError f = .error e ↔ ∃ e', x = .error e' ∧ f e' = e := by
  cases x with
  | error e' => simp [Except.mapError]
  | ok a => simp [Except.mapError]

theorem mapM_cons_eq_ok {f : α → Except ε β} {x : α} {xs : List α} {ys : List β} :
    (x :: xs).mapM f = .ok ys ↔ ∃ y zs, f x = .ok y ∧ xs.mapM f = .ok zs ∧ ys = y :: zs := by
  rw [List.mapM_cons, bind_eq_ok]
  constructor
  · rintro ⟨y, hy, h⟩
    obtain ⟨zs, hzs, h⟩ := bind_eq_ok.mp h
    cases h
    exact ⟨y, zs, hy, hzs, rfl⟩
  · rintro ⟨y, zs, hy, hzs, rfl⟩
    exact ⟨y, hy, bind_eq_ok.mpr ⟨zs, hzs, rfl⟩⟩

theorem map_eq_of_mapM {γ : Type} {f : α → Except ε β} {g : α → γ} {h : β → γ}
    (each : ∀ x y, f x = .ok y → h y = g x) {xs : List α} {ys : List β}
    (ok : xs.mapM f = .ok ys) : ys.map h = xs.map g := by
  induction xs generalizing ys with
  | nil => cases ok; rfl
  | cons x rest ih =>
    obtain ⟨y, zs, hy, hzs, rfl⟩ := mapM_cons_eq_ok.mp ok
    rw [List.map_cons, List.map_cons, each x y hy, ih hzs]

theorem mapM_eq_map {f : α → Except ε β} {g : α → β} (h : ∀ x y, f x = .ok y → y = g x)
    {xs : List α} {ys : List β} (ok : xs.mapM f = .ok ys) : ys = xs.map g := by
  rw [← map_eq_of_mapM h ok, List.map_id']

theorem exists_of_mem_mapM {f : α → Except ε β} {xs : List α} {ys : List β}
    (ok : xs.mapM f = .ok ys) {y : β} (hy : y ∈ ys) : ∃ x ∈ xs, f x = .ok y := by
  induction xs generalizing ys with
  | nil => cases ok; cases hy
  | cons x rest ih =>
    obtain ⟨z, zs, hz, hzs, rfl⟩ := mapM_cons_eq_ok.mp ok
    rcases List.mem_cons.mp hy with rfl | hy
    · exact ⟨x, List.mem_cons_self, hz⟩
    · obtain ⟨x', hx', h⟩ := ih hzs hy
      exact ⟨x', List.mem_cons_of_mem _ hx', h⟩

theorem forall_of_forM {f : α → Except ε Unit} {xs : List α} (ok : xs.forM f = .ok ()) :
    ∀ x ∈ xs, f x = .ok () := by
  induction xs with
  | nil => simp
  | cons x rest ih =>
    obtain ⟨⟨⟩, here, later⟩ := bind_eq_ok.mp ok
    exact List.forall_mem_cons.mpr ⟨here, ih later⟩

/-! ## Errors -/

/-- Whatever error the computation ends with is one of the given. -/
def FailsWith (given : ε → Prop) (x : Except ε α) : Prop := ∀ e, x = .error e → given e

section FailsWith

variable {given : ε → Prop}

theorem failsWith_ok (a : α) : FailsWith given (.ok a) := nofun

theorem failsWith_bind {x : Except ε α} {f : α → Except ε β} (first : FailsWith given x)
    (next : ∀ a, FailsWith given (f a)) : FailsWith given (x >>= f) := by
  cases x with
  | error e =>
    rintro _ ⟨⟩
    exact first e rfl
  | ok a => exact next a

theorem failsWith_mapM {f : α → Except ε β} (each : ∀ a, FailsWith given (f a)) (as : List α) :
    FailsWith given (as.mapM f) := by
  induction as with
  | nil => exact failsWith_ok []
  | cons a rest ih =>
    rw [List.mapM_cons]
    exact failsWith_bind (each a) fun b => failsWith_bind ih fun bs => failsWith_ok (b :: bs)

theorem failsWith_forM {f : α → Except ε Unit} (each : ∀ a, FailsWith given (f a)) (as : List α) :
    FailsWith given (as.forM f) := by
  induction as with
  | nil => exact failsWith_ok ()
  | cons a rest ih => exact failsWith_bind (each a) fun _ => ih

end FailsWith

/-! ## Checks -/

theorem require_eq_ok {ok : Bool} {parameter : Parameter} {fault : ArgumentFault} :
    require ok parameter fault = .ok () ↔ ok = true := by
  unfold require
  split_ifs with given
  · exact iff_of_true rfl given
  · exact iff_of_false nofun given

theorem require_bind_eq_ok {ok : Bool} {parameter : Parameter} {fault : ArgumentFault}
    {next : Unit → Except StoreError α} {a : α} :
    require ok parameter fault >>= next = .ok a ↔ ok = true ∧ next () = .ok a := by
  rw [bind_eq_ok]
  constructor
  · rintro ⟨⟨⟩, given, rest⟩
    exact ⟨require_eq_ok.mp given, rest⟩
  · rintro ⟨given, rest⟩
    exact ⟨(), require_eq_ok.mpr given, rest⟩

theorem failsWith_require {given : StoreError → Prop} {ok : Bool} {parameter : Parameter}
    {fault : ArgumentFault} (refused : given (.invalidArgument parameter fault)) :
    FailsWith given (require ok parameter fault) := by
  unfold require
  split_ifs
  · exact failsWith_ok ()
  · rintro _ ⟨⟩
    exact refused

/-! ## Refusals -/

def refusal? : Except ε α → Option ε
  | .ok _ => none
  | .error e => some e

@[simp] theorem refusal?_ok (a : α) : refusal? (.ok a : Except ε α) = none := rfl

@[simp] theorem refusal?_pure (a : α) : refusal? (pure a : Except ε α) = none := rfl

theorem refusal?_eq_none {x : Except ε α} : refusal? x = none ↔ ∃ a, x = .ok a := by
  cases x with
  | error e => simp [refusal?]
  | ok a => simp [refusal?]

theorem refusal?_eq_some {x : Except ε α} {e : ε} : refusal? x = some e ↔ x = .error e := by
  cases x with
  | error e' => simp [refusal?]
  | ok a => simp [refusal?]

theorem refusal?_bind {x : Except ε α} {f : α → Except ε β} {r : Option ε}
    (next : ∀ a, x = .ok a → refusal? (f a) = r) : refusal? (x >>= f) = (refusal? x).or r := by
  cases x with
  | error e => rfl
  | ok a => exact next a rfl

theorem refusal?_ite_bind {c : Prop} [Decidable c] {x y : Except ε α} {f : α → Except ε β}
    {r : Option ε} (next : ∀ a, refusal? (f a) = r) :
    refusal? (if c then x >>= f else y >>= f) = (refusal? (if c then x else y)).or r := by
  split
  · exact refusal?_bind fun a _ => next a
  · exact refusal?_bind fun a _ => next a

@[simp] theorem refusal?_map (x : Except ε α) (f : α → β) : refusal? (x.map f) = refusal? x := by
  cases x with
  | error e => rfl
  | ok a => rfl

theorem refusal?_mapM (f : α → Except ε β) (xs : List α) :
    refusal? (xs.mapM f) = xs.findSome? fun x => refusal? (f x) := by
  induction xs with
  | nil => rfl
  | cons x rest ih =>
    have later : ∀ y, f x = .ok y →
        refusal? (do let ys ← rest.mapM f; pure (y :: ys)) =
          rest.findSome? fun x => refusal? (f x) := by
      intro y _
      rw [refusal?_bind fun ys _ => refusal?_pure (y :: ys), ih, Option.or_none]
    rw [List.mapM_cons, refusal?_bind later, List.findSome?_cons]
    cases refusal? (f x) <;> rfl

theorem exists_of_mapM {f : α → Except ε β} {xs : List α} {ys : List β} (ok : xs.mapM f = .ok ys) :
    ∀ x ∈ xs, ∃ y, f x = .ok y := by
  have passes : refusal? (xs.mapM f) = none := refusal?_eq_none.mpr ⟨ys, ok⟩
  rw [refusal?_mapM, List.findSome?_eq_none_iff] at passes
  exact fun x mem => refusal?_eq_none.mp (passes x mem)

theorem mapM_eq_ok {f : α → Except ε β} {xs : List α} {ys : List β} :
    xs.mapM f = .ok ys ↔ List.Forall₂ (fun x y => f x = .ok y) xs ys := by
  induction xs generalizing ys with
  | nil =>
    rw [List.forall₂_nil_left_iff]
    constructor
    · rintro ⟨⟩
      rfl
    · rintro rfl
      rfl
  | cons x rest ih =>
    rw [mapM_cons_eq_ok, List.forall₂_cons_left_iff]
    simp only [ih]

theorem mapM_eq_error {f : α → Except ε β} {xs : List α} {e : ε} :
    xs.mapM f = .error e ↔ ∃ before x after, xs = before ++ x :: after ∧
      (∀ y ∈ before, ∃ z, f y = .ok z) ∧ f x = .error e := by
  simp only [← refusal?_eq_some, ← refusal?_eq_none, refusal?_mapM, List.findSome?_eq_some_iff,
    and_comm]

/-! ## Two computations -/

/-- Both come to values that are related, or both fail with the same error. -/
inductive Agree (r : α → β → Prop) : Except ε α → Except ε β → Prop where
  | ok {a : α} {b : β} (related : r a b) : Agree r (.ok a) (.ok b)
  | error (e : ε) : Agree r (.error e) (.error e)

theorem Agree.refl {r : α → α → Prop} (h : ∀ a, r a a) (x : Except ε α) : Agree r x x := by
  cases x with
  | error e => exact .error e
  | ok a => exact .ok (h a)

theorem Agree.bind {γ δ : Type} {r : α → β → Prop} {s : γ → δ → Prop} {x : Except ε α}
    {y : Except ε β} {f : α → Except ε γ} {g : β → Except ε δ} (h : Agree r x y)
    (next : ∀ a b, r a b → Agree s (f a) (g b)) : Agree s (x >>= f) (y >>= g) := by
  cases h with
  | ok related => exact next _ _ related
  | error e => exact .error e

theorem Agree.mapM {γ : Type} {r : α → β → Prop} {f : γ → Except ε α} {g : γ → Except ε β}
    (each : ∀ c, Agree r (f c) (g c)) (cs : List γ) :
    Agree (List.Forall₂ r) (cs.mapM f) (cs.mapM g) := by
  induction cs with
  | nil => exact .ok .nil
  | cons c rest ih =>
    rw [List.mapM_cons, List.mapM_cons]
    exact (each c).bind fun _ _ first => ih.bind fun _ _ later => .ok (.cons first later)

end EntityStore
