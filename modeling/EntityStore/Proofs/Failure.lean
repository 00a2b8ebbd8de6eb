import EntityStore.Proofs.Relational.Course
import EntityStore.Proofs.Search.Course
import EntityStore.Proofs.WideColumn.Course

/-!
# What becomes of a failure

A failed call is the last one, and the caller is told of it. The one exception is an update of a
document that accepts any version and lost to another write: a refresh follows, and the same update
where the index could be refreshed.
-/

namespace EntityStore

variable {S : Service} {τ : EntityType}

/-! ## What a caller is told -/

/-- What a failed call comes to. It may be in conflict about a document. -/
inductive Surfaces (kind : CallKind) (document? : Option String) (failure : BackendError) :
    StoreError → Prop where
  | duplicateKey (fault : failure.fault = .duplicateKey) :
    Surfaces kind document? failure (.uniqueConstraint failure)
  | windowTooLarge (fault : failure.fault = .windowTooLarge) :
    Surfaces kind document? failure (.overload (.reported failure.message))
  | conflict {id : String} (fault : failure.fault = .versionConflict)
    (about : document? = some id) : Surfaces kind document? failure (.versionConflict id failure)
  | other (notDuplicate : failure.fault ≠ .duplicateKey)
    (notWindow : failure.fault ≠ .windowTooLarge)
    (notConflict : failure.fault = .versionConflict → document? = none) :
    Surfaces kind document? failure (.remoteCall kind failure)

/-- The caller is told of a failure in its own words, and is given it unless the window was too
large. -/
structure Told (kind : CallKind) (document? : Option String) (failure : BackendError)
    (e : StoreError) : Prop where
  surfaces : Surfaces kind document? failure e
  message : ∃ lead, e.message = lead ++ failure.message
  source : failure.fault ≠ .windowTooLarge → e.backend? = some failure

variable {kind : CallKind} {document? : Option String} {failure : BackendError}

theorem Surfaces.told {e : StoreError} (surfaces : Surfaces kind document? failure e) :
    Told kind document? failure e where
  surfaces := surfaces
  message := by
    cases surfaces with
    | duplicateKey => exact ⟨_, rfl⟩
    | windowTooLarge => exact ⟨_, rfl⟩
    | conflict => exact ⟨_, rfl⟩
    | other => exact ⟨_, rfl⟩
  source narrow := by
    cases surfaces with
    | duplicateKey => rfl
    | windowTooLarge fault => exact absurd fault narrow
    | conflict => rfl
    | other => rfl

theorem surfaces_ofBackend (noConflict : failure.fault = .versionConflict → document? = none) :
    Surfaces kind document? failure (.ofBackend kind failure) := by
  unfold StoreError.ofBackend
  split
  · exact .duplicateKey ‹_›
  · exact .windowTooLarge ‹_›
  · exact .other ‹_› ‹_› noConflict

theorem surfaces_ofBackendFor (id : Id) :
    Surfaces kind (some id.display) failure (.ofBackendFor kind id failure) := by
  unfold StoreError.ofBackendFor
  split
  · exact .conflict ‹_› rfl
  · exact surfaces_ofBackend fun conflict => absurd conflict ‹_›

/-! ## Failed calls -/

section Heeds

variable (kind : CallKind) (document? : S.Call → Option String)
  (excused : Exchange S → List (Exchange S) → Prop)

/-- Wherever a call fails it is the last, and the caller is told of it, unless what follows excuses
it. -/
def Heeds (error? : Option StoreError) : List (Exchange S) → Prop
  | [] => True
  | x :: later =>
    (∀ failure, x.answer = .error failure →
      (later = [] ∧ ∃ e, error? = some e ∧ Told kind (document? x.call) failure e) ∨
        excused x later) ∧
    Heeds error? later

variable {kind document? excused} {xs ys : List (Exchange S)} {error? : Option StoreError}

theorem heeds_singleton {c : S.Call} {answer : S.Answer c} (classify : BackendError → StoreError)
    (surfaces : ∀ failure, Surfaces kind (document? c) failure (classify failure)) :
    Heeds kind document? excused ((refusal? answer).map classify) [⟨c, answer⟩] := by
  refine ⟨fun failure failed => .inl ⟨rfl, classify failure, ?_, (surfaces failure).told⟩, trivial⟩
  dsimp only at failed
  rw [failed]
  rfl

theorem Heeds.excuse {x : Exchange S} (heeds : Heeds kind document? excused none (x :: xs))
    {failure : BackendError} (failed : x.answer = .error failure) : excused x xs := by
  rcases heeds.1 failure failed with ⟨-, e, ended, -⟩ | excuse
  · cases ended
  · exact excuse

theorem Heeds.append
    (lasting : ∀ x xs, excused x xs → Heeds kind document? excused none xs →
      ∀ ys, excused x (xs ++ ys))
    (first : Heeds kind document? excused none xs) (rest : Heeds kind document? excused error? ys) :
    Heeds kind document? excused error? (xs ++ ys) := by
  induction xs with
  | nil => exact rest
  | cons x later ih =>
    exact ⟨fun failure failed => .inr (lasting x later (first.excuse failed) first.2 ys),
      ih first.2⟩

end Heeds

/-! ## Lost updates -/

namespace Search

/-- What follows an update that was lost: nothing more where the index cannot be refreshed or the
update fails again. -/
inductive Again (request : UpdateRequest) : List (Exchange service) → Prop where
  | unrefreshed (failure : BackendError) :
    Again request [⟨.refresh request.index, .error failure⟩]
  | failed (failure : BackendError) :
    Again request [⟨.refresh request.index, .ok ()⟩, ⟨.update request, .error failure⟩]
  | written (response : WriteResponse) (later : List (Exchange service)) :
    Again request (⟨.refresh request.index, .ok ()⟩ :: ⟨.update request, .ok response⟩ :: later)

inductive Retried : Exchange service → List (Exchange service) → Prop where
  | intro {request : UpdateRequest} {answer : Except BackendError WriteResponse}
    {later : List (Exchange service)} (lost : Lost request answer) (again : Again request later) :
    Retried ⟨.update request, answer⟩ later

theorem Retried.lasting {x : Exchange service} {xs : List (Exchange service)}
    (retried : Retried x xs) (heeds : Heeds .search Call.document? Retried none xs)
    (ys : List (Exchange service)) : Retried x (xs ++ ys) := by
  obtain ⟨lost, again⟩ := retried
  refine ⟨lost, ?_⟩
  cases again with
  | unrefreshed failure =>
    nomatch heeds.excuse rfl
  | failed failure =>
    obtain ⟨-, again⟩ := heeds.2.excuse rfl
    cases again
  | written response later => exact .written response (later ++ ys)

theorem Turn.heeds {xs : List (Exchange service)} {error? : Option StoreError}
    (turn : Turn xs error?) : Heeds .search Call.document? Retried error? xs := by
  cases turn with
  | call plain answer =>
    exact heeds_singleton _ fun failure => surfaces_ofBackend fun _ => plain
  | @update id request xs outcome own sends =>
    have last (answer : Except BackendError WriteResponse) :
        Heeds .search Call.document? Retried (refusal? (settled id answer))
          [⟨.update request, answer⟩] := by
      have same : refusal? (settled id answer) =
          (refusal? answer).map (.ofBackendFor .search id) := by cases answer <;> rfl
      rw [same]
      refine heeds_singleton _ fun failure => ?_
      rw [Call.document?, own]
      exact surfaces_ofBackendFor id
    cases sends with
    | once => exact last _
    | unrefreshed lost failure =>
      refine ⟨fun _ _ => .inr ⟨lost, .unrefreshed failure⟩, ?_⟩
      exact heeds_singleton (.ofBackend .search) fun _ => surfaces_ofBackend fun _ => rfl
    | twice lost second =>
      refine ⟨fun _ _ => .inr ⟨lost, ?_⟩, nofun, last second⟩
      cases second with
      | ok response => exact .written response []
      | error failure => exact .failed failure

end Search

end EntityStore
