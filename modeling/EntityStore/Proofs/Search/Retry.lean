import EntityStore.Proofs.Conversation
import EntityStore.Proofs.Search.Notes

/-!
# How often an update is sent

An update is sent once. It is sent a second time, and not a third, where it accepts any version,
lost to another write, and the index could be refreshed. Several updates are sent one after the
other up to the first that fails.
-/

namespace EntityStore.Search

variable {τ : EntityType}

def changed (response : WriteResponse) : Int64 :=
  if response.result = .noop ∨ response.result = .notFound then 0 else 1

/-- What the last answer to an update of a document comes to. -/
def settled (id : Id) (answer : Except BackendError WriteResponse) :
    Except StoreError WriteResponse :=
  answer.mapError (.ofBackendFor .search id)

/-- An update that accepts any version met with another write. -/
def Lost (request : UpdateRequest) (answer : Except BackendError WriteResponse) : Prop :=
  request.version = .any ∧ ∃ failure, answer = .error failure ∧ failure.fault = .versionConflict

theorem lost_error_iff {request : UpdateRequest} {failure : BackendError} :
    Lost request (.error failure) ↔
      failure.fault = .versionConflict ∧ request.version = .any := by
  constructor
  · rintro ⟨any, _, ⟨⟩, conflict⟩
    exact ⟨conflict, any⟩
  · exact fun ⟨conflict, any⟩ => ⟨any, failure, rfl, conflict⟩

inductive Sends (id : Id) (request : UpdateRequest) :
    List (Exchange service) → Except StoreError WriteResponse → Prop where
  | once {answer : Except BackendError WriteResponse} (final : ¬ Lost request answer) :
    Sends id request [⟨.update request, answer⟩] (settled id answer)
  | unrefreshed {answer : Except BackendError WriteResponse} (lost : Lost request answer)
    (failure : BackendError) :
    Sends id request [⟨.update request, answer⟩, ⟨.refresh request.index, .error failure⟩]
      (.error (.ofBackend .search failure))
  | twice {answer : Except BackendError WriteResponse} (lost : Lost request answer)
    (second : Except BackendError WriteResponse) :
    Sends id request [⟨.update request, answer⟩, ⟨.refresh request.index, .ok ()⟩,
      ⟨.update request, second⟩] (settled id second)

/-- What is said about updates one after the other, up to the first that fails, and how many
documents they have changed. -/
inductive SendsEach (requestOf : Id → UpdateRequest) :
    List Id → List (Exchange service) → Except StoreError Int64 → Prop where
  | done : SendsEach requestOf [] [] (.ok 0)
  | failed {id : Id} {rest : List Id} {xs : List (Exchange service)} {e : StoreError}
    (sends : Sends id (requestOf id) xs (.error e)) : SendsEach requestOf (id :: rest) xs (.error e)
  | next {id : Id} {rest : List Id} {xs later : List (Exchange service)}
    {response : WriteResponse} {others : Except StoreError Int64}
    (sends : Sends id (requestOf id) xs (.ok response))
    (sendsRest : SendsEach requestOf rest later others) :
    SendsEach requestOf (id :: rest) (xs ++ later) (others.map (changed response + ·))

theorem Sends.eq_singleton {id : Id} {request : UpdateRequest} {xs : List (Exchange service)}
    {outcome : Except StoreError WriteResponse} {version : Int64}
    (sends : Sends id request xs outcome) (pinned : request.version = .pinned version) :
    ∃ answer, xs = [⟨.update request, answer⟩] ∧ outcome = settled id answer := by
  have never {answer : Except BackendError WriteResponse} : ¬ Lost request answer := by
    rintro ⟨any, -⟩
    cases pinned.symm.trans any
  cases sends with
  | once => exact ⟨_, rfl, rfl⟩
  | unrefreshed lost => exact absurd lost never
  | twice lost => exact absurd lost never

theorem Sends.request_eq {id : Id} {request again : UpdateRequest} {xs : List (Exchange service)}
    {outcome : Except StoreError WriteResponse} (sends : Sends id request xs outcome)
    {x : Exchange service} (mem : x ∈ xs) (call : x.call = .update again) : again = request := by
  cases sends with
  | once =>
    obtain rfl := List.mem_singleton.mp mem
    exact (Call.update.inj call).symm
  | unrefreshed =>
    simp only [List.mem_cons, List.not_mem_nil, or_false] at mem
    rcases mem with rfl | rfl
    · exact (Call.update.inj call).symm
    · cases call
  | twice =>
    simp only [List.mem_cons, List.not_mem_nil, or_false] at mem
    rcases mem with rfl | rfl | rfl
    · exact (Call.update.inj call).symm
    · cases call
    · exact (Call.update.inj call).symm

inductive Reported : StoreError → Prop where
  | call (failure : BackendError) : Reported (.ofBackend .search failure)
  | document (id : Id) (failure : BackendError) : Reported (.ofBackendFor .search id failure)

theorem Sends.reported {id : Id} {request : UpdateRequest} {xs : List (Exchange service)}
    {outcome : Except StoreError WriteResponse} {e : StoreError}
    (sends : Sends id request xs outcome) (failed : outcome = .error e) : Reported e := by
  have settles {answer : Except BackendError WriteResponse}
      (same : settled id answer = .error e) : Reported e := by
    cases answer with
    | ok response => cases same
    | error failure =>
      cases same
      exact .document id failure
  cases sends with
  | once => exact settles failed
  | unrefreshed lost failure =>
    cases failed
    exact .call failure
  | twice => exact settles failed

theorem updatedCount_eq_changed (response : WriteResponse) :
    Session.updatedCount response.result = changed response := by
  unfold Session.updatedCount changed
  cases response.result <;> rfl

namespace Session

variable {d : Session τ} {id : Id} {u : Update} {request : UpdateRequest}
  {xs : List (Exchange service)}

/-! ## One update -/

theorem says_refresh {r : Except StoreError Unit} :
    d.refresh.Says xs r ↔
      ∃ answer, xs = [⟨.refresh d.index, answer⟩] ∧ r = answer.mapError (.ofBackend .search) :=
  Action.says_log_bind.trans Action.says_call

theorem says_tryUpdate_bind {α : Type}
    {f : Except BackendError WriteResponse → Action service α} {r : Except StoreError α} :
    (tryUpdate request >>= f).Says xs r ↔
      ∃ answer later, xs = ⟨.update request, answer⟩ :: later ∧ (f answer).Says later r :=
  Program.says_call

theorem says_again {r : Except StoreError WriteResponse} (index : request.index = d.index) :
    (do Action.log (conflictEvent request)
        d.refresh
        Action.call (S := service) (.ofBackendFor .search id) (.update request) :
      Action service WriteResponse).Says xs r ↔
    (∃ failure, xs = [⟨.refresh request.index, .error failure⟩] ∧
      r = .error (.ofBackend .search failure)) ∨
    ∃ second, xs = [⟨.refresh request.index, .ok ()⟩, ⟨.update request, second⟩] ∧
      r = settled id second := by
  rw [Action.says_log_bind, Action.says_bind, index]
  constructor
  · rintro (⟨e, refreshed, rfl⟩ | ⟨⟨⟩, _, _, refreshed, called, rfl⟩)
    · obtain ⟨answer, rfl, same⟩ := says_refresh.mp refreshed
      cases answer with
      | error failure =>
        cases same
        exact .inl ⟨failure, rfl, rfl⟩
      | ok => cases same
    · obtain ⟨answer, rfl, same⟩ := says_refresh.mp refreshed
      obtain ⟨second, rfl, rfl⟩ := Action.says_call.mp called
      cases answer with
      | error failure => cases same
      | ok => exact .inr ⟨second, rfl, rfl⟩
  · rintro (⟨failure, rfl, rfl⟩ | ⟨second, rfl, rfl⟩)
    · exact .inl ⟨_, says_refresh.mpr ⟨.error failure, rfl, rfl⟩, rfl⟩
    · exact .inr ⟨(), _, _, says_refresh.mpr ⟨.ok (), rfl, rfl⟩,
        Action.says_call.mpr ⟨second, rfl, rfl⟩, rfl⟩

theorem says_sendUpdate {r : Except StoreError WriteResponse} (index : request.index = d.index) :
    (d.sendUpdate id request).Says xs r ↔ Sends id request xs r := by
  unfold sendUpdate
  rw [Action.says_log_bind, says_tryUpdate_bind]
  constructor
  · rintro ⟨answer, later, rfl, rest⟩
    cases answer with
    | ok response =>
      obtain ⟨rfl, rfl⟩ := Action.says_pure.mp rest
      exact .once (by rintro ⟨-, _, ⟨⟩, -⟩)
    | error failure =>
      dsimp only at rest
      split_ifs at rest with lost
      · rcases (says_again index).mp rest with ⟨_, rfl, rfl⟩ | ⟨second, rfl, rfl⟩
        · exact .unrefreshed (lost_error_iff.mpr lost) _
        · exact .twice (lost_error_iff.mpr lost) second
      · obtain ⟨rfl, rfl⟩ := Action.says_throw.mp rest
        exact .once fun given => lost (lost_error_iff.mp given)
  · rintro (@⟨answer, final⟩ | @⟨answer, lost, failure⟩ | @⟨answer, lost, second⟩)
    · refine ⟨answer, [], rfl, ?_⟩
      cases answer with
      | ok response => exact Action.says_pure.mpr ⟨rfl, rfl⟩
      | error failure =>
        dsimp only
        rw [if_neg fun lost => final (lost_error_iff.mpr lost)]
        exact Action.says_throw.mpr ⟨rfl, rfl⟩
    · obtain ⟨conflict, rfl, -⟩ := lost.2
      refine ⟨_, _, rfl, ?_⟩
      dsimp only
      rw [if_pos (lost_error_iff.mp lost)]
      exact (says_again index).mpr (.inl ⟨failure, rfl, rfl⟩)
    · obtain ⟨conflict, rfl, -⟩ := lost.2
      refine ⟨_, _, rfl, ?_⟩
      dsimp only
      rw [if_pos (lost_error_iff.mp lost)]
      exact (says_again index).mpr (.inr ⟨second, rfl, rfl⟩)

def requestOf (d : Session τ) (version : VersionSpec) (doc : Document) (id : Id) : UpdateRequest :=
  ⟨d.index, d.docType, id.display, version, doc⟩

theorem updateRequest_eq_ok : d.updateRequest id u = .ok request ↔
    ∃ version doc, d.versionOf u = .ok version ∧ partialDocument d.mapping u = .ok doc ∧
      request = d.requestOf version doc id := by
  unfold updateRequest
  simp only [bind_eq_ok]
  constructor
  · rintro ⟨version, hversion, doc, hdoc, ⟨⟩⟩
    exact ⟨version, doc, hversion, hdoc, rfl⟩
  · rintro ⟨version, doc, hversion, hdoc, rfl⟩
    exact ⟨version, hversion, doc, hdoc, rfl⟩

theorem says_sent {r : Except StoreError Int64} (index : request.index = d.index) :
    (do let response ← d.sendUpdate id request
        return updatedCount response.result : Action service Int64).Says xs r ↔
      ∃ outcome, Sends id request xs outcome ∧ r = outcome.map changed := by
  rw [Action.says_bind]
  simp only [says_sendUpdate index, Action.says_pure]
  constructor
  · rintro (⟨e, sends, rfl⟩ | ⟨response, first, _, sends, ⟨rfl, rfl⟩, rfl⟩)
    · exact ⟨.error e, sends, rfl⟩
    · rw [List.append_nil, updatedCount_eq_changed]
      exact ⟨.ok response, sends, rfl⟩
  · rintro ⟨outcome, sends, rfl⟩
    cases outcome with
    | error e => exact .inl ⟨e, sends, rfl⟩
    | ok response =>
      refine .inr ⟨response, xs, [], sends, ⟨rfl, ?_⟩, (List.append_nil xs).symm⟩
      rw [updatedCount_eq_changed]
      rfl

theorem index_of_updateRequest (ok : d.updateRequest id u = .ok request) :
    request.index = d.index := by
  obtain ⟨_, _, -, -, rfl⟩ := updateRequest_eq_ok.mp ok
  rfl

theorem says_updateById {r : Except StoreError Int64} (checked : id.check = .ok ())
    (set : u.check = .ok ()) (ok : d.updateRequest id u = .ok request) :
    (d.updateById id u).Says xs r ↔
      ∃ outcome, Sends id request xs outcome ∧ r = outcome.map changed := by
  unfold updateById
  rw [Action.says_ok_bind checked, Action.says_ok_bind set, Action.says_ok_bind ok,
    says_sent (index_of_updateRequest ok)]

theorem sends_of_updateById {r : Except StoreError Int64} (whole : (d.updateById id u).Says xs r) :
    (xs = [] ∧ ∃ e, r = .error e) ∨ ∃ request outcome, d.updateRequest id u = .ok request ∧
      Sends id request xs outcome ∧ r = outcome.map changed := by
  rcases Action.says_lift_bind.mp whole with ⟨e, -, rfl, rfl⟩ | ⟨_, -, whole⟩
  · exact .inl ⟨rfl, e, rfl⟩
  rcases Action.says_lift_bind.mp whole with ⟨e, -, rfl, rfl⟩ | ⟨_, -, whole⟩
  · exact .inl ⟨rfl, e, rfl⟩
  rcases Action.says_lift_bind.mp whole with ⟨e, -, rfl, rfl⟩ | ⟨request, ok, whole⟩
  · exact .inl ⟨rfl, e, rfl⟩
  obtain ⟨outcome, sends, rfl⟩ := (says_sent (index_of_updateRequest ok)).mp whole
  exact .inr ⟨request, outcome, ok, sends, rfl⟩

/-! ## Several updates -/

theorem says_updateEach {requestOf : Id → UpdateRequest} {ids : List Id} (set : u.check = .ok ())
    (checked : ∀ id ∈ ids, id.check = .ok ()) (ok : ∀ id, d.updateRequest id u = .ok (requestOf id))
    {r : Except StoreError Int64} :
    (d.updateEach u ids).Says xs r ↔ SendsEach requestOf ids xs r := by
  induction ids generalizing xs r with
  | nil =>
    unfold updateEach
    rw [Action.says_pure]
    constructor
    · rintro ⟨rfl, rfl⟩
      exact .done
    · rintro ⟨⟩
      exact ⟨rfl, rfl⟩
  | cons id rest ih =>
    have ih {ys r'} := @ih ys (fun id mem => checked id (List.mem_cons_of_mem _ mem)) r'
    have here {ys r'} : (d.updateById id u).Says ys r' ↔ _ :=
      says_updateById (checked id List.mem_cons_self) set (ok id)
    unfold updateEach
    rw [Action.says_bind]
    simp only [here, Action.says_bind, ih, Action.says_pure]
    constructor
    · rintro (⟨e, ⟨outcome, sends, same⟩, rfl⟩ |
        ⟨n, first, _, ⟨outcome, sends, same⟩, ⟨e, others, rfl⟩ |
          ⟨sum, later, _, others, ⟨rfl, rfl⟩, rfl⟩, rfl⟩)
      · cases outcome with
        | error e' =>
          cases same
          exact .failed sends
        | ok response => cases same
      · cases outcome with
        | error e' => cases same
        | ok response => exact .next sends others
      · cases outcome with
        | error e' => cases same
        | ok response =>
          cases same
          rw [List.append_nil]
          exact .next sends others
    · rintro (_ | sends | @⟨_, _, first, later, response, others, sends, sendsRest⟩)
      · exact .inl ⟨_, ⟨_, sends, rfl⟩, rfl⟩
      · refine .inr ⟨_, first, later, ⟨_, sends, rfl⟩, ?_, rfl⟩
        cases others with
        | error e => exact .inl ⟨e, sendsRest, rfl⟩
        | ok sum => exact .inr ⟨sum, later, [], sendsRest, ⟨rfl, rfl⟩, (List.append_nil _).symm⟩

theorem check_of_checkIds {ids : List Id} (checked : checkIds ids = .ok ()) :
    ∀ id ∈ ids, id.check = .ok () := by
  obtain ⟨_, -, checked⟩ := bind_eq_ok.mp checked
  intro id mem
  have valid := require_eq_ok.mp (forall_of_forM checked id mem)
  unfold Id.check
  exact require_eq_ok.mpr valid

theorem says_updateByIds {requestOf : Id → UpdateRequest} {ids : List Id}
    (checked : checkIds ids = .ok ()) (set : u.check = .ok ())
    (few : ids.length ≤ d.maxUpdateSize.toNat)
    (ok : ∀ id, d.updateRequest id u = .ok (requestOf id)) {r : Except StoreError Int64} :
    (d.updateByIds ids u).Says xs r ↔ SendsEach requestOf ids xs r := by
  have fits : require (ids.length ≤ d.maxUpdateSize.toNat) .ids
      (.tooManyIds ids.length d.maxUpdateSize.toNat) = .ok () :=
    require_eq_ok.mpr (decide_eq_true few)
  unfold updateByIds
  rw [Action.says_ok_bind checked, Action.says_ok_bind set, Action.says_ok_bind fits,
    says_updateEach set (check_of_checkIds checked) ok]

theorem sendsEach_of_updateEach {ids : List Id} (set : u.check = .ok ())
    (checked : ∀ id ∈ ids, id.check = .ok ()) {r : Except StoreError Int64}
    (whole : (d.updateEach u ids).Says xs r) :
    (xs = [] ∧ ∃ e, r = .error e) ∨
      ∃ version doc, SendsEach (d.requestOf version doc) ids xs r := by
  -- The version and the fields are the same for every document: all pass, or the first is refused.
  by_cases fits : ∃ version doc, d.versionOf u = .ok version ∧ partialDocument d.mapping u = .ok doc
  · obtain ⟨version, doc, hversion, hdoc⟩ := fits
    have ok (id : Id) : d.updateRequest id u = .ok (d.requestOf version doc id) :=
      updateRequest_eq_ok.mpr ⟨version, doc, hversion, hdoc, rfl⟩
    exact .inr ⟨version, doc, (says_updateEach set checked ok).mp whole⟩
  · have refused {id : Id} {ys : List (Exchange service)} {r' : Except StoreError Int64}
        (said : (d.updateById id u).Says ys r') : ys = [] ∧ ∃ e, r' = .error e := by
      rcases sends_of_updateById said with first | ⟨request, outcome, ok, -, -⟩
      · exact first
      · obtain ⟨version, doc, hversion, hdoc, -⟩ := updateRequest_eq_ok.mp ok
        exact absurd ⟨version, doc, hversion, hdoc⟩ fits
    cases ids with
    | nil =>
      obtain ⟨rfl, rfl⟩ := Action.says_pure.mp whole
      exact .inr ⟨.any, [], .done⟩
    | cons id rest =>
      rcases Action.says_bind.mp whole with ⟨e, said, rfl⟩ | ⟨n, said, later, first, -, -⟩
      · exact .inl ⟨(refused said).1, e, rfl⟩
      · obtain ⟨-, e, failed⟩ := refused first
        cases failed

theorem sendsEach_of_updateByIds {ids : List Id} {r : Except StoreError Int64}
    (whole : (d.updateByIds ids u).Says xs r) :
    (xs = [] ∧ ∃ e, r = .error e) ∨ ids.length ≤ d.maxUpdateSize.toNat ∧
      ∃ version doc, SendsEach (d.requestOf version doc) ids xs r := by
  rcases Action.says_lift_bind.mp whole with ⟨e, -, silent, failed⟩ | ⟨⟨⟩, checked, whole⟩
  · exact .inl ⟨silent, e, failed⟩
  rcases Action.says_lift_bind.mp whole with ⟨e, -, silent, failed⟩ | ⟨⟨⟩, set, whole⟩
  · exact .inl ⟨silent, e, failed⟩
  rcases Action.says_lift_bind.mp whole with ⟨e, -, silent, failed⟩ | ⟨⟨⟩, few, whole⟩
  · exact .inl ⟨silent, e, failed⟩
  have fits := of_decide_eq_true (require_eq_ok.mp few)
  rcases sendsEach_of_updateEach set (check_of_checkIds checked) whole with refused | sends
  · exact .inl refused
  · exact .inr ⟨fits, sends⟩

end Session

/-! ## Answers of a service -/

/-- How far it goes is up to the answers alone. -/
theorem Sends.calls_iff {σ : Type} {answer : (c : Call) → σ → service.Answer c × σ} {s : σ}
    {id : Id} {request : UpdateRequest} {xs : List (Exchange service)}
    {outcome : Except StoreError WriteResponse} (sends : Sends id request xs outcome)
    (answered : Program.Answered answer s xs) :
    let first := answer (.update request) s
    let refreshed := answer (.refresh request.index) first.2
    (xs.map (·.call) = [.update request] ↔ ¬ Lost request first.1) ∧
    (xs.map (·.call) = [.update request, .refresh request.index] ↔
      Lost request first.1 ∧ ∃ failure, refreshed.1 = .error failure) ∧
    (xs.map (·.call) = [.update request, .refresh request.index, .update request] ↔
      Lost request first.1 ∧ refreshed.1 = .ok ()) := by
  cases sends with
  | once final =>
    obtain ⟨first, -⟩ := answered
    dsimp only at first
    subst first
    simp [final]
  | unrefreshed lost failure =>
    obtain ⟨first, refreshed, -⟩ := answered
    dsimp only at first refreshed
    subst first
    simp [lost, ← refreshed]
  | twice lost second =>
    obtain ⟨first, refreshed, -⟩ := answered
    dsimp only at first refreshed
    subst first
    simp [lost, ← refreshed]

/-- Whatever the service answers: an update past its checks is sent once, or a second time after a
refresh, and several are sent in the order of their documents. -/
theorem updates_sent {τ : EntityType} {d : Session τ} {u : Update} {version : VersionSpec}
    {doc : Document} (set : u.check = .ok ()) (hversion : d.versionOf u = .ok version)
    (hdoc : partialDocument d.mapping u = .ok doc) {σ : Type}
    (answer : (c : Call) → σ → service.Answer c × σ) (s : σ) :
    (∀ id : Id, id.check = .ok () →
      let request := d.requestOf version doc id
      let first := answer (.update request) s
      let refreshed := answer (.refresh d.index) first.2
      let run := (d.updateById id u).run.run answer s
      (∃ xs outcome, Sends id request xs outcome ∧ Program.Answered answer s xs ∧
        run.calls = xs.map (·.call) ∧ run.result = outcome.map changed) ∧
      (run.calls = [.update request] ↔ ¬ Lost request first.1) ∧
      (run.calls = [.update request, .refresh d.index] ↔
        Lost request first.1 ∧ ∃ failure, refreshed.1 = .error failure) ∧
      (run.calls = [.update request, .refresh d.index, .update request] ↔
        Lost request first.1 ∧ refreshed.1 = .ok ()) ∧
      ∀ failure, failure.fault = .versionConflict →
        settled id (.error failure) = .error (.versionConflict id.display failure)) ∧
    ∀ ids : List Id, checkIds ids = .ok () → ids.length ≤ d.maxUpdateSize.toNat →
      let run := (d.updateByIds ids u).run.run answer s
      ∃ xs, SendsEach (d.requestOf version doc) ids xs run.result ∧ Program.Answered answer s xs ∧
        run.calls = xs.map (·.call) := by
  have ok (id : Id) : d.updateRequest id u = .ok (d.requestOf version doc id) :=
    Session.updateRequest_eq_ok.mpr ⟨version, doc, hversion, hdoc, rfl⟩
  refine ⟨fun id checked => ?_, fun ids checked few => ?_⟩
  · obtain ⟨xs, whole, answered, calls⟩ := Program.exists_says_run answer (d.updateById id u).run s
    obtain ⟨outcome, sends, result⟩ := (Session.says_updateById checked set (ok id)).mp whole
    obtain ⟨once, unrefreshed, twice⟩ := sends.calls_iff answered
    rw [← calls] at once unrefreshed twice
    refine ⟨⟨xs, outcome, sends, answered, calls, result⟩, once, unrefreshed, twice, ?_⟩
    intro failure conflict
    simp [settled, Except.mapError, StoreError.ofBackendFor, conflict]
  · obtain ⟨xs, whole, answered, calls⟩ :=
      Program.exists_says_run answer (d.updateByIds ids u).run s
    exact ⟨xs, (Session.says_updateByIds checked set few ok).mp whole, answered, calls⟩

def titleChange : Update := ⟨[("title", .text "second")]⟩

def lostOnce : (c : Call) → Nat → service.Answer c × Nat
  | .update _, 0 => (.error ⟨.versionConflict, "another write", none⟩, 1)
  | .update _, n => (.ok ⟨.updated, 3⟩, n + 1)
  | .refresh _, n => (.ok (), n + 1)
  | _, n => (.error ⟨.other, "not asked", none⟩, n)

theorem titleChange_sent_twice :
    titleChange.check = .ok () ∧ noteSession.versionOf titleChange = .ok .any ∧
    partialDocument noteSession.mapping titleChange = .ok [("title", .text "second")] ∧
    (Id.int 7).check = .ok () ∧
    ((noteSession.updateById (.int 7) titleChange).run.run lostOnce 0).calls =
      [.update ⟨"notes", none, "7", .any, [("title", .text "second")]⟩, .refresh "notes",
        .update ⟨"notes", none, "7", .any, [("title", .text "second")]⟩] := by
  have set : titleChange.check = .ok () := rfl
  have version : noteSession.versionOf titleChange = .ok .any := rfl
  have doc : partialDocument noteSession.mapping titleChange =
      .ok [("title", .text "second")] := rfl
  have checked : (Id.int 7).check = .ok () := rfl
  obtain ⟨-, -, -, twice, -⟩ := (updates_sent set version doc lostOnce 0).1 (.int 7) checked
  exact ⟨set, version, doc, checked, twice.mpr ⟨⟨rfl, _, rfl, rfl⟩, rfl⟩⟩

end EntityStore.Search
