import EntityStore.Proofs.Search.Refused

/-!
# The limit of updates

However the answers of the engine contradict each other: one operation sends updates to no more
documents than the limit allows, in the order in which it is given the documents or finds them. An
operation that is refused for its size has sent none.
-/

namespace EntityStore

/-! ## Refusals for size -/

namespace StoreError

/-- The errors of too many documents, apart from those that the engine reports. -/
def ForSize : StoreError → Prop
  | invalidArgument .ids _ => True
  | overload (.reported _) => False
  | overload _ => True
  | _ => False

theorem not_forSize_ofBackend (kind : CallKind) (failure : BackendError) :
    ¬ (ofBackend kind failure).ForSize := by
  unfold ofBackend
  split <;> exact id

theorem not_forSize_ofBackendFor (kind : CallKind) (id : Id) (failure : BackendError) :
    ¬ (ofBackendFor kind id failure).ForSize := by
  unfold ofBackendFor
  split
  · exact fun sized => sized
  · exact not_forSize_ofBackend kind failure

end StoreError

namespace Search

variable {τ : EntityType}

/-! ## Updates of a conversation -/

def Call.update? : Call → Option UpdateRequest
  | update request => some request
  | _ => none

def updates (xs : List (Exchange service)) : List UpdateRequest := xs.filterMap (·.call.update?)

/-- The updates go to the documents one after the other, to each of them once or twice. -/
inductive InTurn : List Id → List UpdateRequest → Prop where
  | done : InTurn [] []
  | once {id : Id} {ids : List Id} {request : UpdateRequest} {later : List UpdateRequest}
    (own : request.id = id.display) (rest : InTurn ids later) :
    InTurn (id :: ids) (request :: later)
  | twice {id : Id} {ids : List Id} {request : UpdateRequest} {later : List UpdateRequest}
    (own : request.id = id.display) (rest : InTurn ids later) :
    InTurn (id :: ids) (request :: request :: later)

def Session.Capped (d : Session τ) (ids : List Id) (xs : List (Exchange service)) : Prop :=
  ∃ reached, reached <+: ids ∧ reached.length ≤ d.maxUpdateSize.toNat ∧ InTurn reached (updates xs)

theorem updates_append (xs ys : List (Exchange service)) :
    updates (xs ++ ys) = updates xs ++ updates ys := List.filterMap_append

theorem updates_of_searches {xs : List (Exchange service)}
    (searches : ∀ x ∈ xs, ∃ request, x.call = .search request) : updates xs = [] := by
  unfold updates
  rw [List.filterMap_eq_nil_iff]
  intro x mem
  obtain ⟨request, call⟩ := searches x mem
  rw [call]
  rfl

theorem updates_of_sends {id : Id} {request : UpdateRequest} {xs : List (Exchange service)}
    {outcome : Except StoreError WriteResponse} (sends : Sends id request xs outcome) :
    updates xs = [request] ∨ updates xs = [request, request] := by
  cases sends with
  | once => exact .inl rfl
  | unrefreshed => exact .inl rfl
  | twice => exact .inr rfl

theorem inTurn_of_sends {id : Id} {ids : List Id} {request : UpdateRequest}
    {xs : List (Exchange service)} {later : List UpdateRequest}
    {outcome : Except StoreError WriteResponse} (sends : Sends id request xs outcome)
    (own : request.id = id.display) (rest : InTurn ids later) :
    InTurn (id :: ids) (updates xs ++ later) := by
  rcases updates_of_sends sends with sent | sent
  · rw [sent]
    exact .once own rest
  · rw [sent]
    exact .twice own rest

theorem SendsEach.inTurn {requestOf : Id → UpdateRequest}
    (own : ∀ id, (requestOf id).id = id.display) {ids : List Id} {xs : List (Exchange service)}
    {r : Except StoreError Int64} (sends : SendsEach requestOf ids xs r) :
    ∃ reached, reached <+: ids ∧ InTurn reached (updates xs) := by
  induction sends with
  | done => exact ⟨[], List.nil_prefix, .done⟩
  | @failed id rest xs e sends =>
    have turn := inTurn_of_sends sends (own id) .done
    rw [List.append_nil] at turn
    exact ⟨[id], by simp, turn⟩
  | @next id rest xs later response others sends sendsRest ih =>
    obtain ⟨reached, first, turn⟩ := ih
    rw [updates_append]
    exact ⟨id :: reached, by simpa using first, inTurn_of_sends sends (own id) turn⟩

/-! ## Errors of updates -/

theorem Reported.not_forSize {e : StoreError} (reported : Reported e) : ¬ e.ForSize := by
  cases reported with
  | call failure => exact StoreError.not_forSize_ofBackend _ failure
  | document id failure => exact StoreError.not_forSize_ofBackendFor _ id failure

theorem SendsEach.not_forSize {requestOf : Id → UpdateRequest} {ids : List Id}
    {xs : List (Exchange service)} {r : Except StoreError Int64} {e : StoreError}
    (sends : SendsEach requestOf ids xs r) (failed : r = .error e) : ¬ e.ForSize := by
  induction sends with
  | done => cases failed
  | failed sends =>
    cases failed
    exact (sends.reported rfl).not_forSize
  | next _ _ ih => exact ih (map_eq_error.mp failed)

/-! ## Operations -/

namespace Session

variable {d : Session τ} {u : Update} {xs : List (Exchange service)} {r : Except StoreError Int64}

theorem capped_of_silent {ids : List Id} (silent : updates xs = []) : d.Capped ids xs := by
  refine ⟨[], List.nil_prefix, Nat.zero_le _, ?_⟩
  rw [silent]
  exact .done

theorem capped_of_updateByIds {ids : List Id} (whole : (d.updateByIds ids u).Says xs r) :
    d.Capped ids xs := by
  rcases sendsEach_of_updateByIds whole with ⟨rfl, -⟩ | ⟨few, version, doc, sends⟩
  · exact capped_of_silent rfl
  obtain ⟨reached, first, turn⟩ := sends.inTurn fun _ => rfl
  have fewer : reached.length ≤ ids.length := first.length_le
  exact ⟨reached, first, by omega, turn⟩

theorem silent_of_forSize_updateByIds {ids : List Id} {e : StoreError}
    (whole : (d.updateByIds ids u).Says xs (.error e)) (sized : e.ForSize) : updates xs = [] := by
  rcases sendsEach_of_updateByIds whole with ⟨rfl, -⟩ | ⟨-, version, doc, sends⟩
  · rfl
  · exact absurd sized (sends.not_forSize rfl)

theorem updates_of_looksUp {ids : List Id} {rest : List (Exchange service)}
    (looksUp : d.LooksUp xs ids rest) : updates xs = updates rest := by
  obtain ⟨request, counted, found, rfl, -⟩ := looksUp
  rfl

theorem silent_of_forSize_updateByCriteria {c : Criteria} {e : StoreError}
    (whole : (d.updateByCriteria u c).Says xs (.error e)) (sized : e.ForSize) :
    updates xs = [] := by
  rcases looksUp_of_updateByCriteria whole with searches | ⟨ids, rest, looksUp, changes⟩
  · exact updates_of_searches searches
  · rw [updates_of_looksUp looksUp]
    exact silent_of_forSize_updateByIds changes sized

end Session

/-- Whatever the engine answers: updates go to the given documents, or to those that are looked up
after they are counted, from the first one on and to no more than the limit allows; and none is sent
where the operation is refused for its size. -/
theorem updates_capped (d : Session τ) (u : Update) {σ : Type}
    (answer : (c : Call) → σ → service.Answer c × σ) (s : σ) :
    (∀ ids : List Id,
      let xs := (d.updateByIds ids u).run.exchanges answer s
      d.Capped ids xs ∧
      ∀ e, ((d.updateByIds ids u).run.run answer s).result = .error e → e.ForSize →
        updates xs = []) ∧
    ∀ c : Criteria,
      let xs := (d.updateByCriteria u c).run.exchanges answer s
      (updates xs = [] ∨ ∃ ids rest, d.LooksUp xs ids rest ∧ d.Capped ids rest) ∧
      ∀ e, ((d.updateByCriteria u c).run.run answer s).result = .error e → e.ForSize →
        updates xs = [] := by
  constructor
  · intro ids xs
    have whole := Program.says_exchanges answer (d.updateByIds ids u).run s
    refine ⟨Session.capped_of_updateByIds whole, ?_⟩
    intro e failed sized
    rw [failed] at whole
    exact Session.silent_of_forSize_updateByIds whole sized
  · intro c xs
    have whole := Program.says_exchanges answer (d.updateByCriteria u c).run s
    constructor
    · rcases Session.looksUp_of_updateByCriteria whole with searches | ⟨ids, rest, looksUp, changes⟩
      · exact .inl (updates_of_searches searches)
      · exact .inr ⟨ids, rest, looksUp, Session.capped_of_updateByIds changes⟩
    · intro e failed sized
      rw [failed] at whole
      exact Session.silent_of_forSize_updateByCriteria whole sized

def miscounted : (c : Call) → Unit → service.Answer c × Unit
  | .search _, _ =>
    (.ok { totalHits := 1, hits := [⟨"7", some 1, .object []⟩, ⟨"8", some 1, .object []⟩] }, ())
  | .update _, _ => (.ok ⟨.updated, 2⟩, ())
  | _, _ => (.error ⟨.other, "not asked", none⟩, ())

def oneAtATime : Session notes := { noteSession with maxUpdateSize := 1 }

theorem oneAtATime_sends_none :
    let action := oneAtATime.updateByCriteria titleChange (.single "title" .eq (.text "a"))
    (action.run.run miscounted ()).result = .error (.invalidArgument .ids (.tooManyIds 2 1)) ∧
      (StoreError.invalidArgument .ids (.tooManyIds 2 1)).ForSize ∧
      updates (action.run.exchanges miscounted ()) = [] := by
  intro action
  have refused : (action.run.run miscounted ()).result =
    .error (.invalidArgument .ids (.tooManyIds 2 1)) := rfl
  have capped := (updates_capped oneAtATime titleChange miscounted ()).2
    (.single "title" .eq (.text "a"))
  exact ⟨refused, trivial, capped.2 _ refused trivial⟩

end Search

end EntityStore
