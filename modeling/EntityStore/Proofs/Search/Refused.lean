import EntityStore.Proofs.Search.Found

/-!
# When arguments are refused

A search store refuses arguments before it calls the engine, with two exceptions: of several
entities to insert each is checked after those before it are stored, and what an update of found
documents sets is checked after they have been counted and searched for.
-/

namespace EntityStore.Search

variable {τ : EntityType} {d : Session τ} {xs : List (Exchange service)}

namespace Session

def RefusedFirst (d : Session τ) : Operation τ → Prop
  | .insertBatch es => ∀ e ∈ es.head?, ∃ failure, d.documentId e = .error failure
  | .updateByCriteria u c =>
    (∃ e, u.check = .error e) ∨ (∃ e, c.check = .error e) ∨ ∃ e, query d.mapping (some c) = .error e
  | _ => True

/-! ## Insertions of several entities -/

theorem eq_nil_iff_of_insertBatch {es : List (Entity τ)} {b : BatchInsertion τ}
    (whole : (d.insertBatch es).Says xs b) :
    xs = [] ↔ d.RefusedFirst (.insertBatch es) := by
  cases es with
  | nil =>
    obtain ⟨rfl, -⟩ := Program.says_done.mp whole
    simp [RefusedFirst]
  | cons e rest =>
    obtain ⟨i, said, later, first, others, rfl⟩ := Program.says_bind.mp whole
    simp only [RefusedFirst, List.head?_cons, Option.mem_some_iff, forall_eq']
    unfold insert at first
    cases chosen : d.documentId e with
    | error failure =>
      simp only [chosen] at first
      obtain ⟨rfl, rfl⟩ := Program.says_done.mp first
      obtain ⟨rfl, -⟩ := Program.says_done.mp others
      simp
    | ok id =>
      simp only [chosen] at first
      obtain ⟨answer, called, _, created, -, rfl⟩ := Program.says_bind.mp first
      obtain ⟨stored, rfl, -⟩ := Action.says_call.mp (Action.says_log_bind.mp created)
      simp

/-! ## Updates of what a criteria chain finds -/

theorem eq_nil_iff_of_updateByCriteria {u : Update} {c : Criteria} {r : Except StoreError Int64}
    (whole : (d.updateByCriteria u c).Says xs r) :
    xs = [] ↔ d.RefusedFirst (.updateByCriteria u c) := by
  unfold RefusedFirst
  rcases updatesFound_of_updateByCriteria whole with
    ⟨rfl, refused⟩ | ⟨q, set, checked, compiled, found⟩
  · exact iff_of_true rfl refused
  · have said : xs ≠ [] := by cases found <;> exact List.cons_ne_nil _ _
    simp [said, set, checked, compiled]

/-- The documents are counted and looked up: the ids are theirs, and the rest is said then. -/
def LooksUp (d : Session τ) (xs : List (Exchange service)) (ids : List Id)
    (rest : List (Exchange service)) : Prop :=
  ∃ (request : SearchRequest) (counted found : SearchResponse),
    xs = ⟨.search request, .ok counted⟩ ::
      ⟨.search { request with size := counted.totalHits }, .ok found⟩ :: rest ∧
    found.hits.mapM (fun hit => parseId d.mapping hit.id) = .ok ids

theorem looksUp_of_updateByCriteria {u : Update} {c : Criteria} {r : Except StoreError Int64}
    (whole : (d.updateByCriteria u c).Says xs r) :
    (∀ x ∈ xs, ∃ request, x.call = .search request) ∨
      ∃ ids rest, d.LooksUp xs ids rest ∧ (d.updateByIds ids u).Says rest r := by
  rcases updatesFound_of_updateByCriteria whole with ⟨rfl, -⟩ | ⟨q, -, -, -, found⟩
  · simp
  cases found with
  | uncounted => simp
  | nothing => simp
  | tooMany => simp
  | looksUp counted some room goesOn =>
    cases goesOn with
    | unanswered => simp
    | foreign => simp
    | nothing => simp
    | updates parsed some said => exact .inr ⟨_, _, ⟨_, counted, _, rfl, parsed⟩, said⟩

theorem searches_of_updateByCriteria {u : Update} {c : Criteria} {e : StoreError}
    (whole : (d.updateByCriteria u c).Says xs (.error e)) (untried : e.Untried) :
    ∀ x ∈ xs, ∃ request, x.call = .search request := by
  rcases looksUp_of_updateByCriteria whole with searches | ⟨ids, rest, looksUp, changes⟩
  · exact searches
  have silent : rest = [] := (keeps_updateByIds ids u rest _ changes).eq_nil_of_untried
    (fun _ _ => Turn.late_of_failed) untried
  obtain ⟨request, counted, found, rfl, -⟩ := looksUp
  simp [silent]

end Session

/-! ## All operations -/

variable {operation : Operation τ} {σ : Type} {answer : (c : Call) → σ → service.Answer c × σ}
  {s : σ} {parameter : Parameter} {fault : ArgumentFault}

theorem Session.silent_of_refused (simple : operation.isCompound = false)
    (refused : ((d.repository.perform operation).run answer s).result.result =
      .error (.invalidArgument parameter fault)) :
    ((d.repository.perform operation).run answer s).calls = [] :=
  (d.abides.untouched (fun _ _ => Turn.late_of_failed) (by simp [simple]) refused trivial).1

/-- Whatever the engine answers: of the operations that are refused for an argument, those have
called nothing whose fault is found first; the others have only searched, unless they insert several
entities. -/
theorem silent_iff_of_refused (d : Session τ) (operation : Operation τ)
    (answer : (c : Call) → σ → service.Answer c × σ) (s : σ)
    (refused : ((d.repository.perform operation).run answer s).result.result =
      .error (.invalidArgument parameter fault)) :
    (((d.repository.perform operation).run answer s).calls = [] ↔ d.RefusedFirst operation) ∧
    ((∀ es, operation ≠ .insertBatch es) →
      ∀ call ∈ ((d.repository.perform operation).run answer s).calls,
        ∃ request, call = .search request) := by
  have whole := Program.says_exchanges answer (d.repository.perform operation) s
  cases operation with
  | insertBatch es =>
    obtain ⟨b, said, _, inserted, ended, same⟩ := Program.says_bind.mp whole
    obtain ⟨rfl, -⟩ := Program.says_done.mp ended
    rw [← Program.map_call_exchanges, same, List.append_nil, List.map_eq_nil_iff]
    exact ⟨Session.eq_nil_iff_of_insertBatch inserted, fun others => absurd rfl (others es)⟩
  | updateByCriteria u c =>
    obtain ⟨r, said, same⟩ := Repository.says_outcome.mp whole
    rw [same] at refused
    obtain rfl : r = .error _ := map_eq_error.mp refused
    rw [← Program.map_call_exchanges, List.map_eq_nil_iff]
    refine ⟨Session.eq_nil_iff_of_updateByCriteria said, fun _ => ?_⟩
    exact List.forall_mem_map.mpr (Session.searches_of_updateByCriteria said trivial)
  | _ =>
    have silent := Session.silent_of_refused rfl refused
    exact ⟨iff_of_true silent trivial, fun _ => by simp [silent]⟩

def strayChange : Update := ⟨[("nope", .text "x")]⟩

def strayUpdate : Operation notes := .updateByCriteria strayChange (.single "title" .eq (.text "a"))

def oneFound : (c : Call) → Unit → service.Answer c × Unit
  | .search _, _ => (.ok { totalHits := 1, hits := [⟨"7", some 1, .object []⟩] }, ())
  | _, _ => (.error ⟨.other, "not asked", none⟩, ())

def titledA : SearchRequest where
  index := "notes"
  query := .bool [.term "title" (.text "a")] []
  source := some []

theorem strayUpdate_refused_late :
    let run := (noteSession.repository.perform strayUpdate).run oneFound ()
    run.result.result = .error (.unknownProperty .update "nope") ∧
      run.calls = [.search titledA, .search { titledA with size := 1 }] ∧
      ¬ noteSession.RefusedFirst strayUpdate := by
  intro run
  have refused : run.result.result = .error (.unknownProperty .update "nope") := rfl
  have calls : run.calls = [.search titledA, .search { titledA with size := 1 }] := rfl
  have silent := (silent_iff_of_refused noteSession strayUpdate oneFound () refused).1
  refine ⟨refused, calls, fun first => ?_⟩
  cases calls.symm.trans (silent.mpr first)

theorem not_silent_of_refused : ¬ ∀ (d : Session notes) (operation : Operation notes)
    (answer : (c : Call) → Unit → service.Answer c × Unit) (parameter : Parameter)
    (fault : ArgumentFault),
    ((d.repository.perform operation).run answer ()).result.result =
      .error (.invalidArgument parameter fault) →
    ((d.repository.perform operation).run answer ()).calls = [] := by
  intro always
  cases always noteSession strayUpdate oneFound .update (.unknownProperty "nope") rfl

end EntityStore.Search
