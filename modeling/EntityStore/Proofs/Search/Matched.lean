import EntityStore.Proofs.Integer
import EntityStore.Proofs.Search.Found

/-!
# Which documents are updated

An update of what a criteria chain finds goes to the found documents in their order, by the keys that
their ids stand for. Where an id is not written as its key is, the update goes to another document.
-/

namespace EntityStore.Search

variable {τ : EntityType}

/-! ## Ids and keys -/

def address (m : Mapping) (raw : String) : String :=
  match parseId m raw with
  | .ok id => id.display
  | .error _ => raw

/-- An id that is no integer, or is written as integers are. -/
def Addressed (m : Mapping) (raw : String) : Prop :=
  m.key.kind = .int64 ∨ m.key.kind = .int32 → Text.Tidy raw.toList

theorem address_of_parseId {m : Mapping} {raw : String} {id : Id} (parsed : parseId m raw = .ok id) :
    address m raw = id.display := by
  unfold address
  rw [parsed]

theorem address_eq_iff {m : Mapping} {raw : String} {id : Id} (parsed : parseId m raw = .ok id) :
    address m raw = raw ↔ Addressed m raw := by
  rw [address_of_parseId parsed]
  unfold parseId at parsed
  unfold Addressed
  dsimp only at parsed
  split at parsed
  · rename_i found
    cases parsed
    -- an integer is written from the number alone, any other key is the text itself
    split at found
    · rename_i kind
      obtain ⟨n, read, rfl⟩ := Option.map_eq_some_iff.mp found
      rw [forall_prop_of_true (.inl kind)]
      exact Text.toString_eq_iff_of_readInt64? read
    · rename_i kind
      obtain ⟨n, read, rfl⟩ := Option.map_eq_some_iff.mp found
      rw [forall_prop_of_true (.inr kind)]
      exact Text.toString_eq_iff_of_readInt32? read
    · rename_i long int
      cases found
      exact iff_of_true rfl fun number => number.elim (absurd · long) (absurd · int)
  · cases parsed

/-! ## What is sent and found -/

/-- The updates that are sent, but for those that are sent again after a refresh. -/
def firstTries : List Call → List UpdateRequest
  | .refresh _ :: .update _ :: later => firstTries later
  | .update request :: later => request :: firstTries later
  | _ :: later => firstTries later
  | [] => []

def foundHits (xs : List (Exchange service)) : List SearchHit :=
  xs.flatMap fun
    | ⟨.search request, .ok found⟩ => if request.isCount then [] else found.hits
    | _ => []

@[simp] theorem firstTries_search (request : SearchRequest) (later : List Call) :
    firstTries (.search request :: later) = firstTries later := rfl

theorem firstTries_of_sends {id : Id} {request : UpdateRequest} {xs : List (Exchange service)}
    {response : WriteResponse} {outcome : Except StoreError WriteResponse}
    (sends : Sends id request xs outcome) (ok : outcome = .ok response) (later : List Call) :
    firstTries (xs.map (·.call) ++ later) = request :: firstTries later := by
  cases sends with
  | once => rfl
  | unrefreshed => cases ok
  | twice => rfl

theorem foundHits_of_sends {id : Id} {request : UpdateRequest} {xs : List (Exchange service)}
    {outcome : Except StoreError WriteResponse} (sends : Sends id request xs outcome) :
    foundHits xs = [] := by
  cases sends <;> rfl

theorem SendsEach.firstTries_eq {requestOf : Id → UpdateRequest} {ids : List Id}
    {xs : List (Exchange service)} {r : Except StoreError Int64} {n : Int64}
    (sends : SendsEach requestOf ids xs r) (ok : r = .ok n) :
    firstTries (xs.map (·.call)) = ids.map requestOf := by
  induction sends generalizing n with
  | done => rfl
  | failed => cases ok
  | next sends _ ih =>
    obtain ⟨m, others, -⟩ := map_eq_ok.mp ok
    rw [List.map_append, firstTries_of_sends sends rfl, ih others, List.map_cons]

theorem SendsEach.foundHits_eq {requestOf : Id → UpdateRequest} {ids : List Id}
    {xs : List (Exchange service)} {r : Except StoreError Int64}
    (sends : SendsEach requestOf ids xs r) : foundHits xs = [] := by
  induction sends with
  | done => rfl
  | failed sends => exact foundHits_of_sends sends
  | next sends _ ih =>
    unfold foundHits at ih ⊢
    rw [List.flatMap_append, ih, List.append_nil]
    exact foundHits_of_sends sends

/-! ## Updates -/

namespace Session

variable {d : Session τ} {u : Update} {xs : List (Exchange service)} {n : Int64}

/-- The updates go to the found documents in their order, by the keys that their ids stand for. -/
structure Follows (d : Session τ) (hits : List SearchHit) (updates : List UpdateRequest) :
    Prop where
  sent : updates.map (·.id) = hits.map fun hit => address d.mapping hit.id
  same : updates.map (·.id) = hits.map (·.id) ↔ ∀ hit ∈ hits, Addressed d.mapping hit.id

theorem follows_nil : d.Follows [] [] where
  sent := rfl
  same := by simp

theorem follows_of_parsed {hits : List SearchHit} {ids : List Id} {updates : List UpdateRequest}
    (parsed : hits.mapM (fun hit => parseId d.mapping hit.id) = .ok ids)
    (each : updates.map (·.id) = ids.map Id.display) : d.Follows hits updates := by
  have sent : updates.map (·.id) = hits.map fun hit => address d.mapping hit.id := by
    rw [each]
    exact map_eq_of_mapM (fun hit id ok => (address_of_parseId ok).symm) parsed
  refine ⟨sent, ?_⟩
  rw [sent, List.map_inj_left]
  refine forall₂_congr fun hit mem => ?_
  obtain ⟨id, ok⟩ := exists_of_mapM parsed hit mem
  exact address_eq_iff ok

theorem foundHits_looksUp {q : SearchQuery} {counted found : SearchResponse}
    (some : counted.totalHits ≠ 0) (rest : List (Exchange service)) :
    foundHits (⟨.search (countOf d.mapping q d.index), .ok counted⟩ ::
      ⟨.search (d.lookup q counted), .ok found⟩ :: rest) = found.hits ++ foundHits rest := by
  have lookup : (d.lookup q counted).isCount = false := by
    simp [SearchRequest.isCount, Session.lookup, some]
  have count : (countOf d.mapping q d.index).isCount = true := rfl
  simp [foundHits, lookup, count]

theorem follows_of_updatesFound {q : SearchQuery} {r : Except StoreError Int64}
    (found : d.UpdatesFound u q xs r) (ok : r = .ok n) :
    d.Follows (foundHits xs) (firstTries (xs.map (·.call))) := by
  cases found with
  | uncounted => cases ok
  | nothing => exact follows_nil
  | tooMany => cases ok
  | looksUp counted some room goesOn =>
    cases goesOn with
    | unanswered => cases ok
    | foreign => cases ok
    | @nothing found none =>
      rw [foundHits_looksUp some, none]
      exact follows_nil
    | @updates found ids rest r parsed _ said =>
      rw [foundHits_looksUp some]
      rcases sendsEach_of_updateByIds said with ⟨-, e, failed⟩ | ⟨-, version, doc, sends⟩
      · cases failed.symm.trans ok
      · rw [sends.foundHits_eq, List.append_nil]
        refine follows_of_parsed parsed ?_
        rw [List.map_cons, List.map_cons, firstTries_search, firstTries_search,
          sends.firstTries_eq ok, List.map_map]
        rfl

end Session

/-- Whatever the engine answers: an update of what a criteria chain finds that succeeds has gone to
the found documents in their order, by the keys that their ids stand for. These are the same texts
exactly where the ids are written as the keys are. -/
theorem matched_updated (d : Session τ) (u : Update) (c : Criteria) {σ : Type}
    (answer : (c : Call) → σ → service.Answer c × σ) (s : σ) {n : Int64}
    (ok : ((d.updateByCriteria u c).run.run answer s).result = .ok n) :
    let p := (d.updateByCriteria u c).run
    d.Follows (foundHits (p.exchanges answer s)) (firstTries (p.run answer s).calls) := by
  intro p
  have whole := Program.says_exchanges answer p s
  rw [← Program.map_call_exchanges]
  rcases Session.updatesFound_of_updateByCriteria whole with ⟨silent, -⟩ | ⟨q, -, -, -, found⟩
  · rw [silent]
    exact Session.follows_nil
  · exact Session.follows_of_updatesFound found ok

def findsNote (raw : String) : (c : Call) → Unit → service.Answer c × Unit
  | .search _, _ => (.ok { totalHits := 1, hits := [⟨raw, some 1, .object []⟩] }, ())
  | .update _, _ => (.ok ⟨.updated, 2⟩, ())
  | _, _ => (.error ⟨.other, "not asked", none⟩, ())

theorem titledA_elsewhere :
    let p := (noteSession.updateByCriteria titleChange (.single "title" .eq (.text "a"))).run
    (p.run (findsNote "007") ()).result = .ok 1 ∧
      (firstTries (p.run (findsNote "007") ()).calls).map (·.id) = ["7"] ∧
      (firstTries (p.run (findsNote "7") ()).calls).map (·.id) =
        (foundHits (p.exchanges (findsNote "7") ())).map (·.id) := by
  intro p
  have padded : (p.run (findsNote "007") ()).result = .ok 1 := rfl
  have plain : (p.run (findsNote "7") ()).result = .ok 1 := rfl
  have elsewhere := matched_updated noteSession titleChange _ (findsNote "007") () padded
  have here := matched_updated noteSession titleChange _ (findsNote "7") () plain
  have hits : foundHits (p.exchanges (findsNote "7") ()) = [⟨"7", some 1, .object []⟩] := rfl
  refine ⟨padded, elsewhere.sent, here.same.mpr ?_⟩
  rw [hits, List.forall_mem_singleton]
  exact fun _ => by decide

theorem not_only_matched_updated : ¬ ∀ (d : Session notes) (u : Update) (c : Criteria)
    (answer : (c : Call) → Unit → service.Answer c × Unit) (n : Int64),
    let p := (d.updateByCriteria u c).run
    (p.run answer ()).result = .ok n →
      (firstTries (p.run answer ()).calls).map (·.id) =
        (foundHits (p.exchanges answer ())).map (·.id) := by
  intro matched
  have same := matched noteSession titleChange (.single "title" .eq (.text "a")) (findsNote "007") 1
    rfl
  exact absurd same (by decide +kernel)

end EntityStore.Search
