import EntityStore.Proofs.Search.Course

/-!
# Updates of what is found

To update what a criteria chain finds, a search store counts the documents, looks up their ids where
they are few enough, and updates them one by one.
-/

namespace EntityStore.Search

variable {τ : EntityType} {d : Session τ} {xs : List (Exchange service)}

namespace Session

theorem asks_of_countByCriteria {c : Criteria} {r : Except StoreError Int64}
    (whole : (d.countByCriteria c).Says xs r) :
    (xs = [] ∧ (∃ e, r = .error e) ∧
      ((∃ e, c.check = .error e) ∨ ∃ e, query d.mapping (some c) = .error e)) ∨
    ∃ q answer, c.check = .ok () ∧ query d.mapping (some c) = .ok q ∧
      xs = [⟨.search (countOf d.mapping q d.index), answer⟩] ∧
      r = (answer.mapError (.ofBackend .search)).map (·.totalHits) := by
  rcases Action.says_lift_bind.mp whole with ⟨e, refused, rfl, rfl⟩ | ⟨_, checked, whole⟩
  · exact .inl ⟨rfl, ⟨e, rfl⟩, .inl ⟨e, refused⟩⟩
  rcases Action.says_lift_bind.mp whole with ⟨e, refused, rfl, rfl⟩ | ⟨request, ok, whole⟩
  · exact .inl ⟨rfl, ⟨e, rfl⟩, .inr ⟨e, map_eq_error.mp refused⟩⟩
  · obtain ⟨q, compiled, rfl⟩ := map_eq_ok.mp ok
    obtain ⟨answer, rfl, total⟩ := says_totalHits.mp whole
    exact .inr ⟨q, answer, checked, compiled, rfl, total⟩

def lookup (d : Session τ) (q : SearchQuery) (counted : SearchResponse) : SearchRequest :=
  { countOf d.mapping q d.index with size := counted.totalHits }

inductive UpdatesHits (d : Session τ) (u : Update) :
    Except BackendError SearchResponse → List (Exchange service) → Except StoreError Int64 → Prop
    where
  | unanswered (failure : BackendError) :
    UpdatesHits d u (.error failure) [] (.error (.ofBackend .search failure))
  | foreign {found : SearchResponse} {e : StoreError}
    (parsed : found.hits.mapM (fun hit => parseId d.mapping hit.id) = .error e) :
    UpdatesHits d u (.ok found) [] (.error e)
  | nothing {found : SearchResponse} (none : found.hits = []) : UpdatesHits d u (.ok found) [] (.ok 0)
  | updates {found : SearchResponse} {ids : List Id} {rest : List (Exchange service)}
    {r : Except StoreError Int64}
    (parsed : found.hits.mapM (fun hit => parseId d.mapping hit.id) = .ok ids) (some : ids ≠ [])
    (said : (d.updateByIds ids u).Says rest r) : UpdatesHits d u (.ok found) rest r

inductive UpdatesFound (d : Session τ) (u : Update) (q : SearchQuery) :
    List (Exchange service) → Except StoreError Int64 → Prop where
  | uncounted (failure : BackendError) :
    UpdatesFound d u q [⟨.search (countOf d.mapping q d.index), .error failure⟩]
      (.error (.ofBackend .search failure))
  | nothing (counted : SearchResponse) (none : counted.totalHits = 0) :
    UpdatesFound d u q [⟨.search (countOf d.mapping q d.index), .ok counted⟩] (.ok 0)
  | tooMany (counted : SearchResponse) (some : counted.totalHits ≠ 0)
    (full : d.maxUpdateSize.toInt64 < counted.totalHits) :
    UpdatesFound d u q [⟨.search (countOf d.mapping q d.index), .ok counted⟩]
      (.error (.overload (.update d.mapping.typeName counted.totalHits d.maxUpdateSize)))
  | looksUp (counted : SearchResponse) (some : counted.totalHits ≠ 0)
    (room : ¬ d.maxUpdateSize.toInt64 < counted.totalHits)
    {answer : Except BackendError SearchResponse} {rest : List (Exchange service)}
    {r : Except StoreError Int64} (goesOn : d.UpdatesHits u answer rest r) :
    UpdatesFound d u q (⟨.search (countOf d.mapping q d.index), .ok counted⟩ ::
      ⟨.search (d.lookup q counted), answer⟩ :: rest) r

theorem updatesFound_of_updateByCriteria {u : Update} {c : Criteria} {r : Except StoreError Int64}
    (whole : (d.updateByCriteria u c).Says xs r) :
    (xs = [] ∧ ((∃ e, u.check = .error e) ∨ (∃ e, c.check = .error e) ∨
      ∃ e, query d.mapping (some c) = .error e)) ∨
    ∃ q, u.check = .ok () ∧ c.check = .ok () ∧ query d.mapping (some c) = .ok q ∧
      d.UpdatesFound u q xs r := by
  rcases Action.says_lift_bind.mp whole with ⟨e, refused, rfl, -⟩ | ⟨_, set, whole⟩
  · exact .inl ⟨rfl, .inl ⟨e, refused⟩⟩
  rcases Action.says_lift_bind.mp whole with ⟨e, refused, rfl, -⟩ | ⟨_, checked, whole⟩
  · exact .inl ⟨rfl, .inr (.inl ⟨e, refused⟩)⟩
  rcases Action.says_bind.mp whole with ⟨e, counts, rfl⟩ | ⟨count, _, later, counts, rest, rfl⟩
  · rcases asks_of_countByCriteria counts with
      ⟨rfl, -, refused⟩ | ⟨q, answer, -, compiled, rfl, failed⟩
    · exact .inl ⟨rfl, .inr refused⟩
    · cases answer with
      | error failure =>
        cases failed
        exact .inr ⟨q, set, checked, compiled, .uncounted failure⟩
      | ok counted => cases failed
  rcases asks_of_countByCriteria counts with ⟨-, ⟨_, ⟨⟩⟩, -⟩ | ⟨q, answer, -, compiled, rfl, total⟩
  obtain ⟨counted, given, rfl⟩ := map_eq_ok.mp total.symm
  obtain rfl := mapError_eq_ok.mp given
  refine .inr ⟨q, set, checked, compiled, ?_⟩
  -- what follows the count: nothing to update, too much, or the search for the ids
  dsimp only at rest
  split_ifs at rest with none full
  · obtain ⟨rfl, rfl⟩ := Action.says_pure.mp rest
    exact .nothing counted none
  · obtain ⟨rfl, rfl⟩ := Action.says_throw.mp rest
    exact .tooMany counted none full
  have request : Search.count d.mapping (some c) d.index = .ok (countOf d.mapping q d.index) :=
    map_eq_ok.mpr ⟨q, compiled, rfl⟩
  rw [Action.says_ok_bind request] at rest
  rcases Action.says_bind.mp rest with ⟨e, asks, rfl⟩ | ⟨found, _, last, asks, changes, rfl⟩
  · obtain ⟨answer, rfl, failed⟩ := says_search.mp asks
    cases answer with
    | error failure =>
      cases failed
      exact .looksUp counted none full (.unanswered failure)
    | ok found => cases failed
  obtain ⟨answer, rfl, given⟩ := says_search.mp asks
  obtain rfl := mapError_eq_ok.mp given.symm
  rw [Action.mapM_liftM] at changes
  refine .looksUp counted none full ?_
  rcases Action.says_lift_bind.mp changes with ⟨e, parsed, rfl, rfl⟩ | ⟨ids, parsed, changes⟩
  · exact .foreign parsed
  split_ifs at changes with blank
  · obtain ⟨rfl, rfl⟩ := Action.says_pure.mp changes
    refine .nothing ?_
    cases hits : found.hits with
    | nil => rfl
    | cons hit others =>
      rw [hits] at parsed
      obtain ⟨_, _, -, -, rfl⟩ := mapM_cons_eq_ok.mp parsed
      cases blank
  · exact .updates parsed (by simpa using blank) changes

end Session

end EntityStore.Search
