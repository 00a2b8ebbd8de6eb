import EntityStore.Proofs.Search.Window

/-!
# Searches with a limit

A search with a limit below the window is one request, and comes to what the engine answers it. From
the window on a limit is taken for the window itself: the documents are counted first, and the search
is refused where they fill it.
-/

namespace EntityStore.Search

variable {τ : EntityType} {d : Session τ}

/-- What comes of a request for some documents, as far as the protection of the window decides. -/
structure Session.Guarded (d : Session τ) {σ : Type}
    (answer : (c : Call) → σ → service.Answer c × σ) (s : σ) (request : SearchRequest)
    (calls : List Call) (r : Except StoreError (List (Entity τ))) : Prop where
  alone : calls = [.search request] ↔ request.size < d.maxResultWindow
  brings : request.size < d.maxResultWindow → r = d.brought (answer (.search request) s).1
  counts : d.maxResultWindow ≤ request.size →
    ∃ later, calls = .search (countOf d.mapping request.query request.index) :: later
  refused : (∃ count, r = .error (.overload (.query d.mapping.typeName count d.maxResultWindow))) ↔
    d.maxResultWindow ≤ request.size ∧ ∃ counted,
      (answer (.search (countOf d.mapping request.query request.index)) s).1 = .ok counted ∧
        d.maxResultWindow ≤ counted.totalHits

namespace Session

variable {σ : Type} {answer : (c : Call) → σ → service.Answer c × σ} {s : σ}
  {request : SearchRequest} {xs : List (Exchange service)}
  {r : Except StoreError (List (Entity τ))}

theorem brought_ne_refused (given : Except BackendError SearchResponse) (typeName : String)
    (count window : Int64) : d.brought given ≠ .error (.overload (.query typeName count window)) := by
  cases given with
  | ok response => exact nofun
  | error failure =>
    intro same
    have classified : StoreError.ofBackend .search failure = .overload (.query typeName count window) :=
      Except.error.inj same
    unfold StoreError.ofBackend at classified
    split at classified <;> cases classified

theorem Guarded.of_wide (some : request.size ≠ 0) (wide : d.maxResultWindow ≤ request.size)
    {later : List Call}
    (refused : (∃ count,
        r = .error (.overload (.query d.mapping.typeName count d.maxResultWindow))) ↔
      ∃ counted, (answer (.search (countOf d.mapping request.query request.index)) s).1 =
        .ok counted ∧ d.maxResultWindow ≤ counted.totalHits) :
    d.Guarded answer s request
      (.search (countOf d.mapping request.query request.index) :: later) r where
  alone := by
    refine iff_of_false (fun same => some ?_) (Int64.not_lt.mpr wide)
    -- a request for a number is none for documents
    obtain ⟨count, -⟩ := List.cons.inj same
    rw [← Call.search.inj count]
    rfl
  brings small := absurd small (Int64.not_lt.mpr wide)
  counts _ := ⟨later, rfl⟩
  refused := by simp [refused, wide]

theorem guarded_of_fetches (fetches : d.Fetches request xs r)
    (answered : Program.Answered answer s xs) (some : request.size ≠ 0) :
    d.Guarded answer s request (xs.map (·.call)) r := by
  cases fetches with
  | nothing small none => exact absurd none some
  | direct small _ given =>
    obtain ⟨here, -⟩ := answered
    dsimp only at here
    subst here
    exact {
      alone := iff_of_true rfl small
      brings := fun _ => rfl
      counts := fun wide => absurd small (Int64.not_lt.mpr wide)
      refused := iff_of_false (fun ⟨_, same⟩ => brought_ne_refused _ _ _ _ same)
        fun full => Int64.not_lt.mpr full.1 small }
  | uncounted wide failure =>
    obtain ⟨here, -⟩ := answered
    refine .of_wide some wide (iff_of_false (fun ⟨count, same⟩ => ?_) ?_)
    · exact brought_ne_refused (d := d) (.error failure) _ _ _ same
    · simp [← here]
  | refused wide counted full =>
    obtain ⟨here, -⟩ := answered
    exact .of_wide some wide (iff_of_true ⟨_, rfl⟩ ⟨counted, here.symm, full⟩)
  | empty wide counted room none =>
    obtain ⟨here, -⟩ := answered
    refine .of_wide some wide (iff_of_false nofun ?_)
    simp [← here, room]
  | narrowed wide counted room _ given =>
    obtain ⟨here, -⟩ := answered
    refine .of_wide some wide (iff_of_false (fun ⟨_, same⟩ => brought_ne_refused _ _ _ _ same) ?_)
    simp [← here, room]

/-! ## Operations -/

theorem size_of_limit {q : Query} {limit : Int64} (limited : q.limit = some limit)
    (least : 1 ≤ limit) (ungrouped : q.groupBys = [])
    (compiled : Search.search d.mapping d.maxResultWindow q d.index = .ok request) :
    request.size = limit := by
  obtain ⟨-, -, size, -⟩ := search_ungrouped ungrouped compiled
  rw [size, ← sizeOf_eq_asked, limited]
  exact if_pos least

theorem ne_zero_of_least {n : Int64} (least : 1 ≤ n) : n ≠ 0 := by
  rintro rfl
  exact absurd least (by decide)

theorem guarded_of_findListByQuery {q : Query} {limit : Int64} (limited : q.limit = some limit)
    (least : 1 ≤ limit) (ungrouped : q.groupBys = []) (checked : q.check = .ok ())
    (compiled : Search.search d.mapping d.maxResultWindow q d.index = .ok request)
    (whole : (d.findListByQuery q).Says xs r) (answered : Program.Answered answer s xs) :
    d.Guarded answer s request (xs.map (·.call)) r := by
  have size := size_of_limit limited least ungrouped compiled
  exact guarded_of_fetches
    (fetches_of_fetch (fetch_of_findListByQuery ungrouped checked compiled whole)) answered
    (size ▸ ne_zero_of_least least)

theorem says_findOneByQuery {q : Query} (checked : q.check = .ok ())
    {found : Except StoreError (Option (Entity τ))} (whole : (d.findOneByQuery q).Says xs found) :
    ∃ r, (d.findListByQuery ((q.skip 0).take 1)).Says xs r ∧ found = r.map List.head? := by
  have whole := (Action.says_ok_bind checked).mp whole
  rcases Action.says_bind.mp whole with ⟨e, lists, rfl⟩ | ⟨entities, _, _, lists, rest, rfl⟩
  · exact ⟨.error e, lists, rfl⟩
  · obtain ⟨rfl, rfl⟩ := Action.says_pure.mp rest
    rw [List.append_nil]
    exact ⟨.ok entities, lists, rfl⟩

end Session

/-- Whatever the engine answers: a search with a limit is the one request that it compiles to, and
comes to the answer to it, exactly where the limit is below the window. From the window on it is
counted first, and refused where the count reaches the window. A search for one entity is a search
with the limit 1. -/
theorem limit_guarded (d : Session τ) {σ : Type}
    (answer : (c : Call) → σ → service.Answer c × σ) (s : σ) :
    (∀ (q : Query) (limit : Int64) (request : SearchRequest), q.limit = some limit → 1 ≤ limit →
      q.groupBys = [] → q.check = .ok () →
      Search.search d.mapping d.maxResultWindow q d.index = .ok request →
      let run := (d.findListByQuery q).run.run answer s
      request.size = limit ∧ d.Guarded answer s request run.calls run.result) ∧
    ∀ (q : Query) (request : SearchRequest), q.groupBys = [] → q.check = .ok () →
      Search.search d.mapping d.maxResultWindow ((q.skip 0).take 1) d.index = .ok request →
      let run := (d.findOneByQuery q).run.run answer s
      request.size = 1 ∧ ∃ r, d.Guarded answer s request run.calls r ∧
        run.result = r.map List.head? := by
  constructor
  · intro q limit request limited least ungrouped checked compiled run
    obtain ⟨xs, whole, answered, calls⟩ :=
      Program.exists_says_run answer (d.findListByQuery q).run s
    have guarded := Session.guarded_of_findListByQuery limited least ungrouped checked compiled
      whole answered
    exact ⟨Session.size_of_limit limited least ungrouped compiled, calls ▸ guarded⟩
  · intro q request ungrouped checked compiled run
    obtain ⟨xs, whole, answered, calls⟩ :=
      Program.exists_says_run answer (d.findOneByQuery q).run s
    obtain ⟨r, lists, same⟩ := Session.says_findOneByQuery checked whole
    have one : ((q.skip 0).take 1).limit = some 1 := rfl
    have guarded := Session.guarded_of_findListByQuery one (Int64.le_refl 1) ungrouped checked
      compiled lists answered
    exact ⟨Session.size_of_limit one (Int64.le_refl 1) ungrouped compiled, r, calls ▸ guarded, same⟩

def firstNotes : Query := { limit := some 2 }

def firstNotesRequest : SearchRequest where
  index := "notes"
  query := .matchAll
  size := 2

theorem firstNotes_refused :
    Search.search noteMapping 2 firstNotes "notes" = .ok firstNotesRequest ∧
    (∃ count, ((narrowSession.findListByQuery firstNotes).run.run servesNotes ()).result =
      .error (.overload (.query "Note" count 2))) ∧
    ((narrowSession.findOneByQuery firstNotes).run.run servesNotes ()).calls =
      [.search { firstNotesRequest with size := 1 }] := by
  obtain ⟨list, one⟩ := limit_guarded narrowSession servesNotes ()
  have compiled : Search.search noteMapping 2 firstNotes "notes" = .ok firstNotesRequest := rfl
  refine ⟨compiled, ?_, ?_⟩
  · obtain ⟨-, guarded⟩ := list firstNotes 2 firstNotesRequest rfl (by decide) rfl rfl compiled
    exact guarded.refused.mpr ⟨by decide, _, rfl, by decide⟩
  · obtain ⟨-, r, guarded, -⟩ := one firstNotes { firstNotesRequest with size := 1 } rfl rfl rfl
    exact guarded.alone.mpr (by decide)

theorem limit_not_spared : ¬ ∀ (d : Session notes) (q : Query) (limit : Int64)
    (request : SearchRequest) (answer : (c : Call) → Unit → service.Answer c × Unit),
    0 < d.maxResultWindow → q.limit = some limit → 1 ≤ limit → q.groupBys = [] →
    q.check = .ok () → Search.search d.mapping d.maxResultWindow q d.index = .ok request →
    ((d.findListByQuery q).run.run answer ()).calls = [.search request] ∧
      ∀ typeName count window, ((d.findListByQuery q).run.run answer ()).result ≠
        .error (.overload (.query typeName count window)) := by
  intro spared
  obtain ⟨-, own⟩ := spared narrowSession firstNotes 2 firstNotesRequest servesNotes (by decide) rfl
    (by decide) rfl rfl rfl
  exact own "Note" 2 2 rfl

end EntityStore.Search
