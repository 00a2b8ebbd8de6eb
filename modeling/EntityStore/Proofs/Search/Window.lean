import EntityStore.Proofs.Search.Course

/-!
# The protection of the window

A search for the whole window is counted first, and refused where the documents fill the window.
Every other search brings what it would have brought without the protection.
-/

namespace EntityStore.Search

variable {τ : EntityType}

/-! ## Engines -/

/-- The documents that match a request, in the order that it asks for. The window of the request has
no part in them, and how many there are is up to its index, type and query. -/
structure Engine where
  found : SearchRequest → List SearchHit
  windowless : ∀ (request : SearchRequest) (size : Int64),
    found { request with size := size } = found request
  sameCount : ∀ r r' : SearchRequest, r.index = r'.index → r.docType = r'.docType →
    r.query = r'.query → (found r).length = (found r').length

def window (hits : List SearchHit) (start size : Int64) : List SearchHit :=
  (hits.drop start.toInt.toNat).take size.toInt.toNat

namespace Engine

variable (engine : Engine)

/-- A request is answered with the number of documents and those in its window. -/
def Gives (request : SearchRequest) (answer : Except BackendError SearchResponse) : Prop :=
  ∃ response, answer = .ok response ∧
    response.totalHits.toInt = (engine.found request).length ∧
    response.hits = window (engine.found request) request.start request.size

def Answers {σ : Type} (answer : (c : Call) → σ → service.Answer c × σ) : Prop :=
  ∀ request s, engine.Gives request (answer (.search request) s).1

def Spoke (xs : List (Exchange service)) : Prop :=
  ∀ request answer, (⟨.search request, answer⟩ : Exchange service) ∈ xs →
    engine.Gives request answer

variable {engine}

theorem Answers.spoke {σ : Type} {answer : (c : Call) → σ → service.Answer c × σ}
    (answers : engine.Answers answer) {s : σ} {xs : List (Exchange service)}
    (answered : Program.Answered answer s xs) : engine.Spoke xs := by
  induction xs generalizing s with
  | nil => exact fun _ _ mem => nomatch mem
  | cons x later ih =>
    obtain ⟨here, rest⟩ := answered
    intro request given mem
    rcases List.mem_cons.mp mem with rfl | mem
    · dsimp only at here
      rw [here]
      exact answers request s
    · exact ih rest request given mem

end Engine

namespace Session

variable {d : Session τ} {engine : Engine} {request : SearchRequest} {xs : List (Exchange service)}

/-! ## Searches without protection -/

def bring (d : Session τ) (request : SearchRequest) : Action service (List (Entity τ)) := do
  let response ← d.search request
  d.entities response.hits

def mapped (d : Session τ) (hits : List SearchHit) : List (Entity τ) :=
  hits.filterMap fun hit => (entityOfHit τ d.mapping hit).toOption

theorem says_entities {hits : List SearchHit} {r : Except StoreError (List (Entity τ))} :
    (d.entities hits).Says xs r ↔ xs = [] ∧ r = .ok (d.mapped hits) := by
  unfold entities mapped
  rw [says_keep, List.filterMap_map]
  rfl

def brought (d : Session τ) (answer : Except BackendError SearchResponse) :
    Except StoreError (List (Entity τ)) :=
  (answer.mapError (.ofBackend .search)).map fun response => d.mapped response.hits

theorem says_bring {r : Except StoreError (List (Entity τ))} :
    (d.bring request).Says xs r ↔
      ∃ answer, xs = [⟨.search request, answer⟩] ∧ r = d.brought answer := by
  unfold bring
  rw [Action.says_bind]
  simp only [says_search, says_entities]
  constructor
  · rintro (⟨e, ⟨answer, rfl, failed⟩, rfl⟩ | ⟨response, _, _, ⟨answer, rfl, ok⟩, ⟨rfl, rfl⟩, rfl⟩)
    · refine ⟨answer, rfl, ?_⟩
      unfold brought
      rw [← failed]
      rfl
    · refine ⟨answer, rfl, ?_⟩
      unfold brought
      rw [← ok]
      rfl
  · rintro ⟨answer, rfl, rfl⟩
    cases answer with
    | error failure => exact .inl ⟨_, ⟨_, rfl, rfl⟩, rfl⟩
    | ok response => exact .inr ⟨response, _, [], ⟨_, rfl, rfl⟩, ⟨rfl, rfl⟩, rfl⟩

theorem brought_of_gives {answer : Except BackendError SearchResponse}
    (gives : engine.Gives request answer) :
    d.brought answer = .ok (d.mapped (window (engine.found request) request.start request.size)) := by
  obtain ⟨response, rfl, -, hits⟩ := gives
  rw [← hits]
  rfl

/-! ## Protected searches -/

inductive Fetches (d : Session τ) (request : SearchRequest) :
    List (Exchange service) → Except StoreError (List (Entity τ)) → Prop where
  | nothing (small : request.size < d.maxResultWindow) (none : request.size = 0) :
    Fetches d request [] (.ok [])
  | direct (small : request.size < d.maxResultWindow) (some : request.size ≠ 0)
    (answer : Except BackendError SearchResponse) :
    Fetches d request [⟨.search request, answer⟩] (d.brought answer)
  | uncounted (wide : d.maxResultWindow ≤ request.size) (failure : BackendError) :
    Fetches d request
      [⟨.search (countOf d.mapping request.query request.index), .error failure⟩]
      (.error (.ofBackend .search failure))
  | refused (wide : d.maxResultWindow ≤ request.size) (counted : SearchResponse)
    (full : d.maxResultWindow ≤ counted.totalHits) :
    Fetches d request [⟨.search (countOf d.mapping request.query request.index), .ok counted⟩]
      (.error (.overload (.query d.mapping.typeName counted.totalHits d.maxResultWindow)))
  | empty (wide : d.maxResultWindow ≤ request.size) (counted : SearchResponse)
    (room : counted.totalHits < d.maxResultWindow) (none : counted.totalHits = 0) :
    Fetches d request [⟨.search (countOf d.mapping request.query request.index), .ok counted⟩]
      (.ok [])
  | narrowed (wide : d.maxResultWindow ≤ request.size) (counted : SearchResponse)
    (room : counted.totalHits < d.maxResultWindow) (some : counted.totalHits ≠ 0)
    (answer : Except BackendError SearchResponse) :
    Fetches d request
      [⟨.search (countOf d.mapping request.query request.index), .ok counted⟩,
        ⟨.search { request with size := counted.totalHits }, answer⟩] (d.brought answer)

theorem says_narrow {r : Except StoreError SearchRequest} (whole : (d.narrow request).Says xs r) :
    (request.size < d.maxResultWindow ∧ xs = [] ∧ r = .ok request) ∨
    d.maxResultWindow ≤ request.size ∧ ∃ answer : Except BackendError SearchResponse,
      xs = [⟨.search (countOf d.mapping request.query request.index), answer⟩] ∧
      ((∃ failure, answer = .error failure ∧ r = .error (.ofBackend .search failure)) ∨
        ∃ counted, answer = .ok counted ∧
          r = if d.maxResultWindow ≤ counted.totalHits then
              .error (.overload (.query d.mapping.typeName counted.totalHits d.maxResultWindow))
            else .ok { request with size := counted.totalHits }) := by
  unfold narrow at whole
  dsimp only at whole
  split_ifs at whole with below
  · obtain ⟨rfl, rfl⟩ := Action.says_pure.mp whole
    exact .inl ⟨below, rfl, rfl⟩
  refine .inr ⟨Int64.not_lt.mp below, ?_⟩
  rcases Action.says_bind.mp whole with ⟨e, counts, rfl⟩ | ⟨count, _, _, counts, rest, rfl⟩
  · obtain ⟨answer, rfl, failed⟩ := says_totalHits.mp counts
    cases answer with
    | error failure =>
      cases failed
      exact ⟨_, rfl, .inl ⟨failure, rfl, rfl⟩⟩
    | ok counted => cases failed
  · obtain ⟨answer, rfl, same⟩ := says_totalHits.mp counts
    cases answer with
    | error failure => cases same
    | ok counted =>
      cases same
      refine ⟨.ok counted, ?_, .inr ⟨counted, rfl, ?_⟩⟩
      all_goals
        split_ifs at rest ⊢
        · obtain ⟨rfl, rfl⟩ := Action.says_throw.mp rest
          rfl
        · obtain ⟨rfl, rfl⟩ := Action.says_pure.mp rest
          rfl

theorem fetches_of_fetch {r : Except StoreError (List (Entity τ))}
    (whole : (d.fetch request).Says xs r) : d.Fetches request xs r := by
  rcases Action.says_bind.mp whole with
    ⟨e, narrows, rfl⟩ | ⟨narrowed, first, later, narrows, rest, rfl⟩
  · rcases says_narrow narrows with ⟨-, -, ⟨⟩⟩ |
      ⟨wide, _, rfl, ⟨failure, rfl, same⟩ | ⟨counted, rfl, same⟩⟩
    · cases same
      exact .uncounted wide failure
    · split_ifs at same with full
      cases same
      exact .refused wide counted full
  · rcases says_narrow narrows with ⟨small, rfl, same⟩ |
      ⟨wide, _, rfl, ⟨failure, rfl, ⟨⟩⟩ | ⟨counted, rfl, same⟩⟩
    · cases same
      split_ifs at rest with none
      · obtain ⟨rfl, rfl⟩ := Action.says_pure.mp rest
        exact .nothing small none
      · obtain ⟨answer, rfl, rfl⟩ := says_bring.mp rest
        exact .direct small none answer
    · split_ifs at same with full
      cases same
      have room := Int64.not_le.mp full
      dsimp only at rest
      split_ifs at rest with none
      · obtain ⟨rfl, rfl⟩ := Action.says_pure.mp rest
        exact .empty wide counted room none
      · obtain ⟨answer, rfl, rfl⟩ := says_bring.mp rest
        exact .narrowed wide counted room none answer

theorem window_eq_drop {hits : List SearchHit} {start size : Int64}
    (few : hits.length ≤ size.toInt) : window hits start size = hits.drop start.toInt.toNat := by
  unfold window
  rw [List.take_of_length_le]
  rw [List.length_drop]
  omega

/-- What is asked: the number of documents, or a window that is worth asking for. -/
def Sensible (calls : List Call) : Prop :=
  ∀ call ∈ calls, ∃ request : SearchRequest, call = .search request ∧
    (request.isCount ∨ 0 ≤ request.start ∧ 1 ≤ request.size)

/-- The whole window is asked for, and the documents that match fill it. -/
def Fills (d : Session τ) (engine : Engine) (request : SearchRequest) (size : Int64) : Prop :=
  d.maxResultWindow ≤ size ∧ d.maxResultWindow.toInt ≤ (engine.found request).length

/-- What comes of a search for `size` of the documents that match a request, after the first `start`
of them. It is refused for its window, after a count, or brings the documents. -/
structure Protected (d : Session τ) (engine : Engine) (request : SearchRequest) (start size : Int64)
    (calls : List Call) (r : Except StoreError (List (Entity τ))) : Prop where
  refused : (∃ reason, r = .error (.overload reason)) ↔ d.Fills engine request size
  counted : (∃ reason, r = .error (.overload reason)) →
    calls = [.search (countOf d.mapping request.query request.index)]
  brought : ¬ d.Fills engine request size →
    r = .ok (d.mapped (window (engine.found request) start size))
  sensible : Sensible calls

theorem sensible_count (m : Mapping) (q : SearchQuery) (index : String) :
    Sensible [.search (countOf m q index)] :=
  List.forall_mem_singleton.mpr ⟨_, rfl, .inl rfl⟩

theorem sensible_window (start : 0 ≤ request.start) (size : 1 ≤ request.size) :
    Sensible [.search request] :=
  List.forall_mem_singleton.mpr ⟨request, rfl, .inr ⟨start, size⟩⟩

theorem Protected.of_full {start size : Int64} {calls : List Call} {reason : Overload}
    (fills : d.Fills engine request size)
    (counted : calls = [.search (countOf d.mapping request.query request.index)]) :
    Protected d engine request start size calls (.error (.overload reason)) where
  refused := iff_of_true ⟨reason, rfl⟩ fills
  counted := fun _ => counted
  brought := fun room => absurd fills room
  sensible := counted ▸ sensible_count _ _ _

theorem Protected.of_room {start size : Int64} {calls : List Call}
    (room : ¬ d.Fills engine request size) (sensible : Sensible calls) :
    Protected d engine request start size calls
      (.ok (d.mapped (window (engine.found request) start size))) where
  refused := iff_of_false nofun room
  counted := nofun
  brought := fun _ => rfl
  sensible := sensible

theorem protected_of_fetch {r : Except StoreError (List (Entity τ))}
    (whole : (d.fetch request).Says xs r) (spoke : engine.Spoke xs)
    (docType : request.docType = d.mapping.names.docType)
    (start : 0 ≤ request.start) (size : 1 ≤ request.size) :
    Protected d engine request request.start request.size (xs.map (·.call)) r := by
  have every := engine.sameCount request (countOf d.mapping request.query request.index) rfl
    docType rfl
  have roomy {counted : SearchResponse} (room : counted.totalHits < d.maxResultWindow)
      (total : counted.totalHits.toInt = (engine.found request).length) :
      ¬ d.Fills engine request request.size := by
    intro fills
    have few := Int64.lt_iff_toInt_lt.mp room
    have many := fills.2
    omega
  cases fetches_of_fetch whole with
  | nothing small none =>
    rw [none] at size
    exact absurd size (by decide)
  | direct small some answer =>
    rw [brought_of_gives (spoke request answer List.mem_cons_self)]
    exact .of_room (fun full => Int64.not_le.mpr small full.1) (sensible_window start size)
  | uncounted wide failure =>
    obtain ⟨_, failed, -⟩ := spoke _ _ List.mem_cons_self
    cases failed
  | refused wide counted full =>
    obtain ⟨_, ⟨⟩, total, -⟩ := spoke _ _ List.mem_cons_self
    have many := Int64.le_iff_toInt_le.mp full
    exact .of_full ⟨wide, by omega⟩ rfl
  | empty wide counted room none =>
    obtain ⟨_, ⟨⟩, total, -⟩ := spoke _ _ List.mem_cons_self
    have found : engine.found request = [] := by
      rw [none, ← every] at total
      exact List.eq_nil_of_length_eq_zero (by simpa using total.symm)
    have nothing : d.mapped (window (engine.found request) request.start request.size) = [] := by
      simp [found, window, mapped]
    rw [← nothing]
    exact .of_room (roomy room (by omega)) (sensible_count _ _ _)
  | narrowed wide counted room some answer =>
    obtain ⟨_, ⟨⟩, total, -⟩ := spoke _ _ List.mem_cons_self
    rw [← every] at total
    have few := Int64.lt_iff_toInt_lt.mp room
    have large := Int64.le_iff_toInt_le.mp wide
    -- both windows reach to the end of what matches
    have same : window (engine.found request) request.start counted.totalHits =
        window (engine.found request) request.start request.size := by
      rw [window_eq_drop (by omega), window_eq_drop (by omega)]
    have gives := spoke { request with size := counted.totalHits } answer (by simp)
    rw [brought_of_gives gives, engine.windowless, same]
    have least : 1 ≤ counted.totalHits := by
      have nonzero : counted.totalHits.toInt ≠ 0 := fun zero => some (Int64.toInt_inj.mp zero)
      rw [Int64.le_iff_toInt_le, Int64.toInt_one]
      omega
    have sensible : Sensible [.search { request with size := counted.totalHits }] :=
      sensible_window start least
    exact .of_room (roomy room total)
      (List.forall_mem_append.mpr ⟨sensible_count _ _ _, sensible⟩)

/-! ## The searches of a caller -/

def asked (d : Session τ) (limit : Option Int64) : Int64 :=
  (limit.filter (1 ≤ ·)).getD d.maxResultWindow

theorem sizeOf_eq_asked (limit : Option Int64) :
    sizeOf d.maxResultWindow limit = d.asked limit := by
  unfold sizeOf asked
  cases limit with
  | none => rfl
  | some n =>
    by_cases sensible : 1 ≤ n
    · simp [Option.filter, sensible]
    · simp [Option.filter, sensible]

theorem one_le_asked (positive : 0 < d.maxResultWindow) (limit : Option Int64) :
    1 ≤ d.asked limit := by
  rw [← sizeOf_eq_asked]
  have least : 1 ≤ d.maxResultWindow := by
    rw [Int64.lt_iff_toInt_lt] at positive
    exact Int64.le_iff_toInt_le.mpr positive
  unfold sizeOf
  split
  · split_ifs with sensible
    · exact sensible
    · exact least
  · exact least

theorem search_ungrouped {q : Query} (ungrouped : q.groupBys = [])
    (compiled : Search.search d.mapping d.maxResultWindow q d.index = .ok request) :
    request.docType = d.mapping.names.docType ∧ request.start = max (q.offset.getD 0) 0 ∧
      request.size = d.asked q.limit ∧ request.aggregation = none := by
  unfold Search.search at compiled
  obtain ⟨condition, -, compiled⟩ := bind_eq_ok.mp compiled
  simp only [ungrouped] at compiled
  split_ifs at compiled
  all_goals
    obtain ⟨source, -, compiled⟩ := bind_eq_ok.mp compiled
    obtain ⟨sort, -, compiled⟩ := bind_eq_ok.mp compiled
    cases compiled
    exact ⟨rfl, rfl, sizeOf_eq_asked q.limit, rfl⟩

theorem fetch_of_findListByQuery {q : Query} (ungrouped : q.groupBys = [])
    (checked : q.check = .ok ())
    (compiled : Search.search d.mapping d.maxResultWindow q d.index = .ok request)
    {r : Except StoreError (List (Entity τ))} (whole : (d.findListByQuery q).Says xs r) :
    (d.fetch request).Says xs r := by
  obtain ⟨-, -, -, plain⟩ := search_ungrouped ungrouped compiled
  have whole := (Action.says_ok_bind compiled).mp ((Action.says_ok_bind checked).mp whole)
  rwa [plain] at whole

inductive IntegerParameter : Option Value → Option Int64 → Prop where
  | missing : IntegerParameter none none
  | null : IntegerParameter (some .null) none
  | int64 (n : Int64) : IntegerParameter (some (.int64 n)) (some n)
  | int32 (n : Int32) : IntegerParameter (some (.int32 n)) (some n.toInt64)

theorem windowParameter_of_integer {v : Option Value} {n : Option Int64}
    (integer : IntegerParameter v n) (name : String) : windowParameter name v = .ok n := by
  cases integer <;> rfl

structure Transparent (d : Session τ) (engine : Engine) {σ : Type}
    (answer : (c : Call) → σ → service.Answer c × σ) (s : σ) (request : SearchRequest)
    (start size : Int64) (search : Action service (List (Entity τ))) : Prop where
  outcome : Protected d engine request start size (search.run.run answer s).calls
    (search.run.run answer s).result
  unchanged : ¬ d.Fills engine request size →
    (search.run.run answer s).result = ((d.bring request).run.run answer s).result

theorem zero_le_max (n : Int64) : 0 ≤ max n 0 := by
  change 0 ≤ if n ≤ 0 then 0 else n
  split_ifs with negative
  · exact Int64.le_refl 0
  · exact Int64.le_of_lt (Int64.not_le.mp negative)

theorem transparent_of_fetch (positive : 0 < d.maxResultWindow) {σ : Type}
    {answer : (c : Call) → σ → service.Answer c × σ} (answers : engine.Answers answer) (s : σ)
    {search : Action service (List (Entity τ))}
    (fetches : ∀ xs r, search.Says xs r → (d.fetch request).Says xs r)
    (docType : request.docType = d.mapping.names.docType) {offset : Int64} {limit : Option Int64}
    (start : request.start = max offset 0) (size : request.size = d.asked limit) :
    Transparent d engine answer s request (max offset 0) (d.asked limit) search := by
  have outcome := protected_of_fetch (fetches _ _ (Program.says_exchanges answer search.run s))
    (answers.spoke (Program.answered_exchanges answer search.run s)) docType
    (start ▸ zero_le_max offset) (size ▸ one_le_asked positive limit)
  rw [Program.map_call_exchanges, start, size] at outcome
  refine ⟨outcome, fun room => ?_⟩
  have spoke := answers.spoke (Program.answered_exchanges answer (d.bring request).run s)
  obtain ⟨given, said, same⟩ := says_bring.mp (Program.says_exchanges answer (d.bring request).run s)
  rw [said] at spoke
  rw [outcome.brought room, same, brought_of_gives (spoke _ _ List.mem_cons_self), start, size]

end Session

open Session

/-- Let an engine answer every search with the number of the matching documents and those in the
window that is asked for. Then the protection refuses what fills the whole window and changes nothing
else. -/
theorem search_transparent {τ : EntityType} (d : Session τ) (positive : 0 < d.maxResultWindow)
    (engine : Engine) {σ : Type} (answer : (c : Call) → σ → service.Answer c × σ)
    (answers : engine.Answers answer) (s : σ) :
    (∀ (q : Query) (request : SearchRequest), q.groupBys = [] → q.check = .ok () →
      Search.search d.mapping d.maxResultWindow q d.index = .ok request →
      Transparent d engine answer s request (max (q.offset.getD 0) 0) (d.asked q.limit)
        (d.findListByQuery q)) ∧
    ∀ (statement : Statement) (start size : Option Int64), Text.isBlank statement.sql = false →
      IntegerParameter statement.params[0]? start → IntegerParameter statement.params[1]? size →
      Transparent d engine answer s
        (wrapper d.mapping d.maxResultWindow statement.sql d.index (start.getD 0) size)
        (max (start.getD 0) 0) (d.asked size) (d.findListBySql statement) := by
  refine ⟨fun q request ungrouped checked compiled => ?_,
    fun statement start size written first second => ?_⟩
  · obtain ⟨docType, start, size, -⟩ := search_ungrouped ungrouped compiled
    exact transparent_of_fetch positive answers s
      (fun _ _ whole => fetch_of_findListByQuery ungrouped checked compiled whole) docType start size
  · refine transparent_of_fetch positive answers s (fun xs r whole => ?_) rfl rfl
      (sizeOf_eq_asked size)
    have checked : checkSql statement.sql = .ok () := by
      unfold checkSql require
      rw [written]
      rfl
    have whole := (Action.says_ok_bind checked).mp whole
    have whole := (Action.says_ok_bind (windowParameter_of_integer first "from")).mp whole
    exact (Action.says_ok_bind (windowParameter_of_integer second "size")).mp whole

def twoNotes : List SearchHit :=
  [⟨"7", some 3, .object [("title", .text "a")]⟩, ⟨"8", some 1, .object []⟩]

def notesEngine : Engine where
  found _ := twoNotes
  windowless _ _ := rfl
  sameCount _ _ _ _ _ := rfl

def servesNotes : (c : Call) → Unit → service.Answer c × Unit
  | .search request, _ =>
    (.ok { totalHits := 2, hits := window twoNotes request.start request.size }, ())
  | _, _ => (.error ⟨.other, "not asked", none⟩, ())

def narrowSession : Session notes := { noteSession with maxResultWindow := 2 }

def laterNotes : Statement := ⟨"\x7b\x7d", [.int32 1, .int64 (-5)]⟩

theorem notes_transparent :
    0 < narrowSession.maxResultWindow ∧ notesEngine.Answers servesNotes ∧
    (∃ reason, ((narrowSession.findListBySql laterNotes).run.run servesNotes ()).result =
      .error (.overload reason)) ∧
    ((narrowSession.findListByQuery { offset := some 1, limit := some 1 }).run.run
      servesNotes ()).result = .ok (narrowSession.mapped [⟨"8", some 1, .object []⟩]) := by
  have positive : 0 < narrowSession.maxResultWindow := by decide
  have answers : notesEngine.Answers servesNotes := fun request s => ⟨_, rfl, rfl, rfl⟩
  obtain ⟨query, sql⟩ :=
    search_transparent narrowSession positive notesEngine servesNotes answers ()
  refine ⟨positive, answers, ?_, ?_⟩
  · have written : Text.isBlank laterNotes.sql = false := by decide
    have refused := (sql laterNotes (some 1) (some (-5)) written (.int32 1) (.int64 (-5))).outcome
    exact refused.refused.mpr ⟨by decide, by decide⟩
  · have brought := (query { offset := some 1, limit := some 1 } _ rfl rfl rfl).outcome.brought
    exact brought fun full => absurd full.1 (by decide)

end EntityStore.Search
