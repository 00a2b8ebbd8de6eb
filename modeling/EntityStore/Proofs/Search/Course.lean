import EntityStore.Proofs.Course
import EntityStore.Proofs.Search.Retry

/-!
# The course of search operations

An update is a turn with the refresh and the second attempt that may belong to it; every other call
is a turn of its own. An insertion of several entities checks each of them when its turn comes, and
an update of what a criteria chain finds is checked after the search; the other operations are
refused for their arguments before anything is said.
-/

namespace EntityStore.Search

variable {τ : EntityType}

/-- The document that a call may be in conflict about. -/
def Call.document? : Call → Option String
  | update request => some request.id
  | _ => none

/-- A call that cannot be in conflict, or all that is said about one update. -/
inductive Turn : Law service where
  | call {c : Call} (plain : c.document? = none) (answer : service.Answer c) :
    Turn [⟨c, answer⟩] ((refusal? answer).map (.ofBackend .search))
  | update {id : Id} {request : UpdateRequest} {xs : List (Exchange service)}
    {outcome : Except StoreError WriteResponse} (own : request.id = id.display)
    (sends : Sends id request xs outcome) : Turn xs (refusal? outcome)

theorem Reported.late {e : StoreError} (reported : Reported e) : e.Late := by
  cases reported with
  | call failure => exact StoreError.late_ofBackend _ failure
  | document id failure => exact StoreError.late_ofBackendFor _ id failure

theorem Turn.reported {xs : List (Exchange service)} {e : StoreError}
    (turn : Turn xs (some e)) : Reported e := by
  generalize ended : some e = e? at turn
  cases turn with
  | call plain answer =>
    cases answer with
    | ok reply => cases ended
    | error failure =>
      cases ended
      exact .call failure
  | @update _ _ _ outcome own sends =>
    cases outcome with
    | ok response => cases ended
    | error failure =>
      cases ended
      exact sends.reported rfl

theorem Turn.late_of_failed {xs : List (Exchange service)} {e : StoreError}
    (turn : Turn xs (some e)) : e.Late :=
  turn.reported.late

namespace Session

variable {d : Session τ} {late : StoreError → Prop}

/-! ## Calls -/

theorem keeps_plain {c : Call} (plain : c.document? = none) :
    (Action.call (S := service) classify c).Keeps (Turns Turn late) :=
  Action.keeps_call (Turn.call plain)

theorem says_search {request : SearchRequest} {xs : List (Exchange service)}
    {r : Except StoreError SearchResponse} : (d.search request).Says xs r ↔
      ∃ answer : Except BackendError SearchResponse,
        xs = [⟨.search request, answer⟩] ∧ r = answer.mapError (.ofBackend .search) :=
  Action.says_log_bind.trans Action.says_call

theorem says_totalHits {request : SearchRequest} {xs : List (Exchange service)}
    {r : Except StoreError Int64} : (d.totalHits request).Says xs r ↔
      ∃ answer : Except BackendError SearchResponse, xs = [⟨.search request, answer⟩] ∧
        r = (answer.mapError (.ofBackend .search)).map (·.totalHits) := by
  unfold totalHits
  rw [Action.says_bind]
  simp only [says_search, Action.says_pure]
  constructor
  · rintro (⟨e, ⟨answer, rfl, failed⟩, rfl⟩ | ⟨response, _, _, ⟨answer, rfl, ok⟩, ⟨rfl, rfl⟩, rfl⟩)
    · exact ⟨answer, rfl, congrArg (Except.map _) failed⟩
    · exact ⟨answer, rfl, congrArg (Except.map _) ok⟩
  · rintro ⟨answer, rfl, rfl⟩
    cases answer with
    | error failure => exact .inl ⟨_, ⟨_, rfl, rfl⟩, rfl⟩
    | ok response => exact .inr ⟨response, _, [], ⟨_, rfl, rfl⟩, ⟨rfl, rfl⟩, rfl⟩

theorem says_keep {results : List (Except LogEvent (Entity τ))} {xs : List (Exchange service)}
    {r : Except StoreError (List (Entity τ))} :
    (keep results).Says xs r ↔ xs = [] ∧ r = .ok (results.filterMap Except.toOption) := by
  unfold keep
  rw [Action.says_bind]
  simp only [Action.says_logAll, Action.says_pure]
  constructor
  · rintro (⟨e, ⟨-, ⟨⟩⟩, -⟩ | ⟨_, _, _, ⟨rfl, -⟩, ⟨rfl, rfl⟩, rfl⟩)
    exact ⟨rfl, rfl⟩
  · rintro ⟨rfl, rfl⟩
    exact .inr ⟨(), [], [], ⟨rfl, trivial⟩, ⟨rfl, rfl⟩, rfl⟩

theorem keeps_search (request : SearchRequest) : (d.search request).Keeps (Turns Turn late) :=
  Action.keeps_bind Action.keeps_log fun _ => keeps_plain rfl

theorem keeps_totalHits (request : SearchRequest) : (d.totalHits request).Keeps (Turns Turn late) :=
  Action.keeps_bind (keeps_search request) fun _ => Action.keeps_pure

theorem keeps_keep (results : List (Except LogEvent (Entity τ))) :
    (keep results).Keeps (Turns Turn late) := by
  intro xs r whole
  obtain ⟨rfl, rfl⟩ := says_keep.mp whole
  exact .done

/-! ## Insertions -/

theorem parseId_eq_error {m : Mapping} {raw : String} {e : StoreError}
    (refused : parseId m raw = .error e) : e = .typeMismatch (.documentId m.key.kind raw) := by
  unfold parseId at refused
  dsimp only at refused
  split at refused
  · cases refused
  · cases refused
    rfl

theorem late_of_adoptKey {e : Entity τ} {raw : String} {failure : StoreError}
    (refused : d.adoptKey e raw = .error failure) : failure.Late := by
  unfold adoptKey at refused
  cases parsed : parseId d.mapping raw with
  | error failure' =>
    rw [parsed] at refused
    cases refused
    rw [parseId_eq_error parsed]
    exact id
  | ok id =>
    rw [parsed] at refused
    exact Entity.late_of_set refused

theorem late_of_adoptVersion {e : Entity τ} {version : Int64} {failure : StoreError}
    (refused : d.adoptVersion e version = .error failure) : failure.Late := by
  unfold adoptVersion at refused
  split at refused
  · cases refused
  · exact Entity.late_of_set refused

theorem late_of_inserted {e : Entity τ} {chosen : Bool} {response : IndexResponse}
    {failure : StoreError} (refused : (d.inserted e chosen response).result = .error failure) :
    failure.Late := by
  unfold inserted at refused
  split at refused
  · rename_i unkeyed
    cases refused
    cases chosen with
    | true => exact late_of_adoptKey unkeyed
    | false => cases unkeyed
  · split at refused
    · rename_i unversioned
      cases refused
      exact late_of_adoptVersion unversioned
    · cases refused

theorem keeps_insert (e : Entity τ) :
    (d.insert e).Keeps (Course Turn StoreError.Late) (refusal? ·.result) := by
  unfold insert
  split
  · exact Program.keeps_done
  · refine Program.Keeps.course (Program.keeps_run_bind ?_ (fun failure => ⟨_, rfl, rfl⟩) ?_)
    · exact Action.keeps_bind Action.keeps_log fun _ => keeps_plain rfl
    · exact fun response => Program.keeps_done_of_late fun failure refused =>
        late_of_inserted (refusal?_eq_some.mp refused)

theorem keeps_insertBatch (es : List (Entity τ)) :
    (d.insertBatch es).Keeps (Course Turn fun _ => True) (refusal? ·.result) :=
  Repository.keeps_insertAll (fun e => (keeps_insert e).turns) es

/-! ## Updates and deletions -/

theorem keeps_updateById (id : Id) (u : Update) :
    (d.updateById id u).Keeps (Course Turn StoreError.Late) := by
  intro xs r whole
  rcases sends_of_updateById whole with ⟨rfl, -⟩ | ⟨request, outcome, ok, sends, rfl⟩
  · exact .inl rfl
  · obtain ⟨_, _, -, -, rfl⟩ := updateRequest_eq_ok.mp ok
    rw [refusal?_map]
    exact .inr (.single (.update rfl sends))

theorem turns_of_sendsEach {requestOf : Id → UpdateRequest}
    (own : ∀ id, (requestOf id).id = id.display) {ids : List Id} {xs : List (Exchange service)}
    {r : Except StoreError Int64} (sends : SendsEach requestOf ids xs r) :
    Turns Turn late xs (refusal? r) := by
  induction sends with
  | done => exact .done
  | failed sends => exact .failed (.update (own _) sends)
  | next sends _ ih =>
    rw [refusal?_map]
    exact .next (.update (own _) sends) ih

theorem keeps_updateEach {u : Update} {ids : List Id} (set : u.check = .ok ())
    (checked : ∀ id ∈ ids, id.check = .ok ()) :
    (d.updateEach u ids).Keeps (Course Turn StoreError.Late) := by
  intro xs r whole
  rcases sendsEach_of_updateEach set checked whole with ⟨silent, -⟩ | ⟨version, doc, sends⟩
  · exact .inl silent
  · exact .inr (turns_of_sendsEach (fun _ => rfl) sends)

theorem keeps_updateByIds (ids : List Id) (u : Update) :
    (d.updateByIds ids u).Keeps (Course Turn StoreError.Late) :=
  Action.keeps_check fun _ checked => Action.keeps_check fun _ set => Action.keeps_check fun _ _ =>
    keeps_updateEach set (check_of_checkIds checked)

theorem keeps_countByCriteria (c : Criteria) :
    (d.countByCriteria c).Keeps (Course Turn StoreError.Late) :=
  Action.keeps_check fun _ _ => Action.keeps_check fun _ _ => (keeps_totalHits _).course

theorem keeps_updateByCriteria (u : Update) (c : Criteria) :
    (d.updateByCriteria u c).Keeps (Course Turn fun _ => True) := by
  refine Action.keeps_check fun _ _ => Action.keeps_check fun _ _ => Program.Keeps.course ?_
  refine Action.keeps_bind (keeps_countByCriteria c).turns fun count => ?_
  dsimp only
  split_ifs
  · exact Action.keeps_pure
  · exact Action.keeps_throw_of_late trivial
  · refine Action.keeps_bind (Action.keeps_lift fun _ _ => trivial) fun request => ?_
    refine Action.keeps_bind (keeps_search _) fun response => ?_
    rw [Action.mapM_liftM]
    refine Action.keeps_bind (Action.keeps_lift fun _ _ => trivial) fun ids => ?_
    split_ifs
    · exact Action.keeps_pure
    · exact (keeps_updateByIds ids u).turns

theorem keeps_updateProperties (e : Entity τ) (properties : List String) :
    (d.updateProperties e properties).Keeps (Course Turn StoreError.Late) :=
  Repository.keeps_changeProperties keeps_updateById e properties

theorem keeps_deleteById (id : Id) : (d.deleteById id).Keeps (Course Turn late) :=
  Action.keeps_check fun _ _ => (Action.keeps_bind Action.keeps_log fun _ =>
    Action.keeps_bind (keeps_plain rfl) fun _ => Action.keeps_pure).course

/-! ## Searches -/

theorem keeps_findOneById_of_check {id : Id} (checked : id.check = .ok ()) :
    (d.findOneById id).Keeps (Turns Turn late) :=
  (Action.keeps_passed checked).mpr <| Action.keeps_bind Action.keeps_log fun _ =>
    Action.keeps_bind (keeps_plain rfl) fun _ =>
      Action.keeps_bind (keeps_keep _) fun _ => Action.keeps_pure

theorem keeps_findOneById (id : Id) : (d.findOneById id).Keeps (Course Turn late) :=
  Action.keeps_check fun _ checked =>
    (Action.keeps_passed checked).mp (keeps_findOneById_of_check checked).course

theorem keeps_findEach {ids : List Id} (checked : ∀ id ∈ ids, id.check = .ok ()) :
    (d.findEach ids).Keeps (Turns Turn late) := by
  induction ids with
  | nil => exact Action.keeps_pure
  | cons id rest ih =>
    obtain ⟨here, later⟩ := List.forall_mem_cons.mp checked
    exact Action.keeps_bind (keeps_findOneById_of_check here) fun _ =>
      Action.keeps_bind (ih later) fun _ => Action.keeps_pure

theorem keeps_narrow (request : SearchRequest) :
    (d.narrow request).Keeps (Turns Turn StoreError.Late) := by
  unfold narrow
  dsimp only
  split_ifs
  · exact Action.keeps_pure
  · refine Action.keeps_bind (keeps_totalHits _) fun count => ?_
    split_ifs
    · exact Action.keeps_throw_of_late id
    · exact Action.keeps_pure

theorem keeps_fetch (request : SearchRequest) :
    (d.fetch request).Keeps (Turns Turn StoreError.Late) := by
  refine Action.keeps_bind (keeps_narrow request) fun narrowed => ?_
  split_ifs
  · exact Action.keeps_pure
  · exact Action.keeps_bind (keeps_search narrowed) fun _ => keeps_keep _

theorem keeps_findListByQuery (q : Query) :
    (d.findListByQuery q).Keeps (Course Turn StoreError.Late) := by
  refine Action.keeps_check fun _ _ => Action.keeps_check fun request _ => Program.Keeps.course ?_
  split_ifs
  · exact Action.keeps_bind (keeps_search request) fun _ => keeps_keep _
  · exact keeps_fetch request

theorem keeps_findOneByQuery (q : Query) :
    (d.findOneByQuery q).Keeps (Course Turn StoreError.Late) :=
  Action.keeps_check fun _ _ =>
    Action.keeps_course_bind (keeps_findListByQuery _) fun _ => Action.keeps_pure

theorem keeps_findListBySql (s : Statement) :
    (d.findListBySql s).Keeps (Course Turn StoreError.Late) :=
  Action.keeps_check fun _ _ => Action.keeps_check fun _ _ => Action.keeps_check fun _ _ =>
    (keeps_fetch _).course

theorem abides (d : Session τ) :
    d.repository.Abides Turn StoreError.Late (fun _ => True) where
  insert := keeps_insert
  insertBatch := keeps_insertBatch
  update e := keeps_updateProperties e []
  updateProperties := keeps_updateProperties
  updateById := keeps_updateById
  updateByIds := keeps_updateByIds
  updateByCriteria := keeps_updateByCriteria
  updateBySql _ := Action.keeps_throw
  deleteById := keeps_deleteById
  deleteBySql _ := Action.keeps_throw
  existsById id := Action.keeps_check fun _ _ =>
    Action.keeps_course_bind (keeps_findOneById id) fun _ => Action.keeps_pure
  existsByCriteria := Repository.keeps_existsThrough keeps_findOneByQuery
  countByCriteria := keeps_countByCriteria
  countAll := Action.keeps_check fun _ _ => (keeps_totalHits _).course
  countBySql _ := Action.keeps_check fun _ _ => (keeps_totalHits _).course
  findOneById := keeps_findOneById
  findOneByQuery := keeps_findOneByQuery
  findOneBySql _ := Action.keeps_check fun _ _ => (Action.keeps_bind (keeps_search _) fun _ =>
    Action.keeps_bind (keeps_keep _) fun _ => Action.keeps_pure).course
  findListByIds _ := Action.keeps_check fun _ checked =>
    (keeps_findEach (check_of_checkIds checked)).course
  findListByQuery := keeps_findListByQuery
  findListBySql := keeps_findListBySql

end Session

end EntityStore.Search
