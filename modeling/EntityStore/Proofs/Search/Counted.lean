import EntityStore.Proofs.Integer
import EntityStore.Proofs.Search.Cap

/-!
# The limit of what is found

An update of what a criteria chain finds is refused for the count of the documents alone: where it
is beyond the limit, and where the limit is too large for a signed integer, as which it is compared.
In every other case the ids are looked up.
-/

namespace EntityStore

namespace StoreError

/-- Every error but that of an update of more documents than the limit allows, as they are
counted. -/
def Uncapped : StoreError → Prop
  | overload (.update _ _ _) => False
  | _ => True

theorem uncapped_of_not_forSize {e : StoreError} (spared : ¬ e.ForSize) : e.Uncapped := by
  unfold Uncapped
  split
  · exact spared trivial
  · trivial

end StoreError

namespace Search

variable {τ : EntityType}

open StoreError (Uncapped)

/-! ## Errors of updates -/

theorem Reported.uncapped {e : StoreError} (reported : Reported e) : e.Uncapped :=
  StoreError.uncapped_of_not_forSize reported.not_forSize

theorem failsWith_parseId (m : Mapping) (raw : String) : FailsWith Uncapped (parseId m raw) := by
  intro e refused
  rw [Session.parseId_eq_error refused]
  trivial

theorem failsWith_updateFields (m : Mapping) (entries : List (String × Value)) :
    FailsWith Uncapped (updateFields m entries) := by
  induction entries with
  | nil => exact failsWith_ok []
  | cons entry rest ih =>
    unfold updateFields
    split_ifs
    · exact ih
    · split
      · rintro _ ⟨⟩
        trivial
      · exact failsWith_bind ih fun later => failsWith_ok _

theorem failsWith_partialDocument (m : Mapping) (u : Update) :
    FailsWith Uncapped (partialDocument m u) :=
  failsWith_bind (failsWith_updateFields m u.entries) fun _ =>
    failsWith_bind (failsWith_require trivial) fun _ => failsWith_ok _

namespace Session

variable {d : Session τ} {u : Update}

theorem failsWith_versionOf (u : Update) : FailsWith Uncapped (d.versionOf u) := by
  intro e refused
  unfold versionOf at refused
  split at refused <;> cases refused
  trivial

theorem failsWith_updateRequest (id : Id) (u : Update) :
    FailsWith Uncapped (d.updateRequest id u) :=
  failsWith_bind (failsWith_versionOf u) fun _ =>
    failsWith_bind (failsWith_partialDocument d.mapping u) fun _ => failsWith_ok _

theorem turns_updateById (id : Id) (u : Update) :
    (d.updateById id u).Keeps (Turns Turn Uncapped) := by
  refine Action.keeps_bind (Action.keeps_lift (failsWith_require trivial)) fun _ => ?_
  refine Action.keeps_bind (Action.keeps_lift (failsWith_require trivial)) fun _ => ?_
  intro xs r whole
  -- the request is put together, and sent if it could be
  rcases Action.says_lift_bind.mp whole with ⟨e, refused, rfl, rfl⟩ | ⟨request, ok, whole⟩
  · exact .refused (failsWith_updateRequest id u e refused)
  · obtain ⟨outcome, sends, rfl⟩ := (says_sent (index_of_updateRequest ok)).mp whole
    obtain ⟨_, _, -, -, rfl⟩ := updateRequest_eq_ok.mp ok
    rw [refusal?_map]
    exact .single (.update rfl sends)

theorem turns_updateEach (u : Update) (ids : List Id) :
    (d.updateEach u ids).Keeps (Turns Turn Uncapped) := by
  induction ids with
  | nil => exact Action.keeps_pure
  | cons id rest ih =>
    exact Action.keeps_bind (turns_updateById id u) fun _ => Action.keeps_bind ih fun _ =>
      Action.keeps_pure

theorem turns_updateByIds (ids : List Id) (u : Update) :
    (d.updateByIds ids u).Keeps (Turns Turn Uncapped) := by
  have checked : FailsWith Uncapped (checkIds ids) :=
    failsWith_bind (failsWith_require trivial) fun _ =>
      failsWith_forM (fun _ => failsWith_require trivial) ids
  refine Action.keeps_bind (Action.keeps_lift checked) fun _ => ?_
  refine Action.keeps_bind (Action.keeps_lift (failsWith_require trivial)) fun _ => ?_
  refine Action.keeps_bind (Action.keeps_lift (failsWith_require trivial)) fun _ => ?_
  exact turns_updateEach u ids

theorem UpdatesHits.uncapped {answer : Except BackendError SearchResponse}
    {rest : List (Exchange service)} {r : Except StoreError Int64} {e : StoreError}
    (goesOn : d.UpdatesHits u answer rest r) (failed : r = .error e) : e.Uncapped := by
  cases goesOn with
  | unanswered failure =>
    cases failed
    exact (Reported.call failure).uncapped
  | foreign parsed =>
    cases failed
    exact failsWith_mapM (fun hit : SearchHit => failsWith_parseId d.mapping hit.id) _ _ parsed
  | nothing => cases failed
  | updates _ _ said =>
    subst failed
    exact (turns_updateByIds _ u _ _ said).late_of_failed fun _ _ turn => turn.reported.uncapped

/-! ## What the count decides -/

/-- The count is beyond the limit, or the limit beyond all counts. -/
def Exceeded (d : Session τ) (count : Int64) : Prop :=
  (d.maxUpdateSize.toNat : Int) < count.toInt ∨ Int64.maxValue.toInt < d.maxUpdateSize.toNat

instance (d : Session τ) (count : Int64) : Decidable (d.Exceeded count) :=
  inferInstanceAs (Decidable (_ ∨ _))

structure CappedAt (d : Session τ) (q : SearchQuery) (counted : SearchResponse)
    (calls : List Call) (r : Except StoreError Int64) : Prop where
  refused : r = .error (.overload (.update d.mapping.typeName counted.totalHits d.maxUpdateSize)) ↔
    d.Exceeded counted.totalHits
  alone : calls = [.search (countOf d.mapping q d.index)] ↔ d.Exceeded counted.totalHits
  goesOn : ¬ d.Exceeded counted.totalHits → ∃ later,
    calls = .search (countOf d.mapping q d.index) :: .search (d.lookup q counted) :: later

theorem cappedAt_of_updatesFound {σ : Type} {answer : (c : Call) → σ → service.Answer c × σ}
    {s : σ} {q : SearchQuery} {counted : SearchResponse} {xs : List (Exchange service)}
    {r : Except StoreError Int64}
    (given : (answer (.search (countOf d.mapping q d.index)) s).1 = .ok counted)
    (least : 1 ≤ counted.totalHits) (found : d.UpdatesFound u q xs r)
    (answered : Program.Answered answer s xs) :
    d.CappedAt q counted (xs.map (·.call)) r := by
  have exceeded : d.maxUpdateSize.toInt64 < counted.totalHits ↔ d.Exceeded counted.totalHits :=
    toInt64_lt_iff least
  cases found with
  | uncounted failure =>
    obtain ⟨here, -⟩ := answered
    cases here.trans given
  | nothing counted' none =>
    obtain ⟨here, -⟩ := answered
    cases here.trans given
    rw [none] at least
    exact absurd least (by decide)
  | tooMany counted' some full =>
    obtain ⟨here, -⟩ := answered
    cases here.trans given
    have beyond := exceeded.mp full
    exact ⟨iff_of_true rfl beyond, iff_of_true rfl beyond, fun room => absurd beyond room⟩
  | looksUp counted' some room goesOn =>
    obtain ⟨here, -⟩ := answered
    cases here.trans given
    have within := fun beyond => room (exceeded.mpr beyond)
    refine ⟨iff_of_false (fun failed => goesOn.uncapped failed) within, ?_, fun _ => ⟨_, rfl⟩⟩
    exact iff_of_false nofun within

end Session

/-- Whatever the engine answers after it has counted some documents: the update of these is refused
for their number exactly where that is beyond the limit or the limit is no signed integer, and else
their ids are looked up. -/
theorem counted_update_capped (d : Session τ) {u : Update} {c : Criteria} {q : SearchQuery}
    (set : u.check = .ok ()) (checked : c.check = .ok ())
    (compiled : query d.mapping (some c) = .ok q) {σ : Type}
    (answer : (c : Call) → σ → service.Answer c × σ) (s : σ) {counted : SearchResponse}
    (given : (answer (.search (countOf d.mapping q d.index)) s).1 = .ok counted)
    (least : 1 ≤ counted.totalHits) :
    let run := (d.updateByCriteria u c).run.run answer s
    d.CappedAt q counted run.calls run.result := by
  intro run
  obtain ⟨xs, whole, answered, calls⟩ :=
    Program.exists_says_run answer (d.updateByCriteria u c).run s
  rcases Session.updatesFound_of_updateByCriteria whole with ⟨-, refused⟩ | ⟨q', -, -, same, found⟩
  · simp [set, checked, compiled] at refused
  · cases compiled.symm.trans same
    exact calls ▸ Session.cappedAt_of_updatesFound given least found answered

def boundless : SearchSettings where
  serverAddressList := "127.0.0.1:9300"
  maxUpdateSize := 18446744073709551615

def boundlessStore : Store notes where
  mapping := noteMapping
  indexName := ⟨"notes", none⟩
  idPolicy := .required
  maxUpdateSize := boundless.maxUpdateSize
  maxResultWindow := boundless.maxResultWindow

theorem create_boundless : Store.create notes boundless = .ok boundlessStore := by
  have valid : boundless.validate = .ok () := by decide +kernel
  unfold Store.create
  rw [valid, build_notes]
  rfl

theorem titledA_refused :
    let chain : Criteria := .single "title" .eq (.text "a")
    let run (d : Session notes) := (d.updateByCriteria titleChange chain).run.run miscounted ()
    (run ⟨boundlessStore, "notes"⟩).result =
      .error (.overload (.update "Note" 1 18446744073709551615)) ∧
    ∃ later, (run oneAtATime).calls =
      .search titledA :: .search { titledA with size := 1 } :: later := by
  intro chain run
  have compiled : query noteMapping (some chain) = .ok titledA.query := rfl
  have refused := counted_update_capped ⟨boundlessStore, "notes"⟩ (u := titleChange) rfl rfl compiled
    miscounted () rfl (by decide)
  have goesOn := counted_update_capped oneAtATime (u := titleChange) rfl rfl compiled
    miscounted () rfl (by decide)
  exact ⟨refused.refused.mpr (by decide), goesOn.goesOn (by decide)⟩

theorem not_capped_by_number : ¬ ∀ (settings : SearchSettings) (store : Store notes)
    (index : String) (u : Update) (c : Criteria) (q : SearchQuery)
    (answer : (c : Call) → Unit → service.Answer c × Unit) (counted : SearchResponse),
    Store.create notes settings = .ok store → u.check = .ok () → c.check = .ok () →
    query store.mapping (some c) = .ok q →
    (answer (.search (countOf store.mapping q index)) ()).1 = .ok counted →
    1 ≤ counted.totalHits →
    let d : Session notes := ⟨store, index⟩
    (((d.updateByCriteria u c).run.run answer ()).result =
        .error (.overload (.update store.mapping.typeName counted.totalHits store.maxUpdateSize)) ↔
      (settings.maxUpdateSize.toNat : Int) < counted.totalHits.toInt) := by
  intro capped
  have few := (capped boundless boundlessStore "notes" titleChange
    (.single "title" .eq (.text "a")) titledA.query miscounted _ create_boundless rfl rfl rfl rfl
    (by decide)).mp rfl
  exact absurd few (by decide)

end Search

end EntityStore
