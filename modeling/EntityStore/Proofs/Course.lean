import EntityStore.Proofs.Conversation
import EntityStore.Proofs.Late

/-!
# The course of an operation

An operation is refused before it says anything, or takes one turn after another up to the first
that fails. A turn is an exchange, or several that belong together. Once a turn is taken the
operation is refused for some reasons only.
-/

namespace EntityStore

variable {S : Service} {τ : EntityType} {α β : Type}

/-- A law about what is said, and about the error that it ends with. -/
abbrev Law (S : Service) := List (Exchange S) → Option StoreError → Prop

/-- Turns one after the other; they end with the first that fails or with a late refusal. -/
inductive Turns (turn : Law S) (late : StoreError → Prop) : Law S where
  | done : Turns turn late [] none
  | refused {e : StoreError} (reason : late e) : Turns turn late [] (some e)
  | failed {xs : List (Exchange S)} {e : StoreError} (said : turn xs (some e)) :
    Turns turn late xs (some e)
  | next {xs later : List (Exchange S)} {e? : Option StoreError} (said : turn xs none)
    (rest : Turns turn late later e?) : Turns turn late (xs ++ later) e?

/-- A refusal before anything is said, or turns. -/
def Course (turn : Law S) (late : StoreError → Prop) : Law S := fun xs e? =>
  xs = [] ∨ Turns turn late xs e?

/-- One exchange whose failure becomes the error that `classify` makes of it. -/
def Single (classify : BackendError → StoreError) : Law S := fun xs e? =>
  ∃ c answer, xs = [⟨c, answer⟩] ∧ e? = (refusal? answer).map classify

def Law.Refusable (law : Law S) : Prop := ∀ e?, law [] e?

variable {turn : Law S} {late : StoreError → Prop}

theorem Course.refusable : (Course turn late).Refusable := fun _ => .inl rfl

theorem Turns.single {xs : List (Exchange S)} {e? : Option StoreError} (said : turn xs e?) :
    Turns turn late xs e? := by
  cases e? with
  | none => exact List.append_nil xs ▸ .next said .done
  | some e => exact .failed said

theorem Turns.append {xs later : List (Exchange S)} {e? : Option StoreError}
    (first : Turns turn late xs none) (rest : Turns turn late later e?) :
    Turns turn late (xs ++ later) e? := by
  generalize ended : (none : Option StoreError) = e at first
  induction first with
  | done => exact rest
  | refused | failed => cases ended
  | next said _ ih => exact List.append_assoc .. ▸ .next said (ih ended)

theorem Turns.mono {late' : StoreError → Prop} (weaker : ∀ e, late e → late' e)
    {xs : List (Exchange S)} {e? : Option StoreError} (turns : Turns turn late xs e?) :
    Turns turn late' xs e? := by
  induction turns with
  | done => exact .done
  | refused reason => exact .refused (weaker _ reason)
  | failed said => exact .failed said
  | next said _ ih => exact .next said ih

theorem Course.turns {xs : List (Exchange S)} {e? : Option StoreError}
    (course : Course turn late xs e?) : Turns turn (fun _ => True) xs e? := by
  rcases course with rfl | turns
  · cases e? with
    | none => exact .done
    | some e => exact .refused trivial
  · exact turns.mono fun _ _ => trivial

theorem Turns.late_of_failed {xs : List (Exchange S)} {e : StoreError}
    (turns : Turns turn late xs (some e)) (failed : ∀ xs e, turn xs (some e) → late e) :
    late e := by
  generalize ended : some e = e? at turns
  induction turns with
  | done => cases ended
  | refused reason => exact Option.some.inj ended ▸ reason
  | failed said => exact Option.some.inj ended ▸ failed _ _ said
  | next _ _ ih => exact ih ended

/-! ## Late errors -/

theorem Course.eq_nil_of_untried {xs : List (Exchange S)} {e : StoreError}
    (course : Course turn StoreError.Late xs (some e))
    (failed : ∀ xs e, turn xs (some e) → e.Late) (untried : e.Untried) : xs = [] := by
  rcases course with silent | turns
  · exact silent
  · exact absurd untried (turns.late_of_failed failed)

theorem Single.late_of_failed {kind : CallKind} {xs : List (Exchange S)} {e : StoreError}
    (said : Single (.ofBackend kind) xs (some e)) : e.Late := by
  obtain ⟨c, answer, -, ended⟩ := said
  cases answer with
  | ok reply => cases ended
  | error failure =>
    cases ended
    exact StoreError.late_ofBackend kind failure

/-! ## Programs and actions -/

/-- The law holds of whatever the program says and of the error in what it comes to. -/
def Program.Keeps (law : Law S) (error? : α → Option StoreError) (p : Program S α) : Prop :=
  ∀ xs a, p.Says xs a → law xs (error? a)

def Action.Keeps (law : Law S) (x : Action S α) : Prop := x.run.Keeps law refusal?

namespace Program

variable {error? : α → Option StoreError}

theorem Keeps.mono {law law' : Law S} (weaker : ∀ xs e?, law xs e? → law' xs e?)
    {p : Program S α} (keeps : p.Keeps law error?) : p.Keeps law' error? :=
  fun xs a whole => weaker _ _ (keeps xs a whole)

theorem Keeps.map {law : Law S} {p : Program S β} {given? : β → Option StoreError} {f : β → α}
    (keeps : p.Keeps law given?) (same : ∀ b, error? (f b) = given? b) :
    (p.bind fun b => done (f b)).Keeps law error? := by
  intro xs a whole
  obtain ⟨b, said, _, first, ended, rfl⟩ := says_bind.mp whole
  obtain ⟨rfl, rfl⟩ := says_done.mp ended
  rw [List.append_nil, same]
  exact keeps said b first

theorem Keeps.course {p : Program S α} (keeps : p.Keeps (Turns turn late) error?) :
    p.Keeps (Course turn late) error? :=
  keeps.mono fun _ _ => .inr

theorem Keeps.turns {p : Program S α} (keeps : p.Keeps (Course turn late) error?) :
    p.Keeps (Turns turn fun _ => True) error? :=
  keeps.mono fun _ _ => Course.turns

theorem keeps_done {a : α} : (done a : Program S α).Keeps (Course turn late) error? := by
  intro xs b whole
  obtain ⟨rfl, rfl⟩ := says_done.mp whole
  exact .inl rfl

theorem keeps_done_of_late {a : α} (reason : ∀ e, error? a = some e → late e) :
    (done a : Program S α).Keeps (Turns turn late) error? := by
  intro xs b whole
  obtain ⟨rfl, rfl⟩ := says_done.mp whole
  cases ended : error? b with
  | none => exact .done
  | some e => exact .refused (reason e ended)

theorem keeps_done_of_ok {a : α} (ok : error? a = none) :
    (done a : Program S α).Keeps (Turns turn late) error? :=
  keeps_done_of_late fun _ failed => nomatch ok.symm.trans failed

theorem keeps_run_bind {x : Action S β} {f : Except StoreError β → Program S α}
    (first : x.Keeps (Turns turn late))
    (failed : ∀ e, ∃ a, f (.error e) = done a ∧ error? a = some e)
    (next : ∀ b, (f (.ok b)).Keeps (Turns turn late) error?) :
    (x.run.bind f).Keeps (Turns turn late) error? := by
  intro xs a whole
  obtain ⟨r, said, later, hx, hf, rfl⟩ := says_bind.mp whole
  cases r with
  | ok b => exact (first said _ hx).append (next b later a hf)
  | error e =>
    obtain ⟨b, eq, error⟩ := failed e
    rw [eq] at hf
    obtain ⟨rfl, rfl⟩ := says_done.mp hf
    rw [List.append_nil, error]
    exact first said _ hx

end Program

namespace Action

theorem keeps_pure {a : α} : (pure a : Action S α).Keeps (Turns turn late) :=
  Program.keeps_done_of_ok rfl

theorem keeps_throw {e : StoreError} : (throw e : Action S α).Keeps (Course turn late) :=
  Program.keeps_done

theorem keeps_lift {x : Except StoreError α} (reason : ∀ e, x = .error e → late e) :
    (liftM x : Action S α).Keeps (Turns turn late) :=
  Program.keeps_done_of_late fun e refused => reason e (refusal?_eq_some.mp refused)

theorem keeps_throw_of_late {e : StoreError} (reason : late e) :
    (throw e : Action S α).Keeps (Turns turn late) :=
  Program.keeps_done_of_late fun _ same => Option.some.inj same ▸ reason

theorem keeps_log {event : LogEvent} : (log event : Action S Unit).Keeps (Turns turn late) := by
  intro xs r whole
  obtain ⟨rfl, rfl⟩ := says_log.mp whole
  exact .done

theorem keeps_logAll {events : List LogEvent} :
    (logAll events : Action S Unit).Keeps (Turns turn late) := by
  intro xs r whole
  obtain ⟨rfl, rfl⟩ := says_logAll.mp whole
  exact .done

theorem keeps_call {classify : BackendError → StoreError} {c : S.Call}
    (said : ∀ answer, turn [⟨c, answer⟩] ((refusal? answer).map classify)) :
    (call classify c : Action S (S.Reply c)).Keeps (Turns turn late) := by
  intro xs r whole
  obtain ⟨answer, rfl, rfl⟩ := says_call.mp whole
  have same : refusal? (answer.mapError classify) = (refusal? answer).map classify := by
    cases answer <;> rfl
  rw [same]
  exact .single (said answer)

theorem keeps_bind {x : Action S α} {f : α → Action S β} (first : x.Keeps (Turns turn late))
    (next : ∀ a, (f a).Keeps (Turns turn late)) : (x >>= f).Keeps (Turns turn late) := by
  intro xs r whole
  rcases says_bind.mp whole with ⟨e, failed, rfl⟩ | ⟨a, said, later, hx, hf, rfl⟩
  · exact first xs _ failed
  · exact (first said _ hx).append (next a later r hf)

theorem keeps_course_bind {x : Action S α} {f : α → Action S β} (first : x.Keeps (Course turn late))
    (next : ∀ a, (f a).Keeps (Turns turn late)) : (x >>= f).Keeps (Course turn late) := by
  intro xs r whole
  rcases says_bind.mp whole with ⟨e, failed, rfl⟩ | ⟨a, said, later, hx, hf, rfl⟩
  · exact first xs _ failed
  · rcases first said _ hx with rfl | turns
    · exact .inr (next a later r hf)
    · exact .inr (turns.append (next a later r hf))

theorem keeps_lift_bind {law : Law S} (refusable : law.Refusable) {x : Except StoreError α}
    {f : α → Action S β} (next : ∀ a, x = .ok a → (f a).Keeps law) :
    (liftM x >>= f).Keeps law := by
  intro xs r whole
  rcases says_lift_bind.mp whole with ⟨e, -, rfl, rfl⟩ | ⟨a, ok, whole⟩
  · exact refusable _
  · exact next a ok xs r whole

theorem keeps_check {x : Except StoreError α} {f : α → Action S β}
    (next : ∀ a, x = .ok a → (f a).Keeps (Course turn late)) :
    (liftM x >>= f).Keeps (Course turn late) :=
  keeps_lift_bind Course.refusable next

theorem keeps_passed {law : Law S} {x : Except StoreError α} {a : α} {f : α → Action S β}
    (ok : x = .ok a) : (liftM x >>= f).Keeps law ↔ (f a).Keeps law := by
  subst ok
  rfl

end Action

/-! ## What repositories share -/

namespace Repository

theorem keeps_insertEach {insert : Entity τ → Program S (Insertion τ)} {amount : Int64 → Int64}
    (each : ∀ e, (insert e).Keeps (Turns turn late) (refusal? ·.result)) (es : List (Entity τ)) :
    (insertEach insert amount es).Keeps (Turns turn late) (refusal? ·.result) := by
  induction es with
  | nil => exact Program.keeps_done_of_ok rfl
  | cons e rest ih =>
    intro xs b whole
    obtain ⟨i, said, later, first, others, rfl⟩ := Program.says_bind.mp whole
    have turns := each e said i first
    cases outcome : i.result with
    | error failure =>
      simp only [outcome] at others turns
      obtain ⟨rfl, rfl⟩ := Program.says_done.mp others
      rw [List.append_nil]
      exact turns
    | ok n =>
      simp only [outcome] at others turns
      let collect (b' : BatchInsertion τ) : BatchInsertion τ :=
        ⟨b'.result.map (amount n + ·), i.entity :: b'.entities⟩
      have collected : ((insertEach insert amount rest).bind fun b' => .done (collect b')).Keeps
          (Turns turn late) (refusal? ·.result) := ih.map fun b' => refusal?_map b'.result _
      exact turns.append (collected later b others)

theorem keeps_insertAll {insert : Entity τ → Program S (Insertion τ)} {amount : Int64 → Int64}
    (each : ∀ e, (insert e).Keeps (Turns turn late) (refusal? ·.result)) (es : List (Entity τ)) :
    (insertAll insert amount es).Keeps (Course turn late) (refusal? ·.result) := by
  unfold insertAll
  split
  · exact Program.keeps_done
  · exact (keeps_insertEach each es).course

theorem keeps_changeProperties {m : Mapping} {updateById : Id → Update → Action S Int64}
    (each : ∀ id u, (updateById id u).Keeps (Course turn late)) (e : Entity τ)
    (properties : List String) :
    (changeProperties m updateById e properties).Keeps (Course turn late) :=
  Action.keeps_check fun id _ => Action.keeps_check fun u _ => each id u

theorem keeps_existsThrough {m : Mapping} {find : Query → Action S (Option (Entity τ))}
    (each : ∀ q, (find q).Keeps (Course turn late)) (c : Criteria) :
    (existsThrough m find c).Keeps (Course turn late) :=
  Action.keeps_check fun _ _ => Action.keeps_course_bind (each _) fun _ => Action.keeps_pure

/-- The operations of a repository have their courses. Those that insert several entities, or update
what a criteria chain finds, may have another than the rest. -/
structure Abides (r : Repository S τ) (turn : Law S) (late lateEach : StoreError → Prop) :
    Prop where
  insert : ∀ e, (r.insert e).Keeps (Course turn late) (refusal? ·.result)
  insertBatch : ∀ es, (r.insertBatch es).Keeps (Course turn lateEach) (refusal? ·.result)
  update : ∀ e, (r.update e).Keeps (Course turn late)
  updateProperties : ∀ e properties, (r.updateProperties e properties).Keeps (Course turn late)
  updateById : ∀ id u, (r.updateById id u).Keeps (Course turn late)
  updateByIds : ∀ ids u, (r.updateByIds ids u).Keeps (Course turn late)
  updateByCriteria : ∀ u c, (r.updateByCriteria u c).Keeps (Course turn lateEach)
  updateBySql : ∀ s, (r.updateBySql s).Keeps (Course turn late)
  deleteById : ∀ id, (r.deleteById id).Keeps (Course turn late)
  deleteBySql : ∀ s, (r.deleteBySql s).Keeps (Course turn late)
  existsById : ∀ id, (r.existsById id).Keeps (Course turn late)
  existsByCriteria : ∀ c, (r.existsByCriteria c).Keeps (Course turn late)
  countByCriteria : ∀ c, (r.countByCriteria c).Keeps (Course turn late)
  countAll : r.countAll.Keeps (Course turn late)
  countBySql : ∀ s, (r.countBySql s).Keeps (Course turn late)
  findOneById : ∀ id, (r.findOneById id).Keeps (Course turn late)
  findOneByQuery : ∀ q, (r.findOneByQuery q).Keeps (Course turn late)
  findOneBySql : ∀ s, (r.findOneBySql s).Keeps (Course turn late)
  findListByIds : ∀ ids, (r.findListByIds ids).Keeps (Course turn late)
  findListByQuery : ∀ q, (r.findListByQuery q).Keeps (Course turn late)
  findListBySql : ∀ s, (r.findListBySql s).Keeps (Course turn late)

end Repository

namespace Operation

def isCompound : Operation τ → Bool
  | .insertBatch _ | .updateByCriteria _ _ => true
  | _ => false

def isChange : Operation τ → Bool
  | .insert _ | .insertBatch _ | .update _ | .updateProperties _ _ | .updateById _ _
  | .updateByIds _ _ | .updateByCriteria _ _ | .updateBySql _ | .deleteById _
  | .deleteBySql _ => true
  | _ => false

end Operation

namespace Repository

theorem keeps_outcome {law : Law S} {reply : α → Reply τ} {action : Action S α}
    (keeps : action.Keeps law) : (outcome reply action).Keeps law (refusal? ·.result) :=
  keeps.map fun result => refusal?_map result reply

variable {r : Repository S τ} {lateEach : StoreError → Prop} {law : Law S}

structure Reads (r : Repository S τ) (law : Law S) : Prop where
  existsById : ∀ id, (r.existsById id).Keeps law
  existsByCriteria : ∀ c, (r.existsByCriteria c).Keeps law
  countByCriteria : ∀ c, (r.countByCriteria c).Keeps law
  countAll : r.countAll.Keeps law
  countBySql : ∀ s, (r.countBySql s).Keeps law
  findOneById : ∀ id, (r.findOneById id).Keeps law
  findOneByQuery : ∀ q, (r.findOneByQuery q).Keeps law
  findOneBySql : ∀ s, (r.findOneBySql s).Keeps law
  findListByIds : ∀ ids, (r.findListByIds ids).Keeps law
  findListByQuery : ∀ q, (r.findListByQuery q).Keeps law
  findListBySql : ∀ s, (r.findListBySql s).Keeps law

theorem Reads.keeps_paged (reads : r.Reads law) (refusable : law.Refusable) (q : Query)
    (p : Page) : (r.findListByQueryPaged q p).Keeps law :=
  Action.keeps_lift_bind refusable fun _ _ => Action.keeps_lift_bind refusable fun _ _ =>
    reads.findListByQuery _

theorem Reads.keeps_perform (reads : r.Reads law) (refusable : law.Refusable)
    {operation : Operation τ} (read : operation.isChange = false) :
    (r.perform operation).Keeps law (refusal? ·.result) := by
  have check {α β : Type} {x : Except StoreError α} {f : α → Action S β}
      (next : ∀ a, (f a).Keeps law) : (liftM x >>= f).Keeps law :=
    Action.keeps_lift_bind refusable fun a _ => next a
  have paged (q : Query) (p : Page) := reads.keeps_paged refusable q p
  cases operation with
  | existsById id => exact keeps_outcome (reads.existsById id)
  | existsByCriteria c => exact keeps_outcome (reads.existsByCriteria c)
  | countByCriteria c => exact keeps_outcome (reads.countByCriteria c)
  | countAll => exact keeps_outcome reads.countAll
  | countBySql s => exact keeps_outcome (reads.countBySql s)
  | findOneById id => exact keeps_outcome (reads.findOneById id)
  | findOneByQuery q => exact keeps_outcome (reads.findOneByQuery q)
  | findOneBySql s => exact keeps_outcome (reads.findOneBySql s)
  | findListByIds ids => exact keeps_outcome (reads.findListByIds ids)
  | findListByQuery q => exact keeps_outcome (reads.findListByQuery q)
  | findListByQueryPaged q p => exact keeps_outcome (paged q p)
  | findListBySql s => exact keeps_outcome (reads.findListBySql s)
  | findOne c => exact keeps_outcome (check fun _ => reads.findOneByQuery _)
  | findOneWithFields fields c =>
    exact keeps_outcome (check fun _ => check fun _ => reads.findOneByQuery _)
  | findList c => exact keeps_outcome (check fun _ => reads.findListByQuery _)
  | findListWithFields fields c =>
    exact keeps_outcome (check fun _ => check fun _ => reads.findListByQuery _)
  | findListWithFieldsOrdered fields c order =>
    exact keeps_outcome (check fun _ => check fun _ => check fun _ => reads.findListByQuery _)
  | findListWithFieldsOrderedPaged fields c order p =>
    exact keeps_outcome (check fun _ => check fun _ => check fun _ => check fun _ => paged _ _)
  | findListOrdered c order =>
    exact keeps_outcome (check fun _ => check fun _ => reads.findListByQuery _)
  | findListOrderedPaged c order p =>
    exact keeps_outcome (check fun _ => check fun _ => check fun _ => paged _ _)
  | findAll => exact keeps_outcome (reads.findListByQuery _)
  | findAllWithFields fields => exact keeps_outcome (check fun _ => reads.findListByQuery _)
  | findAllWithFieldsOrdered fields order =>
    exact keeps_outcome (check fun _ => check fun _ => reads.findListByQuery _)
  | findAllWithFieldsOrderedPaged fields order p =>
    exact keeps_outcome (check fun _ => check fun _ => check fun _ => paged _ _)
  | findAllOrderedPaged order p => exact keeps_outcome (check fun _ => check fun _ => paged _ _)
  | _ => cases read

theorem Abides.reads (abides : r.Abides turn late lateEach) : r.Reads (Course turn late) where
  existsById := abides.existsById
  existsByCriteria := abides.existsByCriteria
  countByCriteria := abides.countByCriteria
  countAll := abides.countAll
  countBySql := abides.countBySql
  findOneById := abides.findOneById
  findOneByQuery := abides.findOneByQuery
  findOneBySql := abides.findOneBySql
  findListByIds := abides.findListByIds
  findListByQuery := abides.findListByQuery
  findListBySql := abides.findListBySql

theorem Abides.keeps_perform (abides : r.Abides turn late lateEach) (operation : Operation τ) :
    (r.perform operation).Keeps (Course turn (if operation.isCompound then lateEach else late))
      (refusal? ·.result) := by
  cases operation with
  | insert e => exact (abides.insert e).map fun i => refusal?_map i.result _
  | insertBatch es => exact (abides.insertBatch es).map fun b => refusal?_map b.result _
  | update e => exact keeps_outcome (abides.update e)
  | updateProperties e properties => exact keeps_outcome (abides.updateProperties e properties)
  | updateById id u => exact keeps_outcome (abides.updateById id u)
  | updateByIds ids u => exact keeps_outcome (abides.updateByIds ids u)
  | updateByCriteria u c => exact keeps_outcome (abides.updateByCriteria u c)
  | updateBySql s => exact keeps_outcome (abides.updateBySql s)
  | deleteById id => exact keeps_outcome (abides.deleteById id)
  | deleteBySql s => exact keeps_outcome (abides.deleteBySql s)
  | _ => exact abides.reads.keeps_perform Course.refusable rfl

theorem Abides.untouched (abides : r.Abides turn StoreError.Late lateEach)
    (failed : ∀ xs e, turn xs (some e) → e.Late) {operation : Operation τ}
    (alike : operation.isCompound → lateEach = StoreError.Late) {σ : Type}
    {answer : (c : S.Call) → σ → S.Answer c × σ} {s : σ} {e : StoreError}
    (refused : ((r.perform operation).run answer s).result.result = .error e)
    (untried : e.Untried) :
    ((r.perform operation).run answer s).calls = [] ∧
      ((r.perform operation).run answer s).state = s := by
  have keeps := abides.keeps_perform operation
  have late : (if operation.isCompound then lateEach else StoreError.Late) = StoreError.Late := by
    split_ifs with compound
    · exact alike compound
    · rfl
  rw [late] at keeps
  have course := keeps _ _ (Program.says_exchanges answer _ s)
  simp only [refused] at course
  have silent := course.eq_nil_of_untried failed untried
  rw [← Program.map_call_exchanges, silent]
  exact ⟨rfl, Program.state_of_no_calls answer _ s silent⟩

end Repository

end EntityStore
