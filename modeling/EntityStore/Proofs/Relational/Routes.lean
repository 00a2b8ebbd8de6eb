import EntityStore.Proofs.Relational.Course

/-!
# The route of an operation

A count or a search sends one statement along the read route, an update or a deletion one along the
write route. An insertion only writes: one statement, or two where its key is drawn from a sequence.
-/

namespace EntityStore.Relational.Store

variable {τ : EntityType}

/-! ## What is sent -/

def Once (route : Route) (xs : List (Exchange service)) : Prop :=
  xs = [] ∨ ∃ command answer, xs = [⟨⟨route, command⟩, answer⟩]

def Sent (route : Route) : Law service := fun xs _ => Once route xs

def insertion (d : Store τ) (key : Option Value) (e : Entity τ) : Statement :=
  (Relational.insert d.mapping (d.insertValues key e)).statement

def keyed (d : Store τ) (e : Entity τ) (next : Int64) : Except StoreError (Entity τ) :=
  e.set d.mapping.key.property (d.keyValue (.int64 next))

inductive Inserts (d : Store τ) (e : Entity τ) : List (Exchange service) → Prop where
  | chosen (set : d.mapping.hasKey e = true) (answer : Except BackendError Int64) :
    Inserts d e [⟨⟨.write, .update (d.insertion (some (e.valueOf d.mapping.key.property)) e)⟩,
      answer⟩]
  | generated (unset : d.mapping.hasKey e = false) (dialect : d.dialect = .mysql)
    (answer : Except BackendError (Int64 × Option Value)) :
    Inserts d e [⟨⟨.write, .updateReturningKey (d.insertion none e) d.mapping.key.column⟩, answer⟩]
  /-- There is no sequence to draw a key from. -/
  | unnamed (unset : d.mapping.hasKey e = false) (dialect : d.dialect = .oracle)
    (unnamed : d.mapping.names.sequence = none) : Inserts d e []
  /-- The sequence is not answered for, or not with a number that can be the key. -/
  | undrawn (unset : d.mapping.hasKey e = false) (dialect : d.dialect = .oracle) {sql : String}
    (sequence : nextSequence d.mapping = .ok sql) (answer : Except BackendError Int64)
    (unusable : ∀ next, answer = .ok next → ∃ failure, d.keyed e next = .error failure) :
    Inserts d e [⟨⟨.write, .queryForLong ⟨sql, []⟩⟩, answer⟩]
  | drawn (unset : d.mapping.hasKey e = false) (dialect : d.dialect = .oracle) {sql : String}
    (sequence : nextSequence d.mapping = .ok sql) {next : Int64} {entity : Entity τ}
    (usable : d.keyed e next = .ok entity) (answer : Except BackendError Int64) :
    Inserts d e [⟨⟨.write, .queryForLong ⟨sql, []⟩⟩, .ok next⟩,
      ⟨⟨.write, .update (d.insertion (some (d.keyValue (.int64 next))) entity)⟩, answer⟩]

inductive InsertsEach (d : Store τ) : List (Entity τ) → List (Exchange service) → Prop where
  | stopped (es : List (Entity τ)) : InsertsEach d es []
  | next {e : Entity τ} {rest : List (Entity τ)} {xs later : List (Exchange service)}
    (inserts : d.Inserts e xs) (others : InsertsEach d rest later) :
    InsertsEach d (e :: rest) (xs ++ later)

def Serves (d : Store τ) : Operation τ → List (Exchange service) → Prop
  | .insert e, xs => d.Inserts e xs
  | .insertBatch es, xs => d.InsertsEach es xs
  | operation, xs => Once (if operation.isChange then .write else .read) xs

variable {d : Store τ} {route : Route} {xs : List (Exchange service)}

/-! ## One statement -/

theorem sent_refusable : (Sent route).Refusable := fun _ => .inl rfl

theorem says_send {command : Command} {s : Statement} {r : Except StoreError command.Reply} :
    (d.send route command s).Says xs r ↔
      ∃ answer, xs = [⟨⟨route, command⟩, answer⟩] ∧ r = answer.mapError d.classify :=
  Action.says_log_bind.trans Action.says_call

theorem sent_send {command : Command} {s : Statement} :
    (d.send route command s).Keeps (Sent route) := by
  intro xs r whole
  obtain ⟨answer, rfl, -⟩ := says_send.mp whole
  exact .inr ⟨command, answer, rfl⟩

theorem sent_bind {α β : Type} {x : Action service α} {f : α → Action service β}
    (first : x.Keeps (Sent route)) (silent : ∀ a ys r, (f a).Says ys r → ys = []) :
    (x >>= f).Keeps (Sent route) := by
  intro xs r whole
  rcases Action.says_bind.mp whole with ⟨e, failed, rfl⟩ | ⟨a, said, later, hx, hf, rfl⟩
  · exact first xs _ failed
  · rw [silent a later r hf, List.append_nil]
    exact first said _ hx

theorem sent_pure_bind {α β : Type} {x : Action service α} {f : α → β}
    (first : x.Keeps (Sent route)) : (x >>= fun a => pure (f a)).Keeps (Sent route) :=
  sent_bind first fun _ _ _ said => (Action.says_pure.mp said).1

theorem sent_check {α β : Type} {x : Except StoreError α} {f : α → Action service β}
    (next : ∀ a, (f a).Keeps (Sent route)) : (liftM x >>= f).Keeps (Sent route) :=
  Action.keeps_lift_bind sent_refusable fun a _ => next a

theorem sent_readList {s : Statement} : (d.readList s).Keeps (Sent .read) := by
  unfold readList
  refine sent_bind sent_send fun rows ys r said => ?_
  rcases Action.says_bind.mp said with ⟨e, logged, -⟩ | ⟨_, first, later, logged, ended, rfl⟩
  · exact (Action.says_logAll.mp logged).1
  · obtain ⟨rfl, -⟩ := Action.says_logAll.mp logged
    obtain ⟨rfl, -⟩ := Action.says_pure.mp ended
    rfl

/-! ## Counts and searches -/

theorem sent_findListByQuery (q : Query) : (d.findListByQuery q).Keeps (Sent .read) :=
  sent_check fun _ => sent_check fun _ => sent_readList

theorem sent_findOneByQuery (q : Query) : (d.findOneByQuery q).Keeps (Sent .read) :=
  sent_check fun _ => sent_pure_bind (sent_findListByQuery _)

theorem sent_findListBySql (s : Statement) : (d.findListBySql s).Keeps (Sent .read) :=
  sent_check fun _ => sent_readList

theorem sent_existsByCriteria (c : Criteria) : (d.existsByCriteria c).Keeps (Sent .read) :=
  sent_check fun _ => sent_pure_bind (sent_findOneByQuery _)

theorem reads (d : Store τ) : d.repository.Reads (Sent .read) where
  existsById _ := sent_check fun _ => sent_existsByCriteria _
  existsByCriteria := sent_existsByCriteria
  countByCriteria _ := sent_check fun _ => sent_check fun _ => sent_send
  countAll := sent_check fun _ => sent_send
  countBySql _ := sent_check fun _ => sent_send
  findOneById _ := sent_check fun _ => sent_check fun _ => sent_findOneByQuery _
  findOneByQuery := sent_findOneByQuery
  findOneBySql s := sent_check fun _ => sent_pure_bind (sent_findListBySql s)
  findListByIds _ := sent_check fun _ => sent_check fun _ => sent_findListByQuery _
  findListByQuery := sent_findListByQuery
  findListBySql := sent_findListBySql

/-! ## Updates and deletions -/

theorem sent_updateByCriteria (u : Update) (c : Criteria) :
    (d.updateByCriteria u c).Keeps (Sent .write) :=
  sent_check fun _ => sent_check fun _ => sent_check fun _ => sent_send

theorem sent_updateById (id : Id) (u : Update) : (d.updateById id u).Keeps (Sent .write) :=
  sent_check fun _ => sent_check fun _ => sent_updateByCriteria u _

theorem sent_updateByIds (ids : List Id) (u : Update) :
    (d.updateByIds ids u).Keeps (Sent .write) :=
  sent_check fun _ => sent_check fun _ => sent_updateByCriteria u _

theorem sent_updateProperties (e : Entity τ) (properties : List String) :
    (d.updateProperties e properties).Keeps (Sent .write) :=
  sent_check fun _ => sent_check fun _ => sent_updateById _ _

theorem sent_writeSql (s : Statement) : (d.writeSql s).Keeps (Sent .write) :=
  sent_check fun _ => sent_send

theorem sent_deleteById (id : Id) : (d.deleteById id).Keeps (Sent .write) :=
  sent_check fun _ => sent_send

/-! ## Insertions -/

def drawing (sequence : String) : Statement :=
  ⟨"SELECT " ++ sequence ++ ".NEXTVAL AS ID FROM DUAL", []⟩

theorem nextSequence_of_named {m : Mapping} {sequence : String}
    (named : m.names.sequence = some sequence) : nextSequence m = .ok (drawing sequence).sql := by
  unfold nextSequence
  rw [named]
  rfl

def adopt (d : Store τ) (e : Entity τ) :
    Except BackendError (Int64 × Option Value) → Insertion τ
  | .error failure => ⟨.error (d.classify failure), e⟩
  | .ok (affected, none) => ⟨.ok affected, e⟩
  | .ok (affected, some key) =>
    match e.set d.mapping.key.property (d.keyValue key) with
    | .error failure => ⟨.error failure, e⟩
    | .ok keyed => ⟨.ok affected, keyed⟩

section Insert

variable {e : Entity τ} {i : Insertion τ}

theorem adopt_of_refused {affected : Int64} {key : Value} {failure : StoreError}
    (refused : e.set d.mapping.key.property (d.keyValue key) = .error failure) :
    d.adopt e (.ok (affected, some key)) = ⟨.error failure, e⟩ := by
  simp only [adopt, refused]

theorem adopt_of_taken {affected : Int64} {key : Value} {keyed : Entity τ}
    (taken : e.set d.mapping.key.property (d.keyValue key) = .ok keyed) :
    d.adopt e (.ok (affected, some key)) = ⟨.ok affected, keyed⟩ := by
  simp only [adopt, taken]

theorem says_insert_of_set (set : d.mapping.hasKey e = true) :
    (d.insert e).Says xs i ↔ ∃ answer : Except BackendError Int64, xs =
      [⟨⟨.write, .update (d.insertion (some (e.valueOf d.mapping.key.property)) e)⟩, answer⟩] ∧
      i = ⟨answer.mapError d.classify, e⟩ := by
  unfold insert chooseKey
  rw [if_pos set]
  exact Program.says_answer

theorem says_insert_of_mysql (unset : d.mapping.hasKey e = false) (dialect : d.dialect = .mysql) :
    (d.insert e).Says xs i ↔ ∃ answer : Except BackendError (Int64 × Option Value), xs =
      [⟨⟨.write, .updateReturningKey (d.insertion none e) d.mapping.key.column⟩, answer⟩] ∧
      i = d.adopt e answer := by
  have inserting : d.insert e = .log (d.statementEvent (d.insertion none e))
      (.call ⟨.write, .updateReturningKey (d.insertion none e) d.mapping.key.column⟩ fun answer =>
        .done (d.adopt e answer)) := by
    unfold insert chooseKey
    rw [unset, dialect]
    refine congrArg (Program.log _) (congrArg (Program.call _) (funext fun answer => ?_))
    match answer with
    | .error failure => rfl
    | .ok (affected, none) => rfl
    | .ok (affected, some key) =>
      unfold adopt
      dsimp only [Except.mapError, Program.done_bind]
      cases e.set d.mapping.key.property (d.keyValue key) <;> rfl
  rw [inserting]
  exact Program.says_answer

theorem says_insert_of_unnamed (unset : d.mapping.hasKey e = false) (dialect : d.dialect = .oracle)
    (unnamed : d.mapping.names.sequence = none) :
    (d.insert e).Says xs i ↔
      xs = [] ∧ i = ⟨.error (Mapping.faulty d.mapping.typeName .noSequence), e⟩ := by
  unfold insert chooseKey drawKey nextSequence
  rw [unset, dialect, unnamed]
  exact Program.says_done

theorem says_insert_of_named (unset : d.mapping.hasKey e = false) (dialect : d.dialect = .oracle)
    {sequence : String} (named : d.mapping.names.sequence = some sequence) :
    (d.insert e).Says xs i ↔
      ∃ (number : Except BackendError Int64) (later : List (Exchange service)),
      xs = ⟨⟨.write, .queryForLong (drawing sequence)⟩, number⟩ :: later ∧
      match number with
      | .error failure => later = [] ∧ i = ⟨.error (d.classify failure), e⟩
      | .ok next =>
        match d.keyed e next with
        | .error failure => later = [] ∧ i = ⟨.error failure, e⟩
        | .ok entity => ∃ answer : Except BackendError Int64, later =
            [⟨⟨.write, .update (d.insertion (some (d.keyValue (.int64 next))) entity)⟩, answer⟩] ∧
          i = ⟨answer.mapError d.classify, entity⟩ := by
  unfold insert chooseKey drawKey nextSequence
  rw [unset, dialect, named]
  refine Program.says_log.trans (Program.says_call.trans ?_)
  refine exists_congr fun number => exists_congr fun later => and_congr_right fun _ => ?_
  match number with
  | .error failure => exact Program.says_done
  | .ok next =>
    dsimp only [keyed, Except.mapError, ExceptT.bindCont, Program.done_bind]
    generalize e.set d.mapping.key.property (d.keyValue (.int64 next)) = written
    cases written with
    | error failure => exact Program.says_done
    | ok entity => exact Program.says_answer

theorem inserts_of_insert (whole : (d.insert e).Says xs i) : d.Inserts e xs := by
  cases set : d.mapping.hasKey e with
  | true =>
    obtain ⟨answer, rfl, -⟩ := (says_insert_of_set set).mp whole
    exact .chosen set answer
  | false =>
    cases dialect : d.dialect with
    | mysql =>
      obtain ⟨answer, rfl, -⟩ := (says_insert_of_mysql set dialect).mp whole
      exact .generated set dialect answer
    | oracle =>
      cases named : d.mapping.names.sequence with
      | none =>
        obtain ⟨rfl, -⟩ := (says_insert_of_unnamed set dialect named).mp whole
        exact .unnamed set dialect named
      | some sequence =>
        have sql := nextSequence_of_named named
        obtain ⟨number, later, rfl, rest⟩ := (says_insert_of_named set dialect named).mp whole
        cases number with
        | error failure =>
          obtain ⟨rfl, -⟩ := rest
          exact .undrawn set dialect sql _ nofun
        | ok next =>
          cases taken : d.keyed e next with
          | error failure =>
            simp only [taken] at rest
            obtain ⟨rfl, -⟩ := rest
            refine .undrawn set dialect sql _ ?_
            rintro _ ⟨⟩
            exact ⟨failure, taken⟩
          | ok entity =>
            simp only [taken] at rest
            obtain ⟨answer, rfl, -⟩ := rest
            exact .drawn set dialect sql taken answer

end Insert

theorem insertsEach_of_insertEach {amount : Int64 → Int64} {es : List (Entity τ)}
    {b : BatchInsertion τ} (whole : (Repository.insertEach d.insert amount es).Says xs b) :
    d.InsertsEach es xs := by
  induction es generalizing xs b with
  | nil =>
    obtain ⟨rfl, -⟩ := Program.says_done.mp whole
    exact .stopped []
  | cons e rest ih =>
    obtain ⟨i, first, later, inserted, others, rfl⟩ := Program.says_bind.mp whole
    refine .next (inserts_of_insert inserted) ?_
    cases outcome : i.result with
    | error failure =>
      simp only [outcome] at others
      obtain ⟨rfl, -⟩ := Program.says_done.mp others
      exact .stopped rest
    | ok n =>
      simp only [outcome] at others
      obtain ⟨b', said, last, each, ended, rfl⟩ := Program.says_bind.mp others
      obtain ⟨rfl, -⟩ := Program.says_done.mp ended
      rw [List.append_nil]
      exact ih each

/-! ## All operations -/

theorem once_of_sent {α : Type} {reply : α → Reply τ} {action : Action service α}
    {o : Outcome τ} (sent : action.Keeps (Sent route))
    (whole : (Repository.outcome reply action).Says xs o) : Once route xs :=
  Repository.keeps_outcome sent xs o whole

theorem serves_of_perform {operation : Operation τ} {o : Outcome τ}
    (whole : (d.repository.perform operation).Says xs o) : d.Serves operation xs := by
  cases operation with
  | insert e =>
    obtain ⟨i, first, later, inserted, ended, rfl⟩ := Program.says_bind.mp whole
    obtain ⟨rfl, -⟩ := Program.says_done.mp ended
    rw [List.append_nil]
    exact inserts_of_insert inserted
  | insertBatch es =>
    obtain ⟨b, first, later, inserted, ended, rfl⟩ := Program.says_bind.mp whole
    obtain ⟨rfl, -⟩ := Program.says_done.mp ended
    rw [List.append_nil]
    change (Repository.insertAll d.insert id es).Says first b at inserted
    unfold Repository.insertAll at inserted
    split at inserted
    · obtain ⟨rfl, -⟩ := Program.says_done.mp inserted
      exact .stopped es
    · exact insertsEach_of_insertEach inserted
  | update e => exact once_of_sent (sent_updateProperties e []) whole
  | updateProperties e properties => exact once_of_sent (sent_updateProperties e properties) whole
  | updateById id u => exact once_of_sent (sent_updateById id u) whole
  | updateByIds ids u => exact once_of_sent (sent_updateByIds ids u) whole
  | updateByCriteria u c => exact once_of_sent (sent_updateByCriteria u c) whole
  | updateBySql s => exact once_of_sent (sent_writeSql s) whole
  | deleteById id => exact once_of_sent (sent_deleteById id) whole
  | deleteBySql s => exact once_of_sent (sent_writeSql s) whole
  | _ => exact d.reads.keeps_perform sent_refusable rfl xs o whole

end EntityStore.Relational.Store
