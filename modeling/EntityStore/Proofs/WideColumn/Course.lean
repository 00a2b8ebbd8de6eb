import EntityStore.Proofs.Course
import EntityStore.WideColumn.Store

/-!
# The course of wide-column operations

Each of them asks for one thing at most.
-/

namespace EntityStore.WideColumn.Store

variable {τ : EntityType} {d : Store τ}

def turn : Law service := Single classify

theorem keeps_execute (s : Statement) : (d.execute s).Keeps (Turns turn StoreError.Late) :=
  Action.keeps_bind Action.keeps_log fun _ =>
    Action.keeps_call fun answer => ⟨_, answer, rfl, rfl⟩

theorem keeps_executeBatch (statements : List Statement) :
    (d.executeBatch statements).Keeps (Turns turn StoreError.Late) :=
  Action.keeps_bind Action.keeps_log fun _ =>
    Action.keeps_call fun answer => ⟨_, answer, rfl, rfl⟩

/-! ## Insertions -/

theorem keeps_insert (e : Entity τ) :
    (d.insert e).Keeps (Turns turn StoreError.Late) (refusal? ·.result) :=
  (keeps_execute _).map fun result => refusal?_map result _

theorem keeps_insertBatch (es : List (Entity τ)) :
    (d.insertBatch es).Keeps (Course turn StoreError.Late) (refusal? ·.result) := by
  unfold insertBatch
  split
  · exact Program.keeps_done
  · exact .course (.map (keeps_executeBatch _) fun result => refusal?_map result _)

/-! ## Counts and statements of callers -/

theorem late_of_countOfRow {row : Row} {e : StoreError} (refused : countOfRow row = .error e) :
    e.Late := by
  unfold countOfRow at refused
  dsimp only at refused
  split at refused
  · cases refused
  · cases refused
    exact id

theorem keeps_readCount (s : Statement) : (d.readCount s).Keeps (Turns turn StoreError.Late) := by
  refine Action.keeps_bind (keeps_execute s) fun rows => ?_
  cases rows with
  | nil => exact Action.keeps_pure
  | cons row _ => exact Action.keeps_lift fun _ => late_of_countOfRow

theorem keeps_writeSql (s : Statement) : (d.writeSql s).Keeps (Course turn StoreError.Late) :=
  Action.keeps_check fun _ _ =>
    (Action.keeps_bind (keeps_execute s) fun _ => Action.keeps_pure).course

theorem keeps_findListBySql (s : Statement) :
    (d.findListBySql s).Keeps (Course turn StoreError.Late) :=
  Action.keeps_check fun _ _ => (Action.keeps_bind (keeps_execute s) fun _ =>
    Action.keeps_bind Action.keeps_logAll fun _ => Action.keeps_pure).course

theorem abides (d : Store τ) : d.repository.Abides turn StoreError.Late StoreError.Late where
  insert e := (keeps_insert e).course
  insertBatch := keeps_insertBatch
  update _ := Action.keeps_throw
  updateProperties _ _ := Action.keeps_throw
  updateById _ _ := Action.keeps_throw
  updateByIds _ _ := Action.keeps_throw
  updateByCriteria _ _ := Action.keeps_throw
  updateBySql := keeps_writeSql
  deleteById _ := Action.keeps_throw
  deleteBySql := keeps_writeSql
  existsById _ := Action.keeps_throw
  existsByCriteria _ := Action.keeps_throw
  countByCriteria _ := Action.keeps_throw
  countAll := (keeps_readCount _).course
  countBySql s := Action.keeps_check fun _ _ => (keeps_readCount s).course
  findOneById _ := Action.keeps_throw
  findOneByQuery _ := Action.keeps_throw
  findOneBySql s :=
    Action.keeps_course_bind (keeps_findListBySql s) fun _ => Action.keeps_pure
  findListByIds _ := Action.keeps_throw
  findListByQuery _ := Action.keeps_throw
  findListBySql := keeps_findListBySql

end EntityStore.WideColumn.Store
