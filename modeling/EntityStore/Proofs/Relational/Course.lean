import EntityStore.Proofs.Course
import EntityStore.Relational.Store

/-!
# The course of relational operations

A statement is compiled before it is sent, and only an insertion may send two: the first draws its
key.
-/

namespace EntityStore.Relational.Store

variable {τ : EntityType} (d : Store τ)

def turn : Law service := Single d.classify

variable {d}

/-! ## Statements -/

theorem keeps_send {route : Route} {command : Command} {s : Statement} :
    (d.send route command s).Keeps (Turns d.turn StoreError.Late) :=
  Action.keeps_bind Action.keeps_log fun _ =>
    Action.keeps_call fun answer => ⟨_, answer, rfl, rfl⟩

theorem keeps_readList {s : Statement} : (d.readList s).Keeps (Turns d.turn StoreError.Late) :=
  Action.keeps_bind keeps_send fun _ =>
    Action.keeps_bind Action.keeps_logAll fun _ => Action.keeps_pure

theorem keeps_readLong {s : Statement} : (d.readLong s).Keeps (Turns d.turn StoreError.Late) :=
  keeps_send

theorem keeps_write {s : Statement} : (d.write s).Keeps (Turns d.turn StoreError.Late) :=
  keeps_send

/-! ## Insertions -/

theorem late_of_nextSequence {m : Mapping} {e : StoreError} (refused : nextSequence m = .error e) :
    e.Late := by
  unfold nextSequence at refused
  split at refused
  · cases refused
  · cases refused
    exact id

theorem keeps_drawKey (e : Entity τ) : (d.drawKey e).Keeps (Turns d.turn StoreError.Late) := by
  unfold drawKey
  refine Action.keeps_bind (Action.keeps_lift fun _ => late_of_nextSequence) fun sql => ?_
  refine Action.keeps_bind keeps_send fun next => ?_
  exact Action.keeps_bind (Action.keeps_lift fun _ => Entity.late_of_set) fun _ => Action.keeps_pure

theorem keeps_chooseKey (e : Entity τ) : (d.chooseKey e).Keeps (Turns d.turn StoreError.Late) := by
  unfold chooseKey
  split
  · exact Action.keeps_pure
  · split
    · exact Action.keeps_pure
    · exact Action.keeps_bind (keeps_drawKey e) fun _ => Action.keeps_pure

theorem keeps_insertGenerating (e : Entity τ) :
    (d.insertGenerating e).Keeps (Turns d.turn StoreError.Late) (refusal? ·.result) := by
  refine Program.keeps_run_bind keeps_send (fun failure => ⟨_, rfl, rfl⟩) fun (affected, key) => ?_
  cases key with
  | none => exact Program.keeps_done_of_ok rfl
  | some key =>
    dsimp only
    split
    · rename_i unkeyed
      exact Program.keeps_done_of_late fun _ same =>
        Option.some.inj same ▸ Entity.late_of_set unkeyed
    · exact Program.keeps_done_of_ok rfl

theorem keeps_insert (e : Entity τ) :
    (d.insert e).Keeps (Turns d.turn StoreError.Late) (refusal? ·.result) := by
  refine Program.keeps_run_bind (keeps_chooseKey e) (fun failure => ⟨_, rfl, rfl⟩)
    fun (key, keyed) => ?_
  cases key with
  | none => exact keeps_insertGenerating keyed
  | some key => exact keeps_write.map fun _ => rfl

/-! ## Updates -/

theorem keeps_updateByCriteria (u : Update) (c : Criteria) :
    (d.updateByCriteria u c).Keeps (Course d.turn StoreError.Late) :=
  Action.keeps_check fun _ _ => Action.keeps_check fun _ _ => Action.keeps_check fun _ _ =>
    keeps_write.course

theorem keeps_updateById (id : Id) (u : Update) :
    (d.updateById id u).Keeps (Course d.turn StoreError.Late) :=
  Action.keeps_check fun _ _ => Action.keeps_check fun _ _ => keeps_updateByCriteria u _

theorem keeps_updateProperties (e : Entity τ) (properties : List String) :
    (d.updateProperties e properties).Keeps (Course d.turn StoreError.Late) :=
  Repository.keeps_changeProperties keeps_updateById e properties

theorem keeps_writeSql (s : Statement) : (d.writeSql s).Keeps (Course d.turn StoreError.Late) :=
  Action.keeps_check fun _ _ => keeps_write.course

/-! ## Searches -/

theorem keeps_findListByQuery (q : Query) :
    (d.findListByQuery q).Keeps (Course d.turn StoreError.Late) :=
  Action.keeps_check fun _ _ => Action.keeps_check fun _ _ => keeps_readList.course

theorem keeps_findOneByQuery (q : Query) :
    (d.findOneByQuery q).Keeps (Course d.turn StoreError.Late) :=
  Action.keeps_check fun _ _ =>
    Action.keeps_course_bind (keeps_findListByQuery _) fun _ => Action.keeps_pure

theorem keeps_findListBySql (s : Statement) :
    (d.findListBySql s).Keeps (Course d.turn StoreError.Late) :=
  Action.keeps_check fun _ _ => keeps_readList.course

theorem keeps_existsByCriteria (c : Criteria) :
    (d.existsByCriteria c).Keeps (Course d.turn StoreError.Late) :=
  Repository.keeps_existsThrough keeps_findOneByQuery c

theorem abides (d : Store τ) : d.repository.Abides d.turn StoreError.Late StoreError.Late where
  insert e := (keeps_insert e).course
  insertBatch es := Repository.keeps_insertAll keeps_insert es
  update e := keeps_updateProperties e []
  updateProperties := keeps_updateProperties
  updateById := keeps_updateById
  updateByIds _ u :=
    Action.keeps_check fun _ _ => Action.keeps_check fun _ _ => keeps_updateByCriteria u _
  updateByCriteria := keeps_updateByCriteria
  updateBySql := keeps_writeSql
  deleteById _ := Action.keeps_check fun _ _ => keeps_write.course
  deleteBySql := keeps_writeSql
  existsById _ := Action.keeps_check fun _ _ => keeps_existsByCriteria _
  existsByCriteria := keeps_existsByCriteria
  countByCriteria _ :=
    Action.keeps_check fun _ _ => Action.keeps_check fun _ _ => keeps_readLong.course
  countAll := Action.keeps_check fun _ _ => keeps_readLong.course
  countBySql _ := Action.keeps_check fun _ _ => keeps_readLong.course
  findOneById _ :=
    Action.keeps_check fun _ _ => Action.keeps_check fun _ _ => keeps_findOneByQuery _
  findOneByQuery := keeps_findOneByQuery
  findOneBySql s := Action.keeps_check fun _ _ =>
    Action.keeps_course_bind (keeps_findListBySql s) fun _ => Action.keeps_pure
  findListByIds _ :=
    Action.keeps_check fun _ _ => Action.keeps_check fun _ _ => keeps_findListByQuery _
  findListByQuery := keeps_findListByQuery
  findListBySql := keeps_findListBySql

end EntityStore.Relational.Store
