import EntityStore.Repository

/-!
# Operations as data

Every operation of a repository with its arguments, and what performing one of them answers.
-/

namespace EntityStore

inductive Operation (τ : EntityType) where
  | insert (e : Entity τ)
  | insertBatch (entities : List (Entity τ))
  | update (e : Entity τ)
  | updateProperties (e : Entity τ) (properties : List String)
  | updateById (id : Id) (u : Update)
  | updateByIds (ids : List Id) (u : Update)
  | updateByCriteria (u : Update) (c : Criteria)
  | updateBySql (s : Statement)
  | deleteById (id : Id)
  | deleteBySql (s : Statement)
  | existsById (id : Id)
  | existsByCriteria (c : Criteria)
  | countByCriteria (c : Criteria)
  | countAll
  | countBySql (s : Statement)
  | findOneById (id : Id)
  | findOneByQuery (q : Query)
  | findOneBySql (s : Statement)
  | findListByIds (ids : List Id)
  | findListByQuery (q : Query)
  | findListByQueryPaged (q : Query) (p : Page)
  | findListBySql (s : Statement)
  | findOne (c : Criteria)
  | findOneWithFields (fields : List String) (c : Criteria)
  | findList (c : Criteria)
  | findListWithFields (fields : List String) (c : Criteria)
  | findListWithFieldsOrdered (fields : List String) (c : Criteria) (order : List OrderBy)
  | findListWithFieldsOrderedPaged (fields : List String) (c : Criteria) (order : List OrderBy)
      (p : Page)
  | findListOrdered (c : Criteria) (order : List OrderBy)
  | findListOrderedPaged (c : Criteria) (order : List OrderBy) (p : Page)
  | findAll
  | findAllWithFields (fields : List String)
  | findAllWithFieldsOrdered (fields : List String) (order : List OrderBy)
  | findAllWithFieldsOrderedPaged (fields : List String) (order : List OrderBy) (p : Page)
  | findAllOrderedPaged (order : List OrderBy) (p : Page)

inductive Reply (τ : EntityType) where
  | number (n : Int64)
  | flag (b : Bool)
  | entity (e : Option (Entity τ))
  | entities (es : List (Entity τ))

/-- The answer of an operation, and the entities it was given to insert as they are afterwards. -/
structure Outcome (τ : EntityType) where
  result : Except StoreError (Reply τ)
  inserted : List (Entity τ) := []

namespace Repository

variable {S : Service} {τ : EntityType} {α : Type}

def outcome (reply : α → Reply τ) (action : Action S α) : Program S (Outcome τ) := do
  let result ← action.run
  return { result := result.map reply }

def perform (r : Repository S τ) : Operation τ → Program S (Outcome τ)
  | .insert e => do
    let i ← r.insert e
    return ⟨i.result.map .number, [i.entity]⟩
  | .insertBatch entities => do
    let b ← r.insertBatch entities
    return ⟨b.result.map .number, b.entities⟩
  | .update e => outcome .number (r.update e)
  | .updateProperties e properties => outcome .number (r.updateProperties e properties)
  | .updateById id u => outcome .number (r.updateById id u)
  | .updateByIds ids u => outcome .number (r.updateByIds ids u)
  | .updateByCriteria u c => outcome .number (r.updateByCriteria u c)
  | .updateBySql s => outcome .number (r.updateBySql s)
  | .deleteById id => outcome .number (r.deleteById id)
  | .deleteBySql s => outcome .number (r.deleteBySql s)
  | .existsById id => outcome .flag (r.existsById id)
  | .existsByCriteria c => outcome .flag (r.existsByCriteria c)
  | .countByCriteria c => outcome .number (r.countByCriteria c)
  | .countAll => outcome .number r.countAll
  | .countBySql s => outcome .number (r.countBySql s)
  | .findOneById id => outcome .entity (r.findOneById id)
  | .findOneByQuery q => outcome .entity (r.findOneByQuery q)
  | .findOneBySql s => outcome .entity (r.findOneBySql s)
  | .findListByIds ids => outcome .entities (r.findListByIds ids)
  | .findListByQuery q => outcome .entities (r.findListByQuery q)
  | .findListByQueryPaged q p => outcome .entities (r.findListByQueryPaged q p)
  | .findListBySql s => outcome .entities (r.findListBySql s)
  | .findOne c => outcome .entity (r.findOne c)
  | .findOneWithFields fields c => outcome .entity (r.findOneWithFields fields c)
  | .findList c => outcome .entities (r.findList c)
  | .findListWithFields fields c => outcome .entities (r.findListWithFields fields c)
  | .findListWithFieldsOrdered fields c order =>
    outcome .entities (r.findListWithFieldsOrdered fields c order)
  | .findListWithFieldsOrderedPaged fields c order p =>
    outcome .entities (r.findListWithFieldsOrderedPaged fields c order p)
  | .findListOrdered c order => outcome .entities (r.findListOrdered c order)
  | .findListOrderedPaged c order p => outcome .entities (r.findListOrderedPaged c order p)
  | .findAll => outcome .entities r.findAll
  | .findAllWithFields fields => outcome .entities (r.findAllWithFields fields)
  | .findAllWithFieldsOrdered fields order =>
    outcome .entities (r.findAllWithFieldsOrdered fields order)
  | .findAllWithFieldsOrderedPaged fields order p =>
    outcome .entities (r.findAllWithFieldsOrderedPaged fields order p)
  | .findAllOrderedPaged order p => outcome .entities (r.findAllOrderedPaged order p)

end Repository

end EntityStore
