import EntityStore.Mapping.Row
import EntityStore.Program
import EntityStore.Statement

/-!
# Repositories

A repository is the whole set of operations on the entities of one type, whatever store is behind
them. Each kind of store gives the operations in the record; the shorthands after it check their
arguments, put them into a query and leave the rest to the operation on queries.
-/

namespace EntityStore

/-- How an insertion ended, and the entity as it is then. An entity may change even where the
insertion fails. -/
structure Insertion (τ : EntityType) where
  result : Except StoreError Int64
  entity : Entity τ

/-- How the insertion of several entities ended, and all of them as they are then. -/
structure BatchInsertion (τ : EntityType) where
  result : Except StoreError Int64
  entities : List (Entity τ)

structure Repository (S : Service) (τ : EntityType) where
  mapping : Mapping
  insert : Entity τ → Program S (Insertion τ)
  insertBatch : List (Entity τ) → Program S (BatchInsertion τ)
  /-- Brings every stored property but the key to the entity's value. -/
  update : Entity τ → Action S Int64
  /-- Brings the named properties to the entity's values, all of them where none is named. -/
  updateProperties : Entity τ → List String → Action S Int64
  updateById : Id → Update → Action S Int64
  updateByIds : List Id → Update → Action S Int64
  updateByCriteria : Update → Criteria → Action S Int64
  updateBySql : Statement → Action S Int64
  deleteById : Id → Action S Int64
  deleteBySql : Statement → Action S Int64
  existsById : Id → Action S Bool
  existsByCriteria : Criteria → Action S Bool
  countByCriteria : Criteria → Action S Int64
  countAll : Action S Int64
  countBySql : Statement → Action S Int64
  findOneById : Id → Action S (Option (Entity τ))
  findOneByQuery : Query → Action S (Option (Entity τ))
  findOneBySql : Statement → Action S (Option (Entity τ))
  findListByIds : List Id → Action S (List (Entity τ))
  findListByQuery : Query → Action S (List (Entity τ))
  findListBySql : Statement → Action S (List (Entity τ))

namespace Repository

variable {S : Service} {τ : EntityType}

/-! ## Operations that stores share -/

/-- An update of an entity by its key, through the operation that updates by key. -/
def changeProperties (m : Mapping) (updateById : Id → Update → Action S Int64) (e : Entity τ)
    (properties : List String) : Action S Int64 := do
  let id ← m.entityId e
  let u ← m.updateOf e properties
  updateById id u

/-- Whether a criteria chain finds an entity when only the key is asked for. -/
def existsThrough (m : Mapping) (findOneByQuery : Query → Action S (Option (Entity τ)))
    (c : Criteria) : Action S Bool := do
  c.check
  let found ← findOneByQuery { criteria := some c, fields := [m.key.property] }
  return found.isSome

/-- The insertion of entities one by one, up to the first that fails; those after it stay as they
are. The result sums up what `amount` makes of each insertion's own. -/
def insertEach (insert : Entity τ → Program S (Insertion τ)) (amount : Int64 → Int64) :
    List (Entity τ) → Program S (BatchInsertion τ)
  | [] => return ⟨.ok 0, []⟩
  | e :: rest => do
    let first ← insert e
    match first.result with
    | .error failure => return ⟨.error failure, first.entity :: rest⟩
    | .ok n =>
      let others ← insertEach insert amount rest
      return ⟨others.result.map (amount n + ·), first.entity :: others.entities⟩

/-- The same after checking that there are entities at all. -/
def insertAll (insert : Entity τ → Program S (Insertion τ)) (amount : Int64 → Int64)
    (entities : List (Entity τ)) : Program S (BatchInsertion τ) :=
  match checkEntities entities with
  | .error failure => return ⟨.error failure, entities⟩
  | .ok () => insertEach insert amount entities

/-! ## Shorthands -/

variable (r : Repository S τ)

def findListByQueryPaged (q : Query) (p : Page) : Action S (List (Entity τ)) := do
  q.check
  p.check
  r.findListByQuery (q.page p)

def findOne (c : Criteria) : Action S (Option (Entity τ)) := do
  c.check
  r.findOneByQuery { criteria := some c }

def findOneWithFields (fields : List String) (c : Criteria) : Action S (Option (Entity τ)) := do
  checkFields fields
  c.check
  r.findOneByQuery { criteria := some c, fields := fields }

def findList (c : Criteria) : Action S (List (Entity τ)) := do
  c.check
  r.findListByQuery { criteria := some c }

def findListWithFields (fields : List String) (c : Criteria) : Action S (List (Entity τ)) := do
  checkFields fields
  c.check
  r.findListByQuery { criteria := some c, fields := fields }

def findListWithFieldsOrdered (fields : List String) (c : Criteria) (order : List OrderBy) :
    Action S (List (Entity τ)) := do
  checkFields fields
  c.check
  checkOrderBys order
  r.findListByQuery { criteria := some c, fields := fields, orderBys := order }

def findListWithFieldsOrderedPaged (fields : List String) (c : Criteria) (order : List OrderBy)
    (p : Page) : Action S (List (Entity τ)) := do
  checkFields fields
  c.check
  checkOrderBys order
  p.check
  r.findListByQueryPaged { criteria := some c, fields := fields, orderBys := order } p

def findListOrdered (c : Criteria) (order : List OrderBy) : Action S (List (Entity τ)) := do
  c.check
  checkOrderBys order
  r.findListByQuery { criteria := some c, orderBys := order }

def findListOrderedPaged (c : Criteria) (order : List OrderBy) (p : Page) :
    Action S (List (Entity τ)) := do
  c.check
  checkOrderBys order
  p.check
  r.findListByQueryPaged { criteria := some c, orderBys := order } p

def findAll : Action S (List (Entity τ)) := r.findListByQuery {}

def findAllWithFields (fields : List String) : Action S (List (Entity τ)) := do
  checkFields fields
  r.findListByQuery { fields := fields }

def findAllWithFieldsOrdered (fields : List String) (order : List OrderBy) :
    Action S (List (Entity τ)) := do
  checkFields fields
  checkOrderBys order
  r.findListByQuery { fields := fields, orderBys := order }

def findAllWithFieldsOrderedPaged (fields : List String) (order : List OrderBy) (p : Page) :
    Action S (List (Entity τ)) := do
  checkFields fields
  checkOrderBys order
  p.check
  r.findListByQueryPaged { fields := fields, orderBys := order } p

def findAllOrderedPaged (order : List OrderBy) (p : Page) : Action S (List (Entity τ)) := do
  checkOrderBys order
  p.check
  r.findListByQueryPaged { orderBys := order } p

end Repository

end EntityStore
