import EntityStore.Relational.Service
import EntityStore.Relational.Statement
import EntityStore.Repository

/-!
# Relational stores

A relational store compiles each operation to a statement, tells the log how it reads and sends it
along the read or the write route. An insertion takes the key from the entity, from a sequence or
from the database.
-/

namespace EntityStore.Relational

structure Store (τ : EntityType) where
  mapping : Mapping
  dialect : Dialect

namespace Store

variable {τ : EntityType}

def create (τ : EntityType) (dialect : Dialect) : Except StoreError (Store τ) :=
  (Mapping.build τ.descriptor .relational).map fun m => ⟨m, dialect⟩

variable (d : Store τ)

def classify : BackendError → StoreError := .ofBackend d.dialect.callKind

def statementEvent (s : Statement) : LogEvent where
  level := .debug
  target := "zdao::sql"
  message := s.formatted
  details := [("entity", d.mapping.typeName)]

def send (route : Route) (command : Command) (s : Statement) :
    Action service command.Reply := do
  Action.log (d.statementEvent s)
  Action.call (S := service) d.classify ⟨route, command⟩

def readList (s : Statement) : Action service (List (Entity τ)) := do
  let rows ← d.send .read (.queryForList s) s
  Action.logAll (Row.skippedEvents τ d.mapping rows)
  return Row.toEntities τ d.mapping rows

def readLong (s : Statement) : Action service Int64 := d.send .read (.queryForLong s) s

def write (s : Statement) : Action service Int64 := d.send .write (.update s) s

def keyCriteria (id : Id) : Criteria := .equal d.mapping.key.property id.toValue

def keysCriteria (ids : List Id) : Criteria :=
  .single d.mapping.key.property .among (.list (ids.map Id.toValue))

/-! ## Insertions -/

/-- A key that was drawn or generated, as text where the key is one. -/
def keyValue (key : Value) : Value :=
  match d.mapping.key.kind, key with
  | .text, .int64 n => .text (toString n.toInt)
  | .text, .int32 n => .text (toString n.toInt)
  | _, _ => key

/-- Draws a number of the sequence and makes it the entity's key. -/
def drawKey (e : Entity τ) : Action service (Value × Entity τ) := do
  let sql ← nextSequence d.mapping
  let statement : Statement := ⟨sql, []⟩
  let next ← d.send .write (.queryForLong statement) statement
  let key := d.keyValue (.int64 next)
  let keyed ← e.set d.mapping.key.property key
  return (key, keyed)

/-- The key to insert, unless the database is to generate it, and the entity with that key. -/
def chooseKey (e : Entity τ) : Action service (Option Value × Entity τ) :=
  if d.mapping.hasKey e then return (some (e.valueOf d.mapping.key.property), e)
  else match d.dialect with
    | .mysql => return (none, e)
    | .oracle => do
      let (key, keyed) ← d.drawKey e
      return (some key, keyed)

/-- The columns and values of an insertion: the key first, if there is one, then every other stored
property. -/
def insertValues (key : Option Value) (e : Entity τ) : List (String × Value) :=
  (key.map fun v => (d.mapping.key.column, v)).toList ++
    d.mapping.persistedRest.map fun p => (p.column, e.valueOf p.property)

/-- Inserts an entity without its key and makes the generated key, if one is reported, its own. -/
def insertGenerating (e : Entity τ) : Program service (Insertion τ) := do
  let s := (Relational.insert d.mapping (d.insertValues none e)).statement
  match ← (d.send .write (.updateReturningKey s d.mapping.key.column) s).run with
  | .error failure => return ⟨.error failure, e⟩
  | .ok (affected, none) => return ⟨.ok affected, e⟩
  | .ok (affected, some key) =>
    match e.set d.mapping.key.property (d.keyValue key) with
    | .error failure => return ⟨.error failure, e⟩
    | .ok keyed => return ⟨.ok affected, keyed⟩

def insert (e : Entity τ) : Program service (Insertion τ) := do
  match ← (d.chooseKey e).run with
  | .error failure => return ⟨.error failure, e⟩
  | .ok (none, e) => d.insertGenerating e
  | .ok (some key, keyed) =>
    let s := (Relational.insert d.mapping (d.insertValues (some key) keyed)).statement
    let result ← (d.write s).run
    return ⟨result, keyed⟩

def insertBatch (entities : List (Entity τ)) : Program service (BatchInsertion τ) :=
  Repository.insertAll d.insert id entities

/-! ## Updates and deletions -/

def updateByCriteria (u : Update) (c : Criteria) : Action service Int64 := do
  u.check
  c.check
  let t ← Relational.update d.mapping u c
  d.write t.statement

def updateById (id : Id) (u : Update) : Action service Int64 := do
  id.check
  u.check
  d.updateByCriteria u (d.keyCriteria id)

def updateByIds (ids : List Id) (u : Update) : Action service Int64 := do
  checkIds ids
  u.check
  d.updateByCriteria u (d.keysCriteria ids)

def updateProperties (e : Entity τ) (properties : List String) : Action service Int64 :=
  Repository.changeProperties d.mapping d.updateById e properties

def writeSql (s : Statement) : Action service Int64 := do
  checkSql s.sql
  d.write s

def deleteById (id : Id) : Action service Int64 := do
  id.check
  d.write (Relational.deleteById d.mapping id).statement

/-! ## Counts and searches -/

def countByCriteria (c : Criteria) : Action service Int64 := do
  c.check
  let t ← Relational.count d.mapping (some c)
  d.readLong t.statement

def countAll : Action service Int64 := do
  let t ← Relational.count d.mapping none
  d.readLong t.statement

def countBySql (s : Statement) : Action service Int64 := do
  checkSql s.sql
  d.readLong s

def findListByQuery (q : Query) : Action service (List (Entity τ)) := do
  q.check
  let t ← Relational.select d.mapping d.dialect q
  d.readList t.statement

def findOneByQuery (q : Query) : Action service (Option (Entity τ)) := do
  q.check
  let found ← d.findListByQuery ((q.skip 0).take 1)
  return found.head?

def findListBySql (s : Statement) : Action service (List (Entity τ)) := do
  checkSql s.sql
  d.readList s

def findOneBySql (s : Statement) : Action service (Option (Entity τ)) := do
  checkSql s.sql
  let found ← d.findListBySql s
  return found.head?

def existsByCriteria (c : Criteria) : Action service Bool :=
  Repository.existsThrough d.mapping d.findOneByQuery c

def existsById (id : Id) : Action service Bool := do
  id.check
  d.existsByCriteria (d.keyCriteria id)

def findOneById (id : Id) : Action service (Option (Entity τ)) := do
  id.check
  (d.keyCriteria id).check
  d.findOneByQuery { criteria := some (d.keyCriteria id) }

def findListByIds (ids : List Id) : Action service (List (Entity τ)) := do
  checkIds ids
  (d.keysCriteria ids).check
  d.findListByQuery { criteria := some (d.keysCriteria ids) }

def repository : Repository service τ where
  mapping := d.mapping
  insert := d.insert
  insertBatch := d.insertBatch
  update e := d.updateProperties e []
  updateProperties := d.updateProperties
  updateById := d.updateById
  updateByIds := d.updateByIds
  updateByCriteria := d.updateByCriteria
  updateBySql := d.writeSql
  deleteById := d.deleteById
  deleteBySql := d.writeSql
  existsById := d.existsById
  existsByCriteria := d.existsByCriteria
  countByCriteria := d.countByCriteria
  countAll := d.countAll
  countBySql := d.countBySql
  findOneById := d.findOneById
  findOneByQuery := d.findOneByQuery
  findOneBySql := d.findOneBySql
  findListByIds := d.findListByIds
  findListByQuery := d.findListByQuery
  findListBySql := d.findListBySql

end Store

end EntityStore.Relational
