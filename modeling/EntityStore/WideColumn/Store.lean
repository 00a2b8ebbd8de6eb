import EntityStore.Repository
import EntityStore.WideColumn.Service
import EntityStore.WideColumn.Statement

/-!
# Wide-column stores

A wide-column store inserts entities, alone or in one batch, counts them all and passes on the
statements that a caller wrote. It has none of the other operations.
-/

namespace EntityStore.WideColumn

structure Store (τ : EntityType) where
  mapping : Mapping

namespace Store

variable {τ : EntityType}

def create (τ : EntityType) : Except StoreError (Store τ) :=
  (Mapping.build τ.descriptor .wideColumn).map fun m => ⟨m⟩

variable (d : Store τ)

/-! ## Calls -/

def classify : BackendError → StoreError := .ofBackend .wideColumn

def event (message : String) (details : List (String × String)) : LogEvent where
  level := .debug
  target := "zdao::wide_column"
  message := message
  details := ("entity", d.mapping.typeName) :: details

def execute (s : Statement) : Action service (List Row) := do
  Action.log (d.event s.formatted [])
  Action.call (S := service) classify (.execute s)

def executeBatch (statements : List Statement) : Action service Unit := do
  let first := (statements.head?.map (·.sql)).getD ""
  Action.log (d.event ("batch " ++ first) [("statements", toString statements.length)])
  Action.call (S := service) classify (.executeBatch statements)

/-! ## Insertions -/

def insert (e : Entity τ) : Program service (Insertion τ) := do
  let result ← (d.execute (WideColumn.insert d.mapping e).statement).run
  return ⟨result.map fun _ => 1, e⟩

def insertBatch (entities : List (Entity τ)) : Program service (BatchInsertion τ) :=
  match checkEntities entities with
  | .error failure => return ⟨.error failure, entities⟩
  | .ok () => do
    let statements := entities.map fun e => (WideColumn.insert d.mapping e).statement
    let result ← (d.executeBatch statements).run
    return ⟨result.map fun _ => Int64.ofNat entities.length, entities⟩

/-! ## Counts -/

def integer? : Value → Option Int64
  | .int64 n => some n
  | .int32 n => some n.toInt64
  | _ => none

/-- Whether a column is the one that a count is given in, whatever the case of its letters. -/
def isCountColumn (column : String) : Bool := column.toList.map Char.toLower == "count".toList

/-- The count in a row: that of the count column if it is an integer, else the first integer. -/
def countOfRow (row : Row) : Except StoreError Int64 :=
  let counted := (row.find? fun (column, _) => isCountColumn column).bind fun (_, v) => integer? v
  match counted <|> row.findSome? fun (_, v) => integer? v with
  | some n => .ok n
  | none => .error (.typeMismatch .noCount)

/-- The count in the first row, zero where there is none. -/
def readCount (s : Statement) : Action service Int64 := do
  match ← d.execute s with
  | [] => return 0
  | row :: _ => countOfRow row

/-! ## Statements of callers -/

def writeSql (s : Statement) : Action service Int64 := do
  checkSql s.sql
  let _ ← d.execute s
  return 1

def countBySql (s : Statement) : Action service Int64 := do
  checkSql s.sql
  d.readCount s

def findListBySql (s : Statement) : Action service (List (Entity τ)) := do
  checkSql s.sql
  let rows ← d.execute s
  Action.logAll (Row.skippedEvents τ d.mapping rows)
  return Row.toEntities τ d.mapping rows

def findOneBySql (s : Statement) : Action service (Option (Entity τ)) := do
  let found ← d.findListBySql s
  return found.head?

def unsupported {α : Type} (operation : String) : Action service α :=
  throw (.unsupported "WideColumnDao" operation)

def repository : Repository service τ where
  mapping := d.mapping
  insert := d.insert
  insertBatch := d.insertBatch
  update _ := unsupported "update"
  updateProperties _ _ := unsupported "update_properties"
  updateById _ _ := unsupported "update_by_id"
  updateByIds _ _ := unsupported "update_by_ids"
  updateByCriteria _ _ := unsupported "update_by_criteria"
  updateBySql := d.writeSql
  deleteById _ := unsupported "delete_by_id"
  deleteBySql := d.writeSql
  existsById _ := unsupported "exists_by_id"
  existsByCriteria _ := unsupported "exists"
  countByCriteria _ := unsupported "count_by_criteria"
  countAll := d.readCount ⟨countAll d.mapping, []⟩
  countBySql := d.countBySql
  findOneById _ := unsupported "find_one_by_id"
  findOneByQuery _ := unsupported "find_one_by_query"
  findOneBySql := d.findOneBySql
  findListByIds _ := unsupported "find_list_by_ids"
  findListByQuery _ := unsupported "find_list_by_query"
  findListBySql := d.findListBySql

end Store

end EntityStore.WideColumn
