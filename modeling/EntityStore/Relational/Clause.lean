import EntityStore.Argument
import EntityStore.Criteria.Shape
import EntityStore.Mapping
import EntityStore.Statement

/-!
# Clauses of relational statements

Each clause ends with a blank, so that clauses are put together by standing one after the other. A
clause that is not wanted is empty. Values are bound and never written into the text.
-/

namespace EntityStore

inductive Dialect where
  | mysql
  | oracle
  deriving DecidableEq, Repr

def Dialect.callKind : Dialect → CallKind
  | mysql => .mysql
  | oracle => .oracle

def Dialect.name : Dialect → String
  | mysql => "mysql"
  | oracle => "oracle"

def Direction.keyword : Direction → String
  | asc => "ASC"
  | desc => "DESC"

namespace Relational

/-! ## What is selected -/

/-- The columns that one group adds to the list: its key, and the count under the column of the
alias. -/
def groupColumns (m : Mapping) (g : GroupBy) : Except StoreError (List String) := do
  let key ← m.column .groupBys g.key
  match Text.nonBlank? g.countAlias with
  | none => return [key]
  | some counter =>
    let column ← m.column .groupBys counter
    return [key, "COUNT(*) AS " ++ column]

/-- The groups if there are any, else the fields if there are any, else every stored property. -/
def selectList (m : Mapping) (q : Query) : Except StoreError (List String) :=
  if !q.groupBys.isEmpty then (q.groupBys.mapM (groupColumns m)).map List.flatten
  else if !q.fields.isEmpty then q.fields.mapM (m.column .fields)
  else .ok (m.persisted.map (·.column))

def selectClause (m : Mapping) (q : Query) : Except StoreError String :=
  (selectList m q).map fun columns => "SELECT " ++ String.intercalate "," columns ++ " "

def fromClause (m : Mapping) : String := "FROM " ++ m.tableName ++ " "

/-! ## Conditions -/

def predicate (m : Mapping) (node : Criterion) : Except StoreError Template := do
  let column ← m.column .criteria node.key
  let start := column ++ " " ++ node.operator.symbol
  match node.operator.shape with
  | .noValue => return [.fixed start]
  | .single =>
    if node.operator = .fullText ∨ node.operator = .phrase then
      .error (.unsupported "JdbcDao" "full-text match criteria")
    else
      let value ← node.singleValue
      return [.fixed (start ++ " "), .bound value]
  | .multi =>
    let items ← node.listValues
    return [.fixed (start ++ " (")] ++ Template.boundList items ++ [.fixed ")"]

/-- The conditions before the first refused node, and its refusal if there is one. -/
def predicates (m : Mapping) : List Criterion → List Template × Option StoreError
  | [] => ([], none)
  | node :: rest =>
    match predicate m node with
    | .error e => ([], some e)
    | .ok p =>
      let (ps, refusal) := predicates m rest
      (p :: ps, refusal)

def whereClause (m : Mapping) : Option Criteria → Except StoreError Template
  | none => .ok []
  | some c =>
    match predicates m c.nodes with
    | (_, some e) => .error e
    | (ps, none) => .ok ([.fixed "WHERE "] ++ Template.separated " AND " ps ++ [.fixed " "])

/-- The values of the conditions before the first refused node: what the clause binds, or has bound
by the time it is refused. -/
def whereParams (m : Mapping) : Option Criteria → List Value
  | none => []
  | some c => (predicates m c.nodes).1.flatMap Template.params

/-! ## Groups, order and windows -/

def groupByClause (m : Mapping) (groups : List GroupBy) : Except StoreError String :=
  if groups.isEmpty then .ok ""
  else (groups.mapM fun g => m.column .groupBys g.key).map fun columns =>
    "GROUP BY " ++ String.intercalate "," columns ++ " "

def orderByClause (m : Mapping) (keys : List OrderBy) : Except StoreError String :=
  if keys.isEmpty then .ok ""
  else
    let item (o : OrderBy) : Except StoreError String :=
      (m.column .orderBys o.key).map fun column => column ++ " " ++ o.direction.keyword
    (keys.mapM item).map fun items => "ORDER BY " ++ String.intercalate "," items ++ " "

/-- Narrows a statement to a window of its rows: with a limit in one dialect, with row numbers up to
an inclusive bound in the other. A window that makes no sense leaves the statement as it is. -/
def paginate (dialect : Dialect) (t : Template) (offset limit : Int64) :
    Except StoreError Template :=
  if offset < 0 ∨ limit ≤ 0 then .ok t
  else match dialect with
    | .mysql =>
      .ok (t ++ [.fixed ("LIMIT " ++ toString offset.toInt ++ "," ++ toString limit.toInt)])
    | .oracle =>
      match checkedInt64 (offset.toInt + limit.toInt) with
      | none => .error (.invalidArgument .query .offsetOverflow)
      | some upper =>
        .ok ([.fixed "SELECT * FROM (SELECT ROWNUM AS RN,table_alias.* FROM ("] ++ t ++
          [.fixed (") table_alias WHERE ROWNUM <= " ++ toString upper.toInt ++ ") WHERE RN > " ++
            toString offset.toInt)])

end Relational

end EntityStore
