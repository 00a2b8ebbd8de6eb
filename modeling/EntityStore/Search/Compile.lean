import EntityStore.Criteria.Shape
import EntityStore.Mapping.Row
import EntityStore.Search.Request

/-!
# From criteria to search queries

A criteria chain becomes a query that must match some leaves and must not match others, one leaf for
every condition. A query becomes a request, an entity the document that is stored for it, and an
update the fields that are written over a document.
-/

namespace EntityStore.Search

/-! ## Conditions -/

/-- A leaf with its polarity. -/
inductive Clause where
  | must (q : SearchQuery)
  | mustNot (q : SearchQuery)

def Clause.must? : Clause → Option SearchQuery
  | must q => some q
  | mustNot _ => none

def Clause.mustNot? : Clause → Option SearchQuery
  | must _ => none
  | mustNot q => some q

/-- A pattern with `%` for any characters. One that has them at its end alone asks for texts that
start so, any other becomes a wildcard pattern. -/
def like (field : String) (pattern : List Char) : SearchQuery :=
  let start := (pattern.reverse.dropWhile (· == '%')).reverse
  if pattern.head? ≠ some '%' ∧ pattern.getLast? = some '%' ∧ '%' ∉ start then
    .startsWith field (String.ofList start)
  else .wildcard field (String.ofList (pattern.map fun c => if c = '%' then '*' else c))

/-- The leaf of one condition whose value has the right shape. -/
def leaf (field : String) (node : Criterion) : Except StoreError Clause :=
  match node.operator with
  | .eq => return .must (.term field node.value)
  | .ne => return .mustNot (.term field node.value)
  | .gt => return .must (.range field .gt node.value)
  | .gte => return .must (.range field .gte node.value)
  | .lt => return .must (.range field .lt node.value)
  | .lte => return .must (.range field .lte node.value)
  | .like => return .must (like field (← node.value.asText).toList)
  | .fullText => return .must (.fullText field node.value)
  | .phrase => return .must (.phrase field node.value)
  | .among => return .must (.terms field (← node.value.asList))
  | .notAmong => return .mustNot (.terms field (← node.value.asList))
  | .isNull => return .mustNot (.present field)
  | .isNotNull => return .must (.present field)

def checkShape (node : Criterion) : Except StoreError Unit :=
  match node.operator.shape with
  | .noValue => .ok ()
  | .single => node.singleValue.map fun _ => ()
  | .multi => node.listValues.map fun _ => ()

def clause (m : Mapping) (node : Criterion) : Except StoreError Clause := do
  let field ← m.column .criteria node.key
  checkShape node
  leaf field node

/-- The query of a criteria chain; without one every document is meant. -/
def query (m : Mapping) : Option Criteria → Except StoreError SearchQuery
  | none => .ok .matchAll
  | some c => do
    let clauses ← c.nodes.mapM (clause m)
    return .bool (clauses.filterMap Clause.must?) (clauses.filterMap Clause.mustNot?)

/-! ## Requests -/

/-- The number of documents to ask for: the limit if it is sensible, else the whole window. -/
def sizeOf (window : Int64) : Option Int64 → Int64
  | some limit => if 1 ≤ limit then limit else window
  | none => window

/-- The request of a query. Groups are counted by the first key alone, and then no documents are
brought back. -/
def search (m : Mapping) (window : Int64) (q : Query) (index : String) :
    Except StoreError SearchRequest := do
  let condition ← query m q.criteria
  let size := sizeOf window q.limit
  let request : SearchRequest := {
    index := index
    docType := m.names.docType
    query := condition
    preference := q.hint }
  match q.groupBys with
  | group :: _ =>
    let field ← m.column .groupBys group.key
    return { request with
      aggregation := some ⟨field, field, size⟩
      source := some [] }
  | [] =>
    let source ←
      if q.fields.isEmpty then .ok none else (q.fields.mapM (m.column .fields)).map some
    let sort ← q.orderBys.mapM fun o => (m.column .orderBys o.key).map (·, o.direction)
    return { request with
      start := max (q.offset.getD 0) 0
      size := size
      source := source
      sort := sort }

def countOf (m : Mapping) (q : SearchQuery) (index : String) : SearchRequest where
  index := index
  docType := m.names.docType
  query := q
  source := some []

def count (m : Mapping) (criteria : Option Criteria) (index : String) :
    Except StoreError SearchRequest :=
  (query m criteria).map fun q => countOf m q index

def wrapper (m : Mapping) (window : Int64) (raw index : String) (start : Int64)
    (size : Option Int64) : SearchRequest where
  index := index
  docType := m.names.docType
  query := .raw raw
  start := max start 0
  size := sizeOf window size

/-! ## Documents -/

def versionProperty? (m : Mapping) : Option String := m.version.map (·.property)

/-- The document of a new entity: every stored property but the version, where it has a value. -/
def document {τ : EntityType} (m : Mapping) (e : Entity τ) : Document :=
  let kept := m.persisted.filter fun p => versionProperty? m != some p.property
  Document.ofFields (kept.filterMap fun p =>
    match e.valueOf p.property with
    | .null => none
    | v => some (p.column, v.toJson))

/-- The fields that an update writes. The version is left to the engine and transient properties are
passed over. -/
def updateFields (m : Mapping) : List (String × Value) → Except StoreError (List (String × Json))
  | [] => .ok []
  | (property, value) :: rest =>
    if versionProperty? m = some property then updateFields m rest
    else match m.property? property with
      | none => .error (.unknownProperty .update property)
      | some p => do
        let later ← updateFields m rest
        return if p.transient then later else (p.column, value.toJson) :: later

def partialDocument (m : Mapping) (u : Update) : Except StoreError Document := do
  let fields ← updateFields m u.entries
  require (!fields.isEmpty) .update .nothingPersistable
  return Document.ofFields fields

end EntityStore.Search
