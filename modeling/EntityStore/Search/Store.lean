import EntityStore.Repository
import EntityStore.Search.Hit
import EntityStore.Search.IndexName
import EntityStore.Search.Service
import EntityStore.Settings
import EntityStore.Text.Quoted

/-!
# Search stores

A search store keeps entities as documents of an index. A query without a limit is counted first and
refused where it finds too much; an update that names no version is tried a second time, after the
index has been refreshed, where it met with another write.
-/

namespace EntityStore.Search

structure Store (τ : EntityType) where
  mapping : Mapping
  indexName : IndexName
  idPolicy : IdPolicy
  maxUpdateSize : UInt64
  maxResultWindow : Int64

namespace Store

variable {τ : EntityType}

/-- The store of an entity type under valid settings, if its declaration allows one. -/
def create (τ : EntityType) (settings : SearchSettings) : Except StoreError (Store τ) := do
  settings.validate
  let m ← Mapping.build τ.descriptor .search
  let indexName ← IndexName.parse (m.names.index.getD "") m.names.indexPattern
  if settings.idPolicy = .engineAssigned ∧ m.key.kind ≠ .text then
    .error (Mapping.faulty m.typeName .keyNotText)
  return {
    mapping := m
    indexName := indexName
    idPolicy := settings.idPolicy
    maxUpdateSize := settings.maxUpdateSize
    maxResultWindow := settings.maxResultWindow }

end Store

/-- A store at a moment, when the name of its index is known. -/
structure Session (τ : EntityType) extends Store τ where
  index : String

/-- The store at a moment, if its index has a name then. -/
def Store.at? {τ : EntityType} (d : Store τ) (now : Instant) : Option (Session τ) :=
  (d.indexName.resolveAt? now).map fun index => ⟨d, index⟩

namespace Session

variable {τ : EntityType} (d : Session τ)

def docType : Option String := d.mapping.names.docType

/-! ## Calls -/

def classify : BackendError → StoreError := .ofBackend .search

def event (level : LogLevel) (message : String) (details : List (String × String)) : LogEvent where
  level := level
  target := "zdao::search"
  message := message
  details := [("entity", d.mapping.typeName), ("index", d.index)] ++ details

def search (request : SearchRequest) : Action service SearchResponse := do
  Action.log (d.event .debug request.toJson.render [])
  Action.call (S := service) classify (.search request)

def totalHits (request : SearchRequest) : Action service Int64 := do
  let response ← d.search request
  return response.totalHits

def refresh : Action service Unit := do
  Action.log (d.event .info "refresh index" [])
  Action.call (S := service) classify (.refresh d.index)

/-- Tells the log what was skipped and goes on with the rest. -/
def keep (results : List (Except LogEvent (Entity τ))) : Action service (List (Entity τ)) := do
  Action.logAll (results.filterMap fun
    | .ok _ => none
    | .error event => some event)
  return results.filterMap Except.toOption

def entities (hits : List SearchHit) : Action service (List (Entity τ)) :=
  keep (hits.map (entityOfHit τ d.mapping))

/-! ## Insertions -/

/-- The id of the document of a new entity, none where the engine is to choose it. -/
def documentId (e : Entity τ) : Except StoreError (Option String) :=
  if d.mapping.hasKey e then (d.mapping.entityId e).map fun id => some id.display
  else match d.idPolicy with
    | .engineAssigned => .ok none
    | .required => .error (.invalidArgument .entity (.keyRequired d.mapping.key.property))

def adoptKey (e : Entity τ) (raw : String) : Except StoreError (Entity τ) := do
  let id ← parseId d.mapping raw
  e.set d.mapping.key.property id.toValue

def adoptVersion (e : Entity τ) (version : Int64) : Except StoreError (Entity τ) :=
  match versionProperty? d.mapping with
  | none => .ok e
  | some property => e.set property (.int64 version)

/-- What an insertion comes to after its document is written. -/
def inserted (e : Entity τ) (chosen : Bool) (response : IndexResponse) : Insertion τ :=
  match if chosen then d.adoptKey e response.id else .ok e with
  | .error failure => ⟨.error failure, e⟩
  | .ok keyed =>
    match d.adoptVersion keyed response.version with
    | .error failure => ⟨.error failure, keyed⟩
    | .ok versioned => ⟨.ok response.version, versioned⟩

def create (request : IndexRequest) : Action service IndexResponse := do
  Action.log (d.event .debug ("insert " ++ (Json.object request.source).render)
    [("id", Text.quotedOption request.id)])
  Action.call (S := service) classify (.index request)

/-- Inserts an entity and answers the version of its document. -/
def insert (e : Entity τ) : Program service (Insertion τ) := do
  match d.documentId e with
  | .error failure => return ⟨.error failure, e⟩
  | .ok id =>
    let answer ← (d.create ⟨d.index, d.docType, id, .create, document d.mapping e⟩).run
    match answer with
    | .error failure => return ⟨.error failure, e⟩
    | .ok response => return d.inserted e id.isNone response

def insertBatch (entities : List (Entity τ)) : Program service (BatchInsertion τ) :=
  Repository.insertAll d.insert (fun _ => 1) entities

/-! ## Updates and deletions -/

/-- The versions that an update accepts: the one that it sets the version property to, if that is
positive, and else any. -/
def versionOf (u : Update) : Except StoreError VersionSpec :=
  let spec (n : Int64) : VersionSpec := if 0 < n then .pinned n else .any
  match (versionProperty? d.mapping).bind u.get? with
  | none | some .null => .ok .any
  | some (.int64 n) => .ok (spec n)
  | some (.int32 n) => .ok (spec n.toInt64)
  | some v => .error (.typeMismatch (.version v.kind))

def updateRequest (id : Id) (u : Update) : Except StoreError UpdateRequest := do
  let version ← d.versionOf u
  let doc ← partialDocument d.mapping u
  return ⟨d.index, d.docType, id.display, version, doc⟩

def tryUpdate (request : UpdateRequest) : Action service (Except BackendError WriteResponse) :=
  ExceptT.mk (.call (.update request) fun answer => .done (.ok answer))

def conflictEvent (request : UpdateRequest) : LogEvent where
  level := .debug
  target := "zdao::search"
  message := "version conflict, retry after refresh"
  details := [("id", request.id)]

/-- Sends an update, and where it accepts any version and still met with another write, refreshes
the index and sends it a second time. -/
def sendUpdate (id : Id) (request : UpdateRequest) : Action service WriteResponse := do
  Action.log (d.event .debug ("update " ++ (Json.object request.doc).render)
    [("id", request.id), ("version", request.version.shown)])
  match ← tryUpdate request with
  | .ok response => return response
  | .error failure =>
    if failure.fault = .versionConflict ∧ request.version = .any then
      Action.log (conflictEvent request)
      d.refresh
      Action.call (S := service) (.ofBackendFor .search id) (.update request)
    else throw (.ofBackendFor .search id failure)

def updatedCount : WriteResult → Int64
  | .noop | .notFound => 0
  | _ => 1

def updateById (id : Id) (u : Update) : Action service Int64 := do
  id.check
  u.check
  let request ← d.updateRequest id u
  let response ← d.sendUpdate id request
  return updatedCount response.result

def updateEach (u : Update) : List Id → Action service Int64
  | [] => return 0
  | id :: rest => do
    let n ← d.updateById id u
    let others ← updateEach u rest
    return n + others

def updateByIds (ids : List Id) (u : Update) : Action service Int64 := do
  checkIds ids
  u.check
  require (ids.length ≤ d.maxUpdateSize.toNat) .ids (.tooManyIds ids.length d.maxUpdateSize.toNat)
  d.updateEach u ids

def countByCriteria (c : Criteria) : Action service Int64 := do
  c.check
  let request ← Search.count d.mapping (some c) d.index
  d.totalHits request

/-- Counts the documents, looks up their ids and updates each of them. -/
def updateByCriteria (u : Update) (c : Criteria) : Action service Int64 := do
  u.check
  c.check
  let count ← d.countByCriteria c
  if count = 0 then return 0
  if d.maxUpdateSize.toInt64 < count then
    throw (.overload (.update d.mapping.typeName count d.maxUpdateSize))
  let request ← Search.count d.mapping (some c) d.index
  let response ← d.search { request with size := count }
  let ids ← response.hits.mapM fun hit => parseId d.mapping hit.id
  if ids.isEmpty then return 0
  d.updateByIds ids u

def updateProperties (e : Entity τ) (properties : List String) : Action service Int64 :=
  Repository.changeProperties d.mapping d.updateById e properties

def deleteById (id : Id) : Action service Int64 := do
  id.check
  Action.log (d.event .debug "delete" [("id", id.display)])
  let response ← Action.call (S := service) classify (.delete d.index d.docType id.display)
  return if response.result = .notFound then 0 else 1

def unsupported {α : Type} (operation : String) : Action service α :=
  throw (.unsupported "SearchDao" operation)

/-! ## Counts and searches -/

def countAll : Action service Int64 := do
  let request ← Search.count d.mapping none d.index
  d.totalHits request

def countBySql (s : Statement) : Action service Int64 := do
  checkSql s.sql
  d.totalHits (countOf d.mapping (.raw s.sql) d.index)

def findOneById (id : Id) : Action service (Option (Entity τ)) := do
  id.check
  Action.log (d.event .debug "get" [("id", id.display)])
  let hit ← Action.call (S := service) classify (.get d.index d.docType id.display)
  let found ← d.entities hit.toList
  return found.head?

def findEach : List Id → Action service (List (Entity τ))
  | [] => return []
  | id :: rest => do
    let found ← d.findOneById id
    let others ← findEach rest
    return found.toList ++ others

/-- The entities of the given keys; those that are not there are passed over. -/
def findListByIds (ids : List Id) : Action service (List (Entity τ)) := do
  checkIds ids
  d.findEach ids

/-- A request for the whole window is narrowed to what there is, and refused where that is as much as
the window. -/
def narrow (request : SearchRequest) : Action service SearchRequest := do
  if request.size < d.maxResultWindow then return request
  let count ← d.totalHits (countOf d.mapping request.query request.index)
  if d.maxResultWindow ≤ count then
    throw (.overload (.query d.mapping.typeName count d.maxResultWindow))
  return { request with size := count }

/-- The entities that a request finds, none where it comes to ask for nothing. -/
def fetch (request : SearchRequest) : Action service (List (Entity τ)) := do
  let narrowed ← d.narrow request
  if narrowed.size = 0 then return []
  let response ← d.search narrowed
  d.entities response.hits

def findListByQuery (q : Query) : Action service (List (Entity τ)) := do
  q.check
  let request ← Search.search d.mapping d.maxResultWindow q d.index
  if request.aggregation.isSome then
    let response ← d.search request
    keep (entitiesOfBuckets τ d.mapping q response.buckets)
  else d.fetch request

def findOneByQuery (q : Query) : Action service (Option (Entity τ)) := do
  q.check
  let found ← d.findListByQuery ((q.skip 0).take 1)
  return found.head?

/-- A parameter of a query that a caller wrote: an integer, where it is given. -/
def windowParameter (name : String) : Option Value → Except StoreError (Option Int64)
  | none | some .null => .ok none
  | some (.int64 n) => .ok (some n)
  | some (.int32 n) => .ok (some n.toInt64)
  | some v => .error (.typeMismatch (.windowParameter name v.kind))

/-- The documents that a query of the caller's finds; the first parameter says how many to skip, the
second how many to take. -/
def findListBySql (s : Statement) : Action service (List (Entity τ)) := do
  checkSql s.sql
  let start ← windowParameter "from" s.params[0]?
  let size ← windowParameter "size" s.params[1]?
  d.fetch (wrapper d.mapping d.maxResultWindow s.sql d.index (start.getD 0) size)

def findOneBySql (s : Statement) : Action service (Option (Entity τ)) := do
  checkSql s.sql
  let response ← d.search (wrapper d.mapping d.maxResultWindow s.sql d.index 0 (some 1))
  let found ← d.entities response.hits
  return found.head?

def existsById (id : Id) : Action service Bool := do
  id.check
  let found ← d.findOneById id
  return found.isSome

def existsByCriteria (c : Criteria) : Action service Bool :=
  Repository.existsThrough d.mapping d.findOneByQuery c

def repository : Repository service τ where
  mapping := d.mapping
  insert := d.insert
  insertBatch := d.insertBatch
  update e := d.updateProperties e []
  updateProperties := d.updateProperties
  updateById := d.updateById
  updateByIds := d.updateByIds
  updateByCriteria := d.updateByCriteria
  updateBySql _ := unsupported "update_by_sql"
  deleteById := d.deleteById
  deleteBySql _ := unsupported "delete_by_sql"
  existsById := d.existsById
  existsByCriteria := d.existsByCriteria
  countByCriteria := d.countByCriteria
  countAll := d.countAll
  countBySql := d.countBySql
  findOneById := d.findOneById
  findOneByQuery := d.findOneByQuery
  findOneBySql := d.findOneBySql
  findListByIds := d.findListByIds
  findListByQuery := d.findListByQuery
  findListBySql := d.findListBySql

end Session

end EntityStore.Search
