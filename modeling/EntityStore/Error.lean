import EntityStore.Criteria.Operator
import EntityStore.Id

/-!
# Errors

Every error of the library is a cause with what it is about; the wording is in `message`. A failure
that a backend reports is kept whole inside the error that it becomes.
-/

namespace EntityStore

/-! ## Failures of a backend -/

inductive BackendFault where
  | duplicateKey
  | versionConflict
  | windowTooLarge
  | connection
  | other
  deriving DecidableEq, Repr

structure BackendError where
  fault : BackendFault
  message : String
  /-- The text of what lies behind it. -/
  source : Option String := none
  deriving DecidableEq, Repr

inductive CallKind where
  | mysql
  | oracle
  | search
  | wideColumn
  | generic
  deriving DecidableEq, Repr

def CallKind.name : CallKind → String
  | mysql => "mysql"
  | oracle => "oracle"
  | search => "search"
  | wideColumn => "wide-column"
  | generic => "remote"

/-! ## Arguments -/

inductive Parameter where
  | criteria
  | query
  | id
  | ids
  | pageable
  | fields
  | orderBys
  | groupBys
  | sql
  | update
  | entity
  | entities
  | properties
  deriving DecidableEq, Repr

def Parameter.name : Parameter → String
  | criteria => "criteria"
  | query => "query"
  | id => "id"
  | ids => "ids"
  | pageable => "pageable"
  | fields => "fields"
  | orderBys => "order_bys"
  | groupBys => "group_bys"
  | sql => "sql"
  | update => "update"
  | entity => "entity"
  | entities => "entities"
  | properties => "properties"

inductive ArgumentFault where
  | empty
  | blank
  | blankHint
  | negative
  | invalidId (id : Id)
  | pageBelowOne
  | sizeBelowOne
  | offsetOverflow
  | nothingSet
  | nothingPersisted
  | nothingPersistable
  | keyNotSet (property : String)
  | keyInvalid (id : Id)
  | keyRequired (property : String)
  | unknownProperty (property : String)
  | noValues (operator : Operator) (property : String)
  | tooManyIds (given limit : Nat)
  deriving DecidableEq, Repr

def ArgumentFault.message : ArgumentFault → String
  | empty => "must be non-empty"
  | blank => "must be non-blank"
  | blankHint => "hint must be non-blank when set"
  | negative => "must be >= 0"
  | invalidId id => "contains invalid id '" ++ id.display ++ "'"
  | pageBelowOne => "page number must be >= 1"
  | sizeBelowOne => "page size must be > 0"
  | offsetOverflow => "offset overflows"
  | nothingSet => "must set at least one property"
  | nothingPersisted => "must set at least one persisted property"
  | nothingPersistable => "update has no persistable properties"
  | keyNotSet property => "primary key '" ++ property ++ "' is not set"
  | keyInvalid id => "invalid primary key '" ++ id.display ++ "'"
  | keyRequired property => "primary key '" ++ property ++ "' is required"
  | unknownProperty property => "unknown property '" ++ property ++ "'"
  | noValues operator property =>
    "'" ++ operator.symbol ++ "' on '" ++ property ++ "' needs at least one value"
  | tooManyIds given limit =>
    toString given ++ " ids exceed the update limit of " ++ toString limit

/-! ## Configuration -/

inductive EntityFault where
  | noPersistedField
  | keyCount (found : Nat)
  | transientKey (property : String)
  | keyKind (property : String) (kind : ValueKind)
  | manyVersions
  | versionKind (property : String)
  | noColumn (property : String)
  | duplicateColumn (column : String)
  | noTable
  | noIndex
  | noSequence
  | keyNotText
  deriving DecidableEq, Repr

def EntityFault.message : EntityFault → String
  | noPersistedField => "must have at least one persistable field"
  | keyCount found => "must have exactly one primary key field, found " ++ toString found
  | transientKey property => "primary key field '" ++ property ++ "' cannot be transient"
  | keyKind property kind =>
    "primary key field '" ++ property ++ "' must be i64, i32 or String, got " ++ kind.name
  | manyVersions => "must have at most one version field"
  | versionKind property => "version field '" ++ property ++ "' must be an integer"
  | noColumn property => "field '" ++ property ++ "' must carry column metadata"
  | duplicateColumn column => "duplicate column '" ++ column ++ "'"
  | noTable => "must declare a table name"
  | noIndex => "must declare an index name"
  | noSequence => "must declare a sequence for oracle inserts"
  | keyNotText => "engine-assigned ids need a string primary key"

inductive AddressFault where
  | noPort
  | invalidPort
  | emptyHost
  deriving DecidableEq, Repr

def AddressFault.message : AddressFault → String
  | noPort => "must be host:port"
  | invalidPort => "has an invalid port"
  | emptyHost => "has an empty host"

inductive ConfigurationFault where
  | entity (typeName : String) (fault : EntityFault)
  | blankIndex
  | patternShape (pattern : String)
  | patternFormat (pattern : String)
  | noAddress
  | address (entry : String) (fault : AddressFault)
  | noWriteSource
  | noWriter
  | zeroUpdateSize
  | windowNotPositive
  | noConnector (client : String)
  | cannotOpen (source reason : String)
  | cannotCreate (client reason : String)
  | other (message : String)
  deriving DecidableEq, Repr

def ConfigurationFault.message : ConfigurationFault → String
  | entity typeName fault => "entity[" ++ typeName ++ "] " ++ fault.message
  | blankIndex => "search index name is blank"
  | patternShape pattern =>
    "index pattern '" ++ pattern ++ "' must look like date\x7b<format>\x7d"
  | patternFormat pattern => "index pattern '" ++ pattern ++ "' has an invalid date format"
  | noAddress => "server address list is empty"
  | address entry fault => "server address '" ++ entry ++ "' " ++ fault.message
  | noWriteSource => "jdbc settings need at least one write data source"
  | noWriter => "database router needs at least one write data source"
  | zeroUpdateSize => "max_update_size must be positive"
  | windowNotPositive => "max_result_window must be positive"
  | noConnector client => "no " ++ client ++ " connector registered"
  | cannotOpen source reason => "cannot open data source [" ++ source ++ "]: " ++ reason
  | cannotCreate client reason => "cannot create " ++ client ++ ": " ++ reason
  | other message => message

/-! ## Values of the wrong shape -/

inductive Mismatch where
  | kind (expected found : ValueKind)
  | outOfRange (n : Int64)
  | listForSingle (operator : Operator) (property : String)
  | singleForList (operator : Operator) (property : String) (found : ValueKind)
  | documentId (keyKind : ValueKind) (raw : String)
  | version (found : ValueKind)
  | windowParameter (name : String) (found : ValueKind)
  | noCount
  deriving DecidableEq, Repr

def Mismatch.expected : Mismatch → String
  | kind expected _ => expected.name
  | outOfRange _ => "Int32"
  | listForSingle operator property =>
    "scalar value for '" ++ operator.symbol ++ "' on '" ++ property ++ "'"
  | singleForList operator property _ =>
    "List for '" ++ operator.symbol ++ "' on '" ++ property ++ "'"
  | documentId keyKind _ => keyKind.name
  | version _ => "Int64 version"
  | windowParameter name _ => "integer '" ++ name ++ "' parameter"
  | noCount => "integer count column"

def Mismatch.actual : Mismatch → String
  | kind _ found => found.name
  | outOfRange n => "Int64(" ++ toString n.toInt ++ ") out of range"
  | listForSingle _ _ => "List"
  | singleForList _ _ found => found.name
  | documentId _ raw => "document id '" ++ raw ++ "'"
  | version found => found.name
  | windowParameter _ found => found.name
  | noCount => "row without integer value"

/-! ## Windows -/

/-- Why a request for too many documents is refused. -/
inductive Overload where
  | query (typeName : String) (count window : Int64)
  | update (typeName : String) (count : Int64) (limit : UInt64)
  | reported (message : String)
  deriving DecidableEq, Repr

def Overload.message : Overload → String
  | query typeName count window =>
    "entity[" ++ typeName ++ "] query matches " ++ toString count.toInt ++
      " documents, maximum result window is " ++ toString window.toInt
  | update typeName count limit =>
    "entity[" ++ typeName ++ "] update matches " ++ toString count.toInt ++
      " documents, limit is " ++ toString limit.toNat
  | reported message => message

/-! ## All of them -/

inductive StoreError where
  /-- The caller's input is refused before any call. -/
  | invalidArgument (parameter : Parameter) (fault : ArgumentFault)
  /-- An entity or settings are declared wrongly. -/
  | configuration (fault : ConfigurationFault)
  | unsupported (store operation : String)
  | remoteCall (kind : CallKind) (source : BackendError)
  | uniqueConstraint (source : BackendError)
  | versionConflict (id : String) (source : BackendError)
  | overload (reason : Overload)
  | typeMismatch (mismatch : Mismatch)
  /-- Text that is not the settings it should be. -/
  | serialization
  deriving DecidableEq, Repr

namespace StoreError

def message : StoreError → String
  | invalidArgument parameter fault =>
    "invalid argument '" ++ parameter.name ++ "': " ++ fault.message
  | configuration fault => "configuration error: " ++ fault.message
  | unsupported store operation => store ++ " does not support " ++ operation
  | remoteCall kind source => kind.name ++ " call failed: " ++ source.message
  | uniqueConstraint source => "unique constraint violation: " ++ source.message
  | versionConflict id source => "version conflict on id '" ++ id ++ "': " ++ source.message
  | overload reason => "query overload rejected: " ++ reason.message
  | typeMismatch mismatch =>
    "type mismatch: expected " ++ mismatch.expected ++ ", got " ++ mismatch.actual
  | serialization => "serialization error"

/-- The backend's own failure behind an error. -/
def backend? : StoreError → Option BackendError
  | remoteCall _ source => some source
  | uniqueConstraint source => some source
  | versionConflict _ source => some source
  | _ => none

/-- The texts of the failures behind an error, the nearest first. -/
def causes (e : StoreError) : List String :=
  match e.backend? with
  | none => []
  | some source => source.message :: source.source.toList

def unknownProperty (parameter : Parameter) (property : String) : StoreError :=
  invalidArgument parameter (.unknownProperty property)

def wrongKind (expected found : ValueKind) : StoreError :=
  typeMismatch (.kind expected found)

/-! ## Classifying a backend's failure -/

/-- What a failed call becomes when it is not about one document. -/
def ofBackend (kind : CallKind) (failure : BackendError) : StoreError :=
  match failure.fault with
  | .duplicateKey => uniqueConstraint failure
  | .windowTooLarge => overload (.reported failure.message)
  | _ => remoteCall kind failure

/-- What a failed call on the document `id` becomes. -/
def ofBackendFor (kind : CallKind) (id : Id) (failure : BackendError) : StoreError :=
  match failure.fault with
  | .versionConflict => versionConflict id.display failure
  | _ => ofBackend kind failure

end StoreError

end EntityStore
