import EntityStore.Relational.Clause
import EntityStore.Settings.Address

/-!
# Settings

How to reach each kind of store and what limits to keep there. Clients are shared between stores
with equal settings, so settings can be compared.
-/

namespace EntityStore

/-! ## Relational databases -/

structure RelationalSettings where
  dialect : Dialect
  writeUrls : List String
  /-- Where there are none, the sources for writing are read as well. -/
  readUrls : List String := []
  deriving DecidableEq, Repr

def RelationalSettings.validate (s : RelationalSettings) : Except StoreError Unit :=
  if s.writeUrls.all Text.isBlank then .error (.configuration .noWriteSource) else .ok ()

/-! ## Search engines -/

/-- Who chooses the key of a new document. -/
inductive IdPolicy where
  | required
  | engineAssigned
  deriving DecidableEq, Repr

structure SearchSettings where
  serverAddressList : String
  clusterName : Option String := none
  userName : Option String := none
  password : Option String := none
  idPolicy : IdPolicy := .required
  /-- How many documents one update may change. -/
  maxUpdateSize : UInt64 := 1000
  /-- How many documents a query without a limit may find. -/
  maxResultWindow : Int64 := 2147483647
  deriving DecidableEq, Repr

namespace SearchSettings

def addresses (s : SearchSettings) : Except StoreError (List ServerAddress) :=
  ServerAddress.parseList s.serverAddressList

def validate (s : SearchSettings) : Except StoreError Unit := do
  let _ ← s.addresses
  if s.maxUpdateSize = 0 then .error (.configuration .zeroUpdateSize)
  if s.maxResultWindow ≤ 0 then .error (.configuration .windowNotPositive)

end SearchSettings

/-! ## Wide-column stores -/

structure WideColumnSettings where
  serverAddressList : String
  clusterName : Option String := none
  userName : Option String := none
  password : Option String := none
  deriving DecidableEq, Repr

namespace WideColumnSettings

def addresses (s : WideColumnSettings) : Except StoreError (List ServerAddress) :=
  ServerAddress.parseList s.serverAddressList

def validate (s : WideColumnSettings) : Except StoreError Unit := do
  let _ ← s.addresses

end WideColumnSettings

/-! ## Any store -/

inductive StoreSettings where
  | relational (s : RelationalSettings)
  | search (s : SearchSettings)
  | wideColumn (s : WideColumnSettings)
  deriving DecidableEq, Repr

def StoreSettings.validate : StoreSettings → Except StoreError Unit
  | relational s => s.validate
  | search s => s.validate
  | wideColumn s => s.validate

end EntityStore
