import EntityStore.Error
import EntityStore.Text.Integer
import EntityStore.Text.Split

/-!
# Server addresses

An address is a host and a port. A list of addresses is parted by commas; blanks around an entry and
empty entries are passed over, and the last colon of an entry stands before its port.
-/

namespace EntityStore

structure ServerAddress where
  host : String
  port : UInt16
  deriving DecidableEq, Repr

namespace ServerAddress

def display (a : ServerAddress) : String := a.host ++ ":" ++ toString a.port.toNat

def ofEntry (entry : List Char) : Except AddressFault ServerAddress :=
  match Text.splitLast? ':' entry with
  | none => .error .noPort
  | some (host, port) =>
    match Text.readUInt16? port with
    | none => .error .invalidPort
    | some port => if host.isEmpty then .error .emptyHost else .ok ⟨String.ofList host, port⟩

/-- The entries of a list that hold anything. -/
def entries (list : List Char) : List (List Char) :=
  ((Text.splitAt ',' list).map Text.trimChars).filter (!·.isEmpty)

/-- The addresses of a list, or the fault of the first entry that is not one. -/
def parseList (list : String) : Except StoreError (List ServerAddress) := do
  let addresses ← (entries list.toList).mapM fun entry =>
    (ofEntry entry).mapError fun fault =>
      StoreError.configuration (.address (String.ofList entry) fault)
  if addresses.isEmpty then .error (.configuration .noAddress) else return addresses

end ServerAddress

end EntityStore
