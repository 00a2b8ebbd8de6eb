import EntityStore.Json.Raw
import EntityStore.Settings

/-!
# Settings from text

Settings are read from a JSON object whose known fields are there at most once, or from an array of
the fields in order. Unknown fields are passed over. Settings for any store name it in the field
`backend`; since that field may come last, their text is read whole before it is understood, so
there even the unknown fields must be sound and not nested too deep.
-/

namespace EntityStore

namespace RawJson

/-- How deep a text that is read whole may be nested. -/
def maxDepth : Nat := 127

/-! ## Values of fields -/

def asText? : RawJson → Option String
  | .text s => s
  | _ => none

def asOptionalText? : RawJson → Option (Option String)
  | .null => some none
  | .text (some s) => some (some s)
  | _ => none

def asTexts? : RawJson → Option (List String)
  | .array items => items.mapM asText?
  | _ => none

def asInteger? : RawJson → Option Int
  | .number n => n.integer?
  | _ => none

def asUInt64? (j : RawJson) : Option UInt64 :=
  j.asInteger?.bind fun n => if 0 ≤ n then some (UInt64.ofNat n.toNat) else none

def asInt64? (j : RawJson) : Option Int64 := j.asInteger?.bind checkedInt64

/-- The name of a choice: a text, or an object whose one key is the name and whose value says
nothing more. In a text that is read whole, an empty object says nothing either. -/
def asChoice? (whole : Bool) : RawJson → Option String
  | .text s => s
  | .object [(key, .null)] => key
  | .object [(key, .object [])] => if whole then key else none
  | _ => none

/-! ## Records -/

/-- The values given for the named fields, in their order. -/
def record? (names : List String) : RawJson → Option (List (Option RawJson))
  | .object fields =>
    if fields.all (·.1.isSome) &&
        names.all (fun name => (fields.filter (·.1 == some name)).length ≤ 1) then
      some (names.map fun name => (fields.find? (·.1 == some name)).map (·.2))
    else none
  | .array items =>
    if items.length ≤ names.length then some ((List.range names.length).map (items[·]?)) else none
  | _ => none

def needed {α : Type} (read : RawJson → Option α) (field : Option RawJson) : Option α :=
  field.bind read

def given {α : Type} (default : α) (read : RawJson → Option α) : Option RawJson → Option α
  | none => some default
  | some j => read j

end RawJson

open RawJson

/-! ## Settings of each kind -/

def Dialect.ofName? : String → Option Dialect
  | "mysql" => some .mysql
  | "oracle" => some .oracle
  | _ => none

def IdPolicy.ofName? : String → Option IdPolicy
  | "required" => some .required
  | "engine_assigned" => some .engineAssigned
  | _ => none

def RelationalSettings.ofJson? (whole : Bool) (j : RawJson) : Option RelationalSettings := do
  match ← record? ["dialect", "write_urls", "read_urls"] j with
  | [dialect, writeUrls, readUrls] =>
    return {
      dialect := ← needed (fun j => (j.asChoice? whole).bind Dialect.ofName?) dialect
      writeUrls := ← needed asTexts? writeUrls
      readUrls := ← given [] asTexts? readUrls }
  | _ => none

def SearchSettings.ofJson? (whole : Bool) (j : RawJson) : Option SearchSettings := do
  match ← record? ["server_address_list", "cluster_name", "user_name", "password", "id_policy",
      "max_update_size", "max_result_window"] j with
  | [addresses, cluster, user, password, idPolicy, maxUpdateSize, maxResultWindow] =>
    return {
      serverAddressList := ← needed asText? addresses
      clusterName := ← given none asOptionalText? cluster
      userName := ← given none asOptionalText? user
      password := ← given none asOptionalText? password
      idPolicy := ← given .required (fun j => (j.asChoice? whole).bind IdPolicy.ofName?) idPolicy
      maxUpdateSize := ← given 1000 asUInt64? maxUpdateSize
      maxResultWindow := ← given 2147483647 asInt64? maxResultWindow }
  | _ => none

def WideColumnSettings.ofJson? (j : RawJson) : Option WideColumnSettings := do
  match ← record? ["server_address_list", "cluster_name", "user_name", "password"] j with
  | [addresses, cluster, user, password] =>
    return {
      serverAddressList := ← needed asText? addresses
      clusterName := ← given none asOptionalText? cluster
      userName := ← given none asOptionalText? user
      password := ← given none asOptionalText? password }
  | _ => none

namespace StoreSettings

def tagged? : RawJson → Option (String × RawJson)
  | .object fields =>
    match fields.filter (·.1 == some "backend") with
    | [(_, .text (some name))] => some (name, .object (fields.filter (·.1 != some "backend")))
    | _ => none
  | .array (.text (some name) :: rest) => some (name, .array rest)
  | _ => none

def ofJson? (j : RawJson) : Option StoreSettings := do
  if !j.isSound || maxDepth < j.depth then none
  match ← tagged? j with
  | ("jdbc", rest) => (RelationalSettings.ofJson? true rest).map relational
  | ("search", rest) => (SearchSettings.ofJson? true rest).map search
  | ("wide_column", rest) => (WideColumnSettings.ofJson? rest).map wideColumn
  | _ => none

end StoreSettings

/-! ## From text -/

/-- Settings as a text gives them, before they are validated. -/
def readSettings {α : Type} (ofJson? : RawJson → Option α) (text : String) :
    Except StoreError α :=
  match (RawJson.parse? text).bind ofJson? with
  | some s => .ok s
  | none => .error .serialization

def RelationalSettings.ofText (text : String) : Except StoreError RelationalSettings := do
  let s ← readSettings (RelationalSettings.ofJson? false) text
  s.validate
  return s

def SearchSettings.ofText (text : String) : Except StoreError SearchSettings := do
  let s ← readSettings (SearchSettings.ofJson? false) text
  s.validate
  return s

def WideColumnSettings.ofText (text : String) : Except StoreError WideColumnSettings := do
  let s ← readSettings WideColumnSettings.ofJson? text
  s.validate
  return s

/-- Settings for any store, before they are validated. -/
def StoreSettings.read (text : String) : Except StoreError StoreSettings :=
  readSettings StoreSettings.ofJson? text

def StoreSettings.ofText (text : String) : Except StoreError StoreSettings := do
  let s ← StoreSettings.read text
  s.validate
  return s

/-! ## To documents -/

def textArray (items : List String) : Json := .array (items.map .text)

def IdPolicy.name : IdPolicy → String
  | required => "required"
  | engineAssigned => "engine_assigned"

def wholeNumber (n : UInt64) : Json :=
  .int ⟨n.toNat, by have := n.toNat_lt; omega⟩

def RelationalSettings.fields (s : RelationalSettings) : Document :=
  Document.ofFields [
    ("dialect", .text s.dialect.name),
    ("write_urls", textArray s.writeUrls),
    ("read_urls", textArray s.readUrls)]

def SearchSettings.fields (s : SearchSettings) : Document :=
  Document.ofFields [
    ("server_address_list", .text s.serverAddressList),
    ("cluster_name", .ofOption s.clusterName),
    ("user_name", .ofOption s.userName),
    ("password", .ofOption s.password),
    ("id_policy", .text s.idPolicy.name),
    ("max_update_size", wholeNumber s.maxUpdateSize),
    ("max_result_window", .ofInt64 s.maxResultWindow)]

def WideColumnSettings.fields (s : WideColumnSettings) : Document :=
  Document.ofFields [
    ("server_address_list", .text s.serverAddressList),
    ("cluster_name", .ofOption s.clusterName),
    ("user_name", .ofOption s.userName),
    ("password", .ofOption s.password)]

def StoreSettings.fields : StoreSettings → Document
  | relational s => s.fields.insert "backend" (.text "jdbc")
  | search s => s.fields.insert "backend" (.text "search")
  | wideColumn s => s.fields.insert "backend" (.text "wide_column")

end EntityStore
