import EntityStore.Settings
import EntityStore.Text.Quoted

/-!
# Settings in log lines

Settings are shown with the names of their fields. What a log must not learn is masked: passwords,
and in addresses of data sources whatever stands before the last `@` and looks like credentials.
-/

namespace EntityStore

/-- What stands in place of a secret. -/
def mask : String := "***"

/-! ## Addresses of data sources -/

/-- Where the credentials start in the text before the `@`: after the scheme, or else after the last
colon, or else at once. -/
def splitCredentials (before : List Char) (hasScheme : Bool) : List Char × List Char :=
  match Text.splitFirst? "://".toList before with
  | some (scheme, rest) => (scheme ++ "://".toList, rest)
  | none =>
    if hasScheme then (before, [])
    else match Text.splitLast? ':' before with
      | some (driver, rest) => (driver ++ [':'], rest)
      | none => ([], before)

/-- The address of a data source with its credentials masked. A scheme that only follows the `@`
leaves nothing to mask. -/
def redactChars (url : List Char) : List Char :=
  match Text.splitLast? '@' url with
  | none => url
  | some (before, after) =>
    let hasScheme := (Text.splitFirst? "://".toList url).isSome
    match splitCredentials before hasScheme with
    | (_, []) => url
    | (start, _) => start ++ mask.toList ++ '@' :: after

def redactUrl (url : String) : String := String.ofList (redactChars url.toList)

/-! ## Settings -/

def shownRecord (name : String) (fields : List (String × String)) : String :=
  name ++ " \x7b " ++ String.intercalate ", " (fields.map fun (k, v) => k ++ ": " ++ v) ++ " \x7d"

def Dialect.shown : Dialect → String
  | mysql => "Mysql"
  | oracle => "Oracle"

def IdPolicy.shown : IdPolicy → String
  | required => "Required"
  | engineAssigned => "EngineAssigned"

def shownPassword (password : Option String) : String :=
  Text.quotedOption (password.map fun _ => mask)

def RelationalSettings.shown (s : RelationalSettings) : String :=
  shownRecord "JdbcSettings" [
    ("dialect", s.dialect.shown),
    ("write_urls", Text.quotedList (s.writeUrls.map redactUrl)),
    ("read_urls", Text.quotedList (s.readUrls.map redactUrl))]

def SearchSettings.shown (s : SearchSettings) : String :=
  shownRecord "SearchSettings" [
    ("server_address_list", Text.quoted s.serverAddressList),
    ("cluster_name", Text.quotedOption s.clusterName),
    ("user_name", Text.quotedOption s.userName),
    ("password", shownPassword s.password),
    ("id_policy", s.idPolicy.shown),
    ("max_update_size", toString s.maxUpdateSize.toNat),
    ("max_result_window", toString s.maxResultWindow.toInt)]

def WideColumnSettings.shown (s : WideColumnSettings) : String :=
  shownRecord "WideColumnSettings" [
    ("server_address_list", Text.quoted s.serverAddressList),
    ("cluster_name", Text.quotedOption s.clusterName),
    ("user_name", Text.quotedOption s.userName),
    ("password", shownPassword s.password)]

def StoreSettings.shown : StoreSettings → String
  | relational s => "Jdbc(" ++ s.shown ++ ")"
  | search s => "Search(" ++ s.shown ++ ")"
  | wideColumn s => "WideColumn(" ++ s.shown ++ ")"

end EntityStore
