import EntityStore.Error

/-!
# Scaffolding

Declarations of entities written from the tables of a database. The request has its type, and every
request is refused.
-/

namespace EntityStore

/-- Where to write the declaration of a table's entity. -/
structure Scaffold where
  modulePath : String
  moduleName : String
  table : String
  deriving DecidableEq, Repr

def Scaffold.generate (_ : Scaffold) : Except StoreError Unit :=
  .error (.unsupported "codegen" "code generation (disabled)")

end EntityStore
