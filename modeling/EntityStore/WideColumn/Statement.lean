import EntityStore.Entity
import EntityStore.Mapping
import EntityStore.Statement

/-!
# Wide-column statements

The two statements that are composed for a wide-column store: the insertion of an entity with all its
stored properties, and the count of a whole table.
-/

namespace EntityStore.WideColumn

/-- The table of an entity, within its keyspace where it has one. -/
def qualifiedTable (m : Mapping) : String :=
  match m.names.keyspace with
  | some keyspace => keyspace ++ "." ++ m.tableName
  | none => m.tableName

/-- The insertion of an entity: every stored property, the key like any other. -/
def insert {τ : EntityType} (m : Mapping) (e : Entity τ) : Template :=
  [.fixed ("insert into " ++ qualifiedTable m ++ " (" ++
    String.intercalate "," (m.persisted.map (·.column)) ++ ") values (")] ++
    Template.boundList (m.persisted.map fun p => e.valueOf p.property) ++ [.fixed ")"]

def countAll (m : Mapping) : String := "select count(*) from " ++ qualifiedTable m

end EntityStore.WideColumn
