import EntityStore.Relational.Clause

/-!
# Relational statements

Queries, counts, updates, deletions and insertions as templates. What is bound stands in the order
in which the places stand in the text: the values that are set before those that are compared.
-/

namespace EntityStore.Relational

def select (m : Mapping) (dialect : Dialect) (q : Query) : Except StoreError Template := do
  let columns ← selectClause m q
  let condition ← whereClause m q.criteria
  let groups ← groupByClause m q.groupBys
  let order ← orderByClause m q.orderBys
  let all := [.fixed (columns ++ fromClause m)] ++ condition ++ [.fixed (groups ++ order)]
  match q.paging with
  | none => return all
  | some (offset, limit) => paginate dialect all offset limit

def count (m : Mapping) (criteria : Option Criteria) : Except StoreError Template := do
  let condition ← whereClause m criteria
  return [.fixed ("SELECT COUNT(*) " ++ fromClause m)] ++ condition

/-- The columns that an update sets and their new values; transient properties are passed over. -/
def assignments (m : Mapping) : List (String × Value) → Except StoreError (List (String × Value))
  | [] => .ok []
  | (property, value) :: rest => do
    let column ← m.column .update property
    let later ← assignments m rest
    return if m.isTransient property then later else (column, value) :: later

def update (m : Mapping) (u : Update) (criteria : Criteria) : Except StoreError Template := do
  let sets ← assignments m u.entries
  require (!sets.isEmpty) .update .nothingPersisted
  let condition ← whereClause m (some criteria)
  let setList := Template.separated "," (sets.map fun (column, value) =>
    [.fixed (column ++ "="), .bound value])
  return [.fixed ("UPDATE " ++ m.tableName ++ " SET ")] ++ setList ++ [.fixed " "] ++ condition

def deleteById (m : Mapping) (id : Id) : Template :=
  [.fixed ("DELETE FROM " ++ m.tableName ++ " WHERE " ++ m.key.column ++ " = "), .bound id.toValue]

def insert (m : Mapping) (values : List (String × Value)) : Template :=
  [.fixed ("INSERT INTO " ++ m.tableName ++ " (" ++
    String.intercalate "," (values.map (·.1)) ++ ") VALUES (")] ++
    Template.boundList (values.map (·.2)) ++ [.fixed ")"]

/-- The statement that draws the next number of the entity's sequence. -/
def nextSequence (m : Mapping) : Except StoreError String :=
  match m.names.sequence with
  | some sequence => .ok ("SELECT " ++ sequence ++ ".NEXTVAL AS ID FROM DUAL")
  | none => .error (Mapping.faulty m.typeName .noSequence)

end EntityStore.Relational
