import EntityStore.Error
import EntityStore.Query
import EntityStore.Update

/-!
# Checks of arguments

Every operation checks what it is given before it calls a backend. A check passes or names the
argument at fault.
-/

namespace EntityStore

abbrev Verdict := Except StoreError Unit

def require (ok : Bool) (parameter : Parameter) (fault : ArgumentFault) : Verdict :=
  if ok then .ok () else .error (.invalidArgument parameter fault)

def Criteria.check (c : Criteria) : Verdict := require (!c.nodes.isEmpty) .criteria .empty

def Query.check (q : Query) : Verdict := do
  q.criteria.forM Criteria.check
  require (!q.hint.any Text.isBlank) .query .blankHint

def Id.fault : Id → ArgumentFault
  | .long _ | .int _ => .negative
  | .text _ => .blank

def Id.check (id : Id) : Verdict := require id.isValid .id id.fault

def checkIds (ids : List Id) : Verdict := do
  require (!ids.isEmpty) .ids .empty
  ids.forM fun id => require id.isValid .ids (.invalidId id)

def Page.check (p : Page) : Verdict := do
  require (1 ≤ p.number) .pageable .pageBelowOne
  require (0 < p.size) .pageable .sizeBelowOne
  require p.offset?.isSome .pageable .offsetOverflow

def checkFields (fields : List String) : Verdict := require (!fields.isEmpty) .fields .empty

def checkOrderBys (keys : List OrderBy) : Verdict := require (!keys.isEmpty) .orderBys .empty

def checkSql (sql : String) : Verdict := require (!Text.isBlank sql) .sql .blank

def Update.check (u : Update) : Verdict := require (!u.isEmpty) .update .nothingSet

def checkEntities {α : Type} (entities : List α) : Verdict :=
  require (!entities.isEmpty) .entities .empty

end EntityStore
