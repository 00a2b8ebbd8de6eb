import EntityStore.Mapping.Row
import EntityStore.Program
import EntityStore.Statement

/-!
# The relational service

What is asked of a data source, and whether a source for reading or for writing is asked.
-/

namespace EntityStore.Relational

inductive Command where
  | queryForList (s : Statement)
  | queryForLong (s : Statement)
  | update (s : Statement)
  /-- An insertion whose key the database generates in `keyColumn`. -/
  | updateReturningKey (s : Statement) (keyColumn : String)

/-- What a data source answers: rows, a number, the number of rows changed, or that number with the
generated key. -/
@[reducible] def Command.Reply : Command → Type
  | queryForList _ => List Row
  | queryForLong _ => Int64
  | update _ => Int64
  | updateReturningKey _ _ => Int64 × Option Value

inductive Route where
  | read
  | write
  deriving DecidableEq, Repr

structure Call where
  route : Route
  command : Command

abbrev service : Service := ⟨Call, fun c => c.command.Reply⟩

end EntityStore.Relational
