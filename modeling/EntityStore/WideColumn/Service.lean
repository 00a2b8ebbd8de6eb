import EntityStore.Mapping.Row
import EntityStore.Program
import EntityStore.Statement

/-!
# The wide-column service

A session executes a statement and answers its rows, or executes several as one atomic batch.
-/

namespace EntityStore.WideColumn

inductive Call where
  | execute (s : Statement)
  | executeBatch (statements : List Statement)

@[reducible] def Call.Reply : Call → Type
  | execute _ => List Row
  | executeBatch _ => Unit

abbrev service : Service := ⟨Call, Call.Reply⟩

end EntityStore.WideColumn
