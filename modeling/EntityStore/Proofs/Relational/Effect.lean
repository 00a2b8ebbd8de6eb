import EntityStore.Proofs.Relational.Alignment
import EntityStore.Relational.Service

/-!
# What calls do to a row

One row of a table under the statements that are sent for it: an insertion fills it from the columns
and the values of the statement, and an update of the row with its key writes over the columns that
are set. A number that is drawn leaves the row alone.
-/

namespace EntityStore.Relational

def insertText (m : Mapping) (cells : Row) : String :=
  "INSERT INTO " ++ m.tableName ++ " (" ++ ",".intercalate (cells.map (·.1)) ++ ") VALUES (" ++
    ",".intercalate (cells.map fun _ => "?") ++ ")"

def updateText (m : Mapping) (cells : Row) : String :=
  "UPDATE " ++ m.tableName ++ " SET " ++
    ",".intercalate (cells.map fun (column, _) => column ++ "=" ++ "?") ++
    " WHERE " ++ m.key.column ++ " = ? "

/-- What a call does to the row with the key, which is not there before it is inserted. The database
fills in the key where the insertion leaves it out. -/
inductive Effect (m : Mapping) (key : Value) : Option Row → Call → Option Row → Prop where
  | draw {row : Option Row} (s : Statement) : Effect m key row ⟨.write, .queryForLong s⟩ row
  | insert {cells : Row} (keyed : m.key.column ∈ cells.map (·.1)) :
    Effect m key none ⟨.write, .update ⟨insertText m cells, cells.map (·.2)⟩⟩ (some cells)
  | generate {cells : Row} (unkeyed : m.key.column ∉ cells.map (·.1)) :
    Effect m key none
      ⟨.write, .updateReturningKey ⟨insertText m cells, cells.map (·.2)⟩ m.key.column⟩
      (some ((m.key.column, key) :: cells))
  | update {row cells : Row} :
    Effect m key (some row) ⟨.write, .update ⟨updateText m cells, cells.map (·.2) ++ [key]⟩⟩
      (some (cells.foldl (fun row (column, value) => row.put column value) row))

inductive Effects (m : Mapping) (key : Value) : Option Row → List Call → Option Row → Prop where
  | nil {row : Option Row} : Effects m key row [] row
  | cons {before between after : Option Row} {call : Call} {rest : List Call}
    (first : Effect m key before call between) (later : Effects m key between rest after) :
    Effects m key before (call :: rest) after

variable {m : Mapping} {key : Value}

theorem Effect.once {before after : Option Row} {call : Call} (h : Effect m key before call after) :
    Effects m key before [call] after :=
  .cons h .nil

theorem Effects.append {before between after : Option Row} {xs ys : List Call}
    (h : Effects m key before xs between) (later : Effects m key between ys after) :
    Effects m key before (xs ++ ys) after := by
  induction h with
  | nil => exact later
  | cons first _ ih => exact .cons first (ih later)

/-! ## Compiled statements -/

theorem statement_insert (cells : Row) :
    (insert m cells).statement = ⟨insertText m cells, cells.map (·.2)⟩ := by
  have read : (insert m cells).Reads False
      (fun mark => (Request.insert cells).text m .mysql mark) (cells.map (·.2)) :=
    reads_insert False.elim False.elim
  unfold Template.statement
  rw [Template.sql_eq_rendered, read.rendered, read.params]
  rfl

theorem statement_update {u : Update} {id : Id} {t : Template}
    (key : m.columnOf? m.key.property = some m.key.column)
    (ok : update m u (.equal m.key.property id.toValue) = .ok t) :
    t.statement = ⟨updateText m (settings m u.entries),
      (settings m u.entries).map (·.2) ++ [id.toValue]⟩ := by
  have read : t.Reads m.PlainNames (fun mark => Request.text m .mysql mark _) _ := reads_update ok
  have named : m.named m.key.property = m.key.column := by rw [Mapping.named, key, Option.getD_some]
  have condition : ∀ mark, conditionText m mark (some (.equal m.key.property id.toValue)) =
      "WHERE " ++ m.key.column ++ " " ++ "=" ++ " " ++ mark id.toValue ++ " " := by
    intro mark
    unfold conditionText Criteria.equal Criteria.single Criteria.nodes
    simp only [List.map_cons, List.map_nil, String.intercalate_singleton, Criterion.text,
      Operator.shape, Operator.symbol, named, String.append_assoc]
  unfold Template.statement
  rw [Template.sql_eq_rendered, read.rendered, read.params]
  unfold Request.text Request.values
  simp only [condition]
  have gap : " WHERE " = " " ++ "WHERE " := rfl
  have finish : " = ? " = " " ++ "=" ++ " " ++ "?" ++ " " := rfl
  simp only [updateText, gap, finish, String.append_assoc]
  rfl

end EntityStore.Relational
