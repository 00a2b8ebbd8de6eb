import EntityStore.Proofs.Lookup
import EntityStore.Proofs.Template
import EntityStore.Relational.Clause

/-!
# What a condition says

The text of a condition is given a second time, without a template and with the way a value is
written left open. A compiled condition reads as that text and binds the values of its own nodes in
the order of the chain.
-/

namespace EntityStore

/-! ## One condition -/

namespace Criterion

def operands (node : Criterion) : List Value :=
  match node.operator.shape, node.value with
  | .noValue, _ => []
  | .single, v => [v]
  | .multi, .list items => items
  | .multi, _ => []

/-- The condition on a column, its values as `mark` writes them. -/
def text (mark : Value → String) (column : String) (node : Criterion) : String :=
  column ++ " " ++ node.operator.symbol ++
    match node.operator.shape with
    | .noValue => ""
    | .single => " " ++ mark node.value
    | .multi => " (" ++ ",".intercalate (node.operands.map mark) ++ ")"

theorem operands_of_singleValue {node : Criterion} {v : Value} (hs : node.operator.shape = .single)
    (ok : node.singleValue = .ok v) : node.operands = [v] ∧ node.value = v := by
  unfold singleValue at ok
  split_ifs at ok
  cases ok
  simp [operands, hs]

theorem operands_of_listValues {node : Criterion} {items : List Value}
    (hs : node.operator.shape = .multi) (ok : node.listValues = .ok items) :
    node.operands = items := by
  unfold listValues at ok
  split at ok
  · cases ok
  · rename_i hv
    cases ok
    simp [operands, hs, hv]
  · cases ok

end Criterion

namespace Mapping

def named (m : Mapping) (property : String) : String := (m.columnOf? property).getD ""

/-- Neither the table nor a column is mistaken for a place of a value. -/
structure PlainNames (m : Mapping) : Prop where
  table : Text.Plain m.tableName
  columns : ∀ p ∈ m.properties, Text.Plain p.column

theorem named_of_column {m : Mapping} {parameter : Parameter} {property column : String}
    (ok : m.column parameter property = .ok column) : column = m.named property := by
  rw [named, column_eq_ok.mp ok, Option.getD_some]

theorem named_of_mem {m : Mapping} (distinct : (m.properties.map (·.property)).Nodup)
    {p : PropertyMapping} (hp : p ∈ m.properties) : m.named p.property = p.column := by
  rw [named, columnOf?_of_mem distinct hp, Option.getD_some]

theorem PlainNames.column {m : Mapping} (plain : m.PlainNames) {parameter : Parameter}
    {property column : String} (ok : m.column parameter property = .ok column) :
    Text.Plain column := by
  obtain ⟨p, hp, -, rfl⟩ := mem_of_columnOf? (column_eq_ok.mp ok)
  exact plain.columns p hp

end Mapping

namespace Relational

variable {m : Mapping}

/-! ## Chains -/

theorem plain_symbol (op : Operator) : Text.Plain op.symbol := by
  cases op <;> decide

def conditionText (m : Mapping) (mark : Value → String) : Option Criteria → String
  | none => ""
  | some c =>
    "WHERE " ++ " AND ".intercalate (c.nodes.map fun node => node.text mark (m.named node.key)) ++
      " "

def conditionValues : Option Criteria → List Value
  | none => []
  | some c => c.nodes.flatMap Criterion.operands

theorem reads_predicate {node : Criterion} {t : Template} (ok : predicate m node = .ok t) :
    t.Reads m.PlainNames (fun mark => node.text mark (m.named node.key)) node.operands := by
  unfold predicate at ok
  obtain ⟨column, hcolumn, ok⟩ := bind_eq_ok.mp ok
  have plain : m.PlainNames → Text.Plain (column ++ " " ++ node.operator.symbol) := by
    intro names
    simp only [Text.plain_append]
    exact ⟨⟨names.column hcolumn, by decide⟩, plain_symbol _⟩
  rw [← Mapping.named_of_column hcolumn]
  -- A condition has a place for each value that its operator takes.
  cases hs : node.operator.shape with
  | noValue =>
    simp only [hs] at ok
    cases ok
    exact (Template.reads_fixed plain).congr (by simp [Criterion.text, hs])
      (by simp [Criterion.operands, hs])
  | single =>
    simp only [hs] at ok
    split_ifs at ok
    obtain ⟨v, hv, ok⟩ := bind_eq_ok.mp ok
    cases ok
    obtain ⟨operands, value⟩ := Criterion.operands_of_singleValue hs hv
    have start : m.PlainNames → Text.Plain (column ++ " " ++ node.operator.symbol ++ " ") :=
      fun names => (Text.plain_append _ _).mpr ⟨plain names, by decide⟩
    refine ((Template.reads_fixed start).append (Template.reads_bound v)).congr ?_ ?_
    · simp [Criterion.text, hs, value, String.append_assoc]
    · simp [operands]
  | multi =>
    simp only [hs] at ok
    obtain ⟨items, hitems, ok⟩ := bind_eq_ok.mp ok
    cases ok
    have operands := Criterion.operands_of_listValues hs hitems
    have start : m.PlainNames → Text.Plain (column ++ " " ++ node.operator.symbol ++ " (") :=
      fun names => (Text.plain_append _ _).mpr ⟨plain names, by decide⟩
    have finish : m.PlainNames → Text.Plain ")" := fun _ => by decide
    refine (((Template.reads_fixed start).append (Template.reads_boundList items)).append
      (Template.reads_fixed finish)).congr ?_ ?_
    · simp [Criterion.text, hs, operands, String.append_assoc]
    · simp [operands]

theorem forall₂_of_predicates {nodes : List Criterion} {ps : List Template}
    (ok : predicates m nodes = (ps, none)) :
    List.Forall₂ (fun p node => predicate m node = .ok p) ps nodes := by
  induction nodes generalizing ps with
  | nil => cases ok; exact .nil
  | cons node rest ih =>
    rw [predicates] at ok
    split at ok
    · cases ok
    · rename_i p hp
      obtain ⟨rfl, none⟩ := Prod.mk.inj ok
      exact .cons hp (ih (Prod.ext rfl none))

theorem reads_whereClause {criteria : Option Criteria} {t : Template}
    (ok : whereClause m criteria = .ok t) :
    t.Reads m.PlainNames (fun mark => conditionText m mark criteria) (conditionValues criteria) := by
  cases criteria with
  | none => cases ok; exact Template.reads_nil
  | some c =>
    rw [whereClause] at ok
    split at ok
    · cases ok
    · rename_i ps hps
      cases ok
      have parts := (forall₂_of_predicates hps).imp fun p node hp => reads_predicate hp
      have start : m.PlainNames → Text.Plain "WHERE " := fun _ => by decide
      have finish : m.PlainNames → Text.Plain " " := fun _ => by decide
      refine (((Template.reads_fixed start).append
        (Template.reads_separated (by decide) parts)).append
        (Template.reads_fixed finish)).congr (fun mark => rfl) ?_
      simp [conditionValues]

end Relational

end EntityStore
