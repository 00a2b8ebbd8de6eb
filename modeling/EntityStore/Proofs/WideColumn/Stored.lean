import EntityStore.Proofs.Stored
import EntityStore.Proofs.Template
import EntityStore.WideColumn.Store

/-!
# What a wide-column store keeps to itself

The insertions are the same for entities that differ in transient properties alone, and the columns
they write are those of stored properties.
-/

namespace EntityStore.WideColumn

variable {τ : EntityType} {m : Mapping}

/-! ## Statements -/

def insertText (m : Mapping) (cells : Row) : String :=
  "insert into " ++ qualifiedTable m ++ " (" ++ ",".intercalate (cells.map (·.1)) ++ ") values (" ++
    ",".intercalate (cells.map fun _ => "?") ++ ")"

inductive InsertsStored (m : Mapping) : Statement → Prop where
  | intro {cells : Row} (stored : ∀ cell ∈ cells, m.Stores cell.1) :
    InsertsStored m ⟨insertText m cells, cells.map (·.2)⟩

def Call.WritesStored (m : Mapping) : Call → Prop
  | .execute s => InsertsStored m s
  | .executeBatch statements => ∀ s ∈ statements, InsertsStored m s

def storedCells (m : Mapping) (e : Entity τ) : Row :=
  m.persisted.map fun p => (p.column, e.valueOf p.property)

theorem statement_insert (e : Entity τ) :
    (insert m e).statement = ⟨insertText m (storedCells m e), (storedCells m e).map (·.2)⟩ := by
  have values (values : List Value) :
      (Template.boundList values).sql = ",".intercalate (values.map fun _ => "?") := by
    rw [Template.sql_eq_rendered, Template.rendered_boundList]
  have text : (insert m e).sql = insertText m (storedCells m e) := by
    unfold insert insertText storedCells
    simp only [Template.sql_append, Template.sql_fixed, Template.sql_nil, values, List.map_map,
      String.append_assoc, Function.comp_def, String.append_empty]
  have params : (insert m e).params = (storedCells m e).map (·.2) := by
    unfold insert storedCells
    simp only [Template.params_append, Template.params_fixed, Template.params_nil,
      Template.params_boundList, List.map_map, List.nil_append, List.append_nil, Function.comp_def]
  unfold Template.statement
  rw [text, params]

theorem insert_congr {policy : Policy} (built : Mapping.Built τ.descriptor policy m)
    {e e' : Entity τ} (same : e.SameStored e') : insert m e = insert m e' := by
  unfold insert
  rw [same.map_valueOf built (fun _ v => v) m.persisted fun _ => id]

theorem insertsStored {policy : Policy} (built : Mapping.Built τ.descriptor policy m)
    (e : Entity τ) : InsertsStored m (insert m e).statement := by
  rw [statement_insert]
  refine .intro fun cell mem => ?_
  obtain ⟨p, hp, rfl⟩ := List.mem_map.mp mem
  exact built.stores_persisted hp

/-! ## Operations -/

namespace Store

variable {d : Store τ}

theorem built_of_create (created : create τ = .ok d) :
    Mapping.Built τ.descriptor .wideColumn d.mapping := by
  obtain ⟨m, built, rfl⟩ := map_eq_ok.mp created
  exact Mapping.built_of_build built

section

variable (built : Mapping.Built τ.descriptor .wideColumn d.mapping)
include built

theorem same_insert {e e' : Entity τ} (same : e.SameStored e') :
    Program.Same Insertion.SameStored (d.insert e) (d.insert e') := by
  unfold insert
  rw [insert_congr built same]
  refine (Program.same_self _).bind ?_
  rintro result _ rfl
  exact .done ⟨rfl, same⟩

theorem same_insertBatch {es es' : List (Entity τ)}
    (same : List.Forall₂ Entity.SameStored es es') :
    Program.Same BatchInsertion.SameStored (d.insertBatch es) (d.insertBatch es') := by
  have statements : (es.map fun e => (WideColumn.insert d.mapping e).statement) =
      es'.map fun e => (WideColumn.insert d.mapping e).statement := by
    induction same with
    | nil => rfl
    | cons first _ ih => rw [List.map_cons, List.map_cons, ih, insert_congr built first]
  unfold insertBatch
  rw [← checkEntities_congr same, ← statements, ← same.length_eq]
  cases checkEntities es with
  | error failure => exact .done ⟨rfl, same⟩
  | ok =>
    refine (Program.same_self _).bind ?_
    rintro result _ rfl
    exact .done ⟨rfl, same⟩

theorem asks_insert (e : Entity τ) : Program.Asks (Call.WritesStored d.mapping) (d.insert e) :=
  Program.asks_bind (Action.asks_bind trivial fun _ => Action.asks_call (insertsStored built e))
    fun _ => trivial

theorem asks_insertBatch (es : List (Entity τ)) :
    Program.Asks (Call.WritesStored d.mapping) (d.insertBatch es) := by
  unfold insertBatch
  split
  · trivial
  · refine Program.asks_bind (Action.asks_bind trivial fun _ => Action.asks_call ?_)
      fun _ => trivial
    intro s mem
    obtain ⟨e, -, rfl⟩ := List.mem_map.mp mem
    exact insertsStored built e

end

end Store

end EntityStore.WideColumn
