import EntityStore.Proofs.Relational.Effect
import EntityStore.Proofs.Stored
import EntityStore.Relational.Store

/-!
# What a relational store keeps to itself

The commands of an insertion or an update are the same for entities that differ in transient
properties alone. The columns that a command writes are columns of stored properties.
-/

namespace EntityStore.Relational

variable {τ : EntityType} {m : Mapping}

/-! ## Commands -/

def setText (m : Mapping) (cells : Row) (c : Criteria) : String :=
  "UPDATE " ++ m.tableName ++ " SET " ++
    ",".intercalate (cells.map fun (column, _) => column ++ "=" ++ "?") ++ " " ++
    conditionText m (fun _ => "?") (some c)

/-- A command that draws a number of the sequence, or writes cells in stored columns. -/
inductive Command.WritesStored (m : Mapping) : Command → Prop where
  | draw {sql : String} (sequence : nextSequence m = .ok sql) :
    WritesStored m (.queryForLong ⟨sql, []⟩)
  | insert {cells : Row} (stored : ∀ cell ∈ cells, m.Stores cell.1) :
    WritesStored m (.update ⟨insertText m cells, cells.map (·.2)⟩)
  | generate {cells : Row} (stored : ∀ cell ∈ cells, m.Stores cell.1) :
    WritesStored m (.updateReturningKey ⟨insertText m cells, cells.map (·.2)⟩ m.key.column)
  | update {cells : Row} (c : Criteria) (stored : ∀ cell ∈ cells, m.Stores cell.1) :
    WritesStored m (.update ⟨setText m cells c, cells.map (·.2) ++ conditionValues (some c)⟩)

def Call.WritesStored (m : Mapping) (c : Call) : Prop := c.command.WritesStored m

/-! ## Assignments -/

theorem assignments_congr {xs ys : List (String × Value)}
    (same : List.Forall₂ (SameEntry m) xs ys) : assignments m xs = assignments m ys := by
  induction same with
  | nil => rfl
  | @cons x y _ _ first _ ih =>
    obtain ⟨property, x⟩ := x
    obtain ⟨_, y⟩ := y
    obtain ⟨rfl, value⟩ := first
    rw [assignments, assignments, ih]
    cases hidden : m.isTransient property with
    | true => rfl
    | false =>
      have same : x = y := value hidden
      rw [same]

theorem update_congr {u v : Update} (same : u.SameStored m v) (c : Criteria) :
    update m u c = update m v c := by
  unfold update
  rw [assignments_congr same]

theorem stores_of_assignments (built : Mapping.Built τ.descriptor .relational m)
    {entries sets : List (String × Value)} (ok : assignments m entries = .ok sets) :
    ∀ cell ∈ sets, m.Stores cell.1 := by
  induction entries generalizing sets with
  | nil =>
    cases ok
    exact fun _ mem => absurd mem List.not_mem_nil
  | cons entry rest ih =>
    obtain ⟨property, value⟩ := entry
    rw [assignments] at ok
    obtain ⟨column, hcolumn, ok⟩ := bind_eq_ok.mp ok
    obtain ⟨later, hlater, ok⟩ := bind_eq_ok.mp ok
    cases ok
    split_ifs with hidden
    · exact ih hlater
    · obtain ⟨p, hp, rfl, rfl⟩ := Mapping.mem_of_columnOf? (Mapping.column_eq_ok.mp hcolumn)
      rw [built.isTransient hp] at hidden
      exact List.forall_mem_cons.mpr ⟨built.stores_column hp (by simpa using hidden), ih hlater⟩

theorem writesStored_update (built : Mapping.Built τ.descriptor .relational m) {u : Update}
    {c : Criteria} {t : Template} (ok : update m u c = .ok t) :
    Command.WritesStored m (.update t.statement) := by
  have read : t.Reads m.PlainNames (fun mark => Request.text m .mysql mark _) _ := reads_update ok
  obtain ⟨sets, hsets, -⟩ := bind_eq_ok.mp ok
  have statement : t.statement =
      ⟨setText m sets c, sets.map (·.2) ++ conditionValues (some c)⟩ := by
    unfold Template.statement
    rw [Template.sql_eq_rendered, read.rendered, read.params, settings_of_assignments hsets]
    rfl
  rw [statement]
  exact .update c (stores_of_assignments built hsets)

/-! ## Operations -/

namespace Store

variable {d : Store τ}

theorem asks_send {allowed : Call → Prop} {route : Route} {command : Command} {s : Statement}
    (here : allowed ⟨route, command⟩) : (d.send route command s).Asks allowed :=
  Action.asks_bind trivial fun _ => Action.asks_call here

section

variable (built : Mapping.Built τ.descriptor .relational d.mapping) {e e' : Entity τ}
include built

theorem insertValues_congr (same : e.SameStored e') (key : Option Value) :
    d.insertValues key e = d.insertValues key e' := by
  unfold insertValues
  rw [same.map_valueOf built (fun p v => (p.column, v)) d.mapping.persistedRest
    fun p => List.mem_of_mem_filter]

theorem stores_insertValues (key : Option Value) (e : Entity τ) :
    ∀ cell ∈ d.insertValues key e, d.mapping.Stores cell.1 := by
  intro cell mem
  rcases List.mem_append.mp mem with front | rest
  · obtain ⟨v, -, rfl⟩ := Option.map_eq_some_iff.mp (Option.mem_toList.mp front)
    exact built.stores_persisted built.key_mem
  · obtain ⟨p, hp, rfl⟩ := List.mem_map.mp rest
    exact built.stores_persisted (List.mem_of_mem_filter hp)

/-! ### Keys -/

/-- The same key is to be inserted, in entities that are the same but for transient values. -/
def SameKeyed {α : Type} (x y : α × Entity τ) : Prop := x.1 = y.1 ∧ x.2.SameStored y.2

theorem same_drawKey (same : e.SameStored e') :
    Action.Same SameKeyed (d.drawKey e) (d.drawKey e') := by
  refine (Action.same_self _).bind ?_
  rintro sql _ rfl
  refine (Action.same_self _).bind ?_
  rintro next _ rfl
  have keyed := same.set_property built (Mapping.mem_properties built.key_mem)
    (d.keyValue (.int64 next))
  exact (Action.same_lift keyed).bind fun a b related => Action.same_pure ⟨rfl, related⟩

theorem same_chooseKey (same : e.SameStored e') :
    Action.Same SameKeyed (d.chooseKey e) (d.chooseKey e') := by
  unfold chooseKey
  rw [← same.hasKey built, ← same.valueOf built built.key_mem]
  split_ifs
  · exact Action.same_pure ⟨rfl, same⟩
  cases d.dialect with
  | mysql => exact Action.same_pure ⟨rfl, same⟩
  | oracle =>
    refine (same_drawKey built same).bind ?_
    rintro ⟨key, keyed⟩ ⟨_, keyed'⟩ ⟨rfl, related⟩
    exact Action.same_pure ⟨rfl, related⟩

/-! ### Insertions -/

theorem same_insertGenerating (same : e.SameStored e') :
    Program.Same Insertion.SameStored (d.insertGenerating e) (d.insertGenerating e') := by
  unfold insertGenerating
  rw [insertValues_congr built same none]
  refine (Program.same_self _).bind ?_
  rintro (failure | ⟨affected, _ | key⟩) _ rfl
  · exact .done ⟨rfl, same⟩
  · exact .done ⟨rfl, same⟩
  · have keyed := same.set_property built (Mapping.mem_properties built.key_mem) (d.keyValue key)
    dsimp only
    generalize e.set d.mapping.key.property (d.keyValue key) = x at keyed ⊢
    generalize e'.set d.mapping.key.property (d.keyValue key) = y at keyed ⊢
    cases keyed with
    | error failure => exact .done ⟨rfl, same⟩
    | ok related => exact .done ⟨rfl, related⟩

theorem same_insert (same : e.SameStored e') :
    Program.Same Insertion.SameStored (d.insert e) (d.insert e') := by
  refine Program.Same.bind (same_chooseKey built same) ?_
  intro r t chosen
  cases chosen with
  | error failure => exact .done ⟨rfl, same⟩
  | @ok x y related =>
    obtain ⟨key, keyed⟩ := x
    obtain ⟨_, keyed'⟩ := y
    obtain ⟨rfl, related⟩ := related
    cases key with
    | none => exact same_insertGenerating built related
    | some key =>
      dsimp only
      rw [insertValues_congr built related]
      refine (Program.same_self _).bind ?_
      rintro result _ rfl
      exact .done ⟨rfl, related⟩

theorem same_insertBatch {es es' : List (Entity τ)}
    (same : List.Forall₂ Entity.SameStored es es') :
    Program.Same BatchInsertion.SameStored (d.insertBatch es) (d.insertBatch es') :=
  Repository.same_insertAll (fun _ _ => same_insert built) same

/-! ### Updates -/

omit built in
theorem updateById_congr {u v : Update} (same : u.SameStored d.mapping v) (id : Id) :
    d.updateById id u = d.updateById id v := by
  unfold updateById updateByCriteria
  rw [same.check, update_congr same]

theorem same_updateProperties (same : e.SameStored e') (properties : List String) :
    Action.Same (· = ·) (d.updateProperties e properties) (d.updateProperties e' properties) := by
  refine Repository.same_changeProperties built (fun id u v sets => ?_) same properties
  rw [updateById_congr sets]
  exact Action.same_self _

/-! ### Columns -/

omit built in
theorem asks_chooseKey (e : Entity τ) :
    (d.chooseKey e).Asks (Call.WritesStored d.mapping) := by
  unfold chooseKey
  split_ifs
  · trivial
  cases d.dialect with
  | mysql => trivial
  | oracle =>
    refine Action.asks_bind ?_ fun _ => trivial
    refine Action.asks_check fun sql sequence => Action.asks_bind ?_ fun next => ?_
    · exact asks_send (.draw sequence)
    · exact Action.asks_bind trivial fun _ => trivial

theorem asks_insert (e : Entity τ) : Program.Asks (Call.WritesStored d.mapping) (d.insert e) := by
  refine Program.asks_bind (asks_chooseKey e) fun r => ?_
  rcases r with failure | ⟨_ | key, keyed⟩
  · trivial
  · refine Program.asks_bind (asks_send ?_) fun r => ?_
    · rw [statement_insert]
      exact Command.WritesStored.generate (stores_insertValues built none keyed)
    · rcases r with failure | ⟨affected, _ | key⟩
      · trivial
      · trivial
      · dsimp only
        split <;> trivial
  · refine Program.asks_bind (asks_send ?_) fun r => trivial
    rw [statement_insert]
    exact Command.WritesStored.insert (stores_insertValues built (some key) keyed)

theorem asks_insertBatch (es : List (Entity τ)) :
    Program.Asks (Call.WritesStored d.mapping) (d.insertBatch es) :=
  Repository.asks_insertAll (asks_insert built) es

theorem asks_updateByCriteria (u : Update) (c : Criteria) :
    (d.updateByCriteria u c).Asks (Call.WritesStored d.mapping) :=
  Action.asks_check fun _ _ => Action.asks_check fun _ _ => Action.asks_check fun _ compiled =>
    asks_send (writesStored_update built compiled)

theorem asks_updateById (id : Id) (u : Update) :
    (d.updateById id u).Asks (Call.WritesStored d.mapping) :=
  Action.asks_check fun _ _ => Action.asks_check fun _ _ => asks_updateByCriteria built u _

theorem asks_updateByIds (ids : List Id) (u : Update) :
    (d.updateByIds ids u).Asks (Call.WritesStored d.mapping) :=
  Action.asks_check fun _ _ => Action.asks_check fun _ _ => asks_updateByCriteria built u _

theorem asks_updateProperties (e : Entity τ) (properties : List String) :
    (d.updateProperties e properties).Asks (Call.WritesStored d.mapping) :=
  Action.asks_check fun id _ => Action.asks_check fun u _ => asks_updateById built id u

end

end Store

end EntityStore.Relational
