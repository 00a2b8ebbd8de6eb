import EntityStore.Proofs.Lookup
import EntityStore.Proofs.Row

/-!
# Rows in any order

The cells of a row may be visited in any order. Whether the row is mapped to an entity does not
depend on it, but where several cells are written to one property the last of them stands. Where the
columns differ in more than case there are no such cells, and the entity is always the same.
-/

namespace EntityStore

variable {τ : EntityType} {m : Mapping} {policy : Policy}

theorem EntityType.Converts.unique {property : String} {v w w' : Value}
    (h : τ.Converts property v w) (h' : τ.Converts property v w') : w = w' := by
  obtain ⟨f, hf, rfl, c, hc, rfl⟩ := h
  obtain ⟨g, hg, same, c', hc', rfl⟩ := h'
  obtain rfl := List.inj_on_of_nodup_map τ.distinct hg hf same
  cases hc.symm.trans hc'
  rfl

namespace Row

variable {row visited front back : Row} {e filled : Entity τ}

def Convertible (τ : EntityType) (m : Mapping) (row : Row) : Prop :=
  ∀ cell ∈ row, ∀ p, m.propertyOfColumn? cell.1 = some p → cell.2.isNull = false →
    ∃ w, τ.Converts p.property cell.2 w

theorem fill_append :
    fill m e (front ++ back) = fill m e front >>= fun written => fill m written back := by
  induction front generalizing e with
  | nil => rfl
  | cons cell rest ih =>
    obtain ⟨column, value⟩ := cell
    rw [List.cons_append, fill, fill]
    split
    · exact ih
    · split_ifs
      · exact ih
      · split
        · rfl
        · exact ih

/-! ## What is mapped -/

def Writable (τ : EntityType) (m : Mapping) (row : Row) : Prop :=
  ∀ cell ∈ row, ∀ p, m.propertyOfColumn? cell.1 = some p → cell.2.isNull = false →
    ∀ f ∈ τ.fields, f.property = p.property → ∃ c, Content.convert f.type cell.2 = .ok c

theorem exists_fill_iff_writable (e : Entity τ) :
    (∃ filled, fill m e row = .ok filled) ↔ Writable τ m row := by
  induction row generalizing e with
  | nil => exact iff_of_true ⟨e, rfl⟩ nofun
  | cons cell rest ih =>
    obtain ⟨column, value⟩ := cell
    unfold Writable at ih ⊢
    rw [List.forall_mem_cons]
    by_cases passed : ∀ p, m.propertyOfColumn? column = some p → value.isNull = true
    · rw [fill_passed passed, ih, iff_and_self]
      intro _ p hp present
      rw [passed p hp] at present
      cases present
    · simp only [not_forall, Bool.not_eq_true] at passed
      obtain ⟨p, hp, present⟩ := passed
      simp only [hp, present, Option.some.injEq, forall_eq', true_implies]
      rw [← Entity.exists_set_iff e]
      cases taken : e.set p.property value with
      | error failure =>
        rw [fill_refused hp present taken]
        exact iff_of_false nofun nofun
      | ok written =>
        rw [fill_written hp present taken, ih]
        exact (and_iff_right ⟨written, rfl⟩).symm

section

variable (built : Mapping.Built τ.descriptor policy m)
include built

theorem exists_fill_iff (e : Entity τ) :
    (∃ filled, fill m e row = .ok filled) ↔ Convertible τ m row := by
  rw [exists_fill_iff_writable]
  constructor
  · intro writable cell mem p hp present
    obtain ⟨f, hf, same⟩ := built.exists_field (List.mem_of_find?_eq_some hp)
    have own : f.property = p.property := congrArg PropertyMapping.property same
    obtain ⟨c, converted⟩ := writable cell mem p hp present f hf own
    exact ⟨c.value, f, hf, own, c, converted, rfl⟩
  · intro convertible cell mem p hp present f hf own
    obtain ⟨_, g, hg, same, c, converted, -⟩ := convertible cell mem p hp present
    obtain rfl := List.inj_on_of_nodup_map τ.distinct hg hf (same.trans own.symm)
    exact ⟨c, converted⟩

theorem exists_toEntity_of_perm (same : visited.Perm row)
    (mapped : ∃ e, toEntity τ m row = .ok e) : ∃ e, toEntity τ m visited = .ok e := by
  unfold toEntity at mapped ⊢
  rw [exists_fill_iff built] at mapped ⊢
  exact fun cell mem => mapped cell (same.subset mem)

theorem converts_of_last {column : String} {value : Value} {p : PropertyMapping}
    (hp : m.propertyOfColumn? column = some p) (present : value.isNull = false)
    (ok : fill m e (front ++ [(column, value)]) = .ok filled) :
    τ.Converts p.property value (filled.valueOf p.property) := by
  rw [fill_append] at ok
  obtain ⟨before, -, ok⟩ := bind_eq_ok.mp ok
  obtain ⟨f, hf, rfl⟩ := built.exists_field (List.mem_of_find?_eq_some hp)
  rw [fill, hp] at ok
  simp only [present, Bool.false_eq_true, if_false] at ok
  split at ok
  · cases ok
  · rename_i written taken
    cases ok
    exact Entity.converts_of_set hf taken

/-- A property has a value such as is asked for in every order exactly where each cell that is
written to it comes to such a value. -/
theorem forall_visited_iff (mapped : ∃ e, toEntity τ m row = .ok e) {p : PropertyMapping}
    (given : Gives m row p.property) (hp : p ∈ m.properties) (wanted : Value → Prop) :
    (∀ visited e, visited.Perm row → toEntity τ m visited = .ok e → wanted (e.valueOf p.property)) ↔
      ∀ cell ∈ row, m.propertyOfColumn? cell.1 = some p → cell.2.isNull = false →
        ∃ w, τ.Converts p.property cell.2 w ∧ wanted w := by
  constructor
  · rintro always ⟨column, value⟩ mem found present
    obtain ⟨front, back, rfl⟩ := List.append_of_mem mem
    have same : (front ++ back ++ [(column, value)]).Perm (front ++ (column, value) :: back) :=
      (List.perm_append_singleton _ _).trans List.perm_middle.symm
    obtain ⟨e, ok⟩ := exists_toEntity_of_perm built same mapped
    exact ⟨_, converts_of_last built found present ok, always _ e same ok⟩
  · intro each visited e same ok
    rcases converts_of_fill built ok p.property with
      ⟨cell, mem, q, hq, found, own, present, converts⟩ | ⟨none, -⟩
    · obtain rfl := built.eq_of_property hq hp own
      obtain ⟨w, converts', asked⟩ := each cell (same.subset mem) found present
      rwa [converts.unique converts']
    · obtain ⟨cell, mem, gives⟩ := given
      exact absurd ⟨cell, same.symm.subset mem, gives⟩ none

end

/-! ## Cells in another order -/

def tells (m : Mapping) (cell : String × Value) : Bool :=
  (m.propertyOfColumn? cell.1).isSome && !cell.2.isNull

theorem tells_eq_false {cell : String × Value} : tells m cell = false ↔
    ∀ p, m.propertyOfColumn? cell.1 = some p → cell.2.isNull = true := by
  unfold tells
  cases m.propertyOfColumn? cell.1 <;> simp

theorem fill_filter (e : Entity τ) (row : Row) :
    fill m e (row.filter (tells m)) = fill m e row := by
  induction row generalizing e with
  | nil => rfl
  | cons cell rest ih =>
    obtain ⟨column, value⟩ := cell
    cases told : tells m (column, value) with
    | false =>
      rw [List.filter_cons_of_neg (by simp [told]), fill_passed (tells_eq_false.mp told), ih]
    | true =>
      rw [List.filter_cons_of_pos told, fill, fill]
      simp only [ih]

theorem fill_cons (cell : String × Value) :
    fill m e (cell :: row) = fill m e [cell] >>= fun written => fill m written row := by
  rw [← fill_append, List.singleton_append]

theorem fill_single {column : String} {value : Value} {p : PropertyMapping}
    (hp : m.propertyOfColumn? column = some p) (present : value.isNull = false) :
    fill m e [(column, value)] = .ok filled ↔ e.set p.property value = .ok filled := by
  cases taken : e.set p.property value with
  | error failure =>
    rw [fill_refused hp present taken]
    exact iff_of_false nofun nofun
  | ok written =>
    rw [fill_written hp present taken]
    simp [fill]

theorem fill_exchange {a b : String × Value} {written both : Entity τ}
    (apart : ∀ p q, m.propertyOfColumn? a.1 = some p → m.propertyOfColumn? b.1 = some q →
      p.property ≠ q.property)
    (first : fill m e [a] = .ok written) (second : fill m written [b] = .ok both) :
    ∃ other, fill m e [b] = .ok other ∧ fill m other [a] = .ok both := by
  obtain ⟨column, value⟩ := a
  obtain ⟨column', value'⟩ := b
  by_cases passed : ∀ p, m.propertyOfColumn? column = some p → value.isNull = true
  · rw [fill_passed passed] at first
    cases first
    exact ⟨both, second, fill_passed passed⟩
  by_cases passed' : ∀ p, m.propertyOfColumn? column' = some p → value'.isNull = true
  · rw [fill_passed passed'] at second
    cases second
    exact ⟨e, fill_passed passed', first⟩
  -- Both cells are written.
  simp only [not_forall, Bool.not_eq_true] at passed passed'
  obtain ⟨p, hp, present⟩ := passed
  obtain ⟨q, hq, present'⟩ := passed'
  rw [fill_single hp present] at first
  rw [fill_single hq present'] at second
  obtain ⟨other, front, back⟩ := Entity.set_exchange (apart p q hp hq).symm first second
  refine ⟨other, ?_, ?_⟩
  · rwa [fill_single hq present']
  · rwa [fill_single hp present]

/-- The columns of the row differ in more than the case of their letters. -/
def Apart (row : Row) : Prop := (row.map fun cell => Text.lower cell.1).Nodup

theorem fill_of_perm {σ : EntityType} (built : Mapping.Built σ.descriptor policy m)
    (same : visited.Perm row) (apart : Apart visited) (ok : fill m e visited = .ok filled) :
    fill m e row = .ok filled := by
  induction same generalizing e with
  | nil => exact ok
  | cons cell _ ih =>
    rw [fill_cons] at ok ⊢
    obtain ⟨written, first, ok⟩ := bind_eq_ok.mp ok
    exact bind_eq_ok.mpr ⟨written, first, ih (List.nodup_cons.mp apart).2 ok⟩
  | swap a b rest =>
    have front : fill m e ([b] ++ [a] ++ rest) = .ok filled := ok
    show fill m e ([a] ++ [b] ++ rest) = .ok filled
    rw [fill_append, fill_append] at front ⊢
    obtain ⟨both, front, ok⟩ := bind_eq_ok.mp front
    obtain ⟨written, first, second⟩ := bind_eq_ok.mp front
    -- Columns that differ lead to properties that differ.
    have other : ∀ p q, m.propertyOfColumn? b.1 = some p → m.propertyOfColumn? a.1 = some q →
        p.property ≠ q.property := by
      intro p q hp hq own
      have mem := List.mem_of_find?_eq_some hp
      obtain rfl := built.eq_of_property mem (List.mem_of_find?_eq_some hq) own
      have lower := (built.propertyOfColumn?_eq_some mem _).mp hp
      rw [← (built.propertyOfColumn?_eq_some mem _).mp hq] at lower
      exact (List.nodup_cons.mp apart).1 (List.mem_cons.mpr (.inl lower))
    obtain ⟨written', first', second'⟩ := fill_exchange other first second
    exact bind_eq_ok.mpr ⟨both, bind_eq_ok.mpr ⟨written', first', second'⟩, ok⟩
  | trans between _ ih ih' =>
    exact ih' ((between.map _).nodup_iff.mp apart) (ih apart ok)

/-- By a mapping of its own type or of another, a row is mapped alike in every order of its cells,
where its columns differ in more than case. It is mapped exactly where every value that is written
to a field converts to its type, and a cell that is under no property or null might as well not be
there. -/
theorem toEntity_unordered {σ : EntityType} (build : Mapping.build σ.descriptor policy = .ok m)
    (apart : Apart row) (same : visited.Perm row) :
    (toEntity τ m visited).toOption = (toEntity τ m row).toOption ∧
      ((∃ e, toEntity τ m row = .ok e) ↔ Writable τ m row) ∧
      toEntity τ m row = toEntity τ m (row.filter (tells m)) := by
  have built := Mapping.built_of_build build
  have apart' : Apart visited := (same.map _).nodup_iff.mpr apart
  refine ⟨?_, exists_fill_iff_writable _, (fill_filter _ row).symm⟩
  unfold toEntity
  cases mapped : fill m (Entity.blank τ) visited with
  | ok e => rw [fill_of_perm built same apart' mapped]
  | error skipped =>
    cases other : fill m (Entity.blank τ) row with
    | ok e => cases mapped.symm.trans (fill_of_perm built same.symm apart other)
    | error skipped' => rfl

def accountRow : Row :=
  [("ID", .int32 7), ("colour", .text "red"), ("mark", .null), ("Owner_Name", .text "ann")]

theorem accountRow_unordered :
    Mapping.build accounts.descriptor .relational = .ok accountMapping ∧ Apart accountRow ∧
    accountRow.reverse.Perm accountRow ∧
    (toEntity accounts accountMapping accountRow.reverse).toOption.map Entity.values =
      some [("id", .int64 7), ("ownerName", .text "ann"), ("mark", .boolean false)] ∧
    Writable accounts accountMapping accountRow ∧
    toEntity accounts accountMapping accountRow =
      toEntity accounts accountMapping [("ID", .int32 7), ("Owner_Name", .text "ann")] := by
  have apart : Apart accountRow := by
    unfold Apart
    decide +kernel
  have perm : accountRow.reverse.Perm accountRow := List.reverse_perm accountRow
  obtain ⟨same, mapped, told⟩ :
      (toEntity accounts accountMapping accountRow.reverse).toOption =
        (toEntity accounts accountMapping accountRow).toOption ∧ _ :=
    toEntity_unordered build_accounts apart perm
  have values : (toEntity accounts accountMapping accountRow).toOption.map Entity.values =
      some [("id", .int64 7), ("ownerName", .text "ann"), ("mark", .boolean false)] := by rfl
  refine ⟨build_accounts, apart, perm, by rw [same, values], mapped.mp ?_, told⟩
  cases filled : toEntity accounts accountMapping accountRow with
  | ok e => exact ⟨e, rfl⟩
  | error skipped =>
    rw [filled] at values
    cases values

end Row

end EntityStore
