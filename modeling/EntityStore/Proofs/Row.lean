import EntityStore.Mapping.Row
import EntityStore.Proofs.Entity
import EntityStore.Proofs.Mapping

/-!
# Rows that stand for entities

A row that holds the values of some properties, in whatever order and spelling of its columns, is
mapped to an entity that has these values, and is blank where the row has no column.
-/

namespace EntityStore

variable {τ : EntityType} {m : Mapping} {policy : Policy}

/-! ## Mappings of entity types -/

namespace Mapping

theorem Built.exists_field (built : Built τ.descriptor policy m) {p : PropertyMapping}
    (hp : p ∈ m.properties) : ∃ f ∈ τ.fields, f.spec.mapping policy = p := by
  rw [built.properties, EntityType.descriptor, List.map_map] at hp
  exact List.mem_map.mp hp

theorem Built.exists_key (built : Built τ.descriptor policy m) :
    ∃ key, τ.fields.filter (·.primaryKey) = [key] ∧ m.key = key.spec.mapping policy := by
  obtain ⟨f, isKey, hkey⟩ := built.key
  have only := isKey.only
  rw [EntityType.descriptor, List.filter_map] at only
  obtain ⟨key, single, rfl⟩ := List.map_eq_singleton_iff.mp only
  exact ⟨key, single, hkey⟩

theorem Built.distinct (built : Built τ.descriptor policy m) :
    (m.properties.map (·.property)).Nodup := by
  rw [built.properties, EntityType.descriptor, List.map_map, List.map_map]
  exact τ.distinct

theorem Built.property? (built : Built τ.descriptor policy m) {p : PropertyMapping}
    (hp : p ∈ m.properties) : m.property? p.property = some p :=
  property?_of_mem built.distinct hp

theorem Built.columnOf? (built : Built τ.descriptor policy m) {p : PropertyMapping}
    (hp : p ∈ m.properties) : m.columnOf? p.property = some p.column :=
  columnOf?_of_property? (built.property? hp)

theorem Built.eq_of_property (built : Built τ.descriptor policy m) {p q : PropertyMapping}
    (hp : p ∈ m.properties) (hq : q ∈ m.properties) (same : p.property = q.property) : p = q :=
  List.inj_on_of_nodup_map built.distinct hp hq same

theorem Built.get?_eq_valueOf (built : Built τ.descriptor policy m) {p : PropertyMapping}
    (hp : p ∈ m.properties) (e : Entity τ) :
    e.get? p.property = some (e.valueOf p.property) := by
  obtain ⟨f, hf, rfl⟩ := built.exists_field hp
  exact Entity.get?_eq_valueOf hf e

theorem valueOf_of_keyOf? {e : Entity τ} {id : Id}
    (h : m.keyOf? e = some id) : e.valueOf m.key.property = id.toValue := by
  obtain ⟨v, hv, hid⟩ := Option.bind_eq_some_iff.mp h
  rw [Entity.valueOf, hv, Option.getD_some]
  cases v <;> cases hid <;> rfl

theorem keyOf?_of_entityId {e : Entity τ} {id : Id}
    (ok : m.entityId e = .ok id) : m.keyOf? e = some id := by
  unfold entityId at ok
  split at ok
  · cases ok
  · rename_i found
    obtain ⟨_, -, ok⟩ := bind_eq_ok.mp ok
    cases ok
    exact found

end Mapping

/-! ## What a cell stores -/

/-- A cell with `v` brings the property to `w`; null stands for itself. -/
def EntityType.Stores (τ : EntityType) (property : String) (v w : Value) : Prop :=
  if v.isNull then w = .null else τ.Converts property v w

theorem EntityType.stores_of_converts {property : String} {v w : Value}
    (h : τ.Converts property v w) : τ.Stores property v w := by
  unfold Stores
  split_ifs with null
  · obtain ⟨f, -, -, c, hc, rfl⟩ := h
    obtain rfl := Value.eq_null null
    unfold Content.convert at hc
    split_ifs at hc
    · cases hc
      rfl
    · obtain ⟨_, hheld, -⟩ := map_eq_ok.mp hc
      rw [Scalar.convert_null] at hheld
      cases hheld
  · exact h

theorem Mapping.Built.convert_of_converts (built : Mapping.Built τ.descriptor policy m)
    {p : PropertyMapping} (hp : p ∈ m.properties) {v w : Value}
    (converts : τ.Converts p.property v w) : ∃ t : FieldType, t.scalar.kind = p.kind ∧
      ∃ c : Content t, Content.convert t v = .ok c ∧ c.value = w := by
  obtain ⟨f, hf, rfl⟩ := built.exists_field hp
  obtain ⟨g, hg, same, given⟩ := converts
  obtain rfl := List.inj_on_of_nodup_map τ.distinct hg hf same
  exact ⟨g.type, rfl, given⟩

theorem Mapping.Built.stores_valueOf (built : Mapping.Built τ.descriptor policy m)
    {p : PropertyMapping} (hp : p ∈ m.properties) (e : Entity τ) :
    τ.Stores p.property (e.valueOf p.property) (e.valueOf p.property) := by
  obtain ⟨f, hf, rfl⟩ := built.exists_field hp
  unfold EntityType.Stores
  split_ifs with null
  · exact Value.eq_null null
  · exact Entity.converts_valueOf hf e

namespace Row

def folded (row : Row) : Row := row.map fun (column, value) => (Text.lower column, value)

def Gives (m : Mapping) (row : Row) (property : String) : Prop :=
  ∃ cell ∈ row, ∃ p, m.propertyOfColumn? cell.1 = some p ∧ p.property = property ∧
    cell.2.isNull = false

theorem gives_cons {cell : String × Value} {row : Row} {property : String} :
    Gives m (cell :: row) property ↔
      (∃ p, m.propertyOfColumn? cell.1 = some p ∧ p.property = property ∧
        cell.2.isNull = false) ∨ Gives m row property := by
  unfold Gives
  simp only [List.mem_cons, or_and_right, exists_or, exists_eq_left]

structure Filled (m : Mapping) (want : String → Value) (e : Entity τ) (row : Row)
    (filled : Entity τ) : Prop where
  given : ∀ q, Gives m row q → filled.get? q = some (want q)
  other : ∀ q, ¬ Gives m row q → filled.get? q = e.get? q

section

variable {want : String → Value} {column : String} {value : Value} {rest : Row}
  {p : PropertyMapping} {e written filled : Entity τ}

theorem fill_passed (passed : ∀ p, m.propertyOfColumn? column = some p → value.isNull = true) :
    fill m e ((column, value) :: rest) = fill m e rest := by
  rw [fill]
  split
  · rfl
  · rename_i p hp
    rw [if_pos (passed p hp)]

theorem Filled.pass (passed : ∀ p, m.propertyOfColumn? column = some p → value.isNull = true)
    (h : Filled m want e rest filled) : Filled m want e ((column, value) :: rest) filled := by
  have only : ∀ q, Gives m ((column, value) :: rest) q ↔ Gives m rest q := by
    intro q
    rw [gives_cons, or_iff_right]
    rintro ⟨p, hp, -, present⟩
    rw [passed p hp] at present
    cases present
  exact ⟨fun q given => h.given q ((only q).mp given),
    fun q none => h.other q fun given => none ((only q).mpr given)⟩

theorem fill_written (hp : m.propertyOfColumn? column = some p) (present : value.isNull = false)
    (ok : e.set p.property value = .ok written) :
    fill m e ((column, value) :: rest) = fill m written rest := by
  rw [fill, hp]
  simp [present, ok]

theorem fill_refused (hp : m.propertyOfColumn? column = some p) (present : value.isNull = false)
    {reason : StoreError} (refused : e.set p.property value = .error reason) :
    fill m e ((column, value) :: rest) = .error ⟨column, reason⟩ := by
  rw [fill, hp]
  simp [present, refused]

theorem Filled.put (hp : m.propertyOfColumn? column = some p)
    (present : value.isNull = false) (ok : e.set p.property value = .ok written)
    (wanted : written.get? p.property = some (want p.property))
    (h : Filled m want written rest filled) :
    Filled m want e ((column, value) :: rest) filled := by
  constructor
  · intro q given
    by_cases again : Gives m rest q
    · exact h.given q again
    · rcases gives_cons.mp given with ⟨p', hp', rfl, -⟩ | later
      · obtain rfl := Option.some.inj (hp.symm.trans hp')
        rw [h.other _ again, wanted]
      · exact absurd later again
  · intro q none
    rw [gives_cons, not_or] at none
    rw [h.other q none.2]
    refine Entity.get?_set_of_ne ok ?_
    rintro rfl
    exact none.1 ⟨p, hp, rfl, present⟩

end

theorem fill_of_converts {want : String → Value} {row : Row}
    (converts : ∀ cell ∈ row, ∀ p, m.propertyOfColumn? cell.1 = some p →
      cell.2.isNull = false → τ.Converts p.property cell.2 (want p.property)) (e : Entity τ) :
    ∃ filled, fill m e row = .ok filled ∧ Filled m want e row filled := by
  induction row generalizing e with
  | nil =>
    refine ⟨e, rfl, ?_, fun _ _ => rfl⟩
    rintro q ⟨cell, mem, -⟩
    cases mem
  | cons cell rest ih =>
    obtain ⟨column, value⟩ := cell
    have later := fun cell mem => converts cell (List.mem_cons_of_mem _ mem)
    by_cases passed : ∀ p, m.propertyOfColumn? column = some p → value.isNull = true
    · -- The cell is null or under no property: the entity stays as it was.
      obtain ⟨filled, hfilled, reads⟩ := ih later e
      exact ⟨filled, (fill_passed passed).trans hfilled, reads.pass passed⟩
    · simp only [not_forall, Bool.not_eq_true] at passed
      obtain ⟨p, hp, present⟩ := passed
      -- A later cell of the same property may write it again, with what is wanted once more.
      have here := converts _ List.mem_cons_self p hp present
      obtain ⟨written, hwritten, wanted⟩ := Entity.set_of_converts e here
      obtain ⟨filled, hfilled, reads⟩ := ih later written
      exact ⟨filled, (fill_written hp present hwritten).trans hfilled,
        reads.put hp present hwritten wanted⟩

theorem converts_of_fill (built : Mapping.Built τ.descriptor policy m) {row : Row}
    {e filled : Entity τ} (ok : fill m e row = .ok filled) (q : String) :
    (∃ cell ∈ row, ∃ p ∈ m.properties, m.propertyOfColumn? cell.1 = some p ∧ p.property = q ∧
      cell.2.isNull = false ∧ τ.Converts q cell.2 (filled.valueOf q)) ∨
    ¬ Gives m row q ∧ filled.get? q = e.get? q := by
  induction row generalizing e with
  | nil =>
    cases ok
    refine .inr ⟨?_, rfl⟩
    rintro ⟨cell, mem, -⟩
    cases mem
  | cons cell rest ih =>
    obtain ⟨column, value⟩ := cell
    by_cases passed : ∀ p, m.propertyOfColumn? column = some p → value.isNull = true
    · rw [fill_passed passed] at ok
      rcases ih ok with ⟨cell, mem, given⟩ | ⟨none, same⟩
      · exact .inl ⟨cell, List.mem_cons_of_mem _ mem, given⟩
      · refine .inr ⟨?_, same⟩
        rw [gives_cons, not_or]
        refine ⟨?_, none⟩
        rintro ⟨p, hp, -, present⟩
        rw [passed p hp] at present
        cases present
    · simp only [not_forall, Bool.not_eq_true] at passed
      obtain ⟨p, hp, present⟩ := passed
      have mem : p ∈ m.properties := List.mem_of_find?_eq_some hp
      rw [fill, hp] at ok
      simp only [present, Bool.false_eq_true, if_false] at ok
      split at ok
      · cases ok
      · rename_i written hwritten
        rcases ih ok with ⟨cell, mem, given⟩ | ⟨none, same⟩
        · exact .inl ⟨cell, List.mem_cons_of_mem _ mem, given⟩
        · by_cases here : p.property = q
          · -- No later cell is written to the property, so this one stands.
            have stands : filled.valueOf q = written.valueOf q := by
              rw [Entity.valueOf, same, Entity.valueOf]
            refine .inl ⟨_, List.mem_cons_self, p, mem, hp, here, present, ?_⟩
            rw [stands, ← here]
            obtain ⟨f, hf, rfl⟩ := built.exists_field mem
            exact Entity.converts_of_set hf hwritten
          · refine .inr ⟨?_, same.trans (Entity.get?_set_of_ne hwritten (Ne.symm here))⟩
            rw [gives_cons, not_or]
            refine ⟨?_, none⟩
            rintro ⟨p', hp', property, -⟩
            obtain rfl := Option.some.inj (hp.symm.trans hp')
            exact here property

theorem converts_of_cell (built : Mapping.Built τ.descriptor policy m) {row : Row}
    {e filled : Entity τ} (ok : fill m e row = .ok filled) {p : PropertyMapping}
    (hp : p ∈ m.properties) {v : Value} (present : v.isNull = false) (mem : (p.column, v) ∈ row)
    (only : ∀ cell ∈ row, m.propertyOfColumn? cell.1 = some p → cell = (p.column, v)) :
    τ.Converts p.property v (filled.valueOf p.property) := by
  rcases converts_of_fill built ok p.property with
    ⟨cell, there, q, hq, found, same, -, converts⟩ | ⟨none, -⟩
  · obtain rfl := built.eq_of_property hq hp same
    obtain rfl := only cell there found
    exact converts
  · exact absurd ⟨_, mem, p, built.propertyOfColumn?_column hp, rfl, present⟩ none

/-! ## What a row stands for -/

/-- The row has the current values of the kept properties and nothing else. A column may be missing
where its property is null. -/
structure Holds (τ : EntityType) (m : Mapping) (kept : PropertyMapping → Prop)
    (current : String → Value) (row : Row) : Prop where
  cells : ∀ cell ∈ row, ∃ p ∈ m.properties, kept p ∧ p.column = cell.1 ∧
    τ.Stores p.property cell.2 (current p.property)
  complete : ∀ p ∈ m.properties, kept p → current p.property ≠ .null →
    p.column ∈ row.map (·.1)
  nullable : ∀ f ∈ τ.fields, current f.property = .null → f.type.nullable = true

variable {kept : PropertyMapping → Prop} {current : String → Value} {row visited : Row}

theorem exists_of_folded (same : visited.folded.Perm row.folded) {cell : String × Value}
    (mem : cell ∈ visited) : ∃ column, (column, cell.2) ∈ row ∧
      Text.lower column = Text.lower cell.1 := by
  have mem' : (Text.lower cell.1, cell.2) ∈ visited.folded := List.mem_map_of_mem mem
  obtain ⟨⟨column, value⟩, there, h⟩ := List.mem_map.mp (same.mem_iff.mp mem')
  obtain ⟨lower, rfl⟩ := Prod.mk.inj h
  exact ⟨column, there, lower⟩

theorem propertyOfColumn?_of_lower {a b : String} (h : Text.lower a = Text.lower b) :
    m.propertyOfColumn? a = m.propertyOfColumn? b := by
  unfold Mapping.propertyOfColumn?
  rw [h]

theorem toEntity_of_holds (built : Mapping.Built τ.descriptor policy m)
    (nulls : τ.NullsByDefault) (holds : Holds τ m kept current row)
    (same : visited.folded.Perm row.folded) :
    ∃ e, toEntity τ m visited = .ok e ∧ ∀ p ∈ m.properties,
      (kept p → e.get? p.property = some (current p.property)) ∧
      (¬ kept p → e.get? p.property = (Entity.blank τ).get? p.property) := by
  -- Every cell is one of a kept property.
  have known : ∀ cell ∈ visited, ∃ p ∈ m.properties, kept p ∧
      m.propertyOfColumn? cell.1 = some p ∧
      τ.Stores p.property cell.2 (current p.property) := by
    intro cell mem
    obtain ⟨column, there, lower⟩ := exists_of_folded same mem
    obtain ⟨p, hp, hkept, rfl, stores⟩ := holds.cells _ there
    refine ⟨p, hp, hkept, ?_, stores⟩
    rw [← propertyOfColumn?_of_lower lower, built.propertyOfColumn?_column hp]
  have converts : ∀ cell ∈ visited, ∀ p, m.propertyOfColumn? cell.1 = some p →
      cell.2.isNull = false → τ.Converts p.property cell.2 (current p.property) := by
    intro cell mem p hp null
    obtain ⟨q, -, -, hq, stores⟩ := known cell mem
    obtain rfl := Option.some.inj (hp.symm.trans hq)
    unfold EntityType.Stores at stores
    rwa [if_neg (by simp [null])] at stores
  obtain ⟨e, he, reads⟩ := fill_of_converts converts (Entity.blank τ)
  refine ⟨e, he, fun p hp => ⟨fun hkept => ?_, fun hkept => ?_⟩⟩
  · by_cases gives : Gives m visited p.property
    · exact reads.given _ gives
    · -- A kept property that no cell is written to is null, and so is its blank.
      have null : current p.property = .null := by
        by_contra present
        obtain ⟨cell, there, hcolumn⟩ := List.mem_map.mp (holds.complete p hp hkept present)
        obtain ⟨column, mem, lower⟩ := exists_of_folded same.symm there
        obtain ⟨q, hq, -, hfound, stores⟩ := known _ mem
        have found : m.propertyOfColumn? column = some p := by
          rw [propertyOfColumn?_of_lower lower, hcolumn, built.propertyOfColumn?_column hp]
        obtain rfl := Option.some.inj (found.symm.trans hfound)
        unfold EntityType.Stores at stores
        split_ifs at stores with isNull
        · exact present stores
        · exact gives ⟨_, mem, p, found, rfl, by simpa using isNull⟩
      obtain ⟨f, hf, rfl⟩ := built.exists_field hp
      rw [reads.other _ gives, null]
      refine (Entity.get?_blank hf).trans ?_
      rw [nulls f hf (holds.nullable f hf null)]
  · -- No cell is written to a property that is not kept.
    refine reads.other _ ?_
    rintro ⟨cell, mem, q, hq, sameProperty, -⟩
    obtain ⟨q', hq', hkept', hfound, -⟩ := known cell mem
    obtain rfl := Option.some.inj (hq.symm.trans hfound)
    exact hkept (built.eq_of_property hq' hp sameProperty ▸ hkept')

end Row

end EntityStore
