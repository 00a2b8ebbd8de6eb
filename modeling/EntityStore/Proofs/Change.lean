import EntityStore.Proofs.Overwrite
import EntityStore.Proofs.Row

/-!
# Changes and the values they leave

A run of changes leaves every property at the value that was last written for it. A row that is
written over by what each change brings keeps standing for these values.
-/

namespace EntityStore

variable {τ : EntityType} {m : Mapping}

/-! ## Changes -/

/-- An entity and the properties that are brought to its values: those named, or all stored ones but
the key where none is named. -/
structure Change (τ : EntityType) where
  entity : Entity τ
  properties : List String := []

namespace Change

def Covers (m : Mapping) (c : Change τ) (property : String) : Prop :=
  if c.properties.isEmpty then property ≠ m.key.property else property ∈ c.properties

instance (m : Mapping) (c : Change τ) (property : String) : Decidable (c.Covers m property) :=
  inferInstanceAs (Decidable
    (if c.properties.isEmpty then property ≠ m.key.property else property ∈ c.properties))

def applied (m : Mapping) (current : String → Value) (c : Change τ) : String → Value :=
  fun property => if c.Covers m property then c.entity.valueOf property else current property

end Change

def latest (m : Mapping) (first : Entity τ) (changes : List (Change τ)) : String → Value :=
  changes.foldl (Change.applied m) first.valueOf

namespace Mapping

/-! ## Updates of entities -/

theorem mem_of_namedEntries {e : Entity τ} {properties : List String}
    {entries : List (String × Value)} (ok : m.namedEntries e properties = .ok entries) :
    entries = properties.map (fun q => (q, e.valueOf q)) ∧
      ∀ q ∈ properties, ∃ p ∈ m.properties, p.property = q := by
  induction properties generalizing entries with
  | nil => cases ok; simp
  | cons q rest ih =>
    obtain ⟨entry, later, hentry, hlater, rfl⟩ := mapM_cons_eq_ok.mp ok
    obtain ⟨rfl, known⟩ := ih hlater
    split_ifs at hentry with isKnown
    cases hentry
    refine ⟨rfl, List.forall_mem_cons.mpr ⟨?_, known⟩⟩
    obtain ⟨p, hp⟩ := Option.isSome_iff_exists.mp isKnown
    exact ⟨p, mem_of_property? hp⟩

theorem exists_entries_of_updateOf {e : Entity τ} {properties : List String} {u : Update}
    (ok : m.updateOf e properties = .ok u) : ∃ entries, u.entries = writeAll Update.put entries [] ∧
      if properties.isEmpty then
        entries = m.persistedRest.map fun p => (p.property, e.valueOf p.property)
      else m.namedEntries e properties = .ok entries := by
  unfold updateOf at ok
  split_ifs at ok ⊢ with all
  · obtain ⟨entries, ⟨⟩, ok⟩ := bind_eq_ok.mp ok
    obtain ⟨_, -, ok⟩ := bind_eq_ok.mp ok
    cases ok
    exact ⟨_, Update.entries_ofList _, rfl⟩
  · obtain ⟨entries, hentries, ok⟩ := bind_eq_ok.mp ok
    obtain ⟨_, -, ok⟩ := bind_eq_ok.mp ok
    cases ok
    exact ⟨entries, Update.entries_ofList _, hentries⟩

theorem covers_of_updateOf {c : Change τ} {u : Update}
    (ok : m.updateOf c.entity c.properties = .ok u) :
    (∀ entry ∈ u.entries, c.Covers m entry.1 ∧ entry.2 = c.entity.valueOf entry.1 ∧
      ∃ p ∈ m.properties, p.property = entry.1) ∧
    ∀ p ∈ m.persisted, c.Covers m p.property → p.property ∈ u.entries.map (·.1) := by
  obtain ⟨entries, listed, origin⟩ := exists_entries_of_updateOf ok
  rw [listed]
  have mem : ∀ entry ∈ writeAll Update.put entries [], entry ∈ entries :=
    fun entry => Update.overwrites_put.mem_of_writeAll Update.distinct_nil
  have keys : ∀ q, q ∈ entries.map (·.1) → q ∈ (writeAll Update.put entries []).map (·.1) :=
    fun q => (Update.overwrites_put.mem_keys_of_writeAll Update.distinct_nil q).mpr
  unfold Change.Covers
  split_ifs at origin ⊢ with all
  · subst origin
    constructor
    · intro entry hentry
      obtain ⟨p, hp, rfl⟩ := List.mem_map.mp (mem entry hentry)
      obtain ⟨hp, ne⟩ := List.mem_filter.mp hp
      exact ⟨by simpa using ne, rfl, p, mem_properties hp, rfl⟩
    · intro p hp ne
      have rest : p ∈ m.persistedRest := List.mem_filter.mpr ⟨hp, by simpa using ne⟩
      apply keys
      rw [List.map_map]
      exact List.mem_map.mpr ⟨p, rest, rfl⟩
  · obtain ⟨rfl, known⟩ := mem_of_namedEntries origin
    constructor
    · intro entry hentry
      obtain ⟨q, hq, rfl⟩ := List.mem_map.mp (mem entry hentry)
      exact ⟨hq, rfl, known q hq⟩
    · intro p _ hp
      apply keys
      rw [List.map_map]
      exact List.mem_map.mpr ⟨p.property, hp, rfl⟩

end Mapping

/-! ## Rows written over -/

/-- The cells are those that the change brings: one for every kept property that it covers. -/
structure Change.Brings (m : Mapping) (kept : PropertyMapping → Prop) (c : Change τ) (cells : Row) :
    Prop where
  sound : ∀ cell ∈ cells, ∃ p ∈ m.properties, kept p ∧ c.Covers m p.property ∧
    p.column = cell.1 ∧ τ.Stores p.property cell.2 (c.entity.valueOf p.property)
  full : ∀ p ∈ m.properties, kept p → c.Covers m p.property → p.column ∈ cells.map (·.1)

theorem Row.Holds.applied {kept : PropertyMapping → Prop} {current : String → Value}
    {row after cells : Row} (holds : Holds τ m kept current row) {c : Change τ}
    (brings : c.Brings m kept cells)
    (written : ∀ cell ∈ after, cell ∈ cells ∨ cell.1 ∉ cells.map (·.1) ∧ cell ∈ row)
    (columns : ∀ column, column ∈ cells.map (·.1) ∨ column ∈ row.map (·.1) →
      column ∈ after.map (·.1)) :
    Holds τ m kept (c.applied m current) after where
  cells := by
    intro cell mem
    unfold Change.applied
    rcases written cell mem with new | ⟨other, old⟩
    · obtain ⟨p, hp, hkept, covered, column, stores⟩ := brings.sound cell new
      refine ⟨p, hp, hkept, column, ?_⟩
      rwa [if_pos covered]
    · -- A cell that was there before belongs to a property that the change does not cover.
      obtain ⟨p, hp, hkept, column, stores⟩ := holds.cells cell old
      refine ⟨p, hp, hkept, column, ?_⟩
      have uncovered : ¬ c.Covers m p.property :=
        fun covered => other (column ▸ brings.full p hp hkept covered)
      rwa [if_neg uncovered]
  complete := by
    intro p hp hkept present
    apply columns
    unfold Change.applied at present
    split_ifs at present with covered
    · exact .inl (brings.full p hp hkept covered)
    · exact .inr (holds.complete p hp hkept present)
  nullable := by
    intro f hf null
    unfold Change.applied at null
    split_ifs at null
    · exact Entity.nullable_of_valueOf hf null
    · exact holds.nullable f hf null

theorem Row.Holds.put {policy : Policy} (built : Mapping.Built τ.descriptor policy m)
    {kept : PropertyMapping → Prop} {current : String → Value} {row : Row}
    (holds : Holds τ m kept current row) (distinct : Distinct row) {p : PropertyMapping}
    (hp : p ∈ m.properties) {v w : Value} (stores : τ.Stores p.property v w) (present : w ≠ .null) :
    Holds τ m (fun q => kept q ∨ q = p) (fun q => if q = p.property then w else current q)
      (row.put p.column v) where
  cells := by
    intro cell mem
    rcases (Row.overwrites_put.mem distinct cell).mp mem with rfl | ⟨other, old⟩
    · exact ⟨p, hp, .inr rfl, rfl, by rwa [if_pos rfl]⟩
    · obtain ⟨q, hq, hkept, column, stored⟩ := holds.cells cell old
      refine ⟨q, hq, .inl hkept, column, ?_⟩
      have ne : q.property ≠ p.property := by
        intro same
        obtain rfl := built.eq_of_property hq hp same
        exact other column.symm
      rwa [if_neg ne]
  complete := by
    intro q hq hkept some
    rw [Row.overwrites_put.mem_keys distinct]
    by_cases same : q = p
    · exact .inl (congrArg PropertyMapping.column same)
    · have ne : q.property ≠ p.property := fun h => same (built.eq_of_property hq hp h)
      rw [if_neg ne] at some
      exact .inr (holds.complete q hq (hkept.resolve_right same) some)
  nullable := by
    intro f hf null
    split_ifs at null
    · exact absurd null present
    · exact holds.nullable f hf null

end EntityStore
