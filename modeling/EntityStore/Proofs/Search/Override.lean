import EntityStore.Proofs.Lookup
import EntityStore.Proofs.Search.Index
import EntityStore.Proofs.Visited

/-!
# Whose key and version stand

The key of a hit and the version that the engine reports are put into the row of the document, in
the place of the fields that are named as their columns are. The columns of a row are found in
whatever case, so that a field which is named alike but for its case is written to the same property,
and which of the two stands is left to the order in which the row is visited.
-/

namespace EntityStore.Search

variable {τ : EntityType} {m : Mapping} {hit : SearchHit} {doc : Document} {id : Id}
  {p : PropertyMapping} {value : Value} {e : Entity τ}

/-- The entity is what a hit is mapped to where its row is visited in some order. -/
def Maps (τ : EntityType) (m : Mapping) (hit : SearchHit) (e : Entity τ) : Prop :=
  ∃ id visited, parseId m hit.id = .ok id ∧ visited.Perm (rowOfHit m id hit) ∧
    Row.toEntity τ m visited = .ok e

theorem maps_of_entityOfHit (ok : entityOfHit τ m hit = .ok e) : Maps τ m hit e := by
  obtain ⟨id, parsed, mapped⟩ := bind_eq_ok.mp ok
  rw [mapError_eq_ok] at parsed mapped
  exact ⟨id, _, parsed, .refl _, mapped⟩

theorem exists_toEntity_of_maps (built : Mapping.Built τ.descriptor .search m)
    (parsed : parseId m hit.id = .ok id) (mapped : Maps τ m hit e) {visited : Row}
    (same : visited.Perm (rowOfHit m id hit)) : ∃ e, Row.toEntity τ m visited = .ok e := by
  obtain ⟨id', seen, parsed', other, ok⟩ := mapped
  cases parsed.symm.trans parsed'
  exact Row.exists_toEntity_of_perm built (same.trans other.symm) ⟨e, ok⟩

/-- A field of the document that is written to the property, though it is not named as its column
is, and what is written. -/
def Rival (p : PropertyMapping) (doc : Document) (value : Value) : Prop :=
  ∃ field ∈ doc, Text.lower field.1 = Text.lower p.column ∧ field.1 ≠ p.column ∧
    Value.ofJson field.2 = value ∧ value.isNull = false

theorem rival_iff (built : Mapping.Built τ.descriptor .search m) (hp : p ∈ m.properties) :
    Rival p doc value ↔ ∃ cell ∈ Row.ofDocument (.object doc),
      m.propertyOfColumn? cell.1 = some p ∧ cell.1 ≠ p.column ∧ cell.2 = value ∧
        cell.2.isNull = false := by
  constructor
  · rintro ⟨field, mem, lower, other, rfl, present⟩
    have found := (built.propertyOfColumn?_eq_some hp field.1).mpr lower
    exact ⟨_, List.mem_map_of_mem mem, found, other, rfl, present⟩
  · rintro ⟨cell, mem, found, other, rfl, present⟩
    obtain ⟨field, hfield, rfl⟩ := List.mem_map.mp mem
    have lower := (built.propertyOfColumn?_eq_some hp field.1).mp found
    exact ⟨field, hfield, lower, other, rfl, present⟩

theorem forall_maps_iff (built : Mapping.Built τ.descriptor .search m)
    (separate : m.version ≠ some m.key) (source : hit.source = .object doc)
    (distinct : Distinct doc) (parsed : parseId m hit.id = .ok id) (mapped : Maps τ m hit e)
    (own : Own m id hit.version p value) (wanted : Value → Prop)
    (good : ∀ w, τ.Converts p.property value w → wanted w) :
    (∀ e, Maps τ m hit e → wanted (e.valueOf p.property)) ↔
      ∀ r, Rival p doc r → ∃ w, τ.Converts p.property r w ∧ wanted w := by
  have hp := own.mem built
  have found := built.propertyOfColumn?_column hp
  have cells : ∀ cell, m.propertyOfColumn? cell.1 = some p →
      (cell ∈ rowOfHit m id hit ↔
        cell = (p.column, value) ∨ cell.1 ≠ p.column ∧ cell ∈ Row.ofDocument (.object doc)) := by
    rw [← source]
    refine mem_rowOfHit built separate hit ?_ own
    unfold Distinct
    rwa [source, Row.columns_ofDocument]
  have here := (cells (p.column, value) found).mpr (.inl rfl)
  have visits := exists_toEntity_of_maps built parsed mapped (.refl _)
  have given : Row.Gives m (rowOfHit m id hit) p.property :=
    ⟨_, here, p, found, rfl, own.present⟩
  have orders : (∀ e, Maps τ m hit e → wanted (e.valueOf p.property)) ↔
      ∀ visited e, visited.Perm (rowOfHit m id hit) → Row.toEntity τ m visited = .ok e →
        wanted (e.valueOf p.property) := by
    constructor
    · exact fun always visited e same ok => always e ⟨id, visited, parsed, same, ok⟩
    · rintro always e ⟨id', visited, parsed', same, ok⟩
      cases parsed.symm.trans parsed'
      exact always visited e same ok
  rw [orders, Row.forall_visited_iff built visits given hp]
  constructor
  · intro each r rival
    obtain ⟨cell, mem, found, other, rfl, present⟩ := (rival_iff built hp).mp rival
    exact each cell ((cells cell found).mpr (.inr ⟨other, mem⟩)) found present
  · intro each cell mem found' present
    rcases (cells cell found').mp mem with rfl | ⟨other, mem⟩
    · -- The row is mapped, so what the hit has converts.
      have convertible := (Row.exists_fill_iff built _).mp visits
      obtain ⟨w, converts⟩ := convertible _ here p found' present
      exact ⟨w, converts, good w converts⟩
    · exact each _ ((rival_iff built hp).mpr ⟨cell, mem, found', other, rfl, present⟩)

/-- The key of a found entity is that of its hit, in whatever order the row is visited, exactly where
each rival of the key converts to it, and its version is the one that the engine reports exactly where
each rival of the version converts to that. -/
theorem own_stands_iff (build : Mapping.build τ.descriptor .search = .ok m)
    (separate : versionProperty? m ≠ some m.key.property) {hit : SearchHit} {doc : Document}
    (source : hit.source = .object doc) (distinct : Distinct doc) {first : Entity τ}
    (mapped : Maps τ m hit first) :
    ∃ id, parseId m hit.id = .ok id ∧
      (∀ visited, visited.Perm (rowOfHit m id hit) → ∃ e, Row.toEntity τ m visited = .ok e) ∧
      ((∀ e, Maps τ m hit e → e.valueOf m.key.property = id.toValue) ↔
        ∀ r, Rival m.key doc r → τ.Converts m.key.property r id.toValue) ∧
      ∀ pv v, m.version = some pv → hit.version = some v →
        ((∀ e, Maps τ m hit e → integer? (e.valueOf pv.property) = some v.toInt) ↔
          ∀ r, Rival pv doc r → ∃ w, τ.Converts pv.property r w ∧ integer? w = some v.toInt) := by
  have built := Mapping.built_of_build build
  have ⟨id, _, parsed, _⟩ := mapped
  have apart : m.version ≠ some m.key := by
    intro same
    exact separate (by rw [versionProperty?, same]; rfl)
  refine ⟨id, parsed, fun visited => exists_toEntity_of_maps built parsed mapped, ?_, ?_⟩
  · rw [forall_maps_iff built apart source distinct parsed mapped .key (· = id.toValue)
      fun w => eq_of_converts_key built parsed]
    simp only [exists_eq_right]
  · intro pv v versioned reported
    exact forall_maps_iff built apart source distinct parsed mapped (.version versioned reported)
      (integer? · = some v.toInt) fun w => integer?_of_converts_version built versioned

def capitalHit : SearchHit where
  id := "7"
  version := some 3
  source := .object [("ID", .int ⟨7, by decide⟩), ("VERSION", .int ⟨4, by decide⟩)]

theorem capitals_rival :
    Mapping.build notes.descriptor .search = .ok noteMapping ∧
    versionProperty? noteMapping ≠ some noteMapping.key.property ∧
    (∃ first, Maps notes noteMapping capitalHit first) ∧
    (∀ e, Maps notes noteMapping capitalHit e → e.valueOf "id" = .int32 7) ∧
    ¬ ∀ e, Maps notes noteMapping capitalHit e → integer? (e.valueOf "version") = some 3 := by
  have separate : versionProperty? noteMapping ≠ some noteMapping.key.property := by decide
  obtain ⟨first, ok⟩ : ∃ e, entityOfHit notes noteMapping capitalHit = .ok e := ⟨_, rfl⟩
  have mapped := maps_of_entityOfHit ok
  obtain ⟨id, parsed, -, ofKey, ofVersion⟩ :=
    own_stands_iff build_notes separate rfl (by unfold Distinct; decide) mapped
  cases parsed
  refine ⟨build_notes, separate, ⟨first, mapped⟩, ofKey.mpr ?_, fun always => ?_⟩
  · rintro r ⟨field, mem, lower, -, rfl, -⟩
    simp only [List.mem_cons, List.not_mem_nil, or_false] at mem
    rcases mem with rfl | rfl
    · exact ⟨noteId, by decide, rfl, ⟨.int32 7, rfl⟩, rfl, rfl⟩
    · exact absurd lower (by decide +kernel)
  · obtain ⟨w, ⟨f, hf, same, c, converted, rfl⟩, number⟩ :=
      (ofVersion _ 3 rfl rfl).mp always _
        ⟨("VERSION", .int ⟨4, by decide⟩), by simp, by decide +kernel, by decide, rfl, rfl⟩
    obtain rfl := List.inj_on_of_nodup_map notes.distinct hf
      (show noteVersion ∈ notes.fields by simp [notes]) same
    cases converted
    cases number

theorem not_own_stands : ¬ ∀ (hit : SearchHit) (doc : Document) (id : Id) (e : Entity notes),
    hit.source = .object doc → Distinct doc → parseId noteMapping hit.id = .ok id →
      Maps notes noteMapping hit e → e.valueOf noteMapping.key.property = id.toValue := by
  intro stands
  let hit : SearchHit := ⟨"7", none, .object [("ID", .int ⟨9, by decide⟩)]⟩
  have parsed : parseId noteMapping hit.id = .ok (.int 7) := by decide +kernel
  have last : [("id", Value.int32 7), ("ID", .int64 9)].Perm (rowOfHit noteMapping (.int 7) hit) :=
    .refl _
  obtain ⟨e, ok, nine⟩ : ∃ e, Row.toEntity notes noteMapping [("id", .int32 7), ("ID", .int64 9)] =
      .ok e ∧ e.valueOf "id" = .int32 9 := ⟨_, rfl, rfl⟩
  have seven := stands hit _ (.int 7) e rfl (List.nodup_singleton _) parsed
    ⟨.int 7, _, parsed, last, ok⟩
  cases nine.symm.trans seven

end EntityStore.Search
