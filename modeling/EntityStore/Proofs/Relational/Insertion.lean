import EntityStore.Proofs.Key
import EntityStore.Proofs.Lookup
import EntityStore.Proofs.Relational.Routes
import EntityStore.Proofs.Relational.Writes

/-!
# How an entity gets its key

An insertion takes the key that the caller has chosen, draws one from a sequence or leaves it to the
database. Each way has its own calls and its own list of columns, and ends with the entity under the
key that its row has.
-/

namespace EntityStore

namespace Relational

variable {τ : EntityType}

/-! ## Columns -/

def tableColumn (f : Field) : String := f.spec.columnName .relational

/-- The columns of the stored fields beside the key, in the order of declaration, and what they
hold. -/
def cells (e : Entity τ) : Row :=
  (τ.fields.filter fun f => !f.primaryKey && !f.transient).map fun f =>
    (tableColumn f, e.valueOf f.property)

theorem cells_eq {m : Mapping} (built : Mapping.Built τ.descriptor .relational m) {key : Field}
    (single : τ.fields.filter (·.primaryKey) = [key]) (hkey : m.key = key.spec.mapping .relational)
    (e : Entity τ) : (m.persistedRest.map fun p => (p.column, e.valueOf p.property)) = cells e := by
  obtain ⟨hmem, isKey⟩ := EntityType.mem_of_single single
  have only (f : Field) (hf : f ∈ τ.fields) : (f.property != key.property) = !f.primaryKey := by
    by_cases own : f.property = key.property
    · rw [List.inj_on_of_nodup_map τ.distinct hf hmem own, isKey]
      simp
    · have other : f.primaryKey = false := by
        refine Bool.eq_false_iff.mpr fun isKey => own ?_
        have again : f ∈ τ.fields.filter (·.primaryKey) := List.mem_filter.mpr ⟨hf, isKey⟩
        rw [single, List.mem_singleton] at again
        rw [again]
      simpa [other] using own
  have property : m.key.property = key.property := by rw [hkey]; rfl
  unfold Mapping.persistedRest
  rw [built.persisted, property, EntityType.descriptor]
  simp only [List.filter_map, List.map_map, List.filter_filter]
  refine congrArg (List.map _) (List.filter_congr fun f hf => ?_)
  exact congrArg (· && !f.transient) (only f hf)

namespace Store

variable {d : Store τ}

/-! ## Drawn numbers -/

theorem convert_drawn (built : Mapping.Built τ.descriptor .relational d.mapping) {key : Field}
    (hkey : d.mapping.key = key.spec.mapping .relational) (n : Int64) :
    (key.type.Fits n → ∃ c, Content.convert key.type (d.keyValue (.int64 n)) = .ok c) ∧
    (¬ key.type.Fits n →
      Content.convert key.type (d.keyValue (.int64 n)) = .error (.typeMismatch (.outOfRange n))) := by
  have kinds := built.key_kind
  have kind : d.mapping.key.kind = key.type.scalar.kind := by rw [hkey]; rfl
  unfold keyValue
  rw [kind] at kinds ⊢
  rcases kinds with wide | narrow | textual
  · rw [wide]
    exact Content.convert_integer (.inl wide) n
  · rw [narrow]
    exact Content.convert_integer (.inr narrow) n
  · rw [textual]
    refine ⟨fun _ => ⟨_, Content.convert_text textual _⟩, fun unfit => absurd ?_ unfit⟩
    intro narrow
    rw [narrow] at textual
    cases textual

/-! ## Insertions -/

def inserting (d : Store τ) (cells : Row) : Statement :=
  ⟨insertText d.mapping cells, cells.map (·.2)⟩

theorem insertion_some (built : Mapping.Built τ.descriptor .relational d.mapping) {key : Field}
    (single : τ.fields.filter (·.primaryKey) = [key])
    (hkey : d.mapping.key = key.spec.mapping .relational) (v : Value) (e : Entity τ) :
    d.insertion (some v) e = d.inserting ((tableColumn key, v) :: cells e) := by
  have column : d.mapping.key.column = tableColumn key := by rw [hkey]; rfl
  unfold insertion insertValues
  rw [statement_insert, cells_eq built single hkey, column]
  rfl

theorem insertion_none (built : Mapping.Built τ.descriptor .relational d.mapping) {key : Field}
    (single : τ.fields.filter (·.primaryKey) = [key])
    (hkey : d.mapping.key = key.spec.mapping .relational) (e : Entity τ) :
    d.insertion none e = d.inserting (cells e) := by
  unfold insertion insertValues
  rw [statement_insert, cells_eq built single hkey]
  rfl

inductive Inserted (d : Store τ) (key : Field) (e : Entity τ) :
    List (Exchange service) → Insertion τ → Prop where
  /-- The caller has chosen the key. -/
  | chosen (set : d.mapping.hasKey e = true) (answer : Except BackendError Int64) :
    Inserted d key e
      [⟨⟨.write, .update (d.inserting ((tableColumn key, e.valueOf key.property) :: cells e))⟩,
        answer⟩]
      ⟨answer.mapError d.classify, e⟩
  /-- There is no sequence to draw a key from. -/
  | unnamed (unset : d.mapping.hasKey e = false) (dialect : d.dialect = .oracle)
    (unnamed : d.mapping.names.sequence = none) :
    Inserted d key e [] ⟨.error (.configuration (.entity d.mapping.typeName .noSequence)), e⟩
  | undrawn (unset : d.mapping.hasKey e = false) (dialect : d.dialect = .oracle) {sequence : String}
    (named : d.mapping.names.sequence = some sequence) (failure : BackendError) :
    Inserted d key e [⟨⟨.write, .queryForLong (drawing sequence)⟩, .error failure⟩]
      ⟨.error (d.classify failure), e⟩
  | unfit (unset : d.mapping.hasKey e = false) (dialect : d.dialect = .oracle) {sequence : String}
    (named : d.mapping.names.sequence = some sequence) {next : Int64} (unfit : ¬ key.type.Fits next) :
    Inserted d key e [⟨⟨.write, .queryForLong (drawing sequence)⟩, .ok next⟩]
      ⟨.error (.typeMismatch (.outOfRange next)), e⟩
  | drawn (unset : d.mapping.hasKey e = false) (dialect : d.dialect = .oracle) {sequence : String}
    (named : d.mapping.names.sequence = some sequence) {next : Int64} (fits : key.type.Fits next)
    {keyed : Entity τ} (rekeyed : e.Rekeyed key (d.keyValue (.int64 next)) keyed)
    (answer : Except BackendError Int64) :
    Inserted d key e
      [⟨⟨.write, .queryForLong (drawing sequence)⟩, .ok next⟩,
        ⟨⟨.write, .update (d.inserting
          ((tableColumn key, d.keyValue (.int64 next)) :: cells e))⟩, answer⟩]
      ⟨answer.mapError d.classify, keyed⟩
  | failed (unset : d.mapping.hasKey e = false) (dialect : d.dialect = .mysql)
    (failure : BackendError) :
    Inserted d key e
      [⟨⟨.write, .updateReturningKey (d.inserting (cells e)) (tableColumn key)⟩, .error failure⟩]
      ⟨.error (d.classify failure), e⟩
  /-- The row is inserted, and the key it has got is not told. -/
  | untold (unset : d.mapping.hasKey e = false) (dialect : d.dialect = .mysql) (affected : Int64) :
    Inserted d key e
      [⟨⟨.write, .updateReturningKey (d.inserting (cells e)) (tableColumn key)⟩,
        .ok (affected, none)⟩]
      ⟨.ok affected, e⟩
  | unusable (unset : d.mapping.hasKey e = false) (dialect : d.dialect = .mysql) (affected : Int64)
    {told : Value} {failure : StoreError}
    (unusable : Content.convert key.type (d.keyValue told) = .error failure) :
    Inserted d key e
      [⟨⟨.write, .updateReturningKey (d.inserting (cells e)) (tableColumn key)⟩,
        .ok (affected, some told)⟩]
      ⟨.error failure, e⟩
  | generated (unset : d.mapping.hasKey e = false) (dialect : d.dialect = .mysql) (affected : Int64)
    {told : Value} {keyed : Entity τ} (rekeyed : e.Rekeyed key (d.keyValue told) keyed) :
    Inserted d key e
      [⟨⟨.write, .updateReturningKey (d.inserting (cells e)) (tableColumn key)⟩,
        .ok (affected, some told)⟩]
      ⟨.ok affected, keyed⟩

theorem cells_rekeyed {key : Field} (hkey : key ∈ τ.fields) (isKey : key.primaryKey = true)
    {e keyed : Entity τ} {v : Value} (rekeyed : e.Rekeyed key v keyed) : cells keyed = cells e := by
  unfold cells
  refine List.map_congr_left fun f hf => ?_
  obtain ⟨mem, own⟩ := List.mem_filter.mp hf
  have other : f.property ≠ key.property := by
    intro same
    rw [List.inj_on_of_nodup_map τ.distinct mem hkey same, isKey] at own
    cases own
  rw [Entity.valueOf, Entity.valueOf, rekeyed.others _ other]

section

variable (built : Mapping.Built τ.descriptor .relational d.mapping) {key : Field}
  (single : τ.fields.filter (·.primaryKey) = [key])
  (hkey : d.mapping.key = key.spec.mapping .relational) {e : Entity τ}
  {xs : List (Exchange service)} {i : Insertion τ}
include built single hkey

theorem inserted_of_insert (whole : (d.insert e).Says xs i) : d.Inserted key e xs i := by
  have property : d.mapping.key.property = key.property := by rw [hkey]; rfl
  have column : d.mapping.key.column = tableColumn key := by rw [hkey]; rfl
  obtain ⟨hmem, isKey⟩ := EntityType.mem_of_single single
  cases set : d.mapping.hasKey e with
  | true =>
    obtain ⟨answer, rfl, rfl⟩ := (says_insert_of_set set).mp whole
    rw [insertion_some built single hkey, property]
    exact .chosen set answer
  | false =>
    cases dialect : d.dialect with
    | mysql =>
      obtain ⟨answer, rfl, rfl⟩ := (says_insert_of_mysql set dialect).mp whole
      rw [insertion_none built single hkey, column]
      match answer with
      | .error failure => exact .failed set dialect failure
      | .ok (affected, none) => exact .untold set dialect affected
      | .ok (affected, some told) =>
        cases taken : e.set d.mapping.key.property (d.keyValue told) with
        | error failure =>
          rw [adopt_of_refused taken]
          rw [property, Entity.set_eq_error_iff hmem] at taken
          exact .unusable set dialect affected taken
        | ok keyed =>
          rw [adopt_of_taken taken]
          rw [property, Entity.set_eq_ok_iff_rekeyed hmem] at taken
          exact .generated set dialect affected taken
    | oracle =>
      cases named : d.mapping.names.sequence with
      | none =>
        obtain ⟨rfl, rfl⟩ := (says_insert_of_unnamed set dialect named).mp whole
        exact .unnamed set dialect named
      | some sequence =>
        obtain ⟨number, later, rfl, rest⟩ := (says_insert_of_named set dialect named).mp whole
        cases number with
        | error failure =>
          obtain ⟨rfl, rfl⟩ := rest
          exact .undrawn set dialect named failure
        | ok next =>
          obtain ⟨usable, unusable⟩ := convert_drawn built hkey next
          by_cases fits : key.type.Fits next
          · obtain ⟨c, converted⟩ := usable fits
            obtain ⟨keyed, taken, -⟩ := Entity.set_of_converted hmem converted e
            have rekeyed := (Entity.set_eq_ok_iff_rekeyed hmem).mp taken
            simp only [Store.keyed, property, taken] at rest
            obtain ⟨answer, rfl, rfl⟩ := rest
            rw [insertion_some built single hkey, cells_rekeyed hmem isKey rekeyed]
            exact .drawn set dialect named fits rekeyed answer
          · have refused := (Entity.set_eq_error_iff (e := e) hmem).mpr (unusable fits)
            simp only [Store.keyed, property, refused] at rest
            obtain ⟨rfl, rfl⟩ := rest
            exact .unfit set dialect named fits

end

end Store

end Relational

end EntityStore
