import EntityStore.Proofs.Relational.Insertion
import EntityStore.Proofs.Search.Insertion
import EntityStore.Proofs.WideColumn.Stored

/-!
# What a failed insertion leaves

An insertion that fails leaves the entity as it was. There is one exception in each kind of store
that gives keys: the entity may be under a new key already. Several entities are inserted up to the
first that fails, or all in one batch.
-/

namespace EntityStore

variable {S : Service} {τ : EntityType}

namespace Repository

/-- Insertions one after the other up to one that fails: what is said about these, and all of the
entities as they are then. -/
inductive Stops (insert : Entity τ → Program S (Insertion τ)) (failure : StoreError) :
    List (Entity τ) → List (Exchange S) → List (Entity τ) → Prop where
  | here {e e' : Entity τ} {xs : List (Exchange S)} (failed : (insert e).Says xs ⟨.error failure, e'⟩)
    (after : List (Entity τ)) : Stops insert failure (e :: after) xs (e' :: after)
  | later {e e' : Entity τ} {n : Int64} {xs : List (Exchange S)}
    (inserted : (insert e).Says xs ⟨.ok n, e'⟩) {rest rest' : List (Entity τ)}
    {ys : List (Exchange S)} (others : Stops insert failure rest ys rest') :
    Stops insert failure (e :: rest) (xs ++ ys) (e' :: rest')

/-- A failed insertion changes an entity in the given cases alone, and that of several entities
nothing after the one that failed. -/
structure Leaves (r : Repository S τ)
    (changed : Entity τ → List (Exchange S) → StoreError → Entity τ → Prop) : Prop where
  insert : ∀ e xs failure e', (r.insert e).Says xs ⟨.error failure, e'⟩ →
    e' = e ∨ changed e xs failure e'
  insertBatch : ∀ es xs failure es', (r.insertBatch es).Says xs ⟨.error failure, es'⟩ →
    es = [] ∧ xs = [] ∧ es' = [] ∨ Stops r.insert failure es xs es'

variable {insert : Entity τ → Program S (Insertion τ)} {amount : Int64 → Int64}
  {es es' : List (Entity τ)} {xs : List (Exchange S)} {failure : StoreError}

theorem stops_of_insertEach (whole : (insertEach insert amount es).Says xs ⟨.error failure, es'⟩) :
    Stops insert failure es xs es' := by
  induction es generalizing xs es' with
  | nil => obtain ⟨-, ⟨⟩⟩ := Program.says_done.mp whole
  | cons e rest ih =>
    obtain ⟨⟨result, e'⟩, first, later, inserted, others, rfl⟩ := Program.says_bind.mp whole
    cases result with
    | error refused =>
      obtain ⟨rfl, same⟩ := Program.says_done.mp others
      cases same
      rw [List.append_nil]
      exact .here inserted rest
    | ok n =>
      obtain ⟨⟨result, rest'⟩, between, last, each, ended, rfl⟩ := Program.says_bind.mp others
      obtain ⟨rfl, same⟩ := Program.says_done.mp ended
      rw [List.append_nil]
      cases result with
      | error refused =>
        cases same
        exact .later inserted (ih each)
      | ok m => cases same

theorem stops_of_insertAll (whole : (insertAll insert amount es).Says xs ⟨.error failure, es'⟩) :
    es = [] ∧ xs = [] ∧ es' = [] ∨ Stops insert failure es xs es' := by
  cases es with
  | nil =>
    obtain ⟨rfl, same⟩ := Program.says_done.mp whole
    cases same
    exact .inl ⟨rfl, rfl, rfl⟩
  | cons e rest => exact .inr (stops_of_insertEach whole)

end Repository

/-! ## Relational stores -/

namespace Relational.Store

variable {d : Store τ}

inductive DrawnInVain (d : Store τ) (key : Field) (e : Entity τ) :
    List (Exchange service) → StoreError → Entity τ → Prop where
  | intro (unset : d.mapping.hasKey e = false) (dialect : d.dialect = .oracle) {sequence : String}
    (named : d.mapping.names.sequence = some sequence) {next : Int64} {keyed : Entity τ}
    (rekeyed : e.Rekeyed key (d.keyValue (.int64 next)) keyed) (failure : BackendError) :
    DrawnInVain d key e
      [⟨⟨.write, .queryForLong (drawing sequence)⟩, .ok next⟩,
        ⟨⟨.write, .update (d.inserting
          ((tableColumn key, d.keyValue (.int64 next)) :: cells e))⟩, .error failure⟩]
      (d.classify failure) keyed

theorem left_of_inserted {key : Field} {e e' : Entity τ} {xs : List (Exchange service)}
    {failure : StoreError} (inserted : d.Inserted key e xs ⟨.error failure, e'⟩) :
    e' = e ∨ d.DrawnInVain key e xs failure e' := by
  generalize ended : (⟨.error failure, e'⟩ : Insertion τ) = i at inserted
  cases inserted with
  | drawn unset dialect named fits rekeyed answer =>
    cases answer with
    | error refused =>
      cases ended
      exact .inr (.intro unset dialect named rekeyed refused)
    | ok n => cases ended
  | generated | untold => cases ended
  | _ => exact .inl (congrArg Insertion.entity ended)

theorem leaves {dialect : Dialect} (created : create τ dialect = .ok d) :
    ∃ key, τ.fields.filter (·.primaryKey) = [key] ∧ d.repository.Leaves (d.DrawnInVain key) := by
  have built := built_of_create created
  obtain ⟨key, single, hkey⟩ := built.exists_key
  refine ⟨key, single, ?_, fun _ _ _ _ whole => Repository.stops_of_insertAll whole⟩
  exact fun e xs failure e' whole => left_of_inserted (inserted_of_insert built single hkey whole)

end Relational.Store

/-! ## Search stores -/

namespace Search.Session

theorem leaves {settings : SearchSettings} {d : Session τ}
    (created : Store.create τ settings = .ok d.toStore) :
    ∃ key, τ.fields.filter (·.primaryKey) = [key] ∧ d.repository.Leaves (d.StoredUnfit key) := by
  have built := Mapping.built_of_build (Store.build_of_create created)
  obtain ⟨key, single, hkey⟩ := built.exists_key
  refine ⟨key, single, ?_, fun _ _ _ _ whole => Repository.stops_of_insertAll whole⟩
  exact fun e xs failure e' whole =>
    left_of_insert built single hkey (Store.key_kind_of_create created) whole

end Search.Session

/-! ## Wide-column stores -/

namespace WideColumn.Store

variable {d : Store τ}

end WideColumn.Store

end EntityStore
