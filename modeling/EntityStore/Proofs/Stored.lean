import EntityStore.Proofs.Behaviour
import EntityStore.Proofs.Overwrite
import EntityStore.Proofs.Row

/-!
# What is stored of an entity

Two entities may differ in properties that are transient. They have the same key, a value is written
to both or to neither, and their updates say the same of every property that is stored.
-/

namespace EntityStore

variable {τ : EntityType} {m : Mapping} {policy : Policy}

/-! ## Stored columns -/

/-- No transient property has the column, in whatever case its letters are. -/
def Mapping.Stores (m : Mapping) (column : String) : Prop :=
  ∀ p ∈ m.properties, Text.lower p.column = Text.lower column → p.transient = false

theorem Mapping.Built.stores_column {d : Descriptor} (built : Built d policy m)
    {p : PropertyMapping} (hp : p ∈ m.properties) (stored : p.transient = false) :
    m.Stores p.column := by
  intro q hq same
  obtain rfl := built.eq_of_lower hq hp same
  exact stored

theorem Mapping.Built.stores_persisted {d : Descriptor} (built : Built d policy m)
    {p : PropertyMapping} (hp : p ∈ m.persisted) : m.Stores p.column := by
  obtain ⟨hp, stored⟩ := List.mem_filter.mp hp
  exact built.stores_column hp (by simpa using stored)

theorem Mapping.exists_persisted {property : String} (known : (m.property? property).isSome)
    (stored : m.isTransient property = false) : ∃ p ∈ m.persisted, p.property = property := by
  obtain ⟨p, found⟩ := Option.isSome_iff_exists.mp known
  obtain ⟨hp, name⟩ := mem_of_property? found
  rw [isTransient, found, Option.any_some] at stored
  exact ⟨p, List.mem_filter.mpr ⟨hp, by simpa using stored⟩, name⟩

theorem Mapping.Built.isTransient (built : Built τ.descriptor policy m) {p : PropertyMapping}
    (hp : p ∈ m.properties) : m.isTransient p.property = p.transient := by
  rw [Mapping.isTransient, built.property? hp, Option.any_some]

/-! ## Entities -/

/-- The entities have the same value in every property that is not transient. -/
def Entity.SameStored (e e' : Entity τ) : Prop :=
  ∀ f ∈ τ.fields, f.transient = false → e.valueOf f.property = e'.valueOf f.property

section Entity

variable {e e' : Entity τ}

theorem Entity.SameStored.valueOf (same : e.SameStored e')
    (built : Mapping.Built τ.descriptor policy m) {p : PropertyMapping} (hp : p ∈ m.persisted) :
    e.valueOf p.property = e'.valueOf p.property := by
  obtain ⟨hp, stored⟩ := List.mem_filter.mp hp
  obtain ⟨f, hf, rfl⟩ := built.exists_field hp
  exact same f hf (by simpa [FieldSpec.mapping, Field.spec] using stored)

theorem Entity.SameStored.map_valueOf (same : e.SameStored e')
    (built : Mapping.Built τ.descriptor policy m) {α : Type} (f : PropertyMapping → Value → α)
    (properties : List PropertyMapping) (persisted : ∀ p ∈ properties, p ∈ m.persisted) :
    (properties.map fun p => f p (e.valueOf p.property)) =
      properties.map fun p => f p (e'.valueOf p.property) := by
  apply List.map_congr_left
  intro p hp
  rw [same.valueOf built (persisted p hp)]

theorem Entity.SameStored.keyOf? (same : e.SameStored e')
    (built : Mapping.Built τ.descriptor policy m) : m.keyOf? e = m.keyOf? e' := by
  have key := Mapping.mem_properties built.key_mem
  unfold Mapping.keyOf?
  rw [built.get?_eq_valueOf key, built.get?_eq_valueOf key, same.valueOf built built.key_mem]

theorem Entity.SameStored.entityId (same : e.SameStored e')
    (built : Mapping.Built τ.descriptor policy m) : m.entityId e = m.entityId e' := by
  unfold Mapping.entityId
  rw [same.keyOf? built]

theorem Entity.SameStored.hasKey (same : e.SameStored e')
    (built : Mapping.Built τ.descriptor policy m) : m.hasKey e = m.hasKey e' := by
  unfold Mapping.hasKey
  rw [same.keyOf? built]

/-! ## Writing -/

theorem Entity.SameStored.set (same : e.SameStored e') {f : Field} (hf : f ∈ τ.fields) (v : Value) :
    Agree Entity.SameStored (e.set f.property v) (e'.set f.property v) := by
  cases converted : Content.convert f.type v with
  | error failure =>
    rw [set_of_refused hf converted e, set_of_refused hf converted e']
    exact .error failure
  | ok c =>
    obtain ⟨written, ok, value⟩ := set_of_converted hf converted e
    obtain ⟨written', ok', value'⟩ := set_of_converted hf converted e'
    rw [ok, ok']
    refine .ok fun g hg stored => ?_
    by_cases here : g.property = f.property
    · rw [here, value, value']
    · rw [valueOf_set_of_ne ok here, valueOf_set_of_ne ok' here]
      exact same g hg stored

theorem Entity.SameStored.set_property (same : e.SameStored e')
    (built : Mapping.Built τ.descriptor policy m) {p : PropertyMapping} (hp : p ∈ m.properties)
    (v : Value) : Agree Entity.SameStored (e.set p.property v) (e'.set p.property v) := by
  obtain ⟨f, hf, rfl⟩ := built.exists_field hp
  exact same.set hf v

end Entity

/-! ## Updates -/

/-- The entries set the same property, and to the same value unless the property is transient. -/
def SameEntry (m : Mapping) (a b : String × Value) : Prop :=
  a.1 = b.1 ∧ (m.isTransient a.1 = false → a.2 = b.2)

def Update.SameStored (m : Mapping) (u v : Update) : Prop :=
  List.Forall₂ (SameEntry m) u.entries v.entries

section Update

variable {u v : Update}

theorem Update.forall₂_put {key : String} {a b : Value} {xs ys : List (String × Value)}
    (entries : List.Forall₂ (SameEntry m) xs ys) (written : SameEntry m (key, a) (key, b)) :
    List.Forall₂ (SameEntry m) (put key a xs) (put key b ys) := by
  induction entries with
  | nil => exact .cons written .nil
  | @cons x y _ _ first later ih =>
    obtain ⟨k, x⟩ := x
    obtain ⟨_, y⟩ := y
    obtain ⟨rfl, value⟩ := first
    rw [put, put]
    split_ifs with here
    · subst here
      exact .cons written later
    · exact .cons ⟨rfl, value⟩ ih

theorem Update.sameStored_ofList {xs ys : List (String × Value)}
    (entries : List.Forall₂ (SameEntry m) xs ys) : SameStored m (ofList xs) (ofList ys) := by
  have all : ∀ {before after : List (String × Value)},
      List.Forall₂ (SameEntry m) before after →
      List.Forall₂ (SameEntry m) (writeAll put xs before) (writeAll put ys after) := by
    induction entries with
    | nil => exact fun same => same
    | @cons x y _ _ first _ ih =>
      intro before after same
      obtain ⟨k, x⟩ := x
      obtain ⟨_, y⟩ := y
      obtain ⟨rfl, value⟩ := first
      exact ih (forall₂_put same ⟨rfl, value⟩)
  unfold SameStored
  rw [entries_ofList, entries_ofList]
  exact all .nil

theorem Update.SameStored.check (same : u.SameStored m v) : u.check = v.check := by
  have empty : u.isEmpty = v.isEmpty := by
    unfold SameStored at same
    unfold isEmpty
    generalize u.entries = xs at same ⊢
    generalize v.entries = ys at same ⊢
    cases same with
    | nil => rfl
    | cons => rfl
  unfold Update.check
  rw [empty]

theorem Update.SameStored.get? (same : u.SameStored m v) {property : String}
    (stored : m.isTransient property = false) : u.get? property = v.get? property := by
  unfold SameStored at same
  unfold Update.get?
  generalize u.entries = xs at same ⊢
  generalize v.entries = ys at same ⊢
  induction same with
  | nil => rfl
  | @cons x y _ _ first _ ih =>
    obtain ⟨name, value⟩ := first
    rw [List.find?_cons, List.find?_cons, ← name]
    cases here : x.1 == property with
    | false => exact ih
    | true =>
      rw [eq_of_beq here] at value
      exact congrArg some (value stored)

theorem Entity.SameStored.updateOf {e e' : Entity τ} (same : e.SameStored e')
    (built : Mapping.Built τ.descriptor policy m) (properties : List String) :
    Agree (Update.SameStored m) (m.updateOf e properties) (m.updateOf e' properties) := by
  have checked : ∀ {xs ys : List (String × Value)}, List.Forall₂ (SameEntry m) xs ys →
      Agree (Update.SameStored m)
        ((Update.ofList xs).check >>= fun _ => pure (Update.ofList xs))
        ((Update.ofList ys).check >>= fun _ => pure (Update.ofList ys)) := by
    intro xs ys entries
    have updates := Update.sameStored_ofList entries
    rw [updates.check]
    exact (Agree.refl (r := fun _ _ => True) (fun _ => trivial) _).bind fun _ _ _ => .ok updates
  unfold Mapping.updateOf
  split_ifs
  · have values := same.map_valueOf built (fun p v => (p.property, v)) m.persistedRest
      fun p => List.mem_of_mem_filter
    rw [values]
    exact checked (List.forall₂_same.mpr fun _ _ => ⟨rfl, fun _ => rfl⟩)
  · refine Agree.bind (r := List.Forall₂ (SameEntry m)) ?_ fun _ _ => checked
    refine Agree.mapM (fun property => ?_) properties
    split_ifs with known
    · refine .ok ⟨rfl, fun stored => ?_⟩
      obtain ⟨p, hp, rfl⟩ := Mapping.exists_persisted known stored
      exact same.valueOf built hp
    · exact .error _

end Update

/-! ## Operations of a repository -/

structure Insertion.SameStored (i j : Insertion τ) : Prop where
  result : i.result = j.result
  entity : i.entity.SameStored j.entity

structure BatchInsertion.SameStored (b c : BatchInsertion τ) : Prop where
  result : b.result = c.result
  entities : List.Forall₂ Entity.SameStored b.entities c.entities

theorem checkEntities_congr {α β : Type} {R : α → β → Prop} {as : List α} {bs : List β}
    (pairs : List.Forall₂ R as bs) : checkEntities as = checkEntities bs := by
  cases pairs with
  | nil => rfl
  | cons => rfl

namespace Repository

variable {S : Service} {insert : Entity τ → Program S (Insertion τ)} {amount : Int64 → Int64}

theorem same_insertEach
    (each : ∀ e e', e.SameStored e' → Program.Same Insertion.SameStored (insert e) (insert e'))
    {es es' : List (Entity τ)} (same : List.Forall₂ Entity.SameStored es es') :
    Program.Same BatchInsertion.SameStored (insertEach insert amount es)
      (insertEach insert amount es') := by
  induction same with
  | nil => exact .done ⟨rfl, .nil⟩
  | @cons e e' rest rest' first later ih =>
    refine (each e e' first).bind fun i j inserted => ?_
    rw [← inserted.result]
    cases i.result with
    | error failure => exact .done ⟨rfl, .cons inserted.entity later⟩
    | ok n =>
      refine ih.bind fun b c others => .done ⟨?_, .cons inserted.entity others.entities⟩
      rw [others.result]

theorem same_insertAll
    (each : ∀ e e', e.SameStored e' → Program.Same Insertion.SameStored (insert e) (insert e'))
    {es es' : List (Entity τ)} (same : List.Forall₂ Entity.SameStored es es') :
    Program.Same BatchInsertion.SameStored (insertAll insert amount es)
      (insertAll insert amount es') := by
  unfold insertAll
  rw [← checkEntities_congr same]
  cases checkEntities es with
  | error failure => exact .done ⟨rfl, same⟩
  | ok => exact same_insertEach each same

theorem same_changeProperties {updateById : Id → Update → Action S Int64}
    (built : Mapping.Built τ.descriptor policy m)
    (each : ∀ id u v, u.SameStored m v → Action.Same (· = ·) (updateById id u) (updateById id v))
    {e e' : Entity τ} (same : e.SameStored e') (properties : List String) :
    Action.Same (· = ·) (changeProperties m updateById e properties)
      (changeProperties m updateById e' properties) := by
  unfold changeProperties
  rw [same.entityId built]
  refine (Action.same_self _).bind ?_
  rintro id _ rfl
  exact (Action.same_lift (same.updateOf built properties)).bind fun u v => each id u v

end Repository

end EntityStore
