import EntityStore.Operation
import EntityStore.Proofs.Relational.Stored
import EntityStore.Proofs.Relational.Writes
import EntityStore.Proofs.Search.Stored
import EntityStore.Proofs.WideColumn.Stored

/-!
# Transient values stay where they are

Entities that differ in transient properties alone are inserted and updated by the same calls and
with the same answers. What a store composes itself writes no column of a transient property.
-/

namespace EntityStore

variable {S : Service} {τ : EntityType}

/-! ## Operations -/

inductive Operation.SameStored : Operation τ → Operation τ → Prop where
  | insert {e e' : Entity τ} (same : e.SameStored e') : SameStored (.insert e) (.insert e')
  | insertBatch {es es' : List (Entity τ)} (same : List.Forall₂ Entity.SameStored es es') :
    SameStored (.insertBatch es) (.insertBatch es')
  | update {e e' : Entity τ} (same : e.SameStored e') : SameStored (.update e) (.update e')
  | updateProperties {e e' : Entity τ} (same : e.SameStored e') (properties : List String) :
    SameStored (.updateProperties e properties) (.updateProperties e' properties)

/-- The answers are the same, and so is what is stored of the entities that were inserted. -/
structure Outcome.SameStored (x y : Outcome τ) : Prop where
  result : x.result = y.result
  inserted : List.Forall₂ Entity.SameStored x.inserted y.inserted

/-- An operation that writes what the store composes, not a statement of the caller's. -/
def Operation.composes : Operation τ → Bool
  | .insert _ | .insertBatch _ | .update _ | .updateProperties _ _ | .updateById _ _
  | .updateByIds _ _ | .updateByCriteria _ _ => true
  | _ => false

namespace Repository

/-- Whatever is answered, transient values have no part in what is called, logged and answered, and
every call of an operation that composes what it writes is as `WritesStored` says. -/
structure Hides (r : Repository S τ) (WritesStored : S.Call → Prop) : Prop where
  same : ∀ {o o' : Operation τ}, o.SameStored o' →
    ∀ {σ : Type} (answer : (c : S.Call) → σ → S.Answer c × σ) (s : σ),
      ((r.perform o).run answer s).calls = ((r.perform o').run answer s).calls ∧
      ((r.perform o).run answer s).events = ((r.perform o').run answer s).events ∧
      ((r.perform o).run answer s).state = ((r.perform o').run answer s).state ∧
      ((r.perform o).run answer s).result.SameStored ((r.perform o').run answer s).result
  stored : ∀ {o : Operation τ}, o.composes = true →
    ∀ {σ : Type} (answer : (c : S.Call) → σ → S.Answer c × σ) (s : σ),
      ∀ c ∈ ((r.perform o).run answer s).calls, WritesStored c

structure Discreet (r : Repository S τ) (WritesStored : S.Call → Prop) : Prop where
  sameInsert : ∀ {e e'}, e.SameStored e' →
    Program.Same Insertion.SameStored (r.insert e) (r.insert e')
  sameInsertBatch : ∀ {es es'}, List.Forall₂ Entity.SameStored es es' →
    Program.Same BatchInsertion.SameStored (r.insertBatch es) (r.insertBatch es')
  sameUpdate : ∀ {e e'}, e.SameStored e' → Action.Same (· = ·) (r.update e) (r.update e')
  sameUpdateProperties : ∀ {e e'}, e.SameStored e' → ∀ properties,
    Action.Same (· = ·) (r.updateProperties e properties) (r.updateProperties e' properties)
  insert : ∀ e, (r.insert e).Asks WritesStored
  insertBatch : ∀ es, (r.insertBatch es).Asks WritesStored
  update : ∀ e, (r.update e).Asks WritesStored
  updateProperties : ∀ e properties, (r.updateProperties e properties).Asks WritesStored
  updateById : ∀ id u, (r.updateById id u).Asks WritesStored
  updateByIds : ∀ ids u, (r.updateByIds ids u).Asks WritesStored
  updateByCriteria : ∀ u c, (r.updateByCriteria u c).Asks WritesStored

section

variable {α : Type} {reply : α → Reply τ} {WritesStored : S.Call → Prop} {r : Repository S τ}

theorem same_outcome {x y : Action S α} (same : x.Same (· = ·) y) :
    Program.Same Outcome.SameStored (outcome reply x) (outcome reply y) := by
  refine Program.Same.bind same fun _ _ agree => .done ?_
  cases agree with
  | ok equal =>
    cases equal
    exact ⟨rfl, .nil⟩
  | error e => exact ⟨rfl, .nil⟩

theorem asks_outcome {x : Action S α} (asks : x.Asks WritesStored) :
    (outcome reply x).Asks WritesStored :=
  Program.asks_bind asks fun _ => trivial

theorem Discreet.same_perform (discreet : r.Discreet WritesStored) {o o' : Operation τ}
    (same : o.SameStored o') : Program.Same Outcome.SameStored (r.perform o) (r.perform o') := by
  cases same with
  | insert same =>
    refine (discreet.sameInsert same).bind fun i j inserted => ?_
    exact .done ⟨congrArg (Except.map Reply.number) inserted.result, .cons inserted.entity .nil⟩
  | insertBatch same =>
    refine (discreet.sameInsertBatch same).bind fun b c inserted => ?_
    exact .done ⟨congrArg (Except.map Reply.number) inserted.result, inserted.entities⟩
  | update same => exact same_outcome (discreet.sameUpdate same)
  | updateProperties same properties =>
    exact same_outcome (discreet.sameUpdateProperties same properties)

theorem Discreet.asks_perform (discreet : r.Discreet WritesStored) {o : Operation τ}
    (composes : o.composes = true) : (r.perform o).Asks WritesStored := by
  cases o with
  | insert e => exact Program.asks_bind (discreet.insert e) fun _ => trivial
  | insertBatch es => exact Program.asks_bind (discreet.insertBatch es) fun _ => trivial
  | update e => exact asks_outcome (discreet.update e)
  | updateProperties e properties => exact asks_outcome (discreet.updateProperties e properties)
  | updateById id u => exact asks_outcome (discreet.updateById id u)
  | updateByIds ids u => exact asks_outcome (discreet.updateByIds ids u)
  | updateByCriteria u c => exact asks_outcome (discreet.updateByCriteria u c)
  | _ => cases composes

theorem Discreet.hides (discreet : r.Discreet WritesStored) : r.Hides WritesStored where
  same related _ answer s := by
    obtain ⟨steps, state, result⟩ := (discreet.same_perform related).run answer s
    refine ⟨?_, ?_, state, result⟩
    · unfold Program.Run.calls
      rw [steps]
    · unfold Program.Run.events
      rw [steps]
  stored composes _ answer s := (discreet.asks_perform composes).calls answer s

end

end Repository

/-! ## Stores -/

namespace Relational.Store

theorem discreet {d : Store τ} (built : Mapping.Built τ.descriptor .relational d.mapping) :
    d.repository.Discreet (Call.WritesStored d.mapping) where
  sameInsert := same_insert built
  sameInsertBatch := same_insertBatch built
  sameUpdate same := same_updateProperties built same []
  sameUpdateProperties := same_updateProperties built
  insert := asks_insert built
  insertBatch := asks_insertBatch built
  update e := asks_updateProperties built e []
  updateProperties := asks_updateProperties built
  updateById := asks_updateById built
  updateByIds := asks_updateByIds built
  updateByCriteria := asks_updateByCriteria built

end Relational.Store

namespace Search.Session

theorem discreet {d : Session τ} (built : Mapping.Built τ.descriptor .search d.mapping)
    (stored : VersionStored d.mapping) :
    d.repository.Discreet (Call.WritesStored d.mapping) where
  sameInsert := same_insert built
  sameInsertBatch := same_insertBatch built
  sameUpdate same := same_updateProperties built stored same []
  sameUpdateProperties := same_updateProperties built stored
  insert := asks_insert built
  insertBatch := asks_insertBatch built
  update e := asks_updateProperties built e []
  updateProperties := asks_updateProperties built
  updateById := asks_updateById built
  updateByIds := asks_updateByIds built
  updateByCriteria := asks_updateByCriteria built

end Search.Session

namespace WideColumn.Store

theorem discreet {d : Store τ} (built : Mapping.Built τ.descriptor .wideColumn d.mapping) :
    d.repository.Discreet (Call.WritesStored d.mapping) where
  sameInsert := same_insert built
  sameInsertBatch := same_insertBatch built
  sameUpdate _ := Action.same_self _
  sameUpdateProperties _ _ := Action.same_self _
  insert := asks_insert built
  insertBatch := asks_insertBatch built
  update _ := trivial
  updateProperties _ _ := trivial
  updateById _ _ := trivial
  updateByIds _ _ := trivial
  updateByCriteria _ _ := trivial

end WideColumn.Store

/-- No store of any kind gives away a transient value. In a search store an update may pin the
version of a document, so that the version has to be stored there. -/
theorem transients_hidden (τ : EntityType) :
    (∀ dialect (d : Relational.Store τ), Relational.Store.create τ dialect = .ok d →
      d.repository.Hides (Relational.Call.WritesStored d.mapping)) ∧
    ((∀ f ∈ τ.fields, f.version = true → f.transient = false) →
      ∀ settings (d : Search.Session τ), Search.Store.create τ settings = .ok d.toStore →
        d.repository.Hides (Search.Call.WritesStored d.mapping)) ∧
    ∀ d : WideColumn.Store τ, WideColumn.Store.create τ = .ok d →
      d.repository.Hides (WideColumn.Call.WritesStored d.mapping) := by
  refine ⟨fun dialect d created => ?_, fun stored settings d created => ?_, fun d created => ?_⟩
  · exact (Relational.Store.discreet (Relational.Store.built_of_create created)).hides
  · have build := Search.Store.build_of_create created
    exact (Search.Session.discreet (Mapping.built_of_build build)
      (Search.versionStored_of_build stored build)).hides
  · exact (WideColumn.Store.discreet (WideColumn.Store.built_of_create created)).hides

def draftId : Field := ⟨"id", ⟨.int64, false⟩, .derived, true, false, false⟩

def draftBody : Field := ⟨"body", ⟨.text, true⟩, .derived, false, false, false⟩

def draftToken : Field := ⟨"token", ⟨.text, true⟩, .missing, false, true, false⟩

def draftRevision : Field := ⟨"revision", ⟨.int64, false⟩, .derived, false, false, true⟩

def drafts : EntityType where
  typeName := "Draft"
  names := { table := some "drafts", index := some "drafts" }
  fields := [draftId, draftBody, draftToken, draftRevision]

def draft (token : String) : Entity drafts where
  slots := [⟨draftId, ⟨.int64 7, rfl⟩⟩, ⟨draftBody, ⟨.text "hello", rfl⟩⟩,
    ⟨draftToken, ⟨.text token, rfl⟩⟩, ⟨draftRevision, ⟨.int64 2, rfl⟩⟩]
  shape := rfl

theorem draft_sameStored (a b : String) : (draft a).SameStored (draft b) := by
  intro f hf stored
  simp only [drafts, List.mem_cons, List.not_mem_nil, or_false] at hf
  rcases hf with rfl | rfl | rfl | rfl
  · rfl
  · rfl
  · cases stored
  · rfl

theorem drafts_hidden :
    ∃ (d : Relational.Store drafts) (s : Search.Session drafts) (w : WideColumn.Store drafts),
      Relational.Store.create drafts .mysql = .ok d ∧
      (∀ f ∈ drafts.fields, f.version = true → f.transient = false) ∧
      Search.Store.create drafts { serverAddressList := "localhost:9300" } = .ok s.toStore ∧
      WideColumn.Store.create drafts = .ok w ∧
      (draft "one").SameStored (draft "another") ∧ draft "one" ≠ draft "another" ∧
      d.repository.Hides (Relational.Call.WritesStored d.mapping) ∧
      s.repository.Hides (Search.Call.WritesStored s.mapping) ∧
      w.repository.Hides (WideColumn.Call.WritesStored w.mapping) := by
  obtain ⟨relational, search, wideColumn⟩ := transients_hidden drafts
  obtain ⟨d, hd⟩ := refusal?_eq_none.mp
    (show refusal? (Relational.Store.create drafts .mysql) = none by decide +kernel)
  obtain ⟨s, hs⟩ := refusal?_eq_none.mp
    (show refusal? (Search.Store.create drafts { serverAddressList := "localhost:9300" }) = none by
      decide +kernel)
  obtain ⟨w, hw⟩ := refusal?_eq_none.mp
    (show refusal? (WideColumn.Store.create drafts) = none by decide +kernel)
  have stored : ∀ f ∈ drafts.fields, f.version = true → f.transient = false := by decide
  have differ : draft "one" ≠ draft "another" := by
    intro same
    have tokens : (draft "one").valueOf "token" = (draft "another").valueOf "token" := by rw [same]
    exact absurd (Value.text.inj tokens) (by decide)
  exact ⟨d, ⟨s, "drafts"⟩, w, hd, stored, hs, hw, draft_sameStored _ _, differ, relational _ d hd,
    search stored _ ⟨s, "drafts"⟩ hs, wideColumn w hw⟩

end EntityStore
