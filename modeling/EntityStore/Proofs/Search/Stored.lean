import EntityStore.Proofs.Search.Index
import EntityStore.Proofs.Stored

/-!
# What a search store keeps to itself

The documents, ids and versions that are sent are the same for entities that differ in transient
properties alone. The fields of a document are those of stored properties.
-/

namespace EntityStore.Search

variable {τ : EntityType} {m : Mapping}

/-! ## Documents -/

/-- A call whose document, where it has one, has fields of stored properties. -/
def Call.WritesStored (m : Mapping) : Call → Prop
  | .index request => ∀ field ∈ request.source, m.Stores field.1
  | .update request => ∀ field ∈ request.doc, m.Stores field.1
  | _ => True

theorem FieldsOf.stores (built : Mapping.Built τ.descriptor .search m) {doc : Document}
    (fields : FieldsOf m doc) : ∀ field ∈ doc, m.Stores field.1 := by
  intro field mem
  obtain ⟨p, hp, indexed, column⟩ := fields field mem
  exact column ▸ built.stores_column hp indexed.1

theorem document_congr (built : Mapping.Built τ.descriptor .search m) {e e' : Entity τ}
    (same : e.SameStored e') : document m e = document m e' := by
  refine congrArg Document.ofFields (List.filterMap_congr fun p hp => ?_)
  rw [same.valueOf built (List.mem_of_mem_filter hp)]

theorem updateFields_congr {xs ys : List (String × Value)}
    (same : List.Forall₂ (SameEntry m) xs ys) : updateFields m xs = updateFields m ys := by
  induction same with
  | nil => rfl
  | @cons x y _ _ first _ ih =>
    obtain ⟨property, x⟩ := x
    obtain ⟨_, y⟩ := y
    obtain ⟨rfl, value⟩ := first
    rw [updateFields, updateFields, ih]
    cases found : m.property? property with
    | none => rfl
    | some p =>
      cases hidden : p.transient with
      | true => simp only [hidden, if_true]
      | false =>
        have stored : m.isTransient property = false := by
          rw [Mapping.isTransient, found, Option.any_some, hidden]
        have same : x = y := value stored
        rw [same]

theorem partialDocument_congr {u v : Update} (same : u.SameStored m v) :
    partialDocument m u = partialDocument m v := by
  unfold partialDocument
  rw [updateFields_congr same]

/-! ## Operations -/

theorem Store.build_of_create {settings : SearchSettings} {d : Store τ}
    (created : Store.create τ settings = .ok d) :
    Mapping.build τ.descriptor .search = .ok d.mapping := by
  obtain ⟨_, -, created⟩ := bind_eq_ok.mp created
  obtain ⟨m, built, created⟩ := bind_eq_ok.mp created
  obtain ⟨_, -, created⟩ := bind_eq_ok.mp created
  split_ifs at created
  · cases created
  · cases created
    exact built

def VersionStored (m : Mapping) : Prop := ∀ p, m.version = some p → p.transient = false

theorem versionStored_of_build (stored : ∀ f ∈ τ.fields, f.version = true → f.transient = false)
    (build : Mapping.build τ.descriptor .search = .ok m) : VersionStored m := by
  intro p versioned
  obtain ⟨f, hf, version, rfl⟩ := Mapping.exists_version_of_build build versioned
  obtain ⟨g, hg, rfl⟩ := List.mem_map.mp hf
  exact stored g hg version

namespace Session

variable {d : Session τ}

section

variable (built : Mapping.Built τ.descriptor .search d.mapping) {e e' : Entity τ}
include built

/-! ### Insertions -/

theorem documentId_congr (same : e.SameStored e') : d.documentId e = d.documentId e' := by
  unfold documentId
  rw [same.hasKey built, same.entityId built]

theorem agree_adoptKey (same : e.SameStored e') (raw : String) :
    Agree Entity.SameStored (d.adoptKey e raw) (d.adoptKey e' raw) := by
  refine Agree.bind (r := (· = ·)) (.refl (fun _ => rfl) _) ?_
  rintro id _ rfl
  exact same.set_property built (Mapping.mem_properties built.key_mem) id.toValue

theorem agree_adoptVersion (same : e.SameStored e') (version : Int64) :
    Agree Entity.SameStored (d.adoptVersion e version) (d.adoptVersion e' version) := by
  unfold adoptVersion versionProperty?
  cases versioned : d.mapping.version with
  | none => exact .ok same
  | some p => exact same.set_property built (built.version p versioned).1 (.int64 version)

theorem sameStored_inserted (same : e.SameStored e') (chosen : Bool) (response : IndexResponse) :
    (d.inserted e chosen response).SameStored (d.inserted e' chosen response) := by
  have keyed : Agree Entity.SameStored (if chosen then d.adoptKey e response.id else .ok e)
      (if chosen then d.adoptKey e' response.id else .ok e') := by
    split_ifs
    · exact agree_adoptKey built same response.id
    · exact .ok same
  unfold inserted
  generalize (if chosen then d.adoptKey e response.id else .ok e) = x at keyed ⊢
  generalize (if chosen then d.adoptKey e' response.id else .ok e') = y at keyed ⊢
  cases keyed with
  | error failure => exact ⟨rfl, same⟩
  | @ok a b related =>
    have versioned := agree_adoptVersion built related response.version
    dsimp only
    generalize d.adoptVersion a response.version = x at versioned ⊢
    generalize d.adoptVersion b response.version = y at versioned ⊢
    cases versioned with
    | error failure => exact ⟨rfl, related⟩
    | ok final => exact ⟨rfl, final⟩

theorem same_insert (same : e.SameStored e') :
    Program.Same Insertion.SameStored (d.insert e) (d.insert e') := by
  unfold insert
  rw [← documentId_congr built same, ← document_congr built same]
  cases d.documentId e with
  | error failure => exact .done ⟨rfl, same⟩
  | ok id =>
    refine (Program.same_self _).bind ?_
    rintro (failure | response) _ rfl
    · exact .done ⟨rfl, same⟩
    · exact .done (sameStored_inserted built same id.isNone response)

theorem same_insertBatch {es es' : List (Entity τ)}
    (same : List.Forall₂ Entity.SameStored es es') :
    Program.Same BatchInsertion.SameStored (d.insertBatch es) (d.insertBatch es') :=
  Repository.same_insertAll (fun _ _ => same_insert built) same

/-! ### Updates -/

theorem versionOf_congr (stored : VersionStored d.mapping) {u v : Update}
    (same : u.SameStored d.mapping v) : d.versionOf u = d.versionOf v := by
  have value : (versionProperty? d.mapping).bind u.get? =
      (versionProperty? d.mapping).bind v.get? := by
    unfold versionProperty?
    cases versioned : d.mapping.version with
    | none => rfl
    | some p =>
      have shown : d.mapping.isTransient p.property = false := by
        rw [built.isTransient (built.version p versioned).1, stored p versioned]
      exact same.get? shown
  unfold versionOf
  rw [value]

theorem updateById_congr (stored : VersionStored d.mapping) {u v : Update}
    (same : u.SameStored d.mapping v) (id : Id) : d.updateById id u = d.updateById id v := by
  unfold updateById updateRequest
  rw [same.check, versionOf_congr built stored same, partialDocument_congr same]

theorem same_updateProperties (stored : VersionStored d.mapping) (same : e.SameStored e')
    (properties : List String) :
    Action.Same (· = ·) (d.updateProperties e properties) (d.updateProperties e' properties) := by
  refine Repository.same_changeProperties built (fun id u v sets => ?_) same properties
  rw [updateById_congr built stored sets]
  exact Action.same_self _

/-! ### Fields -/

theorem asks_insert (e : Entity τ) : Program.Asks (Call.WritesStored d.mapping) (d.insert e) := by
  unfold insert
  cases d.documentId e with
  | error failure => trivial
  | ok id =>
    refine Program.asks_bind ?_ fun r => ?_
    · exact Action.asks_bind trivial fun _ =>
        Action.asks_call ((fieldsOf_document e).stores built)
    · cases r <;> trivial

theorem asks_insertBatch (es : List (Entity τ)) :
    Program.Asks (Call.WritesStored d.mapping) (d.insertBatch es) :=
  Repository.asks_insertAll (asks_insert built) es

omit built in
theorem asks_search (request : SearchRequest) :
    (d.search request).Asks (Call.WritesStored d.mapping) :=
  Action.asks_bind trivial fun _ => Action.asks_call trivial

omit built in
theorem asks_sendUpdate {id : Id} {request : UpdateRequest}
    (fields : ∀ field ∈ request.doc, d.mapping.Stores field.1) :
    (d.sendUpdate id request).Asks (Call.WritesStored d.mapping) := by
  refine Action.asks_bind trivial fun _ => ?_
  refine Action.asks_bind ⟨fields, fun _ => trivial⟩ fun r => ?_
  cases r with
  | ok response => trivial
  | error failure =>
    dsimp only
    split_ifs
    · -- The document of the second try is that of the first.
      refine Action.asks_bind trivial fun _ => Action.asks_bind ?_ fun _ => Action.asks_call fields
      exact Action.asks_bind trivial fun _ => Action.asks_call trivial
    · trivial

theorem asks_updateById (id : Id) (u : Update) :
    (d.updateById id u).Asks (Call.WritesStored d.mapping) := by
  refine Action.asks_check fun _ _ => Action.asks_check fun _ _ => ?_
  refine Action.asks_check fun request ok => ?_
  obtain ⟨version, doc, -, compiled, rfl⟩ := updateRequest_eq_ok.mp ok
  have fields := (fieldsOf_partialDocument compiled).stores built
  exact Action.asks_bind (asks_sendUpdate fields) fun _ => trivial

theorem asks_updateProperties (e : Entity τ) (properties : List String) :
    (d.updateProperties e properties).Asks (Call.WritesStored d.mapping) :=
  Action.asks_check fun id _ => Action.asks_check fun u _ => asks_updateById built id u

theorem asks_updateEach (u : Update) (ids : List Id) :
    (d.updateEach u ids).Asks (Call.WritesStored d.mapping) := by
  induction ids with
  | nil => trivial
  | cons id rest ih =>
    exact Action.asks_bind (asks_updateById built id u) fun _ =>
      Action.asks_bind ih fun _ => trivial

theorem asks_updateByIds (ids : List Id) (u : Update) :
    (d.updateByIds ids u).Asks (Call.WritesStored d.mapping) :=
  Action.asks_check fun _ _ => Action.asks_check fun _ _ => Action.asks_check fun _ _ =>
    asks_updateEach built u ids

theorem asks_updateByCriteria (u : Update) (c : Criteria) :
    (d.updateByCriteria u c).Asks (Call.WritesStored d.mapping) := by
  refine Action.asks_check fun _ _ => Action.asks_check fun _ _ => ?_
  refine Action.asks_bind ?_ fun count => ?_
  · exact Action.asks_check fun _ _ => Action.asks_check fun request _ =>
      Action.asks_bind (asks_search request) fun _ => trivial
  dsimp only
  split_ifs
  · trivial
  · trivial
  · refine Action.asks_check fun request _ => Action.asks_bind (asks_search _) fun response => ?_
    rw [Action.mapM_liftM]
    refine Action.asks_check fun ids _ => ?_
    split_ifs
    · trivial
    · exact asks_updateByIds built ids u

end

end Session

end EntityStore.Search
