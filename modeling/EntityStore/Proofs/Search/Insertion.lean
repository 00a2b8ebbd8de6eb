import EntityStore.Proofs.Conversation
import EntityStore.Proofs.Key
import EntityStore.Proofs.Search.Stored

/-!
# How a document gets its id

The document of a new entity is stored under the key that its caller has chosen, or under an id of
the engine's. The entity then takes that id as its key before it takes the version of the document.
-/

namespace EntityStore.Search

variable {τ : EntityType}

theorem Store.key_kind_of_create {settings : SearchSettings} {d : Store τ}
    (created : Store.create τ settings = .ok d) (engine : d.idPolicy = .engineAssigned) :
    d.mapping.key.kind = .text := by
  obtain ⟨_, -, created⟩ := bind_eq_ok.mp created
  obtain ⟨m, -, created⟩ := bind_eq_ok.mp created
  obtain ⟨_, -, created⟩ := bind_eq_ok.mp created
  split_ifs at created with numbered
  · cases created
  · cases created
    by_contra other
    exact numbered ⟨engine, other⟩

namespace Session

variable {d : Session τ} {e : Entity τ} {xs : List (Exchange service)} {i : Insertion τ}

/-! ## What is said -/

def insertion (d : Session τ) (id : Option String) (e : Entity τ) : IndexRequest :=
  ⟨d.index, d.docType, id, .create, document d.mapping e⟩

def ended (d : Session τ) (e : Entity τ) (chosen : Bool) :
    Except BackendError IndexResponse → Insertion τ
  | .error failure => ⟨.error (classify failure), e⟩
  | .ok response => d.inserted e chosen response

theorem says_insert_of_refused {failure : StoreError} (refused : d.documentId e = .error failure) :
    (d.insert e).Says xs i ↔ xs = [] ∧ i = ⟨.error failure, e⟩ := by
  unfold insert
  rw [refused]
  exact Program.says_done

theorem says_insert_of_ok {id : Option String} (ok : d.documentId e = .ok id) :
    (d.insert e).Says xs i ↔ ∃ answer : Except BackendError IndexResponse,
      xs = [⟨.index (d.insertion id e), answer⟩] ∧ i = d.ended e id.isNone answer := by
  have inserting : ∃ event, d.insert e = .log event (.call (.index (d.insertion id e))
      fun answer => .done (d.ended e id.isNone answer)) := by
    unfold insert
    rw [ok]
    refine ⟨_, congrArg (Program.log _) (congrArg (Program.call _) (funext fun answer => ?_))⟩
    cases answer <;> rfl
  obtain ⟨event, inserting⟩ := inserting
  rw [inserting]
  exact Program.says_answer

theorem engine_of_documentId (engine : d.documentId e = .ok none) :
    d.mapping.hasKey e = false ∧ d.idPolicy = .engineAssigned := by
  unfold documentId at engine
  split_ifs at engine with set
  · obtain ⟨_, -, ⟨⟩⟩ := map_eq_ok.mp engine
  · refine ⟨by simpa using set, ?_⟩
    split at engine
    · assumption
    · cases engine

/-! ## What is left of a failure -/

/-- A document is stored under an id of the engine's, and has a version that its entity cannot
hold. -/
inductive StoredUnfit (d : Session τ) (key : Field) (e : Entity τ) :
    List (Exchange service) → StoreError → Entity τ → Prop where
  | intro (unset : d.mapping.hasKey e = false) (engine : d.idPolicy = .engineAssigned)
    {response : IndexResponse} {keyed : Entity τ}
    (rekeyed : e.Rekeyed key (.text response.id) keyed) {version : Field} (own : version ∈ τ.fields)
    (ofMapping : d.mapping.version = some (version.spec.mapping .search))
    (unfit : ¬ version.type.Fits response.version) :
    StoredUnfit d key e [⟨.index (d.insertion none e), .ok response⟩]
      (.typeMismatch (.outOfRange response.version)) keyed

theorem rekeyed_of_adoptKey {key : Field} (single : τ.fields.filter (·.primaryKey) = [key])
    (hkey : d.mapping.key = key.spec.mapping .search) (textual : d.mapping.key.kind = .text)
    (e : Entity τ) (raw : String) :
    ∃ keyed, d.adoptKey e raw = .ok keyed ∧ e.Rekeyed key (.text raw) keyed := by
  obtain ⟨hmem, -⟩ := EntityType.mem_of_single single
  have kind : key.type.scalar.kind = .text := by
    rw [hkey] at textual
    exact textual
  obtain ⟨keyed, taken, -⟩ := Entity.set_of_converted hmem (Content.convert_text kind raw) e
  refine ⟨keyed, ?_, (Entity.set_eq_ok_iff_rekeyed hmem).mp taken⟩
  have property : d.mapping.key.property = key.property := by rw [hkey]; rfl
  unfold adoptKey parseId
  rw [textual, property]
  exact taken

section

variable (built : Mapping.Built τ.descriptor .search d.mapping)
include built

theorem unfit_of_adoptVersion {keyed : Entity τ} {n : Int64} {failure : StoreError}
    (refused : d.adoptVersion keyed n = .error failure) :
    ∃ version ∈ τ.fields, d.mapping.version = some (version.spec.mapping .search) ∧
      ¬ version.type.Fits n ∧ failure = .typeMismatch (.outOfRange n) := by
  unfold adoptVersion versionProperty? at refused
  cases versioned : d.mapping.version with
  | none =>
    rw [versioned] at refused
    cases refused
  | some p =>
    obtain ⟨hp, integral⟩ := built.version p versioned
    obtain ⟨version, own, rfl⟩ := built.exists_field hp
    rw [versioned] at refused
    have unconverted := (Entity.set_eq_error_iff own).mp refused
    obtain ⟨usable, unusable⟩ := Content.convert_integer (t := version.type) integral n
    by_cases fits : version.type.Fits n
    · obtain ⟨c, converted⟩ := usable fits
      cases converted.symm.trans unconverted
    · cases (unusable fits).symm.trans unconverted
      exact ⟨version, own, rfl, fits, rfl⟩

theorem left_of_insert {key : Field} (single : τ.fields.filter (·.primaryKey) = [key])
    (hkey : d.mapping.key = key.spec.mapping .search)
    (textual : d.idPolicy = .engineAssigned → d.mapping.key.kind = .text) {failure : StoreError}
    {e' : Entity τ} (whole : (d.insert e).Says xs ⟨.error failure, e'⟩) :
    e' = e ∨ d.StoredUnfit key e xs failure e' := by
  cases document : d.documentId e with
  | error refused =>
    obtain ⟨-, same⟩ := (says_insert_of_refused document).mp whole
    cases same
    exact .inl rfl
  | ok id =>
    obtain ⟨answer, rfl, same⟩ := (says_insert_of_ok document).mp whole
    cases answer with
    | error refused =>
      cases same
      exact .inl rfl
    | ok response =>
      unfold ended inserted at same
      cases id with
      | some id =>
        cases versioned : d.adoptVersion e response.version with
        | error failure =>
          simp only [Option.isNone_some, Bool.false_eq_true, if_false, versioned] at same
          cases same
          exact .inl rfl
        | ok e => simp [versioned] at same
      | none =>
        obtain ⟨unset, engine⟩ := engine_of_documentId document
        obtain ⟨keyed, adopted, rekeyed⟩ :=
          rekeyed_of_adoptKey single hkey (textual engine) e response.id
        cases versioned : d.adoptVersion keyed response.version with
        | error failure =>
          simp only [Option.isNone_none, if_true, adopted, versioned] at same
          cases same
          obtain ⟨version, own, ofMapping, unfit, rfl⟩ := unfit_of_adoptVersion built versioned
          exact .inr (.intro unset engine rekeyed own ofMapping unfit)
        | ok e => simp [adopted, versioned] at same

end

end Session

end EntityStore.Search
