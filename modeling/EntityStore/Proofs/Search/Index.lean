import EntityStore.Proofs.Search.Retry
import EntityStore.Proofs.Search.Writes

/-!
# The documents of an index

A search engine keeps a version of every document and raises it with every update that it applies.
It reports the version with the document, and refuses an update that names another than the current
one. An entity that is found in a document that was written for an entity has that version.
-/

namespace EntityStore.Search

/-! ## Engines -/

structure Stored where
  version : Int64
  fields : Document

abbrev Documents := String → Option Stored

def Documents.put (docs : Documents) (id : String) (stored : Stored) : Documents :=
  fun other => if other = id then some stored else docs other

/-- How an engine may answer a call about the documents of its index, whether it applies an update,
and which documents it is left with. An update that names no version may be applied or not, and one
that is applied may be answered with anything. -/
inductive Takes (docs : Documents) : Exchange service → Bool → Documents → Prop where
  | found {index : String} {docType : Option String} {id : String}
    {stored : Stored} (here : docs id = some stored) :
    Takes docs ⟨.get index docType id,
      .ok (some ⟨id, some stored.version, .object stored.fields⟩)⟩ false docs
  | missing {index : String} {docType : Option String} {id : String}
    (here : docs id = none) : Takes docs ⟨.get index docType id, .ok none⟩ false docs
  | failed {index : String} {docType : Option String} {id : String}
    (failure : BackendError) : Takes docs ⟨.get index docType id, .error failure⟩ false docs
  | refreshed {index : String} (answer : Except BackendError Unit) :
    Takes docs ⟨.refresh index, answer⟩ false docs
  | applied {request : UpdateRequest} {old : Stored} {version : Int64}
    (here : docs request.id = some old)
    (accepted : request.version = .any ∨ request.version = .pinned old.version)
    (raised : old.version < version) (answer : Except BackendError WriteResponse) :
    Takes docs ⟨.update request, answer⟩ true
      (docs.put request.id ⟨version, old.fields.merge request.doc⟩)
  | refused {request : UpdateRequest} {answer : Except BackendError WriteResponse}
    (unchanged : ∀ response, answer = .ok response → changed response = 0)
    (conflict : ∀ stored version, docs request.id = some stored →
      request.version = .pinned version → version ≠ stored.version →
      ∃ failure, answer = .error failure ∧ failure.fault = .versionConflict) :
    Takes docs ⟨.update request, answer⟩ false docs

structure Event where
  task : Nat
  exchange : Exchange service
  applied : Bool

def Event.Changes (id : String) (x : Event) : Prop :=
  x.applied = true ∧ ∃ request, x.exchange.call = .update request ∧ request.id = id

/-- The events, in their order, take the engine from the first documents to the second. -/
inductive Served : Documents → List Event → Documents → Prop where
  | nil {docs : Documents} : Served docs [] docs
  | cons {docs between after : Documents} {x : Event} {later : List Event}
    (takes : Takes docs x.exchange x.applied between) (served : Served between later after) :
    Served docs (x :: later) after

variable {docs after : Documents} {id : String} {old : Stored}

theorem served_append {xs ys : List Event} :
    Served docs (xs ++ ys) after ↔ ∃ between, Served docs xs between ∧ Served between ys after := by
  induction xs generalizing docs with
  | nil =>
    constructor
    · exact fun h => ⟨docs, .nil, h⟩
    · rintro ⟨_, ⟨⟩, h⟩
      exact h
  | cons x rest ih =>
    constructor
    · rintro (_ | ⟨takes, served⟩)
      obtain ⟨between, first, second⟩ := ih.mp served
      exact ⟨between, .cons takes first, second⟩
    · rintro ⟨between, _ | ⟨takes, first⟩, second⟩
      exact .cons takes (ih.mpr ⟨between, first, second⟩)

/-! ## Versions -/

theorem version_of_takes {x : Event} (takes : Takes docs x.exchange x.applied after)
    (here : docs id = some old) :
    ∃ new, after id = some new ∧ old.version ≤ new.version ∧
      (x.Changes id → old.version < new.version) := by
  obtain ⟨task, exchange, applied⟩ := x
  cases takes with
  | @applied request before version there accepted raised answer =>
    by_cases same : id = request.id
    · subst same
      obtain rfl := Option.some.inj (here.symm.trans there)
      exact ⟨_, if_pos rfl, Int64.le_of_lt raised, fun _ => raised⟩
    · refine ⟨old, (if_neg same).trans here, Int64.le_refl _, ?_⟩
      rintro ⟨-, _, ⟨⟩, rfl⟩
      exact absurd rfl same
  | _ => exact ⟨old, here, Int64.le_refl _, fun changes => nomatch changes.1⟩

theorem version_of_served {events : List Event} (served : Served docs events after)
    (here : docs id = some old) :
    ∃ new, after id = some new ∧ old.version ≤ new.version ∧
      ((∃ x ∈ events, x.Changes id) → old.version < new.version) := by
  induction served generalizing old with
  | nil => exact ⟨old, here, Int64.le_refl _, by simp⟩
  | cons takes _ ih =>
    obtain ⟨middle, hmiddle, le, lt⟩ := version_of_takes takes here
    obtain ⟨new, hnew, le', lt'⟩ := ih hmiddle
    refine ⟨new, hnew, Int64.le_trans le le', ?_⟩
    rintro ⟨x, mem, changes⟩
    rcases List.mem_cons.mp mem with rfl | mem
    · exact Int64.lt_of_lt_of_le (lt changes) le'
    · exact Int64.lt_of_le_of_lt le (lt' ⟨x, mem, changes⟩)

theorem applied_of_changed {applied : Bool} {request : UpdateRequest} {response : WriteResponse}
    (takes : Takes docs ⟨.update request, .ok response⟩ applied after)
    (done : changed response ≠ 0) : applied = true := by
  cases takes with
  | applied => rfl
  | refused unchanged conflict => exact absurd (unchanged response rfl) done

theorem stored_of_found {index : String} {docType : Option String} {hit : SearchHit}
    {applied : Bool} (takes : Takes docs ⟨.get index docType id, .ok (some hit)⟩ applied after) :
    after = docs ∧ ∃ stored, docs id = some stored ∧
      hit = ⟨id, some stored.version, .object stored.fields⟩ := by
  cases takes with
  | found here => exact ⟨rfl, _, here, rfl⟩

/-- The event is an update of the document that was applied at the version that it names. -/
def Event.Pins (id : String) (version : Int64) (x : Event) : Prop :=
  x.applied = true ∧ ∃ request, x.exchange.call = .update request ∧ request.id = id ∧
    request.version = .pinned version

theorem Event.Pins.changes {version : Int64} {x : Event} (pins : x.Pins id version) :
    x.Changes id := by
  obtain ⟨applied, request, call, same, -⟩ := pins
  exact ⟨applied, request, call, same⟩

theorem version_of_pins {x : Event} {version : Int64}
    (takes : Takes docs x.exchange x.applied after)
    (pins : x.Pins id version) : ∃ old, docs id = some old ∧ old.version = version := by
  obtain ⟨applied, request, call, rfl, pinned⟩ := pins
  obtain ⟨task, exchange, _⟩ := x
  cases takes with
  | @applied request before _ here accepted raised answer =>
    cases call
    rw [pinned] at accepted
    rcases accepted with ⟨⟨⟩⟩ | same
    exact ⟨before, here, (VersionSpec.pinned.inj same).symm⟩
  | _ => cases applied

/-- Up to an update that names the version which a document has, nothing changes the document. -/
theorem unchanged_before_pinned {xs ys : List Event} {y : Event}
    (served : Served docs (xs ++ y :: ys) after) (here : docs id = some old)
    (pins : y.Pins id old.version) : ∀ x ∈ xs, ¬ x.Changes id := by
  intro x mem changes
  obtain ⟨between, first, _ | ⟨takes, -⟩⟩ := served_append.mp served
  obtain ⟨new, hnew, -, risen⟩ := version_of_served first here
  obtain ⟨current, hcurrent, same⟩ := version_of_pins takes pins
  obtain rfl := Option.some.inj (hnew.symm.trans hcurrent)
  have lt := risen ⟨x, mem, changes⟩
  rw [same] at lt
  exact Int64.lt_irrefl lt

def Event.Reads (id : String) (version : Int64) (x : Event) : Prop :=
  ∃ index docType source,
    x.exchange = ⟨.get index docType id, .ok (some ⟨id, some version, source⟩)⟩

theorem version_of_reads {version : Int64} {x : Event}
    (takes : Takes docs x.exchange x.applied after) (reads : x.Reads id version) :
    after = docs ∧ ∃ stored, docs id = some stored ∧ stored.version = version := by
  obtain ⟨index, docType, source, exchange⟩ := reads
  rw [exchange] at takes
  obtain ⟨rfl, stored, here, hit⟩ := stored_of_found takes
  refine ⟨rfl, stored, here, ?_⟩
  simpa using (congrArg SearchHit.version hit).symm

theorem exists_between {history : List Event} {x y : Event} (hx : x ∈ history) (hy : y ∈ history)
    (ne : x ≠ y) :
    (∃ before between later, history = before ++ x :: between ++ y :: later) ∨
      ∃ before between later, history = before ++ y :: between ++ x :: later := by
  obtain ⟨before, later, rfl⟩ := List.append_of_mem hx
  rcases List.mem_append.mp hy with mem | mem
  · obtain ⟨first, second, rfl⟩ := List.append_of_mem mem
    exact .inr ⟨first, second, later, rfl⟩
  · obtain ⟨first, second, rfl⟩ :=
      List.append_of_mem ((List.mem_cons.mp mem).resolve_left (Ne.symm ne))
    exact .inl ⟨before, first, second, by simp⟩

/-- An update that was applied at the version of a lookup comes after it, and nothing has changed
the document in between. -/
theorem unchanged_since_read {history : List Event} (served : Served docs history after)
    {read write : Event} (hread : read ∈ history) (hwrite : write ∈ history) {version : Int64}
    (reads : read.Reads id version) (pins : write.Pins id version) :
    ∃ before between later, history = before ++ read :: between ++ write :: later ∧
      ∀ x ∈ between, ¬ x.Changes id := by
  have ne : read ≠ write := by
    rintro rfl
    obtain ⟨_, _, _, exchange⟩ := reads
    obtain ⟨-, _, call, -⟩ := pins
    rw [exchange] at call
    cases call
  rcases exists_between hread hwrite ne with ⟨before, between, later, rfl⟩ |
    ⟨before, between, later, rfl⟩
  · refine ⟨before, between, later, rfl, ?_⟩
    rw [List.append_assoc] at served
    obtain ⟨_, -, _ | ⟨takes, served⟩⟩ := served_append.mp served
    obtain ⟨rfl, stored, here, rfl⟩ := version_of_reads takes reads
    exact unchanged_before_pinned served here pins
  · -- The version has risen with the update, so that it could not be read any more.
    obtain ⟨_, written, _ | ⟨takes, -⟩⟩ := served_append.mp served
    obtain ⟨-, stored, here, rfl⟩ := version_of_reads takes reads
    obtain ⟨_, -, _ | ⟨applying, served⟩⟩ := served_append.mp written
    obtain ⟨old, hold, same⟩ := version_of_pins applying pins
    obtain ⟨new, hnew, -, risen⟩ := version_of_served (.cons applying served) hold
    obtain rfl := Option.some.inj (here.symm.trans hnew)
    have lt := risen ⟨write, List.mem_cons_self, pins.changes⟩
    rw [same] at lt
    exact absurd lt Int64.lt_irrefl

theorem pinned_once {history : List Event} (served : Served docs history after) {x y : Event}
    (hx : x ∈ history) (hy : y ∈ history) {version : Int64} (first : x.Pins id version)
    (second : y.Pins id version) : x = y := by
  have never : ∀ {x y : Event} {before between later : List Event},
      Served docs (before ++ x :: between ++ y :: later) after → x.Pins id version →
      y.Pins id version → False := by
    intro x y before between later served first second
    rw [List.append_assoc] at served
    obtain ⟨middle, -, served⟩ := served_append.mp served
    obtain ⟨old, here, rfl⟩ : ∃ old, middle id = some old ∧ old.version = version := by
      cases served with
      | cons takes _ => exact version_of_pins takes first
    exact unchanged_before_pinned served here second x List.mem_cons_self first.changes
  by_contra ne
  rcases exists_between hx hy ne with ⟨before, between, later, rfl⟩ | ⟨before, between, later, rfl⟩
  · exact never served first second
  · exact never served second first

/-! ## Documents of entities -/

variable {τ : EntityType} {m : Mapping} {name : String} {doc : Document}

/-- A document that the stores of an entity type have written: one that was inserted, under its key
or under an id of the engine, and updated any number of times. -/
inductive Written (τ : EntityType) (m : Mapping) : String → Document → Prop where
  | inserted {e : Entity τ} {id : Id} (keyed : m.entityId e = .ok id) :
    Written τ m id.display (document m e)
  | assigned (text : m.key.kind = .text) (name : String) (e : Entity τ) :
    Written τ m name (document m e)
  | updated {name : String} {doc newer : Document} {u : Update} (written : Written τ m name doc)
    (ok : partialDocument m u = .ok newer) : Written τ m name (doc.merge newer)

theorem Written.exists_key (built : Mapping.Built τ.descriptor .search m)
    (written : Written τ m name doc) : ∃ id, parseId m name = .ok id ∧ id.display = name := by
  induction written with
  | inserted keyed => exact ⟨_, parseId_display built (Mapping.keyOf?_of_entityId keyed), rfl⟩
  | assigned text name e =>
    refine ⟨.text name, ?_, rfl⟩
    unfold parseId
    rw [text]
  | updated _ _ ih => exact ih

theorem Written.sorted (written : Written τ m name doc) : doc.Sorted := by
  induction written with
  | inserted => exact Document.sorted_ofFields _
  | assigned => exact Document.sorted_ofFields _
  | updated _ _ ih => exact Document.overwrites_insert.fit_writeAll ih

/-- The fields are those of stored properties other than the version. -/
def FieldsOf (m : Mapping) (doc : Document) : Prop :=
  ∀ field ∈ doc, ∃ p ∈ m.properties, Indexed m p ∧ p.column = field.1

theorem fieldsOf_document (e : Entity τ) : FieldsOf m (document m e) := by
  intro field hfield
  obtain ⟨p, hp, indexed, rfl⟩ := property_of_mem_document hfield
  exact ⟨p, hp, indexed, rfl⟩

theorem fieldsOf_partialDocument {u : Update} (ok : partialDocument m u = .ok doc) :
    FieldsOf m doc := by
  intro field hfield
  obtain ⟨entry, -, p, hp, indexed, rfl⟩ := entry_of_mem_partialDocument ok hfield
  exact ⟨p, (Mapping.mem_of_property? hp).1, indexed, rfl⟩

theorem Written.fieldsOf (written : Written τ m name doc) : FieldsOf m doc := by
  induction written with
  | inserted => exact fieldsOf_document _
  | assigned => exact fieldsOf_document _
  | updated written ok ih =>
    intro field hfield
    rcases Document.overwrites_insert.mem_writeAll written.sorted hfield with new | ⟨-, old⟩
    · exact fieldsOf_partialDocument ok field new
    · exact ih field old

/-- Every document of the index was written by the stores, and has had a version from the first. -/
def Kept (τ : EntityType) (m : Mapping) (docs : Documents) : Prop :=
  ∀ name stored, docs name = some stored → Written τ m name stored.fields ∧ 1 ≤ stored.version

theorem kept_of_takes {exchange : Exchange service} {applied : Bool} (kept : Kept τ m docs)
    (ours : ∀ request, exchange.call = .update request → ∃ u, partialDocument m u = .ok request.doc)
    (takes : Takes docs exchange applied after) : Kept τ m after := by
  cases takes with
  | @applied request old version here accepted raised answer =>
    intro name stored found
    unfold Documents.put at found
    split_ifs at found with same
    · cases found
      subst same
      obtain ⟨written, least⟩ := kept _ _ here
      obtain ⟨u, ok⟩ := ours request rfl
      exact ⟨written.updated ok, Int64.le_trans least (Int64.le_of_lt raised)⟩
    · exact kept name stored found
  | _ => exact kept

theorem kept_of_served {events : List Event} (kept : Kept τ m docs)
    (ours : ∀ x ∈ events, ∀ request, x.exchange.call = .update request →
      ∃ u, partialDocument m u = .ok request.doc) (served : Served docs events after) :
    Kept τ m after := by
  induction served with
  | nil => exact kept
  | cons takes _ ih =>
    exact ih (kept_of_takes kept (ours _ List.mem_cons_self) takes)
      fun x mem => ours x (List.mem_cons_of_mem _ mem)

/-! ## Found entities -/

/-- What a hit itself has for a property: its key, or the version that the engine reports. -/
inductive Own (m : Mapping) (id : Id) (version : Option Int64) : PropertyMapping → Value → Prop where
  | key : Own m id version m.key id.toValue
  | version {pv : PropertyMapping} {v : Int64} (versioned : m.version = some pv)
    (reported : version = some v) : Own m id version pv (.int64 v)

section

variable {id : Id} {p : PropertyMapping} {value : Value}

theorem Own.mem (built : Mapping.Built τ.descriptor .search m) {version : Option Int64}
    (own : Own m id version p value) : p ∈ m.properties := by
  cases own with
  | key => exact Mapping.mem_properties built.key_mem
  | version versioned => exact (built.version _ versioned).1

theorem Own.present {version : Option Int64} (own : Own m id version p value) :
    value.isNull = false := by
  cases own with
  | key => cases id <;> rfl
  | version => rfl

/-- In the row of a document, what the hit has for a property stands in the place of the field that
is named as the column is, and of no other. -/
theorem mem_rowOfHit (built : Mapping.Built τ.descriptor .search m)
    (separate : m.version ≠ some m.key) (hit : SearchHit)
    (distinct : Distinct (Row.ofDocument hit.source)) (own : Own m id hit.version p value)
    (cell : String × Value) (found : m.propertyOfColumn? cell.1 = some p) :
    cell ∈ rowOfHit m id hit ↔
      cell = (p.column, value) ∨ cell.1 ≠ p.column ∧ cell ∈ Row.ofDocument hit.source := by
  obtain ⟨raw, version, source⟩ := hit
  have keyed : cell ∈ (Row.ofDocument source).put m.key.column id.toValue ↔ _ :=
    Row.overwrites_put.mem distinct cell
  have elsewhere : ∀ {q : PropertyMapping}, q ∈ m.properties → p ≠ q → cell.1 ≠ q.column := by
    rintro q hq ne same
    rw [same, built.propertyOfColumn?_column hq, Option.some.injEq] at found
    exact ne found.symm
  cases own with
  | key =>
    cases versioned : m.version with
    | none =>
      rw [rowOfHit_unversioned versioned]
      exact keyed
    | some pv =>
      cases version with
      | none =>
        rw [rowOfHit_unreported rfl]
        exact keyed
      | some v =>
        have other := elsewhere (built.version pv versioned).1
          fun same => separate (versioned.trans (congrArg some same.symm))
        rw [rowOfHit_versioned built versioned, Row.mem_put_elsewhere
          (Row.overwrites_put.fit distinct) other]
        exact keyed
  | version versioned reported =>
    cases reported
    have other := elsewhere (Mapping.mem_properties built.key_mem)
      fun same => separate (versioned.trans (congrArg some same))
    rw [rowOfHit_versioned built versioned,
      Row.overwrites_put.mem (Row.overwrites_put.fit distinct), Row.mem_put_elsewhere distinct other]

end

theorem propertyOfColumn?_of_fieldsOf (built : Mapping.Built τ.descriptor .search m)
    (fields : FieldsOf m doc) {cell : String × Value}
    (mem : cell ∈ Row.ofDocument (.object doc)) :
    ∃ p, m.propertyOfColumn? cell.1 = some p ∧ Indexed m p ∧ p.column = cell.1 := by
  obtain ⟨field, hfield, rfl⟩ := List.mem_map.mp mem
  obtain ⟨p, hp, indexed, column⟩ := fields field hfield
  exact ⟨p, column ▸ built.propertyOfColumn?_column hp, indexed, column⟩

theorem kind_of_parseId (built : Mapping.Built τ.descriptor .search m) {raw : String} {id : Id}
    (ok : parseId m raw = .ok id) : id.toValue.kind = m.key.kind := by
  unfold parseId at ok
  rcases built.key_kind with kind | kind | kind
  · rw [kind] at ok ⊢
    cases parsed : Text.readInt64? raw with
    | none => simp [parsed] at ok
    | some n =>
      simp only [parsed, Option.map_some] at ok
      cases ok
      rfl
  · rw [kind] at ok ⊢
    cases parsed : Text.readInt32? raw with
    | none => simp [parsed] at ok
    | some n =>
      simp only [parsed, Option.map_some] at ok
      cases ok
      rfl
  · rw [kind] at ok ⊢
    cases ok
    rfl

theorem Scalar.integer?_of_convert {s : Scalar} {n : Int64} {held : s.Held}
    (integral : s.kind = .int64 ∨ s.kind = .int32) (ok : s.convert (.int64 n) = .ok held) :
    integer? held.val = some n.toInt := by
  cases s with
  | int64 => cases ok; rfl
  | int32 =>
    rw [Scalar.convert] at ok
    split_ifs at ok with range
    cases ok
    exact congrArg some (toInt_toInt32 range)
  | float64 => cases integral <;> contradiction
  | text => cases integral <;> contradiction
  | boolean => cases integral <;> contradiction

theorem eq_of_converts_key (built : Mapping.Built τ.descriptor .search m) {raw : String} {id : Id}
    (parsed : parseId m raw = .ok id) {w : Value}
    (converts : τ.Converts m.key.property id.toValue w) : w = id.toValue := by
  obtain ⟨t, kind, c, hc, rfl⟩ :=
    built.convert_of_converts (Mapping.mem_properties built.key_mem) converts
  have held := (kind_of_parseId built parsed).trans kind.symm
  rw [Content.convert_of_scalar (Scalar.convert_held _ held)] at hc
  cases hc
  rfl

theorem integer?_of_converts_version (built : Mapping.Built τ.descriptor .search m)
    {pv : PropertyMapping} (version : m.version = some pv) {v : Int64} {w : Value}
    (converts : τ.Converts pv.property (.int64 v) w) : integer? w = some v.toInt := by
  obtain ⟨hpv, integral⟩ := built.version pv version
  obtain ⟨t, kind, c, hc, rfl⟩ := built.convert_of_converts hpv converts
  rw [Content.convert, dif_neg (by simp [Value.isNull])] at hc
  obtain ⟨held, hheld, rfl⟩ := map_eq_ok.mp hc
  exact Scalar.integer?_of_convert (by rwa [kind]) hheld

theorem found_reads (built : Mapping.Built τ.descriptor .search m) {pv : PropertyMapping}
    (version : m.version = some pv) (separate : pv ≠ m.key) (sorted : doc.Sorted)
    (fields : FieldsOf m doc) {raw : String} {v : Int64} {e : Entity τ}
    (ok : entityOfHit τ m ⟨raw, some v, .object doc⟩ = .ok e) :
    ∃ id, parseId m raw = .ok id ∧ e.valueOf m.key.property = id.toValue ∧
      integer? (e.valueOf pv.property) = some v.toInt := by
  obtain ⟨id, parsed, mapped⟩ := bind_eq_ok.mp ok
  rw [mapError_eq_ok] at parsed mapped
  have apart : m.version ≠ some m.key := by simpa [version] using separate
  have distinct := Row.distinct_ofDocument sorted
  -- A field of the document is named as a column is, so that what the hit has stands for it.
  have stands : ∀ {p : PropertyMapping} {value : Value}, Own m id (some v) p value →
      τ.Converts p.property value (e.valueOf p.property) := by
    intro p value own
    have hp := own.mem built
    have here := mem_rowOfHit built apart ⟨raw, some v, .object doc⟩ distinct own
    have given := (here (p.column, value) (built.propertyOfColumn?_column hp)).mpr (.inl rfl)
    refine Row.converts_of_cell built mapped hp own.present given fun cell mem found => ?_
    rcases (here cell found).mp mem with same | ⟨other, mem⟩
    · exact same
    · obtain ⟨q, hq, -, column⟩ := propertyOfColumn?_of_fieldsOf built fields mem
      obtain rfl := Option.some.inj (hq.symm.trans found)
      exact absurd column.symm other
  exact ⟨id, parsed, eq_of_converts_key built parsed (stands .key),
    integer?_of_converts_version built version (stands (.version version rfl))⟩

end EntityStore.Search
