import EntityStore.Proofs.Change
import EntityStore.Proofs.Program
import EntityStore.Proofs.Relational.Effect
import EntityStore.Relational.Store

/-!
# What was written is read back

An entity is inserted and then changed any number of times. The row that the statements of such a
run leave behind is mapped to an entity that has what was last written for every stored property, and
is blank in every other.
-/

namespace EntityStore

variable {τ : EntityType}

namespace Relational

def Kept (p : PropertyMapping) : Prop := p.transient = false

namespace Store

variable (d : Store τ)

/-! ## The run -/

def changeEach : List (Change τ) → Action service Unit
  | [] => return ()
  | c :: rest => do
    let _ ← d.updateProperties c.entity c.properties
    changeEach rest

def writes (first : Entity τ) (changes : List (Change τ)) : Action service (Entity τ) := do
  let inserted ← ExceptT.lift (d.insert first)
  let _ ← inserted.result
  d.changeEach changes
  return inserted.entity

variable {d} {σ : Type} {answer : (c : Call) → σ → service.Answer c × σ} {s after : σ}
  {calls : List Call}

theorem ran_send {route : Route} {command : Command} {statement : Statement}
    {reply : command.Reply}
    (h : Action.Ran answer (d.send route command statement) s reply calls after) :
    (answer ⟨route, command⟩ s).1 = .ok reply ∧ calls = [⟨route, command⟩] := by
  obtain ⟨_, first, between, later, hlog, hcall, rfl⟩ := Action.ran_bind h
  obtain ⟨rfl, rfl⟩ := Action.ran_log hlog
  obtain ⟨replied, rfl, -⟩ := Action.ran_call hcall
  exact ⟨replied, rfl⟩

/-! ## Changes -/

theorem ran_updateProperties {e : Entity τ} {properties : List String} {n : Int64}
    (h : Action.Ran answer (d.updateProperties e properties) s n calls after) :
    ∃ id u t, d.mapping.keyOf? e = some id ∧ d.mapping.updateOf e properties = .ok u ∧
      Relational.update d.mapping u (.equal d.mapping.key.property id.toValue) = .ok t ∧
      calls = [⟨.write, .update t.statement⟩] := by
  obtain ⟨id, hid, identified⟩ := Action.ran_lift_bind h
  obtain ⟨u, hu, listed⟩ := Action.ran_lift_bind identified
  -- The key and the update are checked on the way, the update twice.
  obtain ⟨_, -, checked⟩ := Action.ran_lift_bind listed
  obtain ⟨_, -, checked⟩ := Action.ran_lift_bind checked
  obtain ⟨_, -, checked⟩ := Action.ran_lift_bind checked
  obtain ⟨_, -, checked⟩ := Action.ran_lift_bind checked
  obtain ⟨t, ht, written⟩ := Action.ran_lift_bind checked
  obtain ⟨-, called⟩ := ran_send written
  exact ⟨id, u, t, Mapping.keyOf?_of_entityId hid, hu, ht, called⟩

theorem brings_settings {m : Mapping} (built : Mapping.Built τ.descriptor .relational m)
    {c : Change τ} {u : Update} (ok : m.updateOf c.entity c.properties = .ok u) :
    c.Brings m Kept (settings m u.entries) := by
  obtain ⟨sound, full⟩ := Mapping.covers_of_updateOf ok
  have named : ∀ p ∈ m.properties, m.named p.property = p.column := by
    intro p hp
    rw [Mapping.named, built.columnOf? hp, Option.getD_some]
  have transient : ∀ p ∈ m.properties, m.isTransient p.property = p.transient := by
    intro p hp
    rw [Mapping.isTransient, built.property? hp]
    rfl
  constructor
  · intro cell mem
    obtain ⟨entry, hentry, rfl⟩ := List.mem_map.mp mem
    obtain ⟨hentry, stored⟩ := List.mem_filter.mp hentry
    obtain ⟨covered, value, p, hp, property⟩ := sound entry hentry
    obtain ⟨q, v⟩ := entry
    obtain rfl : p.property = q := property
    obtain rfl : v = c.entity.valueOf p.property := value
    refine ⟨p, hp, ?_, covered, (named p hp).symm, built.stores_valueOf hp c.entity⟩
    simpa [Kept, transient p hp] using stored
  · intro p hp hkept covered
    have persisted : p ∈ m.persisted := List.mem_filter.mpr ⟨hp, by simpa [Kept] using hkept⟩
    obtain ⟨entry, hentry, property⟩ := List.mem_map.mp (full p persisted covered)
    obtain ⟨q, v⟩ := entry
    obtain rfl : q = p.property := property
    refine List.mem_map.mpr ⟨(p.column, v), List.mem_map.mpr ⟨(p.property, v), ?_, ?_⟩, rfl⟩
    · rw [List.mem_filter]
      exact ⟨hentry, by simpa [transient p hp, Kept] using hkept⟩
    · simp only [named p hp]

theorem effects_of_changeEach {m : Mapping} (hm : d.mapping = m)
    (built : Mapping.Built τ.descriptor .relational m) {key : Value} {changes : List (Change τ)}
    (sameKey : ∀ c ∈ changes, ∀ id, m.keyOf? c.entity = some id → id.toValue = key)
    {current : String → Value} {row : Row} (holds : row.Holds τ m Kept current)
    (distinct : Distinct row)
    (ran : Action.Ran answer (d.changeEach changes) s () calls after) :
    ∃ last : Row, Effects m key (some row) calls (some last) ∧
      last.Holds τ m Kept (changes.foldl (Change.applied m) current) := by
  subst hm
  induction changes generalizing current row s calls with
  | nil =>
    obtain ⟨-, rfl, -⟩ := Action.ran_pure ran
    exact ⟨row, .nil, holds⟩
  | cons c rest ih =>
    obtain ⟨n, first, between, later, hfirst, hlater, rfl⟩ := Action.ran_bind ran
    obtain ⟨id, u, t, hid, hu, ht, rfl⟩ := ran_updateProperties hfirst
    have keyColumn := built.columnOf? (Mapping.mem_properties built.key_mem)
    have brings := brings_settings built hu
    -- The row holds the current values with no column twice, before and after each update.
    have step := Row.Holds.applied holds brings
      (fun cell mem => Row.overwrites_put.mem_writeAll distinct mem)
      (fun column mem => (Row.overwrites_put.mem_keys_writeAll distinct column).mpr mem)
    obtain ⟨last, effects, final⟩ := ih (Row.overwrites_put.fit_writeAll distinct) hlater
      (fun c hc => sameKey c (List.mem_cons_of_mem _ hc)) step
    refine ⟨last, ?_, final⟩
    rw [statement_update keyColumn ht, sameKey c List.mem_cons_self id hid]
    exact .cons .update effects

/-! ## Insertions -/

theorem key_notMem_rest {m : Mapping} (built : Mapping.Built τ.descriptor .relational m) :
    m.key.column ∉ m.persistedRest.map (·.column) := by
  intro mem
  obtain ⟨p, hp, column⟩ := List.mem_map.mp mem
  obtain ⟨hp, other⟩ := List.mem_filter.mp hp
  have same := built.eq_of_lower (Mapping.mem_properties hp)
    (Mapping.mem_properties built.key_mem) (congrArg Text.lower column)
  rw [same] at other
  simp at other

theorem distinct_insertValues (built : Mapping.Built τ.descriptor .relational d.mapping)
    (key : Value) (e : Entity τ) : Distinct (d.insertValues (some key) e) := by
  change ((d.mapping.key.column, key) ::
    d.mapping.persistedRest.map fun p => (p.column, e.valueOf p.property)).map (·.1) |>.Nodup
  rw [List.map_cons, List.map_map]
  refine List.nodup_cons.mpr ⟨key_notMem_rest built, ?_⟩
  have columns : (d.mapping.properties.map (·.column)).Nodup :=
    List.Nodup.of_map Text.lower (by simpa [Function.comp_def] using built.columns)
  exact columns.sublist ((List.filter_sublist.trans List.filter_sublist).map _)

theorem holds_insertValues (built : Mapping.Built τ.descriptor .relational d.mapping)
    {e : Entity τ} {key : Value}
    (stores : τ.Stores d.mapping.key.property key (e.valueOf d.mapping.key.property)) :
    Row.Holds τ d.mapping Kept e.valueOf (d.insertValues (some key) e) ∧
      Distinct (d.insertValues (some key) e) := by
  have cells : d.insertValues (some key) e = (d.mapping.key.column, key) ::
      d.mapping.persistedRest.map fun p => (p.column, e.valueOf p.property) := rfl
  have kept : ∀ p ∈ d.mapping.persisted, Kept p := by
    intro p hp
    simpa [Kept] using (List.mem_filter.mp hp).2
  refine ⟨?_, distinct_insertValues built key e⟩
  rw [cells]
  refine ⟨?_, ?_, fun f hf null => Entity.nullable_of_valueOf hf null⟩
  · intro cell mem
    rcases List.mem_cons.mp mem with rfl | mem
    · exact ⟨d.mapping.key, Mapping.mem_properties built.key_mem, kept _ built.key_mem, rfl, stores⟩
    · obtain ⟨p, hp, rfl⟩ := List.mem_map.mp mem
      have persisted := List.mem_of_mem_filter hp
      exact ⟨p, Mapping.mem_properties persisted, kept p persisted, rfl,
        built.stores_valueOf (Mapping.mem_properties persisted) e⟩
  · intro p hp hkept _
    rw [List.map_cons, List.map_map, List.mem_cons]
    by_cases isKey : p.property = d.mapping.key.property
    · have same := built.eq_of_property hp (Mapping.mem_properties built.key_mem) isKey
      exact .inl (congrArg PropertyMapping.column same)
    · refine .inr (List.mem_map.mpr ⟨p, ?_, rfl⟩)
      rw [Mapping.persistedRest, Mapping.persisted, List.mem_filter, List.mem_filter]
      exact ⟨⟨hp, by simpa [Kept] using hkept⟩, by simpa using isKey⟩

theorem ran_chooseKey (built : Mapping.Built τ.descriptor .relational d.mapping)
    {e keyed : Entity τ} {key : Option Value} (k : Value) (row : Option Row)
    (h : Action.Ran answer (d.chooseKey e) s (key, keyed) calls after) :
    Effects d.mapping k row calls row ∧
      (∀ q, q ≠ d.mapping.key.property → keyed.valueOf q = e.valueOf q) ∧
      ∀ v, key = some v →
        τ.Stores d.mapping.key.property v (keyed.valueOf d.mapping.key.property) := by
  have keyMem := Mapping.mem_properties built.key_mem
  unfold chooseKey at h
  split_ifs at h with chosen
  · obtain ⟨same, rfl, -⟩ := Action.ran_pure h
    obtain ⟨rfl, rfl⟩ := Prod.mk.inj same
    refine ⟨.nil, fun _ _ => rfl, ?_⟩
    rintro v ⟨⟩
    exact built.stores_valueOf keyMem keyed
  cases hd : d.dialect with
  | mysql =>
    rw [hd] at h
    obtain ⟨same, rfl, -⟩ := Action.ran_pure h
    obtain ⟨rfl, rfl⟩ := Prod.mk.inj same
    refine ⟨.nil, fun _ _ => rfl, ?_⟩
    rintro v ⟨⟩
  | oracle =>
    -- The key is drawn from a sequence and converted when the entity takes it.
    rw [hd] at h
    obtain ⟨⟨drawn, entity⟩, first, between, later, hdraw, hpure, rfl⟩ := Action.ran_bind h
    obtain ⟨same, rfl, -⟩ := Action.ran_pure hpure
    obtain ⟨rfl, rfl⟩ := Prod.mk.inj same
    obtain ⟨sql, -, hdraw⟩ := Action.ran_lift_bind hdraw
    obtain ⟨next, _, _, _, hsend, hset, rfl⟩ := Action.ran_bind hdraw
    obtain ⟨-, rfl⟩ := ran_send hsend
    obtain ⟨written, hwritten, hpure⟩ := Action.ran_lift_bind hset
    obtain ⟨same, rfl, -⟩ := Action.ran_pure hpure
    obtain ⟨rfl, rfl⟩ := Prod.mk.inj same
    refine ⟨Effect.once (.draw _), ?_, ?_⟩
    · intro q other
      rw [Entity.valueOf, Entity.valueOf, Entity.get?_set_of_ne hwritten other]
    · rintro v ⟨⟩
      obtain ⟨f, hf, same⟩ := built.exists_field keyMem
      have property : f.property = d.mapping.key.property := congrArg PropertyMapping.property same
      rw [← property] at hwritten ⊢
      exact EntityType.stores_of_converts (Entity.converts_of_set hf hwritten)

/-- The database reports a key whenever it is left to generate one. -/
def ReportsKeys (answer : (c : Call) → σ → service.Answer c × σ) : Prop :=
  ∀ route statement column s affected key,
    (answer ⟨route, .updateReturningKey statement column⟩ s).1 = .ok (affected, key) →
      key.isSome = true

theorem ran_insertGenerating (reports : ReportsKeys answer) {e inserted : Entity τ} {n : Int64}
    (h : Program.Ran answer (d.insertGenerating e) s ⟨.ok n, inserted⟩ calls after) :
    (∃ v, e.set d.mapping.key.property v = .ok inserted) ∧
      calls = [⟨.write, .updateReturningKey
        (Relational.insert d.mapping (d.insertValues none e)).statement d.mapping.key.column⟩] := by
  obtain ⟨result, first, between, later, hsend, hrest, rfl⟩ := Program.ran_bind h
  cases result with
  | error failure =>
    obtain ⟨refused, -⟩ := Program.ran_done hrest
    cases refused
  | ok reply =>
    obtain ⟨affected, key⟩ := reply
    obtain ⟨replied, rfl⟩ := ran_send hsend
    cases key with
    | none => exact absurd (reports _ _ _ _ _ _ replied) (by simp)
    | some key =>
      simp only at hrest
      split at hrest
      · obtain ⟨refused, -⟩ := Program.ran_done hrest
        cases refused
      · rename_i keyed hkeyed
        obtain ⟨same, rfl, -⟩ := Program.ran_done hrest
        obtain ⟨-, rfl⟩ := Insertion.mk.inj same
        exact ⟨⟨_, hkeyed⟩, rfl⟩

theorem ran_insert (built : Mapping.Built τ.descriptor .relational d.mapping)
    (reports : ReportsKeys answer) {e inserted : Entity τ} {n : Int64}
    (h : Program.Ran answer (d.insert e) s ⟨.ok n, inserted⟩ calls after) :
    (∀ q, q ≠ d.mapping.key.property → inserted.valueOf q = e.valueOf q) ∧
      ∃ row : Row, Effects d.mapping (inserted.valueOf d.mapping.key.property) none calls
          (some row) ∧
        row.Holds τ d.mapping Kept inserted.valueOf ∧ Distinct row := by
  have keyMem := Mapping.mem_properties built.key_mem
  obtain ⟨result, first, between, later, hchoose, hrest, rfl⟩ := Program.ran_bind h
  match result, hchoose, hrest with
  | .error failure, _, hrest =>
    obtain ⟨refused, -⟩ := Program.ran_done hrest
    cases refused
  | .ok (some key, keyed), hchoose, hrest =>
    -- The statement has the key, and what ran before it made the key the entity's own.
    obtain ⟨_, chosen, between', last, hwrite, hdone, rfl⟩ := Program.ran_bind hrest
    obtain ⟨same, rfl, -⟩ := Program.ran_done hdone
    obtain ⟨rfl, rfl⟩ := Insertion.mk.inj same
    obtain ⟨-, rfl⟩ := ran_send hwrite
    obtain ⟨drawn, others, stores⟩ :=
      ran_chooseKey built (inserted.valueOf d.mapping.key.property) none hchoose
    obtain ⟨holds, distinct⟩ := holds_insertValues built (stores key rfl)
    refine ⟨others, _, drawn.append ?_, holds, distinct⟩
    rw [statement_insert]
    exact Effect.once (.insert List.mem_cons_self)
  | .ok (none, unkeyed), hchoose, hrest =>
    -- The statement leaves the key out, and the reply brings it.
    obtain ⟨drawn, others, -⟩ :=
      ran_chooseKey built (inserted.valueOf d.mapping.key.property) none hchoose
    obtain ⟨⟨v, hv⟩, rfl⟩ := ran_insertGenerating reports hrest
    have frame : ∀ q, q ≠ d.mapping.key.property → inserted.valueOf q = unkeyed.valueOf q := by
      intro q other
      rw [Entity.valueOf, Entity.valueOf, Entity.get?_set_of_ne hv other]
    obtain ⟨holds, distinct⟩ := holds_insertValues built (built.stores_valueOf keyMem inserted)
    refine ⟨fun q other => (frame q other).trans (others q other), _, drawn.append ?_, holds,
      distinct⟩
    -- What the statement leaves out is the key alone.
    have cells : d.insertValues none unkeyed =
        d.mapping.persistedRest.map fun p => (p.column, inserted.valueOf p.property) := by
      refine List.map_congr_left fun p hp => ?_
      obtain ⟨-, other⟩ := List.mem_filter.mp hp
      rw [frame p.property (by simpa using other)]
    rw [statement_insert, cells]
    refine Effect.once (.generate ?_)
    rw [List.map_map]
    exact key_notMem_rest built

/-! ## Reading back -/

theorem built_of_create {dialect : Dialect} (created : create τ dialect = .ok d) :
    Mapping.Built τ.descriptor .relational d.mapping := by
  obtain ⟨m, built, rfl⟩ := map_eq_ok.mp created
  exact Mapping.built_of_build built

/-- A run of an insertion and of changes with the same key leaves one row, whose updates all compare
the key column with the key of the entity. However its columns are ordered and spelled, the row is
mapped to an entity with the value that was last written for every stored property, and with the
blank of every transient one. -/
theorem row_reads_back {dialect : Dialect} (created : create τ dialect = .ok d)
    (nulls : τ.NullsByDefault) (reports : ReportsKeys answer) {first inserted : Entity τ}
    {changes : List (Change τ)}
    (ran : Action.Ran answer (d.writes first changes) s inserted calls after)
    (sameKey : ∀ c ∈ changes, d.mapping.keyOf? c.entity = d.mapping.keyOf? inserted) :
    (∀ q, q ≠ d.mapping.key.property → inserted.valueOf q = first.valueOf q) ∧
      ∃ row : Row, Effects d.mapping (inserted.valueOf d.mapping.key.property) none calls
          (some row) ∧
        ∀ visited : Row, visited.folded.Perm row.folded →
          ∃ e : Entity τ, Row.toEntity τ d.mapping visited = .ok e ∧
            ∀ p ∈ d.mapping.properties, e.get? p.property = some (
              if p.transient then (Entity.blank τ).valueOf p.property
              else latest d.mapping inserted changes p.property) := by
  have built := built_of_create created
  obtain ⟨insertion, calls₁, between, later, hinsert, hrest, rfl⟩ := Action.ran_bind ran
  obtain ⟨n, hresult, hrest⟩ := Action.ran_lift_bind hrest
  obtain ⟨_, calls₂, _, _, hchanges, hdone, rfl⟩ := Action.ran_bind hrest
  obtain ⟨rfl, rfl, -⟩ := Action.ran_pure hdone
  obtain ⟨result, inserted⟩ := insertion
  obtain rfl : result = .ok n := hresult
  obtain ⟨others, row, inserts, holds, distinct⟩ :=
    ran_insert built reports (Action.ran_program hinsert)
  have keys : ∀ c ∈ changes, ∀ id, d.mapping.keyOf? c.entity = some id →
      id.toValue = inserted.valueOf d.mapping.key.property := by
    intro c hc id hid
    exact (Mapping.valueOf_of_keyOf? ((sameKey c hc).symm.trans hid)).symm
  obtain ⟨last, updates, final⟩ :=
    effects_of_changeEach rfl built keys holds distinct hchanges
  refine ⟨others, last, ?_, fun visited same => ?_⟩
  · rw [List.append_nil]
    exact inserts.append updates
  obtain ⟨e, he, reads⟩ := Row.toEntity_of_holds built nulls final same
  refine ⟨e, he, fun p hp => ?_⟩
  obtain ⟨stored, blank⟩ := reads p hp
  split_ifs with transient
  · rw [blank (by simp [Kept, transient]), built.get?_eq_valueOf hp]
  · rw [stored (by simpa [Kept] using transient)]
    rfl

def generatesSeven : (c : Call) → Unit → service.Answer c × Unit
  | ⟨_, .queryForList _⟩, _ => (.ok [], ())
  | ⟨_, .queryForLong _⟩, _ => (.ok 0, ())
  | ⟨_, .update _⟩, _ => (.ok 1, ())
  | ⟨_, .updateReturningKey _ _⟩, _ => (.ok (1, some (.int64 7)), ())

def account (id : Int64) (name : Content accountName.type) : Entity accounts where
  slots := [⟨accountId, ⟨.int64 id, rfl⟩⟩, ⟨accountName, name⟩, ⟨accountMark, ⟨.boolean true, rfl⟩⟩]
  shape := rfl

def accountStore : Store accounts := ⟨accountMapping, .mysql⟩

def accountChanges : List (Change accounts) :=
  [⟨account 7 ⟨.null, rfl⟩, []⟩, ⟨account 7 ⟨.text "bea", rfl⟩, ["ownerName"]⟩]

theorem account_reads_back :
    create accounts .mysql = .ok accountStore ∧ accounts.NullsByDefault ∧
    ReportsKeys generatesSeven ∧
    (∀ c ∈ accountChanges, accountMapping.keyOf? c.entity =
      accountMapping.keyOf? (account 7 ⟨.text "ann", rfl⟩)) ∧
    ∃ calls, Action.Ran generatesSeven
        (accountStore.writes (account 0 ⟨.text "ann", rfl⟩) accountChanges) ()
        (account 7 ⟨.text "ann", rfl⟩) calls () ∧
      ∃ row : Row, Effects accountMapping (.int64 7) none calls (some row) ∧
        ∃ e : Entity accounts, Row.toEntity accounts accountMapping row = .ok e ∧
          e.get? "ownerName" = some (.text "bea") ∧ e.get? "mark" = some (.boolean false) := by
  have created : create accounts .mysql = .ok accountStore :=
    map_eq_ok.mpr ⟨accountMapping, build_accounts, rfl⟩
  have nulls : accounts.NullsByDefault := by
    intro f hf nullable
    simp only [accounts, List.mem_cons, List.not_mem_nil, or_false] at hf
    rcases hf with rfl | rfl | rfl
    · cases nullable
    · rfl
    · cases nullable
  have reports : ReportsKeys generatesSeven := by
    rintro route statement column s affected key ⟨⟩
    rfl
  have sameKey : ∀ c ∈ accountChanges, accountMapping.keyOf? c.entity =
      accountMapping.keyOf? (account 7 ⟨.text "ann", rfl⟩) := by
    intro c hc
    simp only [accountChanges, List.mem_cons, List.not_mem_nil, or_false] at hc
    rcases hc with rfl | rfl <;> rfl
  obtain ⟨calls, ran⟩ : ∃ calls, Action.Ran generatesSeven
      (accountStore.writes (account 0 ⟨.text "ann", rfl⟩) accountChanges) ()
      (account 7 ⟨.text "ann", rfl⟩) calls () := ⟨_, rfl, rfl, rfl⟩
  obtain ⟨-, row, effects, reads⟩ := row_reads_back created nulls reports ran sameKey
  obtain ⟨e, he, values⟩ := reads row (List.Perm.refl _)
  refine ⟨created, nulls, reports, sameKey, calls, ran, row, effects, e, he, ?_, ?_⟩
  · exact values ⟨"ownerName", "owner_name", .text, true, false⟩
      (by simp [accountStore, accountMapping])
  · exact values ⟨"mark", "mark", .boolean, false, true⟩
      (by simp [accountStore, accountMapping])

end Store

end Relational

end EntityStore
