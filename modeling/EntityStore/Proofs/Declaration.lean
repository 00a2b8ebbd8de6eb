import EntityStore.Proofs.Lookup

/-!
# Declarations that are accepted

A kind of store accepts a declaration that meets six demands, and refuses any other for the first
demand that it does not meet. Two of them are made of the fields one by one, so that the first field
that fails either is the one that is named.
-/

namespace EntityStore

/-! ## Demands -/

namespace FieldSpec

variable {f : FieldSpec} {policy : Policy}

structure Bare (f : FieldSpec) (policy : Policy) : Prop where
  demanded : policy ≠ .wideColumn
  plain : f.primaryKey = false ∧ f.transient = false
  missing : f.column = .missing

theorem hasColumn_eq_false : f.hasColumn policy = false ↔ f.Bare policy := by
  simp only [hasColumn, Bool.or_eq_false_iff, bne_eq_false_iff_eq, beq_eq_false_iff_ne]
  constructor
  · rintro ⟨⟨⟨missing, key⟩, transient⟩, demanded⟩
    exact ⟨demanded, ⟨key, transient⟩, missing⟩
  · rintro ⟨demanded, ⟨key, transient⟩, missing⟩
    exact ⟨⟨⟨missing, key⟩, transient⟩, demanded⟩

theorem hasColumn_iff : f.hasColumn policy = true ↔ ¬ f.Bare policy := by
  rw [← hasColumn_eq_false, Bool.not_eq_false]

end FieldSpec

namespace Descriptor

def Persists (d : Descriptor) : Prop := ∃ f ∈ d.fields, f.transient = false

def Keyed (d : Descriptor) : Prop := ∃ f, d.IsKey f

structure Versioned (d : Descriptor) : Prop where
  one : (d.fields.filter (·.version)).length ≤ 1
  whole : ∀ f ∈ d.fields, f.version = true → f.kind = .int64 ∨ f.kind = .int32

/-- No field lacks its column, and no two columns are spelled alike but for case. -/
structure Columned (policy : Policy) (fields : List FieldSpec) : Prop where
  declared : ∀ f ∈ fields, ¬ f.Bare policy
  apart : (fields.map fun f => Text.lower (f.columnName policy)).Nodup

def Placed (d : Descriptor) (policy : Policy) : Prop :=
  ∃ name, d.names.place? policy = some name ∧ Text.isBlank name = false

structure Accepted (d : Descriptor) (policy : Policy) : Prop where
  persists : d.Persists
  keyed : d.Keyed
  versioned : d.Versioned
  columned : Columned policy d.fields
  placed : d.Placed policy

/-! ## Faults -/

inductive KeyFault (d : Descriptor) : EntityFault → Prop where
  | count (other : (d.fields.filter (·.primaryKey)).length ≠ 1) :
    KeyFault d (.keyCount (d.fields.filter (·.primaryKey)).length)
  | transient {f : FieldSpec} (only : d.fields.filter (·.primaryKey) = [f])
    (transient : f.transient = true) : KeyFault d (.transientKey f.property)
  | kind {f : FieldSpec} (only : d.fields.filter (·.primaryKey) = [f])
    (stored : f.transient = false)
    (other : ¬ (f.kind = .int64 ∨ f.kind = .int32 ∨ f.kind = .text)) :
    KeyFault d (.keyKind f.property f.kind)

inductive VersionFault (d : Descriptor) : EntityFault → Prop where
  | many (several : 1 < (d.fields.filter (·.version)).length) : VersionFault d .manyVersions
  | kind {f : FieldSpec} (only : d.fields.filter (·.version) = [f])
    (other : ¬ (f.kind = .int64 ∨ f.kind = .int32)) : VersionFault d (.versionKind f.property)

/-- What is wrong with the column of a field that stands behind the fields `before`. -/
inductive ColumnFault (policy : Policy) (before : List FieldSpec) (f : FieldSpec) :
    EntityFault → Prop where
  | missing (bare : f.Bare policy) : ColumnFault policy before f (.noColumn f.property)
  | taken (declared : ¬ f.Bare policy)
    (taken : ∃ g ∈ before, Text.lower (g.columnName policy) = Text.lower (f.columnName policy)) :
    ColumnFault policy before f (.duplicateColumn (f.columnName policy))

def placeFault : Policy → EntityFault
  | .relational | .wideColumn => .noTable
  | .search => .noIndex

/-- The first demand that a declaration does not meet. -/
inductive FirstFault (d : Descriptor) (policy : Policy) : EntityFault → Prop where
  | nothing (unmet : ¬ d.Persists) : FirstFault d policy .noPersistedField
  | key {fault : EntityFault} (persists : d.Persists) (unmet : d.KeyFault fault) :
    FirstFault d policy fault
  | version {fault : EntityFault} (persists : d.Persists) (keyed : d.Keyed)
    (unmet : d.VersionFault fault) : FirstFault d policy fault
  | column {fault : EntityFault} {before after : List FieldSpec} {f : FieldSpec}
    (persists : d.Persists) (keyed : d.Keyed) (versioned : d.Versioned)
    (split : d.fields = before ++ f :: after) (earlier : Columned policy before)
    (unmet : ColumnFault policy before f fault) : FirstFault d policy fault
  | place (persists : d.Persists) (keyed : d.Keyed) (versioned : d.Versioned)
    (columned : Columned policy d.fields) (unmet : ¬ d.Placed policy) :
    FirstFault d policy (placeFault policy)

/-! ## Keys and versions -/

variable {d : Descriptor} {policy : Policy} {fault : EntityFault}

theorem keyField_eq_ok {f : FieldSpec} : d.keyField = .ok f ↔ d.IsKey f := by
  refine ⟨isKey_of_keyField, fun isKey => ?_⟩
  unfold keyField
  rw [isKey.only]
  simp only [isKey.stored, Bool.false_eq_true, if_false, if_pos isKey.kind]

theorem keyField_eq_error : d.keyField = .error fault ↔ d.KeyFault fault := by
  constructor
  · intro refused
    unfold keyField at refused
    split at refused
    · rename_i f only
      split_ifs at refused with transient kind
      · cases refused
        exact .transient only transient
      · cases refused
        exact .kind only (by simpa using transient) kind
    · rename_i other
      cases refused
      refine .count fun one => ?_
      obtain ⟨f, only⟩ := List.length_eq_one_iff.mp one
      exact other f only
  · intro unmet
    unfold keyField
    cases unmet with
    | count other =>
      split
      · rename_i f only
        rw [only] at other
        exact absurd rfl other
      · rfl
    | transient only transient => rw [only]; simp only [transient, if_true]
    | kind only stored other =>
      rw [only]
      simp only [stored, Bool.false_eq_true, if_false, if_neg other]

theorem one_lt_length {α : Type} {xs : List α} (empty : xs ≠ []) (single : ∀ x, xs ≠ [x]) :
    1 < xs.length := by
  match xs with
  | [] => exact absurd rfl empty
  | [x] => exact absurd rfl (single x)
  | _ :: _ :: rest =>
    rw [List.length_cons, List.length_cons]
    omega

theorem exists_versionField_iff : (∃ version, d.versionField = .ok version) ↔ d.Versioned := by
  constructor
  · rintro ⟨version, ok⟩
    unfold versionField at ok
    split at ok
    · rename_i none
      refine ⟨by simp [none], fun f hf versioned => ?_⟩
      have mem : f ∈ d.fields.filter (·.version) := List.mem_filter.mpr ⟨hf, versioned⟩
      rw [none] at mem
      cases mem
    · rename_i g only
      split_ifs at ok with whole
      refine ⟨by simp [only], fun f hf versioned => ?_⟩
      have mem : f ∈ d.fields.filter (·.version) := List.mem_filter.mpr ⟨hf, versioned⟩
      rw [only, List.mem_singleton] at mem
      rwa [mem]
    · cases ok
  · rintro ⟨one, whole⟩
    unfold versionField
    split
    · exact ⟨none, rfl⟩
    · rename_i g only
      obtain ⟨hg, versioned⟩ : g ∈ d.fields ∧ g.version = true :=
        List.mem_filter.mp (by simp [only])
      exact ⟨some g, if_pos (whole g hg versioned)⟩
    · rename_i empty single
      exact absurd one (Nat.not_le.mpr (one_lt_length empty single))

theorem versionField_eq_error : d.versionField = .error fault ↔ d.VersionFault fault := by
  constructor
  · intro refused
    unfold versionField at refused
    split at refused
    · cases refused
    · rename_i f only
      split_ifs at refused with whole
      cases refused
      exact .kind only whole
    · rename_i empty single
      cases refused
      exact .many (one_lt_length empty single)
  · intro unmet
    unfold versionField
    cases unmet with
    | many several =>
      split
      · rename_i none
        simp [none] at several
      · rename_i f only
        simp [only] at several
      · rfl
    | kind only other =>
      rw [only]
      exact if_neg other

/-! ## Columns -/

variable {before fields : List FieldSpec} {f : FieldSpec} {taken : List String}

theorem columned_nil : Columned policy [] := ⟨nofun, List.nodup_nil⟩

theorem columned_snoc (earlier : Columned policy before) :
    Columned policy (before ++ [f]) ↔ ∀ fault, ¬ ColumnFault policy before f fault := by
  constructor
  · rintro ⟨declared, apart⟩ fault unmet
    cases unmet with
    | missing bare => exact declared f (by simp) bare
    | taken _ taken =>
      obtain ⟨g, hg, same⟩ := taken
      rw [List.map_append, List.nodup_append] at apart
      exact apart.2.2 _ (List.mem_map_of_mem hg) _ List.mem_cons_self same
  · intro none
    have declared : ¬ f.Bare policy := fun bare => none _ (.missing bare)
    constructor
    · rw [List.forall_mem_append]
      exact ⟨earlier.declared, List.forall_mem_singleton.mpr declared⟩
    · rw [List.map_append, List.nodup_append]
      refine ⟨earlier.apart, List.nodup_singleton _, ?_⟩
      rintro _ mem _ here same
      obtain ⟨g, hg, rfl⟩ := List.mem_map.mp mem
      obtain rfl := List.mem_singleton.mp here
      exact none _ (.taken declared ⟨g, hg, same⟩)

theorem Columned.of_append {after : List FieldSpec} (all : Columned policy (before ++ after)) :
    Columned policy before := by
  obtain ⟨declared, apart⟩ := all
  rw [List.map_append, List.nodup_append] at apart
  exact ⟨fun f hf => declared f (List.mem_append_left _ hf), apart.1⟩

/-- The columns in `taken` are those of the fields that were passed. -/
def Passed (policy : Policy) (before : List FieldSpec) (taken : List String) : Prop :=
  ∀ column, column ∈ taken ↔ ∃ g ∈ before, Text.lower (g.columnName policy) = column

theorem Passed.snoc (passed : Passed policy before taken) :
    Passed policy (before ++ [f]) (Text.lower (f.columnName policy) :: taken) := by
  intro column
  rw [List.mem_cons, passed column]
  simp only [List.mem_append, List.mem_singleton, or_and_right, exists_or, exists_eq_left]
  rw [or_comm, eq_comm]

theorem checkColumns_cons (passed : Passed policy before taken) :
    (∃ fault, ColumnFault policy before f fault ∧
      checkColumns policy taken (f :: fields) = .error fault) ∨
    (∀ fault, ¬ ColumnFault policy before f fault) ∧ checkColumns policy taken (f :: fields) =
      checkColumns policy (Text.lower (f.columnName policy) :: taken) fields := by
  rw [checkColumns]
  by_cases bare : f.Bare policy
  · refine .inl ⟨_, .missing bare, ?_⟩
    rw [FieldSpec.hasColumn_eq_false.mpr bare]
    rfl
  · rw [FieldSpec.hasColumn_iff.mpr bare]
    by_cases again : Text.lower (f.columnName policy) ∈ taken
    · exact .inl ⟨_, .taken bare ((passed _).mp again), if_pos again⟩
    · refine .inr ⟨?_, if_neg again⟩
      rintro fault (bare' | ⟨-, taken'⟩)
      · exact bare bare'
      · exact again ((passed _).mpr taken')

theorem ColumnFault.unique {fault' : EntityFault} (h : ColumnFault policy before f fault)
    (h' : ColumnFault policy before f fault') : fault = fault' := by
  cases h with
  | missing bare =>
    cases h' with
    | missing => rfl
    | taken declared => exact absurd bare declared
  | taken declared =>
    cases h' with
    | missing bare => exact absurd bare declared
    | taken => rfl

theorem checkColumns_eq_ok (passed : Passed policy before taken)
    (earlier : Columned policy before) :
    checkColumns policy taken fields = .ok () ↔ Columned policy (before ++ fields) := by
  induction fields generalizing taken before with
  | nil =>
    rw [List.append_nil]
    exact iff_of_true rfl earlier
  | cons f rest ih =>
    have next : before ++ f :: rest = before ++ [f] ++ rest := by simp
    rw [next]
    rcases checkColumns_cons passed with ⟨fault, unmet, refused⟩ | ⟨none, same⟩
    · rw [refused]
      refine iff_of_false nofun fun all => ?_
      exact (columned_snoc earlier).mp all.of_append fault unmet
    · rw [same]
      exact ih passed.snoc ((columned_snoc earlier).mpr none)

theorem checkColumns_eq_error (passed : Passed policy before taken)
    (earlier : Columned policy before) :
    checkColumns policy taken fields = .error fault ↔
      ∃ between f after, fields = between ++ f :: after ∧ Columned policy (before ++ between) ∧
        ColumnFault policy (before ++ between) f fault := by
  induction fields generalizing taken before with
  | nil =>
    refine iff_of_false nofun ?_
    rintro ⟨between, f, after, split, -⟩
    simp at split
  | cons f rest ih =>
    have next (between : List FieldSpec) : before ++ f :: between = before ++ [f] ++ between := by
      simp
    rcases checkColumns_cons passed with ⟨fault', unmet', refused⟩ | ⟨none, same⟩
    · rw [refused]
      constructor
      · rintro ⟨⟩
        exact ⟨[], f, rest, rfl, by simpa using earlier, by simpa using unmet'⟩
      · rintro ⟨between, g, after, split, all, unmet⟩
        cases between with
        | nil =>
          cases split
          rw [List.append_nil] at unmet
          rw [unmet.unique unmet']
        | cons first between =>
          -- A field with a fault is not passed.
          cases split
          rw [next] at all
          exact absurd unmet' ((columned_snoc earlier).mp all.of_append fault')
    · rw [same, ih passed.snoc ((columned_snoc earlier).mpr none)]
      constructor
      · rintro ⟨between, g, after, rfl, all, unmet⟩
        exact ⟨f :: between, g, after, rfl, by rwa [next], by rwa [next]⟩
      · rintro ⟨between, g, after, split, all, unmet⟩
        cases between with
        | nil =>
          cases split
          rw [List.append_nil] at unmet
          exact absurd unmet (none fault)
        | cons first between =>
          cases split
          rw [next] at all unmet
          exact ⟨between, g, after, rfl, all, unmet⟩

/-! ## Places -/

theorem place?_present (names : Names) (policy : Policy) :
    names.present.place? policy = Text.nonBlank? (names.place? policy) := by
  cases policy <;> rfl

theorem checkName_present :
    checkName d.names.present policy =
      if (Text.nonBlank? (d.names.place? policy)).isNone then .error (placeFault policy)
      else .ok () := by
  rw [← place?_present]
  cases policy <;> rfl

theorem placed_iff : d.Placed policy ↔ (Text.nonBlank? (d.names.place? policy)).isNone = false := by
  unfold Placed
  cases named : Text.nonBlank? (d.names.place? policy) with
  | none =>
    refine iff_of_false ?_ nofun
    rintro ⟨name, given⟩
    rw [Text.nonBlank?_eq_some.mpr given] at named
    cases named
  | some name => exact iff_of_true ⟨name, Text.nonBlank?_eq_some.mp named⟩ rfl

theorem checkName_eq_ok : checkName d.names.present policy = .ok () ↔ d.Placed policy := by
  rw [checkName_present, placed_iff]
  cases (Text.nonBlank? (d.names.place? policy)).isNone with
  | false => exact iff_of_true rfl rfl
  | true => exact iff_of_false nofun nofun

theorem checkName_eq_error : checkName d.names.present policy = .error fault ↔
    ¬ d.Placed policy ∧ fault = placeFault policy := by
  rw [checkName_present, placed_iff]
  cases (Text.nonBlank? (d.names.place? policy)).isNone with
  | false => exact iff_of_false nofun fun unmet => unmet.1 rfl
  | true => simp [eq_comm]

/-! ## Acceptance -/

def unstored? (d : Descriptor) : Option EntityFault :=
  if d.fields.any (!·.transient) then none else some .noPersistedField

theorem persists_iff : d.fields.any (!·.transient) = true ↔ d.Persists := by
  simp [Persists]

theorem unstored?_eq_none : d.unstored? = none ↔ d.Persists := by
  rw [unstored?, ← persists_iff]
  split_ifs with stored
  · exact iff_of_true rfl stored
  · exact iff_of_false nofun stored

theorem unstored?_eq_some :
    d.unstored? = some fault ↔ ¬ d.Persists ∧ fault = .noPersistedField := by
  rw [unstored?, ← persists_iff]
  split_ifs with stored
  · exact iff_of_false nofun fun unmet => unmet.1 stored
  · rw [Option.some.injEq, eq_comm, and_iff_right stored]

theorem refusal?_mapping? (d : Descriptor) (policy : Policy) :
    refusal? (d.mapping? policy) =
      d.unstored?.or ((refusal? d.keyField).or ((refusal? d.versionField).or
        ((refusal? (checkColumns policy [] d.fields)).or
          (refusal? (checkName d.names.present policy))))) := by
  unfold mapping? unstored?
  cases d.fields.any (!·.transient) with
  | false => rfl
  | true =>
    refine refusal?_bind fun key _ => refusal?_bind fun version _ => refusal?_bind fun _ _ => ?_
    rw [← (refusal? (checkName d.names.present policy)).or_none]
    exact refusal?_bind fun _ _ => rfl

theorem passed_nil : Passed policy [] [] := by simp [Passed]

theorem mapping?_eq_error : d.mapping? policy = .error fault ↔ d.FirstFault policy fault := by
  rw [← refusal?_eq_some, refusal?_mapping?]
  simp only [Option.or_eq_some_iff, unstored?_eq_some, unstored?_eq_none, refusal?_eq_some,
    refusal?_eq_none, keyField_eq_error, keyField_eq_ok, versionField_eq_error,
    exists_versionField_iff, checkColumns_eq_error passed_nil columned_nil,
    checkColumns_eq_ok passed_nil columned_nil, checkName_eq_error, exists_const, List.nil_append]
  constructor
  · rintro (⟨unmet, rfl⟩ | ⟨persists, unmet | ⟨keyed, unmet | ⟨versioned,
      ⟨before, f, after, split, earlier, unmet⟩ | ⟨columned, unmet, rfl⟩⟩⟩⟩)
    · exact .nothing unmet
    · exact .key persists unmet
    · exact .version persists keyed unmet
    · exact .column persists keyed versioned split earlier unmet
    · exact .place persists keyed versioned columned unmet
  · intro first
    cases first with
    | nothing unmet => exact .inl ⟨unmet, rfl⟩
    | key persists unmet => exact .inr ⟨persists, .inl unmet⟩
    | version persists keyed unmet => exact .inr ⟨persists, .inr ⟨keyed, .inl unmet⟩⟩
    | column persists keyed versioned split earlier unmet =>
      exact .inr ⟨persists, .inr ⟨keyed, .inr ⟨versioned, .inl ⟨_, _, _, split, earlier, unmet⟩⟩⟩⟩
    | place persists keyed versioned columned unmet =>
      exact .inr ⟨persists, .inr ⟨keyed, .inr ⟨versioned, .inr ⟨columned, unmet, rfl⟩⟩⟩⟩

theorem exists_mapping?_iff : (∃ m, d.mapping? policy = .ok m) ↔ d.Accepted policy := by
  rw [← refusal?_eq_none, refusal?_mapping?]
  simp only [Option.or_eq_none_iff, unstored?_eq_none, refusal?_eq_none, keyField_eq_ok,
    exists_versionField_iff, Unique.exists_iff, PUnit.default_eq_unit,
    checkColumns_eq_ok passed_nil columned_nil, checkName_eq_ok, List.nil_append]
  constructor
  · rintro ⟨persists, keyed, versioned, columned, placed⟩
    exact ⟨persists, keyed, versioned, columned, placed⟩
  · rintro ⟨persists, keyed, versioned, columned, placed⟩
    exact ⟨persists, keyed, versioned, columned, placed⟩

end Descriptor

theorem Mapping.exists_build_iff {d : Descriptor} {policy : Policy} :
    (∃ m, build d policy = .ok m) ↔ ∃ m, d.mapping? policy = .ok m := by
  simp only [build, mapError_eq_ok]

theorem Mapping.build_eq_error {d : Descriptor} {policy : Policy} {e : StoreError} :
    build d policy = .error e ↔
      ∃ fault, d.mapping? policy = .error fault ∧ faulty d.typeName fault = e := by
  unfold build
  cases d.mapping? policy with
  | ok m => simp [Except.mapError]
  | error fault => simp [Except.mapError]

/-- A declaration has a mapping exactly where it meets every demand of the policy. Otherwise it is a
configuration error, for the first demand that it does not meet. -/
theorem Mapping.build_outcome (d : Descriptor) (policy : Policy) :
    ((∃ m, build d policy = .ok m) ↔ d.Accepted policy) ∧
      ∀ e, build d policy = .error e ↔
        ∃ fault, d.FirstFault policy fault ∧ e = .configuration (.entity d.typeName fault) := by
  refine ⟨exists_build_iff.trans Descriptor.exists_mapping?_iff, fun e => ?_⟩
  rw [build_eq_error]
  refine exists_congr fun fault => and_congr Descriptor.mapping?_eq_error ?_
  rw [faulty, eq_comm]

/-- The index has no name and the last field no column, but an earlier field is the one at fault. -/
example : refusal? (Mapping.build
    { typeName := "Note"
      fields := [{ property := "id", kind := .int64, column := .derived, primaryKey := true },
        { property := "number", kind := .int32, column := .named "ID" },
        { property := "title", kind := .text }] } .search) =
    some (.configuration (.entity "Note" (.duplicateColumn "ID"))) := by
  decide +kernel

end EntityStore
