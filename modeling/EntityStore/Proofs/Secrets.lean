import EntityStore.Proofs.Behaviour
import EntityStore.Proofs.Connection
import EntityStore.Proofs.Split

/-!
# Secrets are not shown

Settings that differ in nothing but secrets are shown alike, and so are the errors of sources that
cannot be opened. A secret is the password of a client, or the credentials in an address that starts
with a scheme, whatever characters they are made of.
-/

namespace EntityStore

/-! ## Addresses -/

/-- A text that ends with `://` and has it nowhere else. -/
structure IsScheme (start : String) : Prop where
  ends : "://".toList <:+ start.toList
  once : ∀ before after, start.toList = before ++ "://".toList ++ after → after = []

theorem IsScheme.splitFirst? {start : String} (scheme : IsScheme start) (rest : List Char) :
    ∃ driver, start.toList = driver ++ "://".toList ∧
      Text.splitFirst? "://".toList (start.toList ++ rest) = some (driver, rest) := by
  obtain ⟨driver, same⟩ := scheme.ends
  refine ⟨driver, same.symm, ?_⟩
  rw [← same]
  apply Text.splitFirst?_append
  intro before after split
  exact scheme.once before after (same.symm.trans split)

theorem isScheme_iff {start : String} : IsScheme start ↔
    (Text.splitFirst? "://".toList start.toList).map (·.2) = some [] := by
  constructor
  · intro scheme
    obtain ⟨driver, -, found⟩ := scheme.splitFirst? []
    rw [List.append_nil] at found
    rw [found]
    rfl
  · intro found
    obtain ⟨⟨driver, rest⟩, first, rfl⟩ := Option.map_eq_some_iff.mp found
    have whole := Text.eq_of_splitFirst? first
    rw [List.append_nil] at whole
    refine ⟨⟨driver, whole.symm⟩, ?_⟩
    intro before after split
    rw [split] at first
    exact List.eq_nil_of_length_eq_zero (Nat.le_zero.mp (Text.length_le_of_splitFirst? first))

instance (start : String) : Decidable (IsScheme start) := decidable_of_iff' _ isScheme_iff

theorem redactUrl_scheme {start credentials rest : String} (scheme : IsScheme start)
    (some : credentials ≠ "") (last : '@' ∉ rest.toList) :
    redactUrl (start ++ credentials ++ "@" ++ rest) = start ++ "***@" ++ rest := by
  have url : (start ++ credentials ++ "@" ++ rest).toList =
      (start.toList ++ credentials.toList) ++ '@' :: rest.toList := by
    simp
  have shown : start ++ "***@" ++ rest =
      String.ofList (start.toList ++ mask.toList ++ '@' :: rest.toList) := by
    rw [← String.toList_inj]
    simp [mask]
  obtain ⟨driver, same, found⟩ := scheme.splitFirst? credentials.toList
  have cut (hasScheme : Bool) : splitCredentials (start.toList ++ credentials.toList) hasScheme =
      (start.toList, credentials.toList) := by
    unfold splitCredentials
    rw [found, same]
  unfold redactUrl redactChars
  rw [url, Text.splitLast?_append last, shown]
  simp only [cut]
  cases secret : credentials.toList with
  | nil => exact absurd (String.toList_eq_nil_iff.mp secret) some
  | cons c others => rfl

/-- The same address, or addresses with a scheme that differ in no more than the credentials. -/
inductive AddressesAlike : String → String → Prop where
  | same (url : String) : AddressesAlike url url
  | credentials {start rest : String} (scheme : IsScheme start) (last : '@' ∉ rest.toList)
    {one other : String} (some : one ≠ "") (also : other ≠ "") :
    AddressesAlike (start ++ one ++ "@" ++ rest) (start ++ other ++ "@" ++ rest)

theorem AddressesAlike.redactUrl_eq {url other : String} (alike : AddressesAlike url other) :
    redactUrl url = redactUrl other := by
  cases alike with
  | same => rfl
  | credentials scheme last some also =>
    rw [redactUrl_scheme scheme some last, redactUrl_scheme scheme also last]

theorem isBlank_of_mem {c : Char} {s : String} (visible : Text.isBlankChar c = false)
    (mem : c ∈ s.toList) : Text.isBlank s = false := by
  unfold Text.isBlank
  rw [List.all_eq_false]
  exact ⟨c, mem, by simp [visible]⟩

theorem AddressesAlike.isBlank_eq {url other : String} (alike : AddressesAlike url other) :
    Text.isBlank url = Text.isBlank other := by
  cases alike with
  | same => rfl
  | credentials =>
    rw [isBlank_of_mem (c := '@') rfl (by simp), isBlank_of_mem (c := '@') rfl (by simp)]

/-! ## Settings -/

structure SourcesAlike (s s' : RelationalSettings) : Prop where
  dialect : s.dialect = s'.dialect
  writers : List.Forall₂ AddressesAlike s.writeUrls s'.writeUrls
  readers : List.Forall₂ AddressesAlike s.readUrls s'.readUrls

/-- Settings that differ in no more than the credentials of addresses, or the contents of a password
that is there. -/
inductive SecretsAlike : StoreSettings → StoreSettings → Prop where
  | relational {s s' : RelationalSettings} (alike : SourcesAlike s s') :
    SecretsAlike (.relational s) (.relational s')
  | search (s : SearchSettings) (one other : String) :
    SecretsAlike (.search { s with password := some one })
      (.search { s with password := some other })
  | wideColumn (s : WideColumnSettings) (one other : String) :
    SecretsAlike (.wideColumn { s with password := some one })
      (.wideColumn { s with password := some other })

theorem map_redactUrl_eq {urls others : List String}
    (alike : List.Forall₂ AddressesAlike urls others) :
    urls.map redactUrl = others.map redactUrl := by
  induction alike with
  | nil => rfl
  | cons here _ ih => rw [List.map_cons, List.map_cons, here.redactUrl_eq, ih]

theorem SourcesAlike.shown_eq {s s' : RelationalSettings} (alike : SourcesAlike s s') :
    s.shown = s'.shown := by
  unfold RelationalSettings.shown
  rw [alike.dialect, map_redactUrl_eq alike.writers, map_redactUrl_eq alike.readers]

theorem SecretsAlike.shown_eq {s s' : StoreSettings} (alike : SecretsAlike s s') :
    s.shown = s'.shown := by
  cases alike with
  | relational alike => exact congrArg (fun shown => "Jdbc(" ++ shown ++ ")") alike.shown_eq
  | search => rfl
  | wideColumn => rfl

theorem all_isBlank_eq {urls others : List String}
    (alike : List.Forall₂ AddressesAlike urls others) :
    urls.all Text.isBlank = others.all Text.isBlank := by
  induction alike with
  | nil => rfl
  | cons here _ ih => rw [List.all_cons, List.all_cons, here.isBlank_eq, ih]

theorem SourcesAlike.validate_eq {s s' : RelationalSettings} (alike : SourcesAlike s s') :
    s.validate = s'.validate := by
  unfold RelationalSettings.validate
  rw [all_isBlank_eq alike.writers]

/-! ## Sources that cannot be opened -/

namespace Relational.Router

variable {η σ : Type} {urls others : List String}

theorem alike_sourceUrls (alike : List.Forall₂ AddressesAlike urls others) :
    List.Forall₂ AddressesAlike (sourceUrls urls) (sourceUrls others) := by
  unfold sourceUrls
  induction alike with
  | nil => exact .nil
  | @cons url other _ _ here _ ih =>
    rw [List.filter_cons, List.filter_cons, here.isBlank_eq]
    split
    · exact .cons here ih
    · exact ih

variable {answer answer' : (c : Connection.Call) → σ → (Connection.service η).Answer c × σ}

def AnswersAlike
    (answer answer' : (c : Connection.Call) → σ → (Connection.service η).Answer c × σ) : Prop :=
  ∀ dialect url other, AddressesAlike url other → ∀ s,
    answer (.dataSource dialect url) s = answer' (.dataSource dialect other) s

theorem matches_mapM (answers : AnswersAlike answer answer') (dialect : Dialect)
    (alike : List.Forall₂ AddressesAlike urls others) :
    let opening := fun urls : List String => urls.mapM fun url =>
      Action.call (S := Connection.service η)
        (fun failure => .configuration (.cannotOpen (redactUrl url) failure.message))
        (.dataSource dialect url)
    Program.Matches answer answer' (opening urls).run (opening others).run := by
  intro opening
  induction alike with
  | nil => exact fun s => ⟨rfl, rfl⟩
  | @cons url other rest rest' here _ ih =>
    simp only [opening, List.mapM_cons]
    apply Action.matches_bind
    case first =>
      intro s
      have same := answers dialect url other here s
      simp only [Action.call, ExceptT.run_mk, Program.run, same, here.redactUrl_eq, and_self]
    case rest =>
      intro source
      exact Action.matches_bind ih fun sources => Action.matches_lift (pure (source :: sources))

theorem matches_connect (answers : AnswersAlike answer answer') {s s' : RelationalSettings}
    (alike : SourcesAlike s s') :
    Program.Matches answer answer' (connect s).run (connect s').run := by
  have opening (urls others : List String) (alike : List.Forall₂ AddressesAlike urls others) :=
    matches_mapM answers s'.dialect (alike_sourceUrls alike)
  unfold connect
  rw [alike.validate_eq, alike.dialect]
  refine Action.matches_bind (Action.matches_lift _) fun _ => ?_
  refine Action.matches_bind (opening _ _ alike.writers) fun writers => ?_
  refine Action.matches_bind (opening _ _ alike.readers) fun readers => ?_
  exact Action.matches_lift _

variable {s s' : RelationalSettings}

def shownSources (s : RelationalSettings) : List String :=
  (sourceUrls s.writeUrls ++ sourceUrls s.readUrls).map redactUrl

theorem shownSources_eq (alike : SourcesAlike s s') : shownSources s = shownSources s' := by
  unfold shownSources
  rw [List.map_append, List.map_append, map_redactUrl_eq (alike_sourceUrls alike.writers),
    map_redactUrl_eq (alike_sourceUrls alike.readers)]

theorem shown_of_cannotOpen {xs : List (Exchange (Connection.service η))} {shown why : String}
    (attempt : Attempt (.relational s) xs
      (.error (StoreError.configuration (.cannotOpen shown why)))) :
    (shownSources s)[xs.length - 1]? = some shown := by
  generalize failed : StoreError.configuration (.cannotOpen shown why) = e at attempt
  cases attempt with
  | invalid refused =>
    change s.validate = _ at refused
    unfold RelationalSettings.validate at refused
    split_ifs at refused
    cases failed.trans (Except.error.inj refused).symm
  | tried valid opening =>
    cases opening with
    | @refused before rest c handles failure split each =>
      obtain ⟨front, later, whole, rfl, others⟩ := List.map_eq_append_iff.mp split
      obtain ⟨url, rest, rfl, rfl, -⟩ := List.map_eq_cons_iff.mp others
      obtain ⟨rfl, -⟩ : shown = redactUrl url ∧ why = failure.message := by
        simpa [Connection.blame] using failed
      have last : handles.length = (front.map redactUrl).length := by
        rw [each, List.length_map, List.length_map]
      unfold shownSources Connection.handed
      rw [whole, List.map_append, List.map_cons, List.length_append, List.length_zipWith, ← each,
        Nat.min_self, List.length_singleton, Nat.add_sub_cancel, last]
      rw [List.getElem?_append_right (Nat.le_refl _), Nat.sub_self]
      rfl

end Relational.Router

open Relational.Router

/-- Credentials in an address with a scheme are masked, whatever they are made of. Settings that
differ in no more than secrets are shown alike. Connecting with the one or the other, where alike
addresses are answered alike, comes to the same, errors included; and whatever is answered, where
both stop at the same place they show the same address. -/
theorem secrets_hidden :
    (∀ start credentials rest : String, IsScheme start → credentials ≠ "" → '@' ∉ rest.toList →
      redactUrl (start ++ credentials ++ "@" ++ rest) = start ++ "***@" ++ rest) ∧
    (∀ s s' : StoreSettings, SecretsAlike s s' → s.shown = s'.shown) ∧
    (∀ {η σ : Type} (answer answer' : (c : Connection.Call) → σ →
        (Connection.service η).Answer c × σ) (s s' : RelationalSettings) (state : σ),
      SourcesAlike s s' → AnswersAlike answer answer' →
        ((connect s).run.run answer state).result =
          ((connect s').run.run answer' state).result) ∧
    ∀ {η σ σ' : Type} (answer : (c : Connection.Call) → σ → (Connection.service η).Answer c × σ)
      (answer' : (c : Connection.Call) → σ' → (Connection.service η).Answer c × σ')
      (s s' : RelationalSettings) (state : σ) (state' : σ') (shown shown' why why' : String),
      let run := (connect s).run.run answer state
      let run' := (connect s').run.run answer' state'
      SourcesAlike s s' → run.calls.length = run'.calls.length →
        run.result = .error (.configuration (.cannotOpen shown why)) →
        run'.result = .error (.configuration (.cannotOpen shown' why')) → shown = shown' := by
  refine ⟨fun start credentials rest scheme some last => redactUrl_scheme scheme some last,
    fun s s' alike => alike.shown_eq,
    fun answer answer' s s' state alike answers => (matches_connect answers alike state).1, ?_⟩
  intro η σ σ' answer answer' s s' state state' shown shown' why why' run run' alike many fails
    fails'
  obtain ⟨xs, whole, -, calls⟩ := Program.exists_says_run answer (connect s).run state
  obtain ⟨ys, whole', -, calls'⟩ := Program.exists_says_run answer' (connect s').run state'
  have place := (attempt_connect whole).1
  have place' := (attempt_connect whole').1
  rw [show ((connect s).run.run answer state).result = _ from fails] at place
  rw [show ((connect s').run.run answer' state').result = _ from fails'] at place'
  have stop := shown_of_cannotOpen place
  have stop' := shown_of_cannotOpen place'
  have lengths : xs.length = ys.length := by
    have counted := many
    rw [calls, calls', List.length_map, List.length_map] at counted
    exact counted
  rw [shownSources_eq alike, lengths] at stop
  exact Option.some.inj (stop.symm.trans stop')

def guarded (credentials : String) : String :=
  "mysql://" ++ credentials ++ "@" ++ "first:3306/main"

def vault (credentials : String) : RelationalSettings where
  dialect := .mysql
  writeUrls := [guarded credentials, " "]
  readUrls := ["jdbc:oracle:thin:@replica"]

def closed (why : String) : Connection.Call → Nat → Except BackendError Nat × Nat
  | _, asked => (.error ⟨.connection, why, none⟩, asked + 1)

theorem vault_hidden :
    (IsScheme "mysql://" ∧ "app:p@ss://word" ≠ "" ∧ '@' ∉ "first:3306/main".toList ∧
      redactUrl (guarded "app:p@ss://word") = "mysql://***@first:3306/main") ∧
    (SecretsAlike (.relational (vault "app:p@ss://word")) (.relational (vault "root")) ∧
      (StoreSettings.relational (vault "app:p@ss://word")).shown =
        (StoreSettings.relational (vault "root")).shown) ∧
    (AnswersAlike (closed "refused") (closed "refused") ∧
      ((connect (vault "app:p@ss://word")).run.run (closed "refused") 0).result =
        ((connect (vault "root")).run.run (closed "refused") 0).result) ∧
    ∃ shown shown',
      ((connect (vault "app:p@ss://word")).run.run (closed "refused") 0).result =
        .error (.configuration (.cannotOpen shown "refused")) ∧
      ((connect (vault "root")).run.run (closed "no access") 0).result =
        .error (.configuration (.cannotOpen shown' "no access")) ∧
      shown = shown' := by
  obtain ⟨masked, shown, same, place⟩ := secrets_hidden
  have scheme : IsScheme "mysql://" := by decide
  have last : '@' ∉ "first:3306/main".toList := by decide
  have address : AddressesAlike (guarded "app:p@ss://word") (guarded "root") :=
    .credentials scheme last (by decide) (by decide)
  have alike : SourcesAlike (vault "app:p@ss://word") (vault "root") :=
    ⟨rfl, .cons address (.cons (.same " ") .nil), .cons (.same _) .nil⟩
  have answers : AnswersAlike (closed "refused") (closed "refused") := fun _ _ _ _ _ => rfl
  refine ⟨⟨scheme, by decide, last, masked _ _ _ scheme (by decide) last⟩,
    ⟨.relational alike, shown _ _ (.relational alike)⟩,
    ⟨answers, same _ _ _ _ 0 alike answers⟩,
    "mysql://***@first:3306/main", "mysql://***@first:3306/main", by rfl, by rfl, ?_⟩
  exact place (closed "refused") (closed "no access") _ _ 0 0 _ _ "refused" "no access" alike
    (by rfl) (by rfl) (by rfl)

end EntityStore
