import EntityStore.Proofs.Secrets
import Mathlib.Data.List.Infix

/-!
# Credentials after a driver

An address may name its driver without a scheme, as in `jdbc:oracle:thin:`. Its credentials are
masked where they have no colon in them and nothing in the address looks like a scheme. Else a colon
or a scheme in the credentials is taken for the end of the driver, and what stands before it is
shown; and behind a scheme that only follows the `@` no credentials are looked for.
-/

namespace EntityStore

/-! ## Words in text -/

namespace Text

theorem isSome_splitFirst? {word cs : List Char} :
    (splitFirst? word cs).isSome = true ↔ word <:+: cs := by
  induction cs with
  | nil =>
    unfold splitFirst?
    by_cases blank : word = []
    · simp [blank]
    · simp [blank]
  | cons c rest ih =>
    unfold splitFirst?
    rw [List.infix_cons_iff, ← ih, ← List.isPrefixOf_iff_prefix]
    by_cases here : word.isPrefixOf (c :: rest) = true
    · simp [here]
    · simp [here]

theorem infix_append_cons {sep : Char} {word : List Char} (absent : sep ∉ word)
    {before after : List Char} :
    word <:+: before ++ sep :: after ↔ word <:+: before ∨ word <:+: after := by
  constructor
  · intro inside
    obtain ⟨xs, ys, same⟩ := inside
    rw [List.append_assoc] at same
    rcases List.append_eq_append_iff.mp same with ⟨front, rfl, whole⟩ | ⟨back, rfl, whole⟩
    · rcases List.append_eq_append_iff.mp whole with ⟨later, rfl, -⟩ | ⟨reach, rfl, others⟩
      · exact .inl ⟨xs, later, by simp⟩
      · cases reach with
        | nil => exact .inl ⟨xs, [], by simp⟩
        | cons c reach =>
          obtain ⟨rfl, -⟩ := List.cons.inj others
          simp at absent
    · cases back with
      | nil =>
        cases word with
        | nil => exact .inl List.nil_infix
        | cons c word =>
          obtain ⟨rfl, -⟩ := List.cons.inj whole
          simp at absent
      | cons c back =>
        obtain ⟨-, rfl⟩ := List.cons.inj whole
        exact .inr ⟨back, ys, by simp⟩
  · rintro (inside | inside)
    · exact inside.trans (List.prefix_append _ _).isInfix
    · exact inside.trans ((List.suffix_cons _ _).trans (List.suffix_append _ _)).isInfix

end Text

/-! ## Drivers -/

def HasScheme (s : String) : Prop := "://".toList <:+: s.toList

instance (s : String) : Decidable (HasScheme s) := inferInstanceAs (Decidable (_ <:+: _))

/-- A text that names a driver: it ends with a colon, and no scheme ends in it. -/
structure IsDriver (start : String) : Prop where
  ends : [':'] <:+ start.toList
  schemeless : ¬ HasScheme start

theorem splitFirst?_driver {front : List Char} (schemeless : ¬ "://".toList <:+: front ++ [':'])
    (rest : List Char) :
    Text.splitFirst? "://".toList (front ++ ':' :: rest) =
      (Text.splitFirst? "://".toList (':' :: rest)).map fun (before, after) =>
        (front ++ before, after) := by
  induction front with
  | nil => simp
  | cons c front ih =>
    have inner : ¬ "://".toList <:+: front ++ [':'] := by
      intro inside
      exact schemeless (inside.trans (List.suffix_cons c _).isInfix)
    have elsewhere : ¬ "://".toList <+: c :: (front ++ ':' :: rest) := by
      intro starts
      apply schemeless
      -- the word is too short to reach the last colon, which is none of its later characters
      match front with
      | [] => simp at starts
      | [_] => simp at starts
      | x :: y :: front =>
        obtain ⟨others, same⟩ := starts
        simp only [String.reduceToList, List.cons_append, List.cons.injEq] at same
        obtain ⟨rfl, rfl, rfl, -⟩ := same
        exact ⟨[], front ++ [':'], rfl⟩
    rw [List.cons_append]
    unfold Text.splitFirst?
    rw [if_neg (fun found => elsewhere (List.isPrefixOf_iff_prefix.mp found)), ih inner]
    rw [← Text.splitFirst?]
    simp [Function.comp_def]

/-! ## What is shown -/

def veil (secret : String) : String := if secret = "" then "" else mask

/-- What is shown of credentials that stand between a driver, which ends with a colon, and the `@`
before the rest. -/
inductive Shows (rest : String) : String → String → Prop where
  /-- A scheme ends in the credentials, and what follows it is the secret. -/
  | afterScheme {start secret : String} (scheme : IsScheme (":" ++ start)) :
    Shows rest (start ++ secret) (start ++ veil secret)
  /-- What follows the last colon is the secret. -/
  | afterColon {start secret : String} (colon : [':'] <:+ (":" ++ start).toList)
    (last : ':' ∉ secret.toList) (near : ¬ HasScheme (":" ++ (start ++ secret)))
    (far : ¬ HasScheme rest) : Shows rest (start ++ secret) (start ++ veil secret)
  /-- The only scheme stands behind the credentials. -/
  | everything {credentials : String} (near : ¬ HasScheme (":" ++ credentials))
    (far : HasScheme rest) : Shows rest credentials credentials

theorem exists_start {credentials : String} {front secret : List Char} (some : front ≠ [])
    (whole : (":" ++ credentials).toList = front ++ secret) :
    ∃ start, (":" ++ start).toList = front ∧ credentials = start ++ String.ofList secret := by
  have colon : ':' :: credentials.toList = front ++ secret := by simpa using whole
  rcases List.cons_eq_append_iff.mp colon with ⟨rfl, -⟩ | ⟨start, rfl, same⟩
  · exact absurd rfl some
  · refine ⟨String.ofList start, by simp, ?_⟩
    rw [← String.toList_inj]
    simpa using same

theorem exists_scheme {credentials : String} (near : HasScheme (":" ++ credentials)) :
    ∃ start secret, credentials = start ++ secret ∧ IsScheme (":" ++ start) := by
  obtain ⟨⟨before, secret⟩, first⟩ :=
    Option.isSome_iff_exists.mp (Text.isSome_splitFirst?.mpr near)
  have whole := Text.eq_of_splitFirst? first
  obtain ⟨start, same, rfl⟩ := exists_start (by simp) whole
  refine ⟨start, String.ofList secret, rfl, ⟨before, same.symm⟩, fun xs ys split => ?_⟩
  rw [whole, ← same, split, List.append_assoc] at first
  have short := Text.length_le_of_splitFirst? first
  rw [List.length_append] at short
  exact List.eq_nil_of_length_eq_zero (by omega)

theorem exists_colon (credentials : String) :
    ∃ start secret, credentials = start ++ secret ∧ [':'] <:+ (":" ++ start).toList ∧
      ':' ∉ secret.toList := by
  have colon : ':' ∈ (":" ++ credentials).toList := by simp
  obtain ⟨before, secret, whole, last⟩ := Text.exists_last colon
  have split : (":" ++ credentials).toList = (before ++ [':']) ++ secret := by simpa using whole
  obtain ⟨start, same, rfl⟩ := exists_start (by simp) split
  exact ⟨start, String.ofList secret, rfl, ⟨before, same.symm⟩, by simpa using last⟩

theorem exists_shows (rest credentials : String) : ∃ shown, Shows rest credentials shown := by
  by_cases near : HasScheme (":" ++ credentials)
  · obtain ⟨start, secret, rfl, scheme⟩ := exists_scheme near
    exact ⟨_, .afterScheme scheme⟩
  by_cases far : HasScheme rest
  · exact ⟨credentials, .everything near far⟩
  · obtain ⟨start, secret, rfl, colon, last⟩ := exists_colon credentials
    exact ⟨_, .afterColon colon last near far⟩

section Redaction

variable {driver rest : String}

theorem redactUrl_of_split {start secret : String} (last : '@' ∉ rest.toList)
    (cut : splitCredentials (driver ++ (start ++ secret)).toList
        (HasScheme (driver ++ (start ++ secret) ++ "@" ++ rest)) =
      ((driver ++ start).toList, secret.toList)) :
    redactUrl (driver ++ (start ++ secret) ++ "@" ++ rest) =
      driver ++ (start ++ veil secret) ++ "@" ++ rest := by
  have url : (driver ++ (start ++ secret) ++ "@" ++ rest).toList =
      (driver ++ (start ++ secret)).toList ++ '@' :: rest.toList := by
    simp
  have found : (Text.splitFirst? "://".toList
      (driver ++ (start ++ secret) ++ "@" ++ rest).toList).isSome =
      decide (HasScheme (driver ++ (start ++ secret) ++ "@" ++ rest)) := by
    rw [Bool.eq_iff_iff, Text.isSome_splitFirst?, decide_eq_true_iff]
    rfl
  unfold redactUrl redactChars
  rw [found, url, Text.splitLast?_append last]
  dsimp only
  rw [cut]
  rw [← String.toList_inj]
  unfold veil
  cases hidden : secret.toList with
  | nil =>
    obtain rfl := String.toList_eq_nil_iff.mp hidden
    simp
  | cons c others =>
    have some : secret ≠ "" := fun blank => by simp [blank] at hidden
    simp [some]

theorem IsDriver.splitFirst? (named : IsDriver driver) (credentials : String) :
    ∃ front, driver.toList = front ++ [':'] ∧
      Text.splitFirst? "://".toList (driver ++ credentials).toList =
        (Text.splitFirst? "://".toList (":" ++ credentials).toList).map fun (before, after) =>
          (front ++ before, after) := by
  obtain ⟨front, ends⟩ := named.ends
  refine ⟨front, ends.symm, ?_⟩
  have schemeless : ¬ "://".toList <:+: front ++ [':'] := by
    rw [ends]
    exact named.schemeless
  have behind : (":" ++ credentials).toList = ':' :: credentials.toList := by simp
  rw [behind, String.toList_append, ← ends, List.append_assoc]
  exact splitFirst?_driver schemeless credentials.toList

theorem IsDriver.hasScheme_append_iff (named : IsDriver driver) (credentials : String) :
    HasScheme (driver ++ credentials) ↔ HasScheme (":" ++ credentials) := by
  obtain ⟨front, -, first⟩ := named.splitFirst? credentials
  unfold HasScheme
  rw [← Text.isSome_splitFirst?, ← Text.isSome_splitFirst?, first, Option.isSome_map]

theorem hasScheme_address_iff (start rest : String) :
    HasScheme (start ++ "@" ++ rest) ↔ HasScheme start ∨ HasScheme rest := by
  have url : (start ++ "@" ++ rest).toList = start.toList ++ '@' :: rest.toList := by simp
  unfold HasScheme
  rw [url]
  exact Text.infix_append_cons (by decide)

theorem splitFirst?_eq_none {s : String} (schemeless : ¬ HasScheme s) :
    Text.splitFirst? "://".toList s.toList = none := by
  rw [← Option.not_isSome_iff_eq_none]
  exact fun found => schemeless (Text.isSome_splitFirst?.mp found)

theorem redactUrl_of_shows (named : IsDriver driver) (last : '@' ∉ rest.toList)
    {credentials shown : String} (shows : Shows rest credentials shown) :
    redactUrl (driver ++ credentials ++ "@" ++ rest) = driver ++ shown ++ "@" ++ rest := by
  cases shows with
  | @afterScheme start secret scheme =>
    apply redactUrl_of_split last
    obtain ⟨front, ends, first⟩ := named.splitFirst? (start ++ secret)
    obtain ⟨before, same, found⟩ := scheme.splitFirst? secret.toList
    have behind : (":" ++ (start ++ secret)).toList = (":" ++ start).toList ++ secret.toList := by
      simp
    rw [behind, found] at first
    unfold splitCredentials
    rw [first]
    simp only [Option.map_some, Prod.mk.injEq, and_true]
    rw [List.append_assoc, ← same, String.toList_append, String.toList_append, ends]
    simp
  | @afterColon start secret colon plain near far =>
    apply redactUrl_of_split last
    have absent : ¬ HasScheme (driver ++ (start ++ secret)) :=
      mt (named.hasScheme_append_iff _).mp near
    have nowhere : ¬ HasScheme (driver ++ (start ++ secret) ++ "@" ++ rest) := by
      rw [hasScheme_address_iff]
      exact not_or_intro absent far
    obtain ⟨front, ends⟩ : [':'] <:+ (driver ++ start).toList := by
      obtain ⟨before, same⟩ := named.ends
      obtain ⟨between, colon⟩ := colon
      refine ⟨before ++ between, ?_⟩
      rw [List.append_assoc, colon, String.toList_append, String.toList_append, ← same]
      simp
    have cut : Text.splitLast? ':' (driver ++ (start ++ secret)).toList =
        some (front, secret.toList) := by
      rw [← String.append_assoc, String.toList_append, ← ends, List.append_assoc]
      exact Text.splitLast?_append plain
    unfold splitCredentials
    rw [splitFirst?_eq_none absent, cut]
    simp [nowhere, ends]
  | everything near far =>
    have somewhere : HasScheme (driver ++ credentials ++ "@" ++ rest) :=
      (hasScheme_address_iff _ _).mpr (.inr far)
    have absent : ¬ HasScheme (driver ++ credentials) :=
      mt (named.hasScheme_append_iff _).mp near
    have whole : redactUrl (driver ++ (credentials ++ "") ++ "@" ++ rest) =
        driver ++ (credentials ++ veil "") ++ "@" ++ rest := by
      apply redactUrl_of_split last
      unfold splitCredentials
      rw [String.append_empty, splitFirst?_eq_none absent]
      simp [somewhere]
    simpa [veil] using whole

/-- Credentials that no end of a driver can be looked for in. -/
structure Undivided (credentials : String) : Prop where
  colonless : ':' ∉ credentials.toList
  schemeless : ¬ "//".toList <+: credentials.toList

theorem Undivided.near {credentials : String} (undivided : Undivided credentials) :
    ¬ HasScheme (":" ++ credentials) := by
  intro found
  have inside : "://".toList <:+: ':' :: credentials.toList := by simpa [HasScheme] using found
  rcases List.infix_cons_iff.mp inside with starts | later
  · exact undivided.schemeless (List.cons_prefix_cons.mp starts).2
  · exact undivided.colonless (later.subset (by simp))

theorem shows_mask_of_undivided {credentials : String} (some : credentials ≠ "")
    (undivided : Undivided credentials) (far : ¬ HasScheme rest) : Shows rest credentials mask := by
  have shows : Shows rest ("" ++ credentials) ("" ++ veil credentials) :=
    .afterColon (by simp) undivided.colonless (by simpa using undivided.near) far
  simpa [veil, some] using shows

theorem undivided_of_shows_mask {credentials shown : String} (shows : Shows rest credentials shown)
    (masked : shown = mask) (other : credentials ≠ mask) :
    Undivided credentials ∧ ¬ HasScheme rest := by
  have within {start secret : String} (same : start ++ veil secret = mask) :
      ∀ c ∈ start.toList, c = '*' := by
    intro c mem
    have shown : c ∈ (start ++ veil secret).toList := by simp [mem]
    rw [same] at shown
    simpa [mask] using shown
  cases shows with
  | @afterScheme start secret scheme =>
    -- the scheme leaves its slashes in what is shown
    exfalso
    obtain ⟨before, ends⟩ := scheme.ends
    have slash : '/' ∈ (":" ++ start).toList := by simp [← ends]
    have shown := within masked '/' (by simpa using slash)
    simp at shown
  | @afterColon start secret colon last near far =>
    have blank : start.toList = [] := by
      have ends : [':'] <:+ ':' :: start.toList := by simpa using colon
      rcases List.suffix_cons_iff.mp ends with same | behind
      · exact (List.cons.inj same).2.symm
      · have shown := within masked ':' (behind.subset (by simp))
        simp at shown
    obtain rfl := String.toList_eq_nil_iff.mp blank
    refine ⟨⟨by simpa using last, fun starts => near ?_⟩, far⟩
    obtain ⟨after, same⟩ := starts
    exact ⟨[], after, by simpa using same⟩
  | everything near far => exact absurd masked other

end Redaction

/-- An address with a driver and no scheme shows of its credentials what `Shows` says, so that two
of them are shown alike exactly where that is the same. Credentials are masked as a whole exactly
where no end of a driver can be looked for in them, and the rest has no scheme in it. -/
theorem driver_credentials_shown {driver rest : String} (named : IsDriver driver)
    (last : '@' ∉ rest.toList) :
    (∀ credentials, ∃ shown, Shows rest credentials shown ∧
      redactUrl (driver ++ credentials ++ "@" ++ rest) = driver ++ shown ++ "@" ++ rest) ∧
    (∀ one other, redactUrl (driver ++ one ++ "@" ++ rest) =
        redactUrl (driver ++ other ++ "@" ++ rest) ↔
      ∃ shown, Shows rest one shown ∧ Shows rest other shown) ∧
    ∀ credentials, credentials ≠ "" → credentials ≠ mask →
      (redactUrl (driver ++ credentials ++ "@" ++ rest) = driver ++ mask ++ "@" ++ rest ↔
        Undivided credentials ∧ ¬ HasScheme rest) := by
  have redacted {credentials shown : String} (shows : Shows rest credentials shown) :=
    redactUrl_of_shows named last shows
  have cancel {one other : String}
      (same : driver ++ one ++ "@" ++ rest = driver ++ other ++ "@" ++ rest) : one = other := by
    simpa [← String.toList_inj] using same
  refine ⟨fun credentials => ?_, fun one other => ⟨fun alike => ?_, ?_⟩,
    fun credentials some other => ⟨fun masked => ?_, ?_⟩⟩
  · obtain ⟨shown, shows⟩ := exists_shows rest credentials
    exact ⟨shown, shows, redacted shows⟩
  · obtain ⟨shown, shows⟩ := exists_shows rest one
    obtain ⟨shown', shows'⟩ := exists_shows rest other
    rw [redacted shows, redacted shows'] at alike
    obtain rfl := cancel alike
    exact ⟨shown, shows, shows'⟩
  · rintro ⟨shown, shows, shows'⟩
    rw [redacted shows, redacted shows']
  · obtain ⟨shown, shows⟩ := exists_shows rest credentials
    rw [redacted shows] at masked
    exact undivided_of_shows_mask shows (cancel masked) other
  · rintro ⟨undivided, far⟩
    exact redacted (shows_mask_of_undivided some undivided far)

/-- Nothing is masked before a scheme that follows the `@`. -/
example : redactUrl "jdbc:oracle:thin:scott/tiger@ldap://directory/orcl" =
    "jdbc:oracle:thin:scott/tiger@ldap://directory/orcl" := by decide

theorem scott_shown :
    (IsDriver "jdbc:oracle:thin:" ∧ '@' ∉ "db:1521".toList) ∧
    (∃ shown, Shows "db:1521" "scott:tiger" shown ∧
      redactUrl "jdbc:oracle:thin:scott:tiger@db:1521" =
        "jdbc:oracle:thin:" ++ shown ++ "@" ++ "db:1521") ∧
    redactUrl "jdbc:oracle:thin:scott/tiger@db:1521" = "jdbc:oracle:thin:***@db:1521" := by
  have named : IsDriver "jdbc:oracle:thin:" := ⟨by decide, by decide⟩
  have last : '@' ∉ "db:1521".toList := by decide
  obtain ⟨shown, -, masked⟩ := driver_credentials_shown named last
  refine ⟨⟨named, last⟩, shown "scott:tiger", ?_⟩
  exact (masked "scott/tiger" (by decide) (by decide)).mpr ⟨⟨by decide, by decide⟩, by decide⟩

/-- The name of a user before a colon is shown. -/
theorem driver_credentials_leak :
    ¬ ∀ driver one other rest : String, IsDriver driver → '@' ∉ driver.toList →
      one ≠ "" → '@' ∉ one.toList → other ≠ "" → '@' ∉ other.toList → '@' ∉ rest.toList →
      redactUrl (driver ++ one ++ "@" ++ rest) = redactUrl (driver ++ other ++ "@" ++ rest) := by
  intro hides
  have alike := hides "jdbc:oracle:thin:" "scott:tiger" "scott/tiger" "db:1521"
    ⟨by decide, by decide⟩ (by decide) (by decide) (by decide) (by decide) (by decide) (by decide)
  exact absurd alike (by decide)

end EntityStore
