import EntityStore.Proofs.Calendar
import EntityStore.Proofs.Split
import EntityStore.Search.IndexName

/-!
# The names of an index

The pattern of an index is checked once, when the name is declared, and written at every moment at
which the name is needed. It can be written at all moments or at none.
-/

namespace EntityStore.Search

open PatternItem (literal number text)

/-! ## The name that is declared -/

theorem datePattern?_eq_some {cs inner : List Char}
    (found : IndexName.datePattern? cs = some inner) : cs = "date\x7b".toList ++ inner ++ ['}'] := by
  unfold IndexName.datePattern? at found
  obtain ⟨rest, start, found⟩ := Option.bind_eq_some_iff.mp found
  obtain ⟨body, finish, found⟩ := Option.bind_eq_some_iff.mp found
  split_ifs at found
  cases found
  rw [Text.dropStart?_eq_some.mp start, Text.dropLastChar?_eq_some.mp finish, List.append_assoc]

theorem parse_eq_ok {index : String} {pattern : Option String} {n : IndexName}
    (accepted : IndexName.parse index pattern = .ok n) :
    ((∀ p, pattern = some p → Text.isBlank p = true) ∧ n = ⟨index, none⟩) ∨
      ∃ p inner items, pattern = some p ∧
        (Text.trim p).toList = "date\x7b".toList ++ inner ++ ['}'] ∧
        patternItems? inner = some items ∧ n = ⟨index, some items⟩ := by
  unfold IndexName.parse at accepted
  split_ifs at accepted
  split at accepted
  case h_1 absent =>
    cases accepted
    refine .inl ⟨?_, rfl⟩
    rintro p rfl
    rw [Text.isBlank_iff]
    simpa [Text.trim, Option.filter] using absent
  case h_2 p given =>
    obtain ⟨given, -⟩ := Option.filter_eq_some_iff.mp given
    obtain ⟨p, rfl, rfl⟩ := Option.map_eq_some_iff.mp given
    split at accepted
    case h_1 => cases accepted
    case h_2 inner shape =>
      split at accepted
      case h_1 => cases accepted
      case h_2 items read =>
        cases accepted
        exact .inr ⟨p, inner, items, rfl, datePattern?_eq_some shape, read, rfl⟩

/-! ## The name at a moment -/

/-- The text that a pattern puts behind the name of an index at a moment: nothing if the pattern is
blank or not given, and the texts of its items otherwise. -/
inductive Appends (t : Instant) : Option String → List Char → Prop where
  | nothing {pattern : Option String} (blank : ∀ p, pattern = some p → Text.isBlank p = true) :
      Appends t pattern []
  | date {p : String} {inner : List Char} {items : List PatternItem} {texts : List (List Char)}
      (shape : (Text.trim p).toList = "date\x7b".toList ++ inner ++ ['}'])
      (read : patternItems? inner = some items)
      (written : List.Forall₂ (fun item text => item.chars? t = some text) items texts) :
      Appends t (some p) texts.flatten

/-- The pattern has a specifier for an offset in any notation: behind what is a pattern itself, so
that the percent sign is not the second one of a pair. -/
def AsksAnyOffset (pattern : Option String) : Prop :=
  ∃ p before after items, pattern = some p ∧
    (Text.trim p).toList = "date\x7b".toList ++ (before ++ "%#z".toList ++ after) ++ ['}'] ∧
    patternItems? before = some items

variable {t : Instant} {pattern : Option String} {p : String} {inner date : List Char}
  {items : List PatternItem}

theorem not_isBlank_of_shape (shape : (Text.trim p).toList = "date\x7b".toList ++ inner ++ ['}']) :
    ¬ Text.isBlank p = true := by
  rw [Text.isBlank_iff, ← String.toList_ofList (l := Text.trimChars p.toList)]
  change ¬ (Text.trim p).toList = []
  rw [shape]
  simp

theorem appends_iff_of_blank (blank : ∀ p, pattern = some p → Text.isBlank p = true) :
    Appends t pattern date ↔ date = [] := by
  constructor
  · rintro (_ | ⟨shape, -, -⟩)
    · rfl
    · exact absurd (blank _ rfl) (not_isBlank_of_shape shape)
  · rintro rfl
    exact .nothing blank

theorem appends_iff_of_shape (shape : (Text.trim p).toList = "date\x7b".toList ++ inner ++ ['}'])
    (read : patternItems? inner = some items) :
    Appends t (some p) date ↔ t.render? items = some date := by
  rw [strftime.writes]
  constructor
  · rintro (blank | ⟨shape', read', written⟩)
    · exact absurd (blank p rfl) (not_isBlank_of_shape shape)
    · rw [shape'] at shape
      obtain rfl := List.append_cancel_left (List.append_cancel_right shape)
      cases read.symm.trans read'
      exact ⟨_, written, rfl⟩
  · rintro ⟨texts, written, rfl⟩
    exact .date shape read written

theorem asksAnyOffset_iff_of_shape
    (shape : (Text.trim p).toList = "date\x7b".toList ++ inner ++ ['}'])
    (read : patternItems? inner = some items) :
    AsksAnyOffset (some p) ↔ text .anyOffset ∈ items := by
  rw [strftime.asks inner items read]
  constructor
  · rintro ⟨p', before, after, early, same, shape', whole⟩
    cases same
    rw [shape'] at shape
    obtain rfl := List.append_cancel_left (List.append_cancel_right shape)
    exact ⟨before, after, early, rfl, whole⟩
  · rintro ⟨before, after, early, rfl, whole⟩
    exact ⟨p, before, after, early, rfl, shape, whole⟩

/-- A name that was accepted is written at a moment, as the name of the index and what the pattern
appends to it, exactly where the pattern has no specifier for an offset in any notation. -/
theorem name_resolves_iff {index : String} {n : IndexName}
    (accepted : IndexName.parse index pattern = .ok n) (t : Instant) :
    ((∃ name, n.resolveAt? t = some name) ↔ ¬ AsksAnyOffset pattern) ∧
      ∀ name, n.resolveAt? t = some name ↔
        ∃ date, Appends t pattern date ∧ name = index ++ String.ofList date := by
  rcases parse_eq_ok accepted with ⟨blank, rfl⟩ | ⟨p, inner, items, rfl, shape, read, rfl⟩
  · constructor
    · refine iff_of_true ⟨index, rfl⟩ ?_
      rintro ⟨p, before, after, items, rfl, shape, -⟩
      exact not_isBlank_of_shape shape (blank p rfl)
    · intro name
      simp only [appends_iff_of_blank blank, exists_eq_left]
      simp [IndexName.resolveAt?, eq_comm]
  · have resolved : (⟨index, some items⟩ : IndexName).resolveAt? t =
        (t.render? items).map fun date => index ++ String.ofList date := rfl
    constructor
    · rw [asksAnyOffset_iff_of_shape shape read, ← strftime.exists_write_iff t items, resolved]
      simp
    · intro name
      rw [resolved, Option.map_eq_some_iff]
      simp only [appends_iff_of_shape shape read, eq_comm (a := name)]

def dailyLog : IndexName :=
  ⟨"log-", some [number .year .zero, literal '.', number .month .zero, literal '.',
    number .day .zero]⟩

/-- Noon of the 9th of March 2024. -/
def noon : Instant := ⟨1709985600, 0⟩

theorem dailyLog_resolves :
    IndexName.parse "log-" (some " date\x7b%Y.%m.%d\x7d ") = .ok dailyLog ∧
    dailyLog.resolveAt? noon = some "log-2024.03.09" ∧
    ((∃ name, dailyLog.resolveAt? noon = some name) ↔
      ¬ AsksAnyOffset (some " date\x7b%Y.%m.%d\x7d ")) ∧
    ∀ name, dailyLog.resolveAt? noon = some name ↔
      ∃ date, Appends noon (some " date\x7b%Y.%m.%d\x7d ") date ∧
        name = "log-" ++ String.ofList date := by
  have accepted : IndexName.parse "log-" (some " date\x7b%Y.%m.%d\x7d ") = .ok dailyLog := by rfl
  exact ⟨accepted, by decide +kernel, name_resolves_iff accepted noon⟩

theorem not_always_resolves :
    ¬ ∀ (index : String) (pattern : Option String) (n : IndexName) (t : Instant),
      IndexName.parse index pattern = .ok n → ∃ name, n.resolveAt? t = some name := by
  intro always
  obtain ⟨name, resolved⟩ :=
    always "log-" (some "date\x7b%#z\x7d") ⟨"log-", some [text .anyOffset]⟩ noon rfl
  cases resolved

end EntityStore.Search
