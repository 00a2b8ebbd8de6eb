import EntityStore.Calendar.Render
import Mathlib.Data.List.Forall2

/-!
# Date patterns read and written

A pattern that is read is a list of items, and a date is their texts one after the other. All items
can be written but an offset in any notation, which a specifier of its own asks for.
-/

namespace EntityStore

open PatternItem (text)

/-! ## Reading a pattern -/

namespace PatternState

inductive Runs : PatternState → List Char → List PatternItem → PatternState → Prop where
  | done {s : PatternState} : Runs s [] [] s
  | step {s mid last : PatternState} {c : Char} {rest : List Char}
      {found later : List PatternItem} (first : s.step c = some (found, mid))
      (others : Runs mid rest later last) : Runs s (c :: rest) (found ++ later) last

variable {s mid last : PatternState} {c : Char} {before after cs : List Char}
  {found items early late : List PatternItem}

theorem items?_eq_some_iff : s.items? cs = some items ↔ Runs s cs items plain := by
  constructor
  · intro read
    induction cs generalizing s items with
    | nil =>
      unfold items? at read
      split_ifs at read with ended
      cases read
      exact ended ▸ .done
    | cons c rest ih =>
      unfold items? at read
      obtain ⟨⟨found, mid⟩, first, read⟩ := Option.bind_eq_some_iff.mp read
      obtain ⟨later, others, read⟩ := Option.bind_eq_some_iff.mp read
      cases read
      exact .step first (ih others)
  · intro runs
    generalize ended : plain = last at runs
    induction runs with
    | done =>
      subst ended
      rfl
    | step first _ ih =>
      unfold items?
      simp [first, ih ended]

theorem Runs.append (first : Runs s before early mid) (second : Runs mid after late last) :
    Runs s (before ++ after) (early ++ late) last := by
  induction first with
  | done => exact second
  | step first _ ih =>
    rw [List.append_assoc]
    exact .step first (ih second)

theorem runs_append_iff : Runs s (before ++ after) items last ↔
    ∃ early mid late, Runs s before early mid ∧ Runs mid after late last ∧
      items = early ++ late := by
  constructor
  · intro runs
    induction before generalizing s items with
    | nil => exact ⟨[], s, items, .done, runs, rfl⟩
    | cons c rest ih =>
      cases runs with
      | step first others =>
        obtain ⟨early, mid, late, left, right, rfl⟩ := ih others
        exact ⟨_, mid, late, .step first left, right, (List.append_assoc _ _ _).symm⟩
  · rintro ⟨early, mid, late, left, right, rfl⟩
    exact left.append right

theorem Runs.unique {items' : List PatternItem} {last' : PatternState}
    (runs : Runs s cs items last) (runs' : Runs s cs items' last') :
    items = items' ∧ last = last' := by
  induction runs generalizing items' with
  | done =>
    cases runs'
    exact ⟨rfl, rfl⟩
  | step first _ ih =>
    cases runs' with
    | step first' others =>
      rw [first] at first'
      cases first'
      obtain ⟨rfl, rfl⟩ := ih others
      exact ⟨rfl, rfl⟩

theorem anyOffset_notMem_of_letter {c : Char} (letter : PatternItem.ofLetter? c = some items) :
    text .anyOffset ∉ items := by
  unfold PatternItem.ofLetter? at letter
  split at letter <;> cases letter <;> decide

theorem anyOffset_ne_of_colons {colons : Nat} {field : TextField}
    (offset : offsetOf? colons = some field) : .anyOffset ≠ field := by
  unfold offsetOf? at offset
  split at offset <;> cases offset <;> decide

/-- What a character may do: open a specifier, ask for an offset in any notation, complete that, or
something else. -/
theorem step_cases (taken : s.step c = some (found, last)) :
    (s = plain ∧ c = '%' ∧ found = [] ∧ last = percent) ∨
    (s = percent ∧ c = '#' ∧ found = [] ∧ last = alternate) ∨
    (s = alternate ∧ c = 'z' ∧ found = [text .anyOffset] ∧ last = plain) ∨
    (text .anyOffset ∉ found ∧ last ≠ percent ∧ last ≠ alternate) := by
  revert taken
  fun_cases step s c
  case case10 =>
    intro taken
    obtain ⟨items, letter, ⟨⟩⟩ := Option.map_eq_some_iff.mp taken
    simp [anyOffset_notMem_of_letter letter]
  case case16 =>
    intro taken
    obtain ⟨count, -, ⟨⟩⟩ := Option.map_eq_some_iff.mp taken
    simp
  case case19 colons =>
    intro taken
    obtain ⟨field, offset, ⟨⟩⟩ := Option.map_eq_some_iff.mp taken
    simp [anyOffset_ne_of_colons offset]
  all_goals rintro ⟨⟩ <;> simp

theorem Runs.exists_step {item : PatternItem} (runs : Runs s cs items last) (mem : item ∈ items) :
    ∃ before c after early mid found next, cs = before ++ c :: after ∧ Runs s before early mid ∧
      mid.step c = some (found, next) ∧ item ∈ found := by
  induction runs with
  | done => cases mem
  | @step s mid last c rest found later first _ ih =>
    rcases List.mem_append.mp mem with here | there
    · exact ⟨[], c, rest, [], s, found, mid, rfl, .done, first, here⟩
    · obtain ⟨before, c', after, early, mid', found', next, rfl, run, step, here⟩ := ih there
      exact ⟨c :: before, c', after, _, mid', found', next, rfl, .step first run, step, here⟩

theorem Runs.exists_last (runs : Runs s cs items last) (moved : s ≠ last) :
    ∃ before c early mid found, cs = before ++ [c] ∧ Runs s before early mid ∧
      mid.step c = some (found, last) := by
  rcases List.eq_nil_or_concat' cs with rfl | ⟨before, c, rfl⟩
  · cases runs
    exact absurd rfl moved
  · obtain ⟨early, mid, late, run, ending, rfl⟩ := runs_append_iff.mp runs
    cases ending with
    | @step _ next _ _ _ found _ step rest =>
      cases rest
      exact ⟨before, c, early, mid, found, rfl, run, step⟩

theorem alternate_of_asked (taken : s.step c = some (found, last))
    (asked : text .anyOffset ∈ found) : s = alternate ∧ c = 'z' := by
  rcases step_cases taken with ⟨-, -, rfl, -⟩ | ⟨-, -, rfl, -⟩ | ⟨rfl, rfl, -, -⟩ | ⟨absent, -, -⟩
  · cases asked
  · cases asked
  · exact ⟨rfl, rfl⟩
  · exact absurd asked absent

theorem percent_of_alternate (taken : s.step c = some (found, alternate)) :
    s = percent ∧ c = '#' := by
  rcases step_cases taken with ⟨-, -, -, h⟩ | ⟨rfl, rfl, -, -⟩ | ⟨-, -, -, h⟩ | ⟨-, -, h⟩
  · cases h
  · exact ⟨rfl, rfl⟩
  · cases h
  · exact absurd rfl h

theorem plain_of_percent (taken : s.step c = some (found, percent)) : s = plain ∧ c = '%' := by
  rcases step_cases taken with ⟨rfl, rfl, -, -⟩ | ⟨-, -, -, h⟩ | ⟨-, -, -, h⟩ | ⟨-, h, -⟩
  · exact ⟨rfl, rfl⟩
  · cases h
  · cases h
  · exact absurd rfl h

/-- An offset in any notation is asked for by a specifier of its own, which stands where specifiers
start. -/
theorem anyOffset_mem_iff (read : Runs plain cs items plain) :
    text .anyOffset ∈ items ↔ ∃ before after early,
      cs = before ++ '%' :: '#' :: 'z' :: after ∧ Runs plain before early plain := by
  constructor
  · intro mem
    obtain ⟨_, _, after, _, _, _, _, rfl, run, asking, here⟩ := read.exists_step mem
    obtain ⟨rfl, rfl⟩ := alternate_of_asked asking here
    obtain ⟨_, _, _, _, _, rfl, opening, marking⟩ := run.exists_last (by decide)
    obtain ⟨rfl, rfl⟩ := percent_of_alternate marking
    obtain ⟨before, _, early, _, _, rfl, whole, starting⟩ := opening.exists_last (by decide)
    obtain ⟨rfl, rfl⟩ := plain_of_percent starting
    exact ⟨before, after, early, by simp, whole⟩
  · rintro ⟨before, after, early, rfl, whole⟩
    obtain ⟨early', mid, late, front, back, rfl⟩ := runs_append_iff.mp read
    obtain ⟨rfl, rfl⟩ := whole.unique front
    -- From here the three characters can only be read as the specifier.
    cases back with | step first back =>
    cases first
    cases back with | step first back =>
    cases first
    cases back with | step first back =>
    cases first
    simp

end PatternState

/-! ## Writing a date -/

namespace PatternItem

variable {t : Instant} {item : PatternItem}

theorem chars?_eq_none_iff : item.chars? t = none ↔ item = .text .anyOffset := by
  cases item with
  | literal c => simp [chars?]
  | number field padding => simp [chars?]
  | text field => cases field <;> simp [chars?, textChars?]

end PatternItem

theorem mapM_eq_some_iff {α β : Type} {f : α → Option β} {xs : List α} {ys : List β} :
    xs.mapM f = some ys ↔ List.Forall₂ (fun x y => f x = some y) xs ys := by
  induction xs generalizing ys with
  | nil => simp [eq_comm]
  | cons x rest ih =>
    rw [List.mapM_cons, List.forall₂_cons_left_iff]
    simp [Option.bind_eq_some_iff, ih, eq_comm (a := ys)]

/-! ## What is relied on -/

/-- What names of indices rely on where patterns are read and dates are written. -/
structure Strftime (read : List Char → Option (List PatternItem))
    (chars : Instant → PatternItem → Option (List Char))
    (write : Instant → List PatternItem → Option (List Char)) : Prop where
  /-- A date is the texts of all items, one after the other. -/
  writes : ∀ t items date, write t items = some date ↔
    ∃ texts, List.Forall₂ (fun item text => chars t item = some text) items texts ∧
      date = texts.flatten
  /-- An offset in any notation is the item that is only good for reading. -/
  refuses : ∀ t item, chars t item = none ↔ item = text .anyOffset
  /-- It is asked for by a specifier of its own, which stands where specifiers start. -/
  asks : ∀ cs items, read cs = some items → (text .anyOffset ∈ items ↔
    ∃ before after early, cs = before ++ "%#z".toList ++ after ∧ read before = some early)

theorem exists_forall₂_iff {α β : Type} {f : α → Option β} {xs : List α} :
    (∃ ys, List.Forall₂ (fun x y => f x = some y) xs ys) ↔ ∀ x ∈ xs, f x ≠ none := by
  induction xs with
  | nil => simp
  | cons x rest ih =>
    rw [List.forall_mem_cons, ← ih, Option.ne_none_iff_exists']
    simp only [List.forall₂_cons_left_iff]
    constructor
    · rintro ⟨_, y, ys, here, there, rfl⟩
      exact ⟨⟨y, here⟩, ys, there⟩
    · rintro ⟨⟨y, here⟩, ys, there⟩
      exact ⟨_, y, ys, here, there, rfl⟩

/-- The items of a date can be written at every moment or at none. -/
theorem Strftime.exists_write_iff {read : List Char → Option (List PatternItem)}
    {chars : Instant → PatternItem → Option (List Char)}
    {write : Instant → List PatternItem → Option (List Char)}
    (strftime : Strftime read chars write) (t : Instant) (items : List PatternItem) :
    (∃ date, write t items = some date) ↔ text .anyOffset ∉ items := by
  have written : (∃ date, write t items = some date) ↔ ∀ item ∈ items, chars t item ≠ none := by
    rw [← exists_forall₂_iff]
    simp only [strftime.writes]
    constructor
    · rintro ⟨_, texts, all, -⟩
      exact ⟨texts, all⟩
    · rintro ⟨texts, all⟩
      exact ⟨_, texts, all, rfl⟩
  rw [written]
  constructor
  · intro all mem
    exact all _ mem ((strftime.refuses t _).mpr rfl)
  · rintro absent item mem none
    exact absent ((strftime.refuses t item).mp none ▸ mem)

theorem strftime :
    Strftime patternItems? (fun t item => item.chars? t) Instant.render? where
  writes t items date := by
    unfold Instant.render?
    rw [Option.map_eq_some_iff]
    simp only [mapM_eq_some_iff, eq_comm (a := date)]
  refuses t item := PatternItem.chars?_eq_none_iff
  asks cs items read := by
    rw [PatternState.anyOffset_mem_iff (PatternState.items?_eq_some_iff.mp read)]
    simp [patternItems?, PatternState.items?_eq_some_iff]

end EntityStore
