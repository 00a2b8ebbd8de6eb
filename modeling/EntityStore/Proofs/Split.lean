import EntityStore.Text.Blank
import EntityStore.Text.Split
import Mathlib.Data.List.DropRight

/-!
# Text that is cut

Where a text is cut: at the last of its separators, at the first occurrence of a word, at each of its
separators, and where its outer blanks end.
-/

namespace EntityStore.Text

/-! ## The last separator -/

theorem splitLast?_eq_none {sep : Char} {cs : List Char} (absent : sep ∉ cs) :
    splitLast? sep cs = none := by
  induction cs with
  | nil => rfl
  | cons c rest ih =>
    have here : c ≠ sep := fun same => absent (same ▸ List.mem_cons_self)
    have later : sep ∉ rest := fun mem => absent (List.mem_cons_of_mem c mem)
    unfold splitLast?
    rw [ih later]
    exact if_neg here

theorem splitLast?_append {sep : Char} {before after : List Char} (absent : sep ∉ after) :
    splitLast? sep (before ++ sep :: after) = some (before, after) := by
  induction before with
  | nil =>
    rw [List.nil_append]
    unfold splitLast?
    rw [splitLast?_eq_none absent]
    exact if_pos rfl
  | cons c rest ih =>
    rw [List.cons_append]
    unfold splitLast?
    rw [ih]

theorem exists_last {sep : Char} {cs : List Char} (mem : sep ∈ cs) :
    ∃ before after, cs = before ++ sep :: after ∧ sep ∉ after := by
  induction cs with
  | nil => cases mem
  | cons c rest ih =>
    by_cases later : sep ∈ rest
    · obtain ⟨before, after, rfl, absent⟩ := ih later
      exact ⟨c :: before, after, rfl, absent⟩
    · obtain rfl : sep = c := (List.mem_cons.mp mem).resolve_right later
      exact ⟨[], rest, rfl, later⟩

/-! ## The first occurrence of a word -/

theorem splitFirst?_append {word start rest : List Char}
    (once : ∀ before after, start ++ word = before ++ word ++ after → after = []) :
    splitFirst? word (start ++ word ++ rest) = some (start, rest) := by
  induction start with
  | nil =>
    rw [List.nil_append]
    cases whole : word ++ rest with
    | nil =>
      obtain ⟨rfl, rfl⟩ := List.append_eq_nil_iff.mp whole
      rfl
    | cons c others =>
      unfold splitFirst?
      have found : word.isPrefixOf (c :: others) = true :=
        List.isPrefixOf_iff_prefix.mpr (whole ▸ List.prefix_append word rest)
      rw [if_pos found, ← whole, List.drop_left]
  | cons c start ih =>
    have later : splitFirst? word (start ++ word ++ rest) = some (start, rest) := by
      apply ih
      intro before after same
      exact once (c :: before) after (congrArg (c :: ·) same)
    have elsewhere : ¬ word.isPrefixOf (c :: (start ++ word ++ rest)) = true := by
      -- A word that starts here ends before the end of the text that it ends.
      intro found
      have longer : word <+: (c :: start ++ word) ++ rest := List.isPrefixOf_iff_prefix.mp found
      have inside := List.prefix_of_prefix_length_le longer (List.prefix_append _ rest)
        (by simp only [List.cons_append, List.length_cons, List.length_append]; omega)
      obtain ⟨after, same⟩ := inside
      obtain rfl := once [] after same.symm
      have lengths := congrArg List.length same
      simp at lengths
      omega
    rw [List.cons_append, List.cons_append]
    unfold splitFirst?
    rw [if_neg elsewhere, later]
    rfl

theorem eq_of_splitFirst? {word cs before after : List Char}
    (found : splitFirst? word cs = some (before, after)) : cs = before ++ word ++ after := by
  induction cs generalizing before with
  | nil =>
    unfold splitFirst? at found
    split_ifs at found with blank
    cases found
    rw [List.isEmpty_iff.mp blank]
    rfl
  | cons c rest ih =>
    unfold splitFirst? at found
    split_ifs at found with here
    · cases found
      exact (List.prefix_iff_eq_append.mp (List.isPrefixOf_iff_prefix.mp here)).symm
    · obtain ⟨⟨start, others⟩, later, same⟩ := Option.map_eq_some_iff.mp found
      cases same
      rw [ih later]
      rfl

theorem length_le_of_splitFirst? {word before after found rest : List Char}
    (first : splitFirst? word (before ++ word ++ after) = some (found, rest)) :
    after.length ≤ rest.length := by
  induction before generalizing found with
  | nil =>
    have whole := congrArg List.length (eq_of_splitFirst? first)
    cases cs : word ++ after with
    | nil =>
      obtain ⟨-, rfl⟩ := List.append_eq_nil_iff.mp cs
      exact Nat.zero_le _
    | cons c others =>
      rw [List.nil_append, cs] at first
      unfold splitFirst? at first
      have here : word.isPrefixOf (c :: others) = true :=
        List.isPrefixOf_iff_prefix.mpr (cs ▸ List.prefix_append word after)
      rw [if_pos here, ← cs, List.drop_left] at first
      cases first
      exact Nat.le_refl _
  | cons c before ih =>
    rw [List.cons_append, List.cons_append] at first
    unfold splitFirst? at first
    split_ifs at first with here
    · cases first
      simp only [List.length_drop, List.length_cons, List.length_append]
      omega
    · obtain ⟨⟨start, others⟩, later, same⟩ := Option.map_eq_some_iff.mp first
      cases same
      exact ih later

/-! ## Every separator -/

theorem splitAt_eq_splitOn (sep : Char) (cs : List Char) : splitAt sep cs = cs.splitOn sep := by
  induction cs with
  | nil => rfl
  | cons c rest ih =>
    unfold splitAt
    rw [ih, List.splitOn_cons_eq_if_modifyHead]
    by_cases here : c = sep
    · simp [here]
    · cases parts : rest.splitOn sep with
      | nil => exact absurd parts (List.splitOn_ne_nil sep rest)
      | cons part parts => simp [here]

theorem notMem_of_mem_splitAt {sep : Char} {cs part : List Char} (mem : part ∈ splitAt sep cs) :
    sep ∉ part := by
  induction cs generalizing part with
  | nil =>
    rw [List.mem_singleton.mp mem]
    exact List.not_mem_nil
  | cons c rest ih =>
    unfold splitAt at mem
    split_ifs at mem with here
    · rcases List.mem_cons.mp mem with rfl | later
      · exact List.not_mem_nil
      · exact ih later
    · cases parts : splitAt sep rest with
      | nil =>
        rw [parts] at mem
        rw [List.mem_singleton.mp mem, List.mem_singleton]
        exact Ne.symm here
      | cons first parts =>
        rw [parts] at mem ih
        rcases List.mem_cons.mp mem with rfl | later
        · rw [List.mem_cons, not_or]
          exact ⟨Ne.symm here, ih List.mem_cons_self⟩
        · exact ih (List.mem_cons_of_mem first later)

theorem splitAt_eq_iff {sep : Char} {cs : List Char} {parts : List (List Char)} :
    splitAt sep cs = parts ↔
      parts ≠ [] ∧ (∀ part ∈ parts, sep ∉ part) ∧ cs = [sep].intercalate parts := by
  constructor
  · rintro rfl
    refine ⟨?_, fun part => notMem_of_mem_splitAt, ?_⟩
    · rw [splitAt_eq_splitOn]
      exact List.splitOn_ne_nil sep cs
    · rw [splitAt_eq_splitOn, List.intercalate_splitOn]
  · rintro ⟨some, absent, rfl⟩
    rw [splitAt_eq_splitOn, List.splitOn_intercalate sep absent some]

/-! ## The ends of a text -/

theorem dropStart?_eq_some {start cs rest : List Char} :
    dropStart? start cs = some rest ↔ cs = start ++ rest := by
  unfold dropStart?
  rw [Option.ite_none_right_eq_some, List.isPrefixOf_iff_prefix, Option.some_inj]
  constructor
  · rintro ⟨begins, rfl⟩
    exact (List.prefix_iff_eq_append.mp begins).symm
  · rintro rfl
    exact ⟨List.prefix_append start rest, List.drop_left⟩

theorem dropLastChar?_eq_some {c : Char} {cs before : List Char} :
    dropLastChar? c cs = some before ↔ cs = before ++ [c] := by
  unfold dropLastChar?
  rw [Option.ite_none_right_eq_some, Option.some_inj]
  constructor
  · rintro ⟨ends, rfl⟩
    exact (List.dropLast_append_getLast? c ends).symm
  · rintro rfl
    exact ⟨List.getLast?_concat, List.dropLast_concat⟩

/-! ## Outer blanks -/

def AllBlank (cs : List Char) : Prop := ∀ c ∈ cs, isBlankChar c = true

/-- The text holds something, and neither starts nor ends with a blank. -/
structure Bare (cs : List Char) : Prop where
  some : cs ≠ []
  start : ¬ isBlankChar (cs.head some) = true
  finish : ¬ isBlankChar (cs.getLast some) = true

theorem trimChars_eq (cs : List Char) :
    trimChars cs = (cs.dropWhile isBlankChar).rdropWhile isBlankChar := rfl

theorem AllBlank.trimChars_eq_nil {cs : List Char} (blank : AllBlank cs) : trimChars cs = [] := by
  rw [trimChars_eq, List.dropWhile_eq_nil_iff.mpr blank, List.rdropWhile_nil]

theorem Bare.trimChars_append {before cs after : List Char} (bare : Bare cs)
    (left : AllBlank before) (right : AllBlank after) : trimChars (before ++ cs ++ after) = cs := by
  have front : (cs ++ after).dropWhile isBlankChar = cs ++ after := by
    cases cs with
    | nil => exact absurd rfl bare.some
    | cons c rest => exact List.dropWhile_cons_of_neg bare.start
  have back : (cs ++ after).rdropWhile isBlankChar = cs.rdropWhile isBlankChar := by
    unfold List.rdropWhile
    rw [List.reverse_append, List.dropWhile_append_of_pos fun c mem => right c (by simpa using mem)]
  rw [trimChars_eq, List.append_assoc, List.dropWhile_append_of_pos left, front, back,
    List.rdropWhile_eq_self_iff]
  exact fun _ => bare.finish

theorem trimChars_cases (cs : List Char) :
    (AllBlank cs ∧ trimChars cs = []) ∨ Bare (trimChars cs) ∧ ∃ before after,
      AllBlank before ∧ AllBlank after ∧ cs = before ++ trimChars cs ++ after := by
  by_cases some : cs.dropWhile isBlankChar = []
  · have blank : AllBlank cs := List.dropWhile_eq_nil_iff.mp some
    exact .inl ⟨blank, blank.trimChars_eq_nil⟩
  · have kept : trimChars cs <+: cs.dropWhile isBlankChar := List.rdropWhile_prefix _ _
    have start := List.head_dropWhile_not isBlankChar some
    have some' : trimChars cs ≠ [] := by
      intro none
      have blank := List.rdropWhile_eq_nil_iff.mp none _ (List.head_mem some)
      rw [start] at blank
      cases blank
    refine .inr ⟨⟨some', ?_, List.rdropWhile_last_not _ _ some'⟩, cs.takeWhile isBlankChar,
      (cs.dropWhile isBlankChar).rtakeWhile isBlankChar, fun c => List.mem_takeWhile_imp,
      fun c => List.mem_rtakeWhile_imp, ?_⟩
    · rw [kept.head some', start]
      exact Bool.false_ne_true
    · rw [trimChars_eq, List.append_assoc, List.rdropWhile_append_rtakeWhile,
        List.takeWhile_append_dropWhile]

theorem isBlank_iff {s : String} : isBlank s = true ↔ trimChars s.toList = [] := by
  unfold isBlank
  rw [List.all_eq_true]
  constructor
  · exact AllBlank.trimChars_eq_nil
  · intro none
    rcases trimChars_cases s.toList with ⟨blank, -⟩ | ⟨bare, -⟩
    · exact blank
    · exact absurd none bare.some

end EntityStore.Text
