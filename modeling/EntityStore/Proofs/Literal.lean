import EntityStore.Proofs.Template

/-!
# Statements with some of their values

A statement may be given its values in several goes. The scanner that looks for marks passes a
literal from the outside of quotes to the outside of quotes and finds no mark to replace in it, so
that what is written in place of one mark never hides the next and never adds one.
-/

namespace EntityStore

/-! ## What the scanner passes -/

/-- From `quoted` to `quoted'` the scanner passes the characters and finds no mark to replace. -/
inductive Passes : Bool → List Char → Bool → Prop where
  | nil (quoted : Bool) : Passes quoted [] quoted
  | quote {quoted quoted' : Bool} {cs : List Char} (rest : Passes (!quoted) cs quoted') :
    Passes quoted ('\'' :: cs) quoted'
  | other {quoted quoted' : Bool} {c : Char} {cs : List Char} (text : c ≠ '\'')
    (unmarked : c = '?' → quoted = true) (rest : Passes quoted cs quoted') :
    Passes quoted (c :: cs) quoted'

namespace Passes

variable {quoted quoted' quoted'' : Bool} {cs ds : List Char}

theorem append (first : Passes quoted cs quoted') (second : Passes quoted' ds quoted'') :
    Passes quoted (cs ++ ds) quoted'' := by
  induction first with
  | nil => exact second
  | quote _ ih => exact .quote (ih second)
  | other text unmarked _ ih => exact .other text unmarked (ih second)

theorem of_plain (plain : ∀ c ∈ cs, c ≠ '?' ∧ c ≠ '\'') : Passes quoted cs quoted := by
  induction cs with
  | nil => exact .nil quoted
  | cons c cs ih =>
    obtain ⟨mark, quote⟩ := plain c List.mem_cons_self
    apply Passes.other quote
    · exact fun same => absurd same mark
    · exact ih fun d hd => plain d (List.mem_cons_of_mem _ hd)

theorem intercalate {sep : List Char} (separator : Passes quoted sep quoted)
    {parts : List (List Char)} (each : ∀ part ∈ parts, Passes quoted part quoted) :
    Passes quoted (sep.intercalate parts) quoted := by
  induction parts with
  | nil => exact .nil quoted
  | cons part rest ih =>
    have first := each part List.mem_cons_self
    have others := ih fun p hp => each p (List.mem_cons_of_mem _ hp)
    cases rest with
    | nil => simpa using first
    | cons next rest =>
      rw [List.intercalate_cons_cons]
      exact (first.append separator).append others

theorem doubleQuotes (cs : List Char) : Passes true (Value.doubleQuotes cs) true := by
  induction cs with
  | nil => exact .nil true
  | cons c cs ih =>
    unfold Value.doubleQuotes at ih ⊢
    rw [List.flatMap_cons]
    split_ifs with quote
    · exact .quote (.quote ih)
    · exact .other quote (fun _ => rfl) ih

end Passes

theorem formatChars_append {quoted quoted' : Bool} {cs : List Char}
    (passes : Passes quoted cs quoted') (rest : List Char) (values : List Value) :
    formatChars quoted (cs ++ rest) values = cs ++ formatChars quoted' rest values := by
  induction passes with
  | nil => rfl
  | quote _ ih =>
    rw [List.cons_append, formatChars.eq_def]
    simp [ih]
  | other text unmarked _ ih =>
    rw [List.cons_append, formatChars.eq_def]
    simp only [text, if_false]
    rw [if_neg, ih, List.cons_append]
    rintro ⟨mark, outside⟩
    rw [unmarked mark] at outside
    cases outside

/-! ## Numbers -/

theorem Decimal.isDigit_of_ofScaled {n : Nat} {exponent : Int} {c : Char}
    (mem : c ∈ (ofScaled n exponent).digits) : c.isDigit = true := by
  unfold ofScaled at mem
  split_ifs at mem
  · cases mem
  · have kept := List.mem_reverse.mp mem
    have digit := List.mem_reverse.mp ((List.dropWhile_sublist _).subset kept)
    exact Nat.isDigit_of_mem_toDigits (by omega) (by omega) digit

namespace Binary64

theorem isDigit_of_shortest {tie : Tie} {x : Binary64} {c : Char}
    (mem : c ∈ (x.shortest tie).digits) : c.isDigit = true := by
  unfold shortest at mem
  split_ifs at mem
  · cases mem
  dsimp only at mem
  generalize hfound : List.findSome? _ _ = found at mem
  cases found with
  | none => exact Decimal.isDigit_of_ofScaled mem
  | some d =>
    obtain ⟨i, -, hit⟩ := List.exists_of_findSome?_eq_some hfound
    obtain ⟨n, -, rfl⟩ := Option.map_eq_some_iff.mp hit
    exact Decimal.isDigit_of_ofScaled mem

theorem mem_positionalChars {d : Decimal} {c : Char} (mem : c ∈ FloatLayout.positionalChars [] d) :
    c ∈ d.digits ∨ c = '0' ∨ c = '.' := by
  unfold FloatLayout.positionalChars at mem
  dsimp only at mem
  split_ifs at mem
  · simp at mem
    tauto
  · simp at mem
    tauto
  · simp at mem
    tauto
  · rcases List.mem_append.mp mem with whole | fraction
    · exact .inl (List.mem_of_mem_take whole)
    · rcases List.mem_cons.mp fraction with point | fraction
      · exact .inr (.inr point)
      · exact .inl (List.mem_of_mem_drop fraction)

theorem plain_literalChars (x : Binary64) : ∀ c ∈ x.literalChars, c ≠ '?' ∧ c ≠ '\'' := by
  have finite : ∀ c ∈ FloatLayout.literal.finiteChars x, c ≠ '?' ∧ c ≠ '\'' := by
    intro c mem
    unfold FloatLayout.finiteChars FloatLayout.literal at mem
    simp only [Bool.or_true, if_true] at mem
    rcases List.mem_append.mp mem with sign | shown
    · split_ifs at sign <;> simp at sign
      subst sign
      decide
    · rcases mem_positionalChars shown with digit | rfl | rfl
      · have digit := isDigit_of_shortest digit
        constructor <;> rintro rfl <;> simp at digit
      · decide
      · decide
  unfold literalChars
  split_ifs
  · simp
  · simp
  · simp
  · exact finite

end Binary64

/-! ## Literals -/

namespace Value

mutual

theorem passes_literalChars : ∀ v : Value, Passes false v.literalChars false
  | null => .of_plain (by simp [literalChars])
  | int32 n => by rw [literalChars]; exact .of_plain (Text.plain_toString _)
  | int64 n => by rw [literalChars]; exact .of_plain (Text.plain_toString _)
  | float64 x => by rw [literalChars]; exact .of_plain x.plain_literalChars
  | text s => by
    rw [literalChars]
    exact .quote ((Passes.doubleQuotes s.toList).append (.quote (.nil false)))
  | boolean b => .of_plain (by cases b <;> simp [literalChars])
  | list items => by
    rw [literalChars]
    have comma : Passes false [','] false := .of_plain (by simp)
    have separated := comma.intercalate (passes_itemLiterals items)
    exact .other (by decide) (by decide) (separated.append (.of_plain (by simp)))

theorem passes_itemLiterals : ∀ items : List Value,
    ∀ part ∈ itemLiterals items, Passes false part false
  | [] => by simp [itemLiterals]
  | item :: rest => by
    rw [itemLiterals, List.forall_mem_cons]
    exact ⟨passes_literalChars item, passes_itemLiterals rest⟩

end

end Value

/-! ## Statements -/

theorem formatChars_no_values (quoted : Bool) (cs : List Char) : formatChars quoted cs [] = cs := by
  induction cs generalizing quoted with
  | nil => exact Template.formatChars_nil quoted []
  | cons c rest ih =>
    rw [formatChars.eq_def]
    simp [ih]

theorem formatChars_formatChars (quoted : Bool) (cs : List Char) (xs ys : List Value) :
    formatChars quoted (formatChars quoted cs xs) ys = formatChars quoted cs (xs ++ ys) := by
  induction cs generalizing quoted xs with
  | nil => simp
  | cons c rest ih =>
    by_cases quote : c = '\''
    · simp [formatChars, quote, ih]
    · by_cases mark : c = '?' ∧ quoted = false
      · obtain ⟨rfl, rfl⟩ := mark
        cases xs with
        | nil => rw [formatChars_no_values, List.nil_append]
        | cons x xs =>
          -- The second go passes the literal that the first has written.
          rw [List.cons_append, Template.formatChars_mark, Template.formatChars_mark,
            formatChars_append x.passes_literalChars, ih]
      · simp [formatChars, quote, mark, ih]

namespace Statement

/-- Values may be written into a statement in several goes, whatever its text: a literal never has a
mark to replace and never changes what stands between quotes behind it. -/
theorem format_composes (sql : String) :
    (∀ xs ys, format (format sql xs) ys = format sql (xs ++ ys)) ∧ format sql [] = sql ∧
      ∀ v : Value, Passes false v.literal.toList false := by
  refine ⟨fun xs ys => ?_, ?_, fun v => ?_⟩
  · unfold format
    rw [String.toList_ofList, formatChars_formatChars]
  · unfold format
    rw [formatChars_no_values, String.ofList_toList]
  · unfold Value.literal
    rw [String.toList_ofList]
    exact v.passes_literalChars

/-- The quote is never closed, and the first value has a mark and a quote of its own. -/
example : format "? '? = ?" [.text "it's ?", .int32 1] = "'it''s ?' '? = ?" := by
  decide +kernel

end Statement

end EntityStore
