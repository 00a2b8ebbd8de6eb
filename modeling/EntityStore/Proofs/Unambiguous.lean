import EntityStore.Proofs.Conversion
import EntityStore.Proofs.Integer

/-!
# Literals that are read one way

Two values without doubles have one literal exactly when they differ in nothing but the width of
integers, whatever their texts hold and however deep their lists go. The proof reads two texts that
are the same from the left: the first character tells the kind of the literal, the literal ends
where its kind says, and what is left of the two texts is the same again.
-/

namespace EntityStore

/-! ## Integers before other text -/

namespace Text

variable {sort : Char → Bool} {cs ds rest rest' : List Char}

theorem takeWhile_append_eq (inside : ∀ c ∈ cs, sort c = true)
    (outside : ∀ c ∈ rest.head?, sort c = false) : (cs ++ rest).takeWhile sort = cs := by
  have stop : rest.takeWhile sort = [] := by
    cases rest with
    | nil => rfl
    | cons c rest => exact List.takeWhile_cons_of_neg (by simp [outside c rfl])
  rw [List.takeWhile_append_of_pos inside, stop, List.append_nil]

theorem append_inj_of_sort (inside : ∀ c ∈ cs, sort c = true) (inside' : ∀ c ∈ ds, sort c = true)
    (outside : ∀ c ∈ rest.head?, sort c = false) (outside' : ∀ c ∈ rest'.head?, sort c = false)
    (same : cs ++ rest = ds ++ rest') : cs = ds ∧ rest = rest' := by
  obtain rfl : cs = ds := by
    rw [← takeWhile_append_eq inside outside, same, takeWhile_append_eq inside' outside']
  exact ⟨rfl, List.append_cancel_left same⟩

theorem exists_digit (n : Nat) : ∃ c cs, Nat.toDigits 10 n = c :: cs ∧ c.isDigit = true := by
  obtain ⟨c, cs, digits⟩ := List.exists_cons_of_ne_nil (Nat.toDigits_ne_nil (b := 10) (n := n))
  exact ⟨c, cs, digits, isDigit_of_toDigits n c (by simp [digits])⟩

theorem minus_ne_toDigits (n : Nat) : '-' :: cs ≠ Nat.toDigits 10 n ++ rest := by
  obtain ⟨c, ds, digits, digit⟩ := exists_digit n
  rw [digits]
  rintro ⟨⟩
  cases digit

theorem toString_negSucc (n : Nat) :
    (toString (Int.negSucc n)).toList = '-' :: Nat.toDigits 10 (n + 1) :=
  toString_neg n.succ_pos

theorem toDigits_append_inj {m n : Nat} (ends : ∀ c ∈ rest.head?, c.isDigit = false)
    (ends' : ∀ c ∈ rest'.head?, c.isDigit = false)
    (same : Nat.toDigits 10 m ++ rest = Nat.toDigits 10 n ++ rest') : m = n ∧ rest = rest' := by
  obtain ⟨digits, behind⟩ := append_inj_of_sort (isDigit_of_toDigits m) (isDigit_of_toDigits n)
    ends ends' same
  have numbers := congrArg (Nat.ofDigitChars 10 · 0) digits
  simp only [Nat.ofDigitChars_ten_toDigits] at numbers
  exact ⟨numbers, behind⟩

theorem toString_append_inj {m n : Int} (ends : ∀ c ∈ rest.head?, c.isDigit = false)
    (ends' : ∀ c ∈ rest'.head?, c.isDigit = false)
    (same : (toString m).toList ++ rest = (toString n).toList ++ rest') : m = n ∧ rest = rest' := by
  cases m with
  | ofNat m =>
    rw [Int.ofNat_eq_natCast, toString_natCast] at same
    cases n with
    | ofNat n =>
      rw [Int.ofNat_eq_natCast, toString_natCast] at same
      obtain ⟨rfl, behind⟩ := toDigits_append_inj ends ends' same
      exact ⟨rfl, behind⟩
    | negSucc n =>
      rw [toString_negSucc] at same
      exact absurd same.symm (minus_ne_toDigits m)
  | negSucc m =>
    rw [toString_negSucc] at same
    cases n with
    | ofNat n =>
      rw [Int.ofNat_eq_natCast, toString_natCast] at same
      exact absurd same (minus_ne_toDigits n)
    | negSucc n =>
      rw [toString_negSucc] at same
      obtain ⟨numbers, behind⟩ := toDigits_append_inj ends ends' (List.cons.inj same).2
      cases numbers
      exact ⟨rfl, behind⟩

end Text

namespace Value

/-! ## Values without doubles -/

mutual

def FloatFree : Value → Prop
  | null => True
  | int32 _ => True
  | int64 _ => True
  | float64 _ => False
  | text _ => True
  | boolean _ => True
  | list items => AllFloatFree items

def AllFloatFree : List Value → Prop
  | [] => True
  | item :: rest => FloatFree item ∧ AllFloatFree rest

end

mutual

theorem literalChars_normal : ∀ {v : Value}, v.FloatFree → v.normal.literalChars = v.literalChars
  | null, _ => rfl
  | int32 n, _ => by rw [normal, literalChars, literalChars, Int32.toInt_toInt64]
  | int64 _, _ => rfl
  | text _, _ => rfl
  | boolean _, _ => rfl
  | list items, free => by
    rw [normal, literalChars, literalChars, itemLiterals_normalItems free]

theorem itemLiterals_normalItems : ∀ {items : List Value}, AllFloatFree items →
    itemLiterals (normalItems items) = itemLiterals items
  | [], _ => rfl
  | item :: rest, free => by
    rw [normalItems, itemLiterals, itemLiterals, literalChars_normal free.1,
      itemLiterals_normalItems free.2]

end

/-! ## The first character of a literal -/

/-- The kind of the literals that start with the character; every integer counts as wide. -/
def kindOfLead? (c : Char) : Option ValueKind :=
  if c = '-' ∨ c.isDigit then some .int64
  else if c = '\'' then some .text
  else if c = '(' then some .list
  else if c = 'N' then some .null
  else if c = 'T' ∨ c = 'F' then some .boolean
  else none

theorem kindOfLead?_toString (n : Int) :
    (toString n).toList.head?.bind kindOfLead? = some .int64 := by
  cases n with
  | ofNat n =>
    obtain ⟨c, cs, digits, digit⟩ := Text.exists_digit n
    rw [Int.ofNat_eq_natCast, Text.toString_natCast, digits]
    exact if_pos (.inr digit)
  | negSucc n =>
    rw [Text.toString_negSucc]
    rfl

theorem kindOfLead?_literalChars {v : Value} (free : v.FloatFree) :
    v.literalChars.head?.bind kindOfLead? = some v.normal.kind := by
  cases v with
  | null | text | list => rfl
  | int32 n | int64 n => exact kindOfLead?_toString n.toInt
  | boolean b => cases b <;> rfl
  | float64 => exact free.elim

theorem kindOfLead?_append {v : Value} (free : v.FloatFree) (rest : List Char) :
    (v.literalChars ++ rest).head?.bind kindOfLead? = some v.normal.kind := by
  have lead := kindOfLead?_literalChars free
  obtain ⟨c, first, -⟩ := Option.bind_eq_some_iff.mp lead
  rw [List.head?_append, first, Option.some_or, ← first, lead]

theorem kind_eq_of_append {v w : Value} (free : v.FloatFree) (free' : w.FloatFree)
    {rest rest' : List Char} (same : v.literalChars ++ rest = w.literalChars ++ rest') :
    v.normal.kind = w.normal.kind := by
  have lead := kindOfLead?_append free rest
  rw [same, kindOfLead?_append free' rest'] at lead
  exact (Option.some.inj lead).symm

/-! ## The end of a literal -/

/-- The text does not start with a quote or a digit, which would continue a literal before it. -/
def Ends (rest : List Char) : Prop := ∀ c ∈ rest.head?, c ≠ '\'' ∧ c.isDigit = false

theorem ends_nil : Ends [] := nofun

theorem ends_cons {c : Char} (rest : List Char) (quote : c ≠ '\'')
    (digit : c.isDigit = false) : Ends (c :: rest) := by
  rintro d ⟨⟩
  exact ⟨quote, digit⟩

variable {rest rest' : List Char}

theorem doubleQuotes_cons (c : Char) (cs : List Char) :
    doubleQuotes (c :: cs) = c :: ((if c = '\'' then ['\''] else []) ++ doubleQuotes cs) := by
  unfold doubleQuotes
  rw [List.flatMap_cons]
  split_ifs with quote
  · rw [quote]
    rfl
  · rfl

theorem closing_ne_doubleQuotes (ends : Ends rest) (c : Char) (cs behind : List Char) :
    '\'' :: rest ≠ doubleQuotes (c :: cs) ++ behind := by
  intro same
  rw [doubleQuotes_cons] at same
  obtain ⟨rfl, second⟩ := List.cons.inj same
  -- The quote that is written twice stands where only the end of a text may stand.
  obtain rfl := second
  exact (ends '\'' rfl).1 rfl

theorem doubleQuotes_append_inj (ends : Ends rest) (ends' : Ends rest') {cs ds : List Char}
    (same : doubleQuotes cs ++ '\'' :: rest = doubleQuotes ds ++ '\'' :: rest') :
    cs = ds ∧ rest = rest' := by
  induction cs generalizing ds with
  | nil =>
    cases ds with
    | nil => exact ⟨rfl, (List.cons.inj same).2⟩
    | cons d ds => exact absurd same (closing_ne_doubleQuotes ends d ds _)
  | cons c cs ih =>
    cases ds with
    | nil => exact absurd same.symm (closing_ne_doubleQuotes ends' c cs _)
    | cons d ds =>
      rw [doubleQuotes_cons, doubleQuotes_cons, List.cons_append, List.cons_append] at same
      obtain ⟨rfl, later⟩ := List.cons.inj same
      rw [List.append_assoc, List.append_assoc] at later
      obtain ⟨rfl, behind⟩ := ih (List.append_cancel_left later)
      exact ⟨rfl, behind⟩

theorem text_append_inj (ends : Ends rest) (ends' : Ends rest') {s t : String}
    (same : (text s).literalChars ++ rest = (text t).literalChars ++ rest') :
    s = t ∧ rest = rest' := by
  simp only [literalChars, List.cons_append, List.append_assoc, List.nil_append] at same
  obtain ⟨chars, behind⟩ := doubleQuotes_append_inj ends ends' (List.cons.inj same).2
  exact ⟨String.toList_inj.mp chars, behind⟩

theorem boolean_append_inj {b b' : Bool}
    (same : (boolean b).literalChars ++ rest = (boolean b').literalChars ++ rest') :
    b = b' ∧ rest = rest' := by
  cases b <;> cases b' <;> simp_all [literalChars]

/-! ## Lists -/

def commaItems (items : List Value) : List Char := (itemLiterals items).flatMap (',' :: ·)

theorem commaItems_cons (item : Value) (items : List Value) :
    commaItems (item :: items) = ',' :: (item.literalChars ++ commaItems items) := by
  unfold commaItems
  rw [itemLiterals, List.flatMap_cons, List.cons_append]

theorem commaItems_append (item : Value) (items : List Value) (rest : List Char) :
    commaItems (item :: items) ++ rest =
      ',' :: (item.literalChars ++ (commaItems items ++ rest)) := by
  rw [commaItems_cons, List.cons_append, List.append_assoc]

theorem intercalate_itemLiterals (item : Value) (items : List Value) :
    [','].intercalate (itemLiterals (item :: items)) = item.literalChars ++ commaItems items := by
  induction items generalizing item with
  | nil => simp [commaItems, itemLiterals]
  | cons next items ih =>
    rw [commaItems_cons, ← ih, itemLiterals, itemLiterals, List.intercalate_cons_cons,
      List.append_assoc]
    rfl

theorem literalChars_cons (item : Value) (items : List Value) (rest : List Char) :
    (list (item :: items)).literalChars ++ rest =
      '(' :: (item.literalChars ++ (commaItems items ++ ')' :: rest)) := by
  rw [literalChars, intercalate_itemLiterals]
  simp

theorem ends_commaItems (items : List Value) (rest : List Char) :
    Ends (commaItems items ++ ')' :: rest) := by
  cases items with
  | nil => exact ends_cons _ (by decide) (by decide)
  | cons item items =>
    rw [commaItems_cons]
    exact ends_cons _ (by decide) (by decide)

theorem closing_ne_literalChars {v : Value} (free : v.FloatFree) (rest behind : List Char) :
    ')' :: rest ≠ v.literalChars ++ behind := by
  intro same
  have lead := kindOfLead?_append free behind
  rw [← same] at lead
  cases lead

theorem commaItems_eq_of_list {vs ws : List Value} (free : AllFloatFree vs)
    (free' : AllFloatFree ws)
    (same : (list vs).literalChars ++ rest = (list ws).literalChars ++ rest') :
    commaItems vs ++ ')' :: rest = commaItems ws ++ ')' :: rest' := by
  cases vs with
  | nil =>
    cases ws with
    | nil => exact (List.cons.inj same).2
    | cons w ws =>
      rw [literalChars_cons] at same
      exact absurd (List.cons.inj same).2 (closing_ne_literalChars free'.1 _ _)
  | cons v vs =>
    rw [literalChars_cons] at same
    cases ws with
    | nil => exact absurd (List.cons.inj same).2.symm (closing_ne_literalChars free.1 _ _)
    | cons w ws =>
      rw [literalChars_cons] at same
      rw [commaItems_append, commaItems_append, (List.cons.inj same).2]

/-! ## Literals that are the same -/

mutual

theorem normal_of_append : ∀ {v w : Value}, v.FloatFree → w.FloatFree →
    v.normal.kind = w.normal.kind → ∀ {rest rest' : List Char}, Ends rest → Ends rest' →
    v.literalChars ++ rest = w.literalChars ++ rest' → v.normal = w.normal ∧ rest = rest'
  -- The kinds are the same; integers of both widths are of one kind.
  | null, null, _, _, _ => fun _ _ same => ⟨rfl, List.append_cancel_left same⟩
  | int32 _, int32 _, _, _, _ | int32 _, int64 _, _, _, _
  | int64 _, int32 _, _, _, _ | int64 _, int64 _, _, _, _ => by
    intro ends ends' same
    obtain ⟨numbers, behind⟩ := Text.toString_append_inj (fun c mem => (ends c mem).2)
      (fun c mem => (ends' c mem).2) same
    refine ⟨?_, behind⟩
    simp only [normal, int64.injEq, ← Int64.toInt_inj, Int32.toInt_toInt64, numbers]
  | text _, text _, _, _, _ => by
    intro ends ends' same
    obtain ⟨rfl, behind⟩ := text_append_inj ends ends' same
    exact ⟨rfl, behind⟩
  | boolean _, boolean _, _, _, _ => by
    intro _ _ same
    obtain ⟨rfl, behind⟩ := boolean_append_inj same
    exact ⟨rfl, behind⟩
  | list vs, list ws, free, free', _ => by
    intro _ _ same
    have commas := commaItems_eq_of_list free free' same
    obtain ⟨items, behind⟩ := normalItems_of_append free free' commas
    rw [normal, normal, items]
    exact ⟨rfl, behind⟩
  | float64 _, _, free, _, _ => free.elim
  | _, float64 _, _, free', _ => free'.elim

theorem normalItems_of_append : ∀ {vs ws : List Value}, AllFloatFree vs → AllFloatFree ws →
    ∀ {rest rest' : List Char}, commaItems vs ++ ')' :: rest = commaItems ws ++ ')' :: rest' →
    normalItems vs = normalItems ws ∧ rest = rest'
  | [], [], _, _ => fun same => ⟨rfl, (List.cons.inj same).2⟩
  | v :: vs, w :: ws, free, free' => by
    intro same
    rw [commaItems_append, commaItems_append] at same
    have items := (List.cons.inj same).2
    -- The first item ends where the next comma or the end of the list stands.
    obtain ⟨first, others⟩ := normal_of_append free.1 free'.1
      (kind_eq_of_append free.1 free'.1 items) (ends_commaItems vs _) (ends_commaItems ws _) items
    obtain ⟨later, behind⟩ := normalItems_of_append free.2 free'.2 others
    rw [normalItems, normalItems, first, later]
    exact ⟨rfl, behind⟩
  | [], w :: ws, _, _ | v :: vs, [], _, _ => by
    intro same
    rw [commaItems_append] at same
    cases same

end

theorem literalChars_append_iff {v w : Value} (free : v.FloatFree) (free' : w.FloatFree)
    (ends : Ends rest) (ends' : Ends rest') :
    v.literalChars ++ rest = w.literalChars ++ rest' ↔ v.normal = w.normal ∧ rest = rest' := by
  constructor
  · intro same
    exact normal_of_append free free' (kind_eq_of_append free free' same) ends ends' same
  · rintro ⟨same, rfl⟩
    rw [← literalChars_normal free, same, literalChars_normal free']

/-- Values without doubles have one literal exactly when they differ in nothing but the width of
integers. In a longer text, too, both the value and what stands behind its literal can be told, as
long as that does not continue the literal. -/
theorem literal_unambiguous {v w : Value} (free : v.FloatFree) (free' : w.FloatFree) :
    (v.literal = w.literal ↔ v.normal = w.normal) ∧
      ∀ rest rest', Ends rest → Ends rest' →
        (v.literalChars ++ rest = w.literalChars ++ rest' ↔
          v.normal = w.normal ∧ rest = rest') := by
  have alone := literalChars_append_iff free free' ends_nil ends_nil
  rw [List.append_nil, List.append_nil] at alone
  refine ⟨?_, fun rest rest' ends ends' => literalChars_append_iff free free' ends ends'⟩
  rw [literal, literal, String.ofList_inj, alone]
  exact and_iff_left rfl

theorem quotes_told_apart :
    ((list [.text "a','b"]).FloatFree ∧ (list [.text "a", .text "b"]).FloatFree ∧
      (list [.text "a','b"]).literal ≠ (list [.text "a", .text "b"]).literal) ∧
    ((text "a' OR 'b").FloatFree ∧ (text "a").FloatFree ∧ Ends [] ∧ Ends " OR 'b'".toList ∧
      (text "a' OR 'b").literalChars ++ [] ≠ (text "a").literalChars ++ " OR 'b'".toList) := by
  have behind : Ends " OR 'b'".toList := ends_cons _ (by decide) (by decide)
  have one : (list [.text "a','b"]).FloatFree := ⟨trivial, trivial⟩
  have two : (list [.text "a", .text "b"]).FloatFree := ⟨trivial, trivial, trivial⟩
  have whole : (text "a' OR 'b").FloatFree := trivial
  have start : (text "a").FloatFree := trivial
  refine ⟨⟨one, two, ?_⟩, whole, start, ends_nil, behind, ?_⟩
  · rw [ne_eq, (literal_unambiguous one two).1]
    simp [normal, normalItems]
  · rw [ne_eq, (literal_unambiguous whole start).2 _ _ ends_nil behind]
    simp

/-- A double is not told from an integer. -/
example : (float64 (.ofInt 2)).literal = (int32 2).literal := by
  decide +kernel

end Value

end EntityStore
