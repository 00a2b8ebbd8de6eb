import EntityStore.Proofs.Search.Meaning
import Mathlib.Data.List.Infix

/-!
# Patterns and the texts that match them

A pattern with `%` for any characters becomes a leaf of another language: a text to start with, or a
pattern with `*` for any characters. The leaf accepts every text that matches the pattern, and no
other where the pattern has no `*` of its own.
-/

namespace EntityStore

/-! ## Matching -/

namespace Text

/-- Whether a text matches a pattern in which `many` stands for any characters, or for none, and
every other character for itself. -/
def Matches (many : Char) : List Char → List Char → Prop
  | [], text => text = []
  | c :: pattern, text =>
    if c = many then ∃ rest ∈ text.tails, Matches many pattern rest
    else text.head? = some c ∧ Matches many pattern text.tail

instance decidableMatches (many : Char) : ∀ pattern text, Decidable (Matches many pattern text)
  | [], text => inferInstanceAs (Decidable (text = []))
  | c :: pattern, text =>
    have (rest : List Char) : Decidable (Matches many pattern rest) :=
      decidableMatches many pattern rest
    inferInstanceAs (Decidable (if c = many then ∃ rest ∈ text.tails, Matches many pattern rest
      else text.head? = some c ∧ Matches many pattern text.tail))

variable {many c : Char} {pattern start text : List Char}

theorem matches_many :
    Matches many (many :: pattern) text ↔ ∃ rest, rest <:+ text ∧ Matches many pattern rest := by
  simp only [Matches, if_true, List.mem_tails]

theorem matches_literal (literal : c ≠ many) :
    Matches many (c :: pattern) text ↔ ∃ rest, text = c :: rest ∧ Matches many pattern rest := by
  rw [Matches, if_neg literal]
  cases text with
  | nil => simp
  | cons d rest =>
    rw [List.head?_cons, List.tail_cons, Option.some.injEq]
    constructor
    · rintro ⟨rfl, later⟩
      exact ⟨rest, rfl, later⟩
    · rintro ⟨_, same, later⟩
      cases same
      exact ⟨rfl, later⟩

theorem matches_append (literal : many ∉ start) :
    Matches many (start ++ pattern) text ↔
      ∃ rest, text = start ++ rest ∧ Matches many pattern rest := by
  induction start generalizing text with
  | nil => simp
  | cons c start ih =>
    rw [List.mem_cons, not_or] at literal
    rw [List.cons_append, matches_literal (Ne.symm literal.1)]
    simp only [ih literal.2, List.cons_append]
    constructor
    · rintro ⟨_, rfl, rest, rfl, later⟩
      exact ⟨rest, rfl, later⟩
    · rintro ⟨rest, rfl, later⟩
      exact ⟨_, rfl, rest, rfl, later⟩

theorem matches_marks (many : Char) (n : Nat) (text : List Char) :
    Matches many (List.replicate (n + 1) many) text := by
  induction n generalizing text with
  | zero => exact matches_many.mpr ⟨[], List.nil_suffix, rfl⟩
  | succ n ih => exact matches_many.mpr ⟨text, List.suffix_rfl, ih text⟩

theorem matches_start (literal : many ∉ start) (n : Nat) :
    Matches many (start ++ List.replicate (n + 1) many) text ↔ start <+: text := by
  rw [matches_append literal]
  constructor
  · rintro ⟨rest, rfl, -⟩
    exact List.prefix_append start rest
  · rintro ⟨rest, rfl⟩
    exact ⟨rest, rfl, matches_marks many n rest⟩

end Text

/-- In a field of the document the leaves read the text, whether it starts in some way or matches a
pattern with stars. -/
structure Leaves.Reads {D : Type} (leaves : Leaves D) (field : String) (doc : D) (text : String) :
    Prop where
  startsWith : ∀ start, leaves.startsWith field start doc ↔ start.toList <+: text.toList
  wildcard : ∀ pattern,
    leaves.wildcard field pattern doc ↔ Text.Matches '*' pattern.toList text.toList

namespace Search

/-! ## Stars for marks -/

open Text (Matches matches_many matches_literal matches_start)

variable {pattern text : List Char}

def starred (pattern : List Char) : List Char := pattern.map fun c => if c = '%' then '*' else c

@[simp] theorem starred_mark (pattern : List Char) :
    starred ('%' :: pattern) = '*' :: starred pattern := rfl

theorem starred_literal {c : Char} (literal : c ≠ '%') (pattern : List Char) :
    starred (c :: pattern) = c :: starred pattern := by
  simp [starred, literal]

theorem matches_starred (matched : Matches '%' pattern text) :
    Matches '*' (starred pattern) text := by
  induction pattern generalizing text with
  | nil => exact matched
  | cons c pattern ih =>
    by_cases mark : c = '%'
    · subst mark
      obtain ⟨rest, suffix, later⟩ := matches_many.mp matched
      exact matches_many.mpr ⟨rest, suffix, ih later⟩
    · obtain ⟨rest, rfl, later⟩ := (matches_literal mark).mp matched
      rw [starred_literal mark]
      by_cases star : c = '*'
      · subst star
        exact matches_many.mpr ⟨rest, List.suffix_cons _ _, ih later⟩
      · exact (matches_literal star).mpr ⟨rest, rfl, ih later⟩

theorem matches_of_starred (plain : '*' ∉ pattern) (matched : Matches '*' (starred pattern) text) :
    Matches '%' pattern text := by
  induction pattern generalizing text with
  | nil => exact matched
  | cons c pattern ih =>
    rw [List.mem_cons, not_or] at plain
    by_cases mark : c = '%'
    · subst mark
      obtain ⟨rest, suffix, later⟩ := matches_many.mp matched
      exact matches_many.mpr ⟨rest, suffix, ih plain.2 later⟩
    · rw [starred_literal mark] at matched
      obtain ⟨rest, rfl, later⟩ := (matches_literal (Ne.symm plain.1)).mp matched
      exact (matches_literal mark).mpr ⟨rest, rfl, ih plain.2 later⟩

/-! ## The leaf of a pattern -/

variable {D : Type} {leaves : Leaves D} {field : String} {doc : D} {text : String}

/-- The leaf of a pattern for texts that start so accepts what matches it, and the leaf of any other
pattern what matches its starred form. -/
theorem accepts_like_iff (reads : leaves.Reads field doc text) {pattern : List Char}
    {q : SearchQuery} (leaf : SearchQuery.Like field pattern q) :
    (q.Accepts leaves doc ↔ Matches '%' pattern text.toList) ∨
      (q.Accepts leaves doc ↔ Matches '*' (starred pattern) text.toList) := by
  cases leaf with
  | startsWith ne literal =>
    left
    rw [SearchQuery.Accepts, reads.startsWith, String.toList_ofList, matches_start literal]
  | wildcard other =>
    right
    rw [SearchQuery.Accepts, reads.wildcard, String.toList_ofList]
    rfl

/-- The query of a pattern without stars of its own accepts exactly the texts that match it. With
stars, it misses none of them. -/
theorem like_keeps_meaning (reads : leaves.Reads field doc text) (pattern : List Char) :
    ('*' ∉ pattern → ((like field pattern).Accepts leaves doc ↔
      Matches '%' pattern text.toList)) ∧
    (Matches '%' pattern text.toList → (like field pattern).Accepts leaves doc) := by
  rcases accepts_like_iff reads (like_iff.mpr rfl) with same | starred
  · exact ⟨fun _ => same, same.mpr⟩
  · rw [starred]
    exact ⟨fun plain => ⟨matches_of_starred plain, matches_starred⟩, matches_starred⟩

def textLeaves : Leaves String where
  term _ _ _ := False
  terms _ _ _ := False
  range _ _ _ _ := False
  startsWith _ start text := start.toList <+: text.toList
  wildcard _ pattern text := Matches '*' pattern.toList text.toList
  fullText _ _ _ := False
  phrase _ _ _ := False
  present _ _ := True
  raw _ _ := False

theorem reads_textLeaves (field text : String) : textLeaves.Reads field text text :=
  ⟨fun _ => Iff.rfl, fun _ => Iff.rfl⟩

theorem banana_matched :
    textLeaves.Reads "title" "banana" "banana" ∧
    ('*' ∉ "%an%a".toList ∧ (like "title" "%an%a".toList).Accepts textLeaves "banana") ∧
    ('*' ∉ "ban%%".toList ∧ (like "title" "ban%%".toList).Accepts textLeaves "banana") ∧
    ('*' ∉ "".toList ∧ ¬ (like "title" "".toList).Accepts textLeaves "banana") := by
  have reads := reads_textLeaves "title" "banana"
  refine ⟨reads, ⟨by decide, ?_⟩, ⟨by decide, ?_⟩, by decide, ?_⟩
  · exact ((like_keeps_meaning reads _).1 (by decide)).mpr (by decide)
  · exact (like_keeps_meaning reads _).2 (by decide)
  · rw [(like_keeps_meaning reads _).1 (by decide)]
    decide

end Search

end EntityStore
