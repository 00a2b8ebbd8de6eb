import EntityStore.Proofs.Mapping
import EntityStore.Proofs.Search.Notes
import EntityStore.Search.Compile
import Mathlib.Data.List.Forall2
import Mathlib.Data.List.TakeWhile

/-!
# What a chain asks of documents

The leaves of queries may mean anything: a meaning says of every leaf which documents it accepts. A
compiled chain then accepts the documents of which every condition holds, whatever the leaves mean.
Each condition has one leaf, asked for or denied, and the leaves stand in the order of the chain.
-/

namespace EntityStore

/-! ## Queries and documents -/

/-- Which documents the leaves accept. -/
structure Leaves (D : Type) where
  term : String → Value → D → Prop
  terms : String → List Value → D → Prop
  range : String → RangeOp → Value → D → Prop
  startsWith : String → String → D → Prop
  wildcard : String → String → D → Prop
  fullText : String → Value → D → Prop
  phrase : String → Value → D → Prop
  present : String → D → Prop
  raw : String → D → Prop

namespace SearchQuery

variable {D : Type}

mutual

/-- Whether a query accepts a document: a Boolean one does if all that must match do and nothing
does that must not. -/
def Accepts (leaves : Leaves D) (doc : D) : SearchQuery → Prop
  | matchAll => True
  | term field value => leaves.term field value doc
  | terms field values => leaves.terms field values doc
  | range field op value => leaves.range field op value doc
  | startsWith field start => leaves.startsWith field start doc
  | wildcard field pattern => leaves.wildcard field pattern doc
  | fullText field value => leaves.fullText field value doc
  | phrase field value => leaves.phrase field value doc
  | present field => leaves.present field doc
  | bool must mustNot => AllAccept leaves doc must ∧ NoneAccepts leaves doc mustNot
  | raw query => leaves.raw query doc

def AllAccept (leaves : Leaves D) (doc : D) : List SearchQuery → Prop
  | [] => True
  | q :: rest => Accepts leaves doc q ∧ AllAccept leaves doc rest

def NoneAccepts (leaves : Leaves D) (doc : D) : List SearchQuery → Prop
  | [] => True
  | q :: rest => ¬ Accepts leaves doc q ∧ NoneAccepts leaves doc rest

end

/-- The leaf of a pattern. Texts that start so are asked for where `%` stands at the end alone; any
other pattern is matched with `*` for every `%`. -/
inductive Like (field : String) : List Char → SearchQuery → Prop where
  | startsWith {start : List Char} {n : Nat} (ne : start ≠ []) (plain : '%' ∉ start) :
    Like field (start ++ List.replicate (n + 1) '%') (.startsWith field (String.ofList start))
  | wildcard {pattern : List Char}
    (other : ∀ start n, start ≠ [] → '%' ∉ start → pattern ≠ start ++ List.replicate (n + 1) '%') :
    Like field pattern
      (.wildcard field (String.ofList (pattern.map fun c => if c = '%' then '*' else c)))

end SearchQuery

/-! ## Conditions and documents -/

namespace Criterion

variable {D : Type}

def denies (node : Criterion) : Bool :=
  match node.operator with
  | .ne | .notAmong | .isNull => true
  | _ => false

def Holds (leaves : Leaves D) (field : String) (doc : D) (node : Criterion) : Prop :=
  match node.operator with
  | .eq => leaves.term field node.value doc
  | .ne => ¬ leaves.term field node.value doc
  | .gt => leaves.range field .gt node.value doc
  | .gte => leaves.range field .gte node.value doc
  | .lt => leaves.range field .lt node.value doc
  | .lte => leaves.range field .lte node.value doc
  | .like => ∃ pattern q, node.value = .text pattern ∧
      SearchQuery.Like field pattern.toList q ∧ q.Accepts leaves doc
  | .fullText => leaves.fullText field node.value doc
  | .phrase => leaves.phrase field node.value doc
  | .among => ∃ items, node.value = .list items ∧ leaves.terms field items doc
  | .notAmong => ∃ items, node.value = .list items ∧ ¬ leaves.terms field items doc
  | .isNull => ¬ leaves.present field doc
  | .isNotNull => leaves.present field doc

inductive Leaf (field : String) : Criterion → SearchQuery → Prop where
  | eq (key : String) (v : Value) : Leaf field ⟨key, .eq, v⟩ (.term field v)
  | ne (key : String) (v : Value) : Leaf field ⟨key, .ne, v⟩ (.term field v)
  | gt (key : String) (v : Value) : Leaf field ⟨key, .gt, v⟩ (.range field .gt v)
  | gte (key : String) (v : Value) : Leaf field ⟨key, .gte, v⟩ (.range field .gte v)
  | lt (key : String) (v : Value) : Leaf field ⟨key, .lt, v⟩ (.range field .lt v)
  | lte (key : String) (v : Value) : Leaf field ⟨key, .lte, v⟩ (.range field .lte v)
  | like (key pattern : String) {q : SearchQuery} (leaf : SearchQuery.Like field pattern.toList q) :
    Leaf field ⟨key, .like, .text pattern⟩ q
  | fullText (key : String) (v : Value) : Leaf field ⟨key, .fullText, v⟩ (.fullText field v)
  | phrase (key : String) (v : Value) : Leaf field ⟨key, .phrase, v⟩ (.phrase field v)
  | among (key : String) (items : List Value) :
    Leaf field ⟨key, .among, .list items⟩ (.terms field items)
  | notAmong (key : String) (items : List Value) :
    Leaf field ⟨key, .notAmong, .list items⟩ (.terms field items)
  | isNull (key : String) (v : Value) : Leaf field ⟨key, .isNull, v⟩ (.present field)
  | isNotNull (key : String) (v : Value) : Leaf field ⟨key, .isNotNull, v⟩ (.present field)

end Criterion

namespace SearchQuery

variable {D : Type} {leaves : Leaves D} {doc : D}

theorem allAccept_iff {qs : List SearchQuery} :
    AllAccept leaves doc qs ↔ ∀ q ∈ qs, q.Accepts leaves doc := by
  induction qs with
  | nil => simp [AllAccept]
  | cons q rest ih => rw [AllAccept, ih, List.forall_mem_cons]

theorem noneAccepts_iff {qs : List SearchQuery} :
    NoneAccepts leaves doc qs ↔ ∀ q ∈ qs, ¬ q.Accepts leaves doc := by
  induction qs with
  | nil => simp [NoneAccepts]
  | cons q rest ih => rw [NoneAccepts, ih, List.forall_mem_cons]

end SearchQuery

namespace Search

variable {m : Mapping} {field : String}

/-! ## Patterns -/

theorem like_start {start : List Char} (ne : start ≠ []) (plain : '%' ∉ start) (n : Nat) :
    like field (start ++ List.replicate (n + 1) '%') =
      .startsWith field (String.ofList start) := by
  have head : (start ++ List.replicate (n + 1) '%').head? ≠ some '%' := by
    rw [List.head?_append_of_ne_nil _ ne]
    exact fun h => plain (List.mem_of_mem_head? h)
  have last : (start ++ List.replicate (n + 1) '%').getLast? = some '%' := by
    rw [List.replicate_succ', ← List.append_assoc, List.getLast?_concat]
  have dropped : (start ++ List.replicate (n + 1) '%').reverse.dropWhile (· == '%') =
      start.reverse := by
    rw [List.reverse_append, List.reverse_replicate, List.dropWhile_append_of_pos (by simp)]
    cases h : start.reverse with
    | nil => rfl
    | cons c rest =>
      have mem : c ∈ start := List.mem_reverse.mp (h ▸ List.mem_cons_self)
      exact List.dropWhile_cons_of_neg fun same => plain (eq_of_beq same ▸ mem)
  unfold like
  rw [dropped, List.reverse_reverse, if_pos ⟨head, last, plain⟩]

theorem eq_start_append (pattern : List Char) : ∃ n, pattern =
    (pattern.reverse.dropWhile (· == '%')).reverse ++ List.replicate n '%' := by
  have marks : ∀ c ∈ pattern.reverse.takeWhile (· == '%'), c = '%' := by
    intro c hc
    have marked := List.mem_takeWhile_imp (p := (· == '%')) hc
    exact eq_of_beq marked
  refine ⟨(pattern.reverse.takeWhile (· == '%')).length, ?_⟩
  calc pattern = (pattern.reverse.takeWhile (· == '%') ++
        pattern.reverse.dropWhile (· == '%')).reverse := by
        rw [List.takeWhile_append_dropWhile, List.reverse_reverse]
    _ = (pattern.reverse.dropWhile (· == '%')).reverse ++
        (pattern.reverse.takeWhile (· == '%')).reverse := List.reverse_append
    _ = _ := by
        conv_lhs => rw [List.eq_replicate_of_mem marks, List.reverse_replicate]

theorem exists_marks {pattern : List Char} (head : pattern.head? ≠ some '%')
    (last : pattern.getLast? = some '%')
    (plain : '%' ∉ (pattern.reverse.dropWhile (· == '%')).reverse) :
    ∃ start n, start = (pattern.reverse.dropWhile (· == '%')).reverse ∧ start ≠ [] ∧
      pattern = start ++ List.replicate (n + 1) '%' := by
  obtain ⟨n, whole⟩ := eq_start_append pattern
  generalize (pattern.reverse.dropWhile (· == '%')).reverse = start at whole plain
  subst whole
  cases n with
  | zero =>
    rw [List.replicate_zero, List.append_nil] at last
    exact absurd (List.mem_of_mem_getLast? last) plain
  | succ n =>
    refine ⟨start, n, rfl, ?_, rfl⟩
    rintro rfl
    exact head rfl

theorem like_other {pattern : List Char} (other : ∀ start n, start ≠ [] → '%' ∉ start →
    pattern ≠ start ++ List.replicate (n + 1) '%') :
    like field pattern =
      .wildcard field (String.ofList (pattern.map fun c => if c = '%' then '*' else c)) := by
  unfold like
  rw [if_neg]
  rintro ⟨head, last, plain⟩
  obtain ⟨start, n, rfl, ne, whole⟩ := exists_marks head last plain
  exact other _ n ne plain whole

theorem like_iff {pattern : List Char} {q : SearchQuery} :
    SearchQuery.Like field pattern q ↔ q = like field pattern := by
  constructor
  · rintro (⟨ne, plain⟩ | other)
    · exact (like_start ne plain _).symm
    · exact (like_other other).symm
  · rintro rfl
    by_cases marked : ∃ start n, start ≠ [] ∧ '%' ∉ start ∧
        pattern = start ++ List.replicate (n + 1) '%'
    · obtain ⟨start, n, ne, plain, rfl⟩ := marked
      rw [like_start ne plain]
      exact .startsWith ne plain
    · have other : ∀ start n, start ≠ [] → '%' ∉ start →
          pattern ≠ start ++ List.replicate (n + 1) '%' :=
        fun start n ne plain whole => marked ⟨start, n, ne, plain, whole⟩
      rw [like_other other]
      exact .wildcard other

/-! ## One condition -/

theorem asText_eq_ok {v : Value} {s : String} : v.asText = .ok s ↔ v = .text s := by
  unfold Value.asText
  split <;> simp_all

theorem asList_eq_ok {v : Value} {items : List Value} :
    v.asList = .ok items ↔ v = .list items := by
  unfold Value.asList
  split <;> simp_all

theorem leaf_of_clause {node : Criterion} {c : Clause} (ok : clause m node = .ok c) :
    ∃ field q, m.columnOf? node.key = some field ∧ node.Leaf field q ∧
      c = if node.denies then .mustNot q else .must q := by
  obtain ⟨field, hfield, ok⟩ := bind_eq_ok.mp ok
  obtain ⟨_, -, ok⟩ := bind_eq_ok.mp ok
  obtain ⟨key, operator, value⟩ := node
  refine ⟨field, ?_⟩
  cases operator
  case like =>
    obtain ⟨pattern, hpattern, ok⟩ := bind_eq_ok.mp ok
    obtain rfl := asText_eq_ok.mp hpattern
    cases ok
    exact ⟨_, Mapping.column_eq_ok.mp hfield, .like key pattern (like_iff.mpr rfl), rfl⟩
  case among =>
    obtain ⟨items, hitems, ok⟩ := bind_eq_ok.mp ok
    obtain rfl := asList_eq_ok.mp hitems
    cases ok
    exact ⟨_, Mapping.column_eq_ok.mp hfield, .among key items, rfl⟩
  case notAmong =>
    obtain ⟨items, hitems, ok⟩ := bind_eq_ok.mp ok
    obtain rfl := asList_eq_ok.mp hitems
    cases ok
    exact ⟨_, Mapping.column_eq_ok.mp hfield, .notAmong key items, rfl⟩
  all_goals
    cases ok
    exact ⟨_, Mapping.column_eq_ok.mp hfield, by constructor, rfl⟩

variable {D : Type} {leaves : Leaves D} {doc : D}

theorem holds_iff_leaf {node : Criterion} {q : SearchQuery} (leaf : node.Leaf field q) :
    node.Holds leaves field doc ↔
      if node.denies then ¬ q.Accepts leaves doc else q.Accepts leaves doc := by
  cases leaf
  case like key pattern leaf =>
    have only : ∀ q', SearchQuery.Like field pattern.toList q' ↔ q' = q := by
      intro q'
      rw [like_iff, like_iff.mp leaf]
    simp [Criterion.Holds, Criterion.denies, only]
  all_goals simp [Criterion.Holds, Criterion.denies, SearchQuery.Accepts]

/-! ## Chains -/

def LeafOf (m : Mapping) (node : Criterion) (q : SearchQuery) : Prop :=
  ∃ field, m.columnOf? node.key = some field ∧ node.Leaf field q

theorem leaves_of_clauses {nodes : List Criterion} {clauses : List Clause}
    (ok : nodes.mapM (clause m) = .ok clauses) :
    List.Forall₂ (LeafOf m) (nodes.filter (!·.denies)) (clauses.filterMap Clause.must?) ∧
      List.Forall₂ (LeafOf m) (nodes.filter (·.denies)) (clauses.filterMap Clause.mustNot?) := by
  induction nodes generalizing clauses with
  | nil => cases ok; exact ⟨.nil, .nil⟩
  | cons node rest ih =>
    obtain ⟨c, later, hc, hlater, rfl⟩ := mapM_cons_eq_ok.mp ok
    obtain ⟨asked, denied⟩ := ih hlater
    obtain ⟨field, q, column, leaf, rfl⟩ := leaf_of_clause hc
    have here : LeafOf m node q := ⟨field, column, leaf⟩
    cases sign : node.denies with
    | false =>
      rw [List.filter_cons_of_pos (by simp [sign]), List.filter_cons_of_neg (by simp [sign])]
      exact ⟨.cons here asked, denied⟩
    | true =>
      rw [List.filter_cons_of_neg (by simp [sign]), List.filter_cons_of_pos sign]
      exact ⟨asked, .cons here denied⟩

def HoldsOf (m : Mapping) (leaves : Leaves D) (doc : D) (node : Criterion) : Prop :=
  ∃ field, m.columnOf? node.key = some field ∧ node.Holds leaves field doc

theorem holdsOf_iff {node : Criterion} {q : SearchQuery} (leaf : LeafOf m node q) :
    HoldsOf m leaves doc node ↔
      if node.denies then ¬ q.Accepts leaves doc else q.Accepts leaves doc := by
  obtain ⟨field, column, leaf⟩ := leaf
  rw [← holds_iff_leaf leaf]
  constructor
  · rintro ⟨field', column', holds⟩
    obtain rfl := Option.some.inj (column.symm.trans column')
    exact holds
  · exact fun holds => ⟨field, column, holds⟩

theorem forall_mem_iff_of_forall₂ {α β : Type} {r : α → β → Prop} {p : α → Prop} {p' : β → Prop}
    {xs : List α} {ys : List β} (related : List.Forall₂ r xs ys)
    (same : ∀ x ∈ xs, ∀ y, r x y → (p x ↔ p' y)) : (∀ x ∈ xs, p x) ↔ ∀ y ∈ ys, p' y := by
  induction related with
  | nil => simp
  | cons h _ ih =>
    rw [List.forall_mem_cons, List.forall_mem_cons, same _ List.mem_cons_self _ h,
      ih fun x hx => same x (List.mem_cons_of_mem _ hx)]

theorem forall_mem_iff_filter {α : Type} {p : α → Prop} (sign : α → Bool) {xs : List α} :
    (∀ x ∈ xs, p x) ↔
      (∀ x ∈ xs.filter (!sign ·), p x) ∧ ∀ x ∈ xs.filter (sign ·), p x := by
  simp only [List.mem_filter]
  constructor
  · exact fun h => ⟨fun x hx => h x hx.1, fun x hx => h x hx.1⟩
  · rintro ⟨plus, minus⟩ x hx
    cases hs : sign x with
    | false => exact plus x ⟨hx, by simp [hs]⟩
    | true => exact minus x ⟨hx, hs⟩

/-- A compiled chain accepts the documents of which every condition holds. It has one leaf for every
condition, those that are asked for and those that are denied each in the order of the chain, and is
never empty. -/
theorem accepts_query_iff {c : Criteria} {q : SearchQuery} (ok : query m (some c) = .ok q) :
    (∀ {D : Type} (leaves : Leaves D) (doc : D),
      q.Accepts leaves doc ↔ ∀ node ∈ c.nodes, HoldsOf m leaves doc node) ∧
    ∃ must mustNot, q = .bool must mustNot ∧
      List.Forall₂ (LeafOf m) (c.nodes.filter (!·.denies)) must ∧
      List.Forall₂ (LeafOf m) (c.nodes.filter (·.denies)) mustNot ∧
      must.length + mustNot.length = c.size ∧ (must ≠ [] ∨ mustNot ≠ []) := by
  obtain ⟨clauses, hclauses, ok⟩ := bind_eq_ok.mp ok
  cases ok
  obtain ⟨asked, denied⟩ := leaves_of_clauses hclauses
  have total : (clauses.filterMap Clause.must?).length +
      (clauses.filterMap Clause.mustNot?).length = c.size := by
    rw [← asked.length_eq, ← denied.length_eq, Criteria.size,
      c.nodes.length_eq_length_filter_add Criterion.denies, Nat.add_comm]
  refine ⟨fun leaves doc => ?_, _, _, rfl, asked, denied, total, ?_⟩
  · rw [SearchQuery.Accepts, SearchQuery.allAccept_iff, SearchQuery.noneAccepts_iff,
      forall_mem_iff_filter Criterion.denies]
    refine and_congr (forall_mem_iff_of_forall₂ asked ?_).symm
      (forall_mem_iff_of_forall₂ denied ?_).symm
    · intro node mem q leaf
      rw [holdsOf_iff leaf, if_neg (by simpa using (List.mem_filter.mp mem).2)]
    · intro node mem q leaf
      rw [holdsOf_iff leaf, if_pos (List.mem_filter.mp mem).2]
  · by_contra! empty
    rw [empty.1, empty.2] at total
    exact Criteria.nodes_ne_nil c (List.length_eq_zero_iff.mp total.symm)

def someNotes : Criteria :=
  ((Criteria.single "title" .like (.text "ab%%")).and "rank" .ne (.int32 3)).and "title" .isNull
    .null

theorem someNotes_accepts :
    query noteMapping (some someNotes) =
      .ok (.bool [.startsWith "title" "ab"] [.term "rank" (.int32 3), .present "title"]) ∧
    ∀ {D : Type} (leaves : Leaves D) (doc : D),
      SearchQuery.Accepts leaves doc
        (.bool [.startsWith "title" "ab"] [.term "rank" (.int32 3), .present "title"]) ↔
      ∀ node ∈ someNotes.nodes, HoldsOf noteMapping leaves doc node := by
  have compiled : query noteMapping (some someNotes) =
      .ok (.bool [.startsWith "title" "ab"] [.term "rank" (.int32 3), .present "title"]) := by rfl
  exact ⟨compiled, (accepts_query_iff compiled).1⟩

end Search

end EntityStore
