import EntityStore.Proofs.Relational.Alignment

/-!
# Values leave no trace in the text

Two requests that agree on everything but their values are compiled to the same text, or refused for
the same reason. What a value may change is its own place among the parameters.
-/

namespace EntityStore

/-! ## Requests of the same shape -/

/-- The conditions differ at most in values, and these are of the shape that the operator takes. -/
structure Criterion.Alike (a b : Criterion) : Prop where
  key : a.key = b.key
  operator : a.operator = b.operator
  value : match a.operator.shape with
    | .noValue => True
    | .single => a.value.isList = false ∧ b.value.isList = false
    | .multi => ∃ xs ys, a.value = .list xs ∧ b.value = .list ys ∧ xs ≠ [] ∧ xs.length = ys.length

def Criteria.Alike (a b : Criteria) : Prop := List.Forall₂ Criterion.Alike a.nodes b.nodes

structure Query.Alike (a b : Query) : Prop where
  criteria : Option.Rel Criteria.Alike a.criteria b.criteria
  rest : { a with criteria := b.criteria } = b

def Update.Alike (a b : Update) : Prop := a.keys = b.keys

namespace Relational

inductive Request.Alike : Request → Request → Prop where
  | select {a b : Query} (alike : a.Alike b) : Alike (.select a) (.select b)
  | count {a b : Option Criteria} (alike : Option.Rel Criteria.Alike a b) :
    Alike (.count a) (.count b)
  | update {u v : Update} {a b : Criteria} (sets : u.Alike v) (alike : a.Alike b) :
    Alike (.update u a) (.update v b)
  | insert {a b : List (String × Value)} (columns : a.map (·.1) = b.map (·.1)) :
    Alike (.insert a) (.insert b)
  | deleteById (a b : Id) : Alike (.deleteById a) (.deleteById b)

/-- The templates read the same up to their values. -/
def SameText (t u : Template) : Prop := t.sql = u.sql

variable {m : Mapping}

/-! ## Conditions -/

theorem sameText_boundList {xs ys : List Value} (h : xs.length = ys.length) :
    SameText (Template.boundList xs) (Template.boundList ys) := by
  have marks : ∀ values : List Value,
      (Template.boundList values).sql = ",".intercalate (List.replicate values.length "?") := by
    intro values
    rw [Template.sql_eq_rendered, Template.rendered_boundList, List.map_const']
  unfold SameText
  rw [marks, marks, h]

theorem agree_predicate {a b : Criterion} (alike : a.Alike b) :
    Agree SameText (predicate m a) (predicate m b) := by
  obtain ⟨key, operator, value⟩ := alike
  unfold predicate
  rw [← key, ← operator]
  refine (Agree.refl (r := (· = ·)) (fun _ => rfl) _).bind ?_
  rintro column _ rfl
  cases hs : a.operator.shape with
  | noValue => exact .ok rfl
  | single =>
    simp only [hs] at value ⊢
    split_ifs
    · -- A text search is refused whatever its value.
      exact .error _
    · have ha : a.singleValue = .ok a.value := by
        unfold Criterion.singleValue
        rw [if_neg (by simp [value.1])]
      have hb : b.singleValue = .ok b.value := by
        unfold Criterion.singleValue
        rw [if_neg (by simp [value.2])]
      rw [ha, hb]
      exact .ok (by simp [SameText])
  | multi =>
    simp only [hs] at value ⊢
    obtain ⟨xs, ys, hx, hy, some, length⟩ := value
    have ha : a.listValues = .ok xs := by
      unfold Criterion.listValues
      rw [hx]
      cases xs with
      | nil => exact absurd rfl some
      | cons x xs => rfl
    have hb : b.listValues = .ok ys := by
      unfold Criterion.listValues
      rw [hy]
      cases ys with
      | nil => exact absurd (List.length_eq_zero_iff.mp length) some
      | cons y ys => rfl
    rw [ha, hb]
    have marks : (Template.boundList xs).sql = _ := sameText_boundList length
    exact .ok (by simp [SameText, marks])

theorem sameText_predicates {as bs : List Criterion} (alike : List.Forall₂ Criterion.Alike as bs) :
    (predicates m as).2 = (predicates m bs).2 ∧
      (predicates m as).1.map Template.sql = (predicates m bs).1.map Template.sql := by
  induction alike with
  | nil => exact ⟨rfl, rfl⟩
  | cons one _ ih =>
    obtain ⟨refusal, texts⟩ := ih
    rw [predicates, predicates]
    have h := agree_predicate (m := m) one
    generalize predicate m _ = x at h ⊢
    generalize predicate m _ = y at h ⊢
    cases h with
    | error e => exact ⟨rfl, rfl⟩
    | ok same =>
      refine ⟨refusal, ?_⟩
      rw [List.map_cons, List.map_cons, texts, same]

theorem agree_whereClause {a b : Option Criteria} (alike : Option.Rel Criteria.Alike a b) :
    Agree SameText (whereClause m a) (whereClause m b) := by
  cases alike with
  | none => exact .ok rfl
  | some nodes =>
    obtain ⟨refusal, texts⟩ := sameText_predicates (m := m) nodes
    rw [whereClause, whereClause]
    generalize predicates m _ = x at refusal texts ⊢
    generalize predicates m _ = y at refusal texts ⊢
    obtain ⟨ps, refused⟩ := x
    obtain ⟨qs, _⟩ := y
    cases refusal
    cases refused with
    | some e => exact .error e
    | none =>
      refine .ok ?_
      simp [SameText, Template.sql_separated, texts]

/-! ## Statements -/

theorem agree_paginate {dialect : Dialect} {t u : Template} (offset limit : Int64)
    (same : SameText t u) :
    Agree SameText (paginate dialect t offset limit) (paginate dialect u offset limit) := by
  unfold SameText at same
  unfold paginate
  split_ifs
  · exact .ok same
  cases dialect with
  | mysql => exact .ok (by simp [SameText, same])
  | oracle =>
    simp only
    split
    · exact .error _
    · exact .ok (by simp [SameText, same])

theorem agree_select {dialect : Dialect} {a b : Query} (alike : a.Alike b) :
    Agree SameText (select m dialect a) (select m dialect b) := by
  obtain ⟨criteria, rest⟩ := alike
  rw [← rest]
  have refl {α : Type} (x : Except StoreError α) : Agree (· = ·) x x := .refl (fun _ => rfl) x
  refine (refl _).bind ?_
  rintro columns _ rfl
  refine (agree_whereClause criteria).bind fun t u same => ?_
  refine (refl _).bind ?_
  rintro groups _ rfl
  refine (refl _).bind ?_
  rintro order _ rfl
  have all (s : String) : SameText ([.fixed (columns ++ fromClause m)] ++ t ++ [.fixed s])
      ([.fixed (columns ++ fromClause m)] ++ u ++ [.fixed s]) := by
    unfold SameText at same ⊢
    simp [same]
  have paging : a.paging = { a with criteria := b.criteria }.paging := rfl
  simp only [← paging]
  cases a.paging with
  | none => exact .ok (all _)
  | some window => exact agree_paginate window.1 window.2 (all _)

theorem agree_assignments {xs ys : List (String × Value)} (keys : xs.map (·.1) = ys.map (·.1)) :
    Agree (fun s t : List (String × Value) => s.map (·.1) = t.map (·.1)) (assignments m xs)
      (assignments m ys) := by
  induction xs generalizing ys with
  | nil =>
    obtain rfl := List.map_eq_nil_iff.mp keys.symm
    exact .ok rfl
  | cons x xs ih =>
    cases ys with
    | nil => cases keys
    | cons y ys =>
      obtain ⟨property, value⟩ := x
      obtain ⟨_, other⟩ := y
      simp only [List.map_cons, List.cons.injEq] at keys
      obtain ⟨rfl, keys⟩ := keys
      rw [assignments, assignments]
      refine (Agree.refl (r := (· = ·)) (fun _ => rfl) _).bind ?_
      rintro column _ rfl
      refine (ih keys).bind fun s t same => .ok ?_
      split_ifs
      · exact same
      · rw [List.map_cons, List.map_cons, same]

theorem agree_update {u v : Update} {a b : Criteria} (sets : u.Alike v) (alike : a.Alike b) :
    Agree SameText (update m u a) (update m v b) := by
  refine (agree_assignments sets).bind fun s t columns => ?_
  have empty : s.isEmpty = t.isEmpty := by
    rw [← List.isEmpty_map (f := (·.1)), columns, List.isEmpty_map]
  rw [empty]
  refine (Agree.refl (r := fun _ _ => True) (fun _ => trivial) _).bind fun _ _ _ => ?_
  refine (agree_whereClause (.some alike)).bind fun condition condition' same => .ok ?_
  -- The text of the assignments, from the columns alone. No name needs to be plain for that.
  have texts (s : List (String × Value)) := (reads_settings
    fun (h : False) cell (_ : cell ∈ s) => (h.elim : Text.Plain cell.1)).rendered fun _ => "?"
  have columnsOnly (s : List (String × Value)) : (s.map fun cell => cell.1 ++ "=" ++ "?") =
      (s.map (·.1)).map fun column => column ++ "=" ++ "?" := by
    rw [List.map_map]
    rfl
  unfold SameText at same ⊢
  simp only [Template.sql_append, same]
  congr 3
  rw [Template.sql_eq_rendered, Template.sql_eq_rendered, texts, texts]
  exact congrArg _ ((columnsOnly s).trans (columns ▸ (columnsOnly t).symm))

/-! ## Requests -/

/-- No value has a part in the text of a statement, nor in whether and why there is none. -/
theorem sameText_of_alike {a b : Request} (alike : a.Alike b) (m : Mapping) (dialect : Dialect) :
    Agree SameText (a.compile m dialect) (b.compile m dialect) := by
  cases alike with
  | select alike => exact agree_select alike
  | count alike =>
    refine (agree_whereClause alike).bind fun t u same => .ok ?_
    unfold SameText at same ⊢
    simp [same]
  | update sets alike => exact agree_update sets alike
  | @insert xs ys columns =>
    have length : (xs.map (·.2)).length = (ys.map (·.2)).length := by
      simpa using congrArg List.length columns
    have marks : (Template.boundList (xs.map (·.2))).sql = _ := sameText_boundList length
    exact .ok (by simp [SameText, insert, columns, marks])
  | deleteById a b => exact .ok (by simp [SameText, deleteById])

def ownersNamed (name : Value) (ids : List Value) : Request :=
  .select {
    criteria := some ((Criteria.single "ownerName" .like name).and "id" .among (.list ids))
    offset := some 10
    limit := some 5 }

theorem ownersNamed_sameText :
    (ownersNamed (.text "ann") [.int64 1, .int64 2]).Alike
      (ownersNamed (.text "' OR 1=1 --") [.null, .list []]) ∧
    Agree SameText
      ((ownersNamed (.text "ann") [.int64 1, .int64 2]).compile accountMapping .oracle)
      ((ownersNamed (.text "' OR 1=1 --") [.null, .list []]).compile accountMapping .oracle) := by
  have alike : (ownersNamed (.text "ann") [.int64 1, .int64 2]).Alike
      (ownersNamed (.text "' OR 1=1 --") [.null, .list []]) := by
    refine .select ⟨.some (.cons ?_ (.cons ?_ .nil)), rfl⟩
    · exact ⟨rfl, rfl, rfl, rfl⟩
    · exact ⟨rfl, rfl, _, _, rfl, rfl, by simp, rfl⟩
  exact ⟨alike, sameText_of_alike alike accountMapping .oracle⟩

end Relational

end EntityStore
