import EntityStore.Proofs.Refusal
import EntityStore.Proofs.Relational.Condition

/-!
# What a condition binds

A condition is compiled into a list of values that is there already: each node puts its own at the
end as soon as it is accepted, and the first that is refused ends the compilation. The list keeps
what the nodes before it have put there.
-/

namespace EntityStore

theorem intercalate_eq_drop (separator : String) (parts : List String) (some : parts ≠ []) :
    separator.intercalate parts =
      String.ofList ((String.join (parts.map (separator ++ ·))).toList.drop separator.length) := by
  have joined : String.join (parts.map (separator ++ ·)) =
      separator ++ separator.intercalate parts := by
    induction parts with
    | nil => exact absurd rfl some
    | cons part rest ih =>
      cases rest with
      | nil => simp
      | cons next later =>
        rw [List.map_cons, String.join_cons, ih (List.cons_ne_nil next later),
          String.intercalate_cons_cons]
        simp only [String.append_assoc]
  rw [joined, String.toList_append, ← String.length_toList, List.drop_left, String.ofList_toList]

namespace Relational

/-! ## Compiling into a list -/

/-- The texts of the conditions, or the refusal of the first that is refused, and the list with the
values of those before it. -/
def bindEach (m : Mapping) :
    List Criterion → List Value → Except StoreError (List String) × List Value
  | [], given => (.ok [], given)
  | node :: rest, given =>
    match predicate m node with
    | .error e => (.error e, given)
    | .ok p =>
      let (texts, bound) := bindEach m rest (given ++ p.params)
      (texts.map (p.sql :: ·), bound)

def bindWhere (m : Mapping) (criteria : Option Criteria) (given : List Value) :
    Except StoreError String × List Value :=
  match criteria with
  | none => (.ok "", given)
  | some c =>
    let (texts, bound) := bindEach m c.nodes given
    (texts.map fun parts => "WHERE " ++ " AND ".intercalate parts ++ " ", bound)

variable {m : Mapping}

theorem bindEach_eq (nodes : List Criterion) (given : List Value) :
    bindEach m nodes given =
      (match predicates m nodes with
        | (_, some e) => .error e
        | (ps, none) => .ok (ps.map Template.sql),
      given ++ (predicates m nodes).1.flatMap Template.params) := by
  induction nodes generalizing given with
  | nil => simp [bindEach, predicates]
  | cons node rest ih =>
    rw [bindEach, predicates]
    cases predicate m node with
    | error e => simp
    | ok p =>
      simp only [ih, List.flatMap_cons, List.append_assoc]
      obtain ⟨ps, refusal⟩ := predicates m rest
      cases refusal <;> rfl

theorem bindWhere_eq (criteria : Option Criteria) (given : List Value) :
    bindWhere m criteria given =
      ((whereClause m criteria).map Template.sql, given ++ whereParams m criteria) := by
  cases criteria with
  | none => simp [bindWhere, whereClause, whereParams, Except.map]
  | some c =>
    simp only [bindWhere, bindEach_eq, whereClause, whereParams]
    obtain ⟨ps, refusal⟩ := predicates m c.nodes
    cases refusal with
    | some e => rfl
    | none => simp [Except.map, Template.sql_separated, String.append_assoc]

/-! ## How it ends -/

variable {d : Descriptor}

theorem text_of_predicate {node : Criterion} {p : Template} (ok : predicate m node = .ok p) :
    p.sql = node.text (fun _ => "?") (m.named node.key) := by
  rw [Template.sql_eq_rendered, (reads_predicate ok).rendered]

theorem bindEach_of_spared (built : Mapping.Built d .relational m) {nodes : List Criterion}
    (spared : ∀ node ∈ nodes, node.offence? d = none) (given : List Value) :
    bindEach m nodes given =
      (.ok (nodes.map fun node => node.text (fun _ => "?") (m.named node.key)),
        given ++ nodes.flatMap Criterion.operands) := by
  induction nodes generalizing given with
  | nil => simp [bindEach]
  | cons node rest ih =>
    obtain ⟨here, later⟩ := List.forall_mem_cons.mp spared
    rw [← Criterion.refusal?_predicate built] at here
    obtain ⟨p, ok⟩ := refusal?_eq_none.mp here
    simp only [bindEach, ok, ih later, text_of_predicate ok, (reads_predicate ok).params]
    simp [Except.map]

theorem bindEach_of_offence (built : Mapping.Built d .relational m) {before : List Criterion}
    (spared : ∀ node ∈ before, node.offence? d = none) {node : Criterion} {e : StoreError}
    (offends : node.offence? d = some e) (after : List Criterion) (given : List Value) :
    bindEach m (before ++ node :: after) given =
      (.error e, given ++ before.flatMap Criterion.operands) := by
  induction before generalizing given with
  | nil =>
    rw [← Criterion.refusal?_predicate built] at offends
    simp [bindEach, refusal?_eq_some.mp offends]
  | cons first rest ih =>
    obtain ⟨here, later⟩ := List.forall_mem_cons.mp spared
    rw [← Criterion.refusal?_predicate built] at here
    obtain ⟨p, ok⟩ := refusal?_eq_none.mp here
    simp only [List.cons_append, bindEach, ok, ih later, (reads_predicate ok).params]
    simp [Except.map]

/-- A chain is compiled exactly where no node offends, and all its values are at the end of the list
then. Otherwise the first node that offends is the reason, and the values of the nodes before it are
there. -/
theorem bindWhere_outcome (build : Mapping.build d .relational = .ok m) (c : Criteria)
    (given : List Value) :
    bindWhere m (some c) given =
      ((whereClause m (some c)).map Template.sql, given ++ whereParams m (some c)) ∧
    ((∃ text, (bindWhere m (some c) given).1 = .ok text) ↔
      ∀ node ∈ c.nodes, node.offence? d = none) ∧
    (∀ text bound, bindWhere m (some c) given = (.ok text, bound) →
      text = "WHERE " ++ String.ofList ((String.join (c.nodes.map fun node =>
        " AND " ++ node.text (fun _ => "?") (m.named node.key))).toList.drop 5) ++ " " ∧
      bound = given ++ c.nodes.flatMap Criterion.operands) ∧
    ∀ e bound, bindWhere m (some c) given = (.error e, bound) →
      ∃ before node after, c.nodes = before ++ node :: after ∧
        (∀ earlier ∈ before, earlier.offence? d = none) ∧ node.offence? d = some e ∧
        bound = given ++ before.flatMap Criterion.operands := by
  have built := Mapping.built_of_build build
  refine ⟨bindWhere_eq (some c) given, ?_⟩
  unfold bindWhere
  cases first : c.nodes.findSome? (Criterion.offence? d) with
  | none =>
    have spared := List.findSome?_eq_none_iff.mp first
    simp only [bindEach_of_spared built spared]
    refine ⟨iff_of_true ⟨_, rfl⟩ spared, ?_, ?_⟩
    · rintro _ _ ⟨⟩
      have stripped := intercalate_eq_drop " AND " (c.nodes.map fun node =>
        node.text (fun _ => "?") (m.named node.key)) (by simp)
      rw [List.map_map] at stripped
      exact ⟨congrArg (fun parts => "WHERE " ++ parts ++ " ") stripped, rfl⟩
    · rintro _ _ ⟨⟩
  | some e =>
    obtain ⟨before, node, after, split, offends, spared⟩ := List.findSome?_eq_some_iff.mp first
    simp only [split, bindEach_of_offence built spared offends]
    refine ⟨iff_of_false nofun fun all => ?_, nofun, ?_⟩
    · rw [all node (by simp)] at offends
      cases offends
    · rintro _ _ ⟨⟩
      exact ⟨before, node, after, rfl, spared, offends, rfl⟩

theorem faultyChain_bound : ∃ m, Mapping.build sharedNotes .relational = .ok m ∧
    bindWhere m (some faultyChain) [.boolean true] =
      (.error (.typeMismatch (.singleForList .among "rank" .int32)),
        [.boolean true, .text "a%"]) := by
  obtain ⟨m, build⟩ := refusal?_eq_none.mp
    (show refusal? (Mapping.build sharedNotes .relational) = none by decide +kernel)
  refine ⟨m, build, ?_⟩
  obtain ⟨-, succeeds, -, fails⟩ := bindWhere_outcome build faultyChain [.boolean true]
  have list : faultyChain.nodes = [⟨"title", .like, .text "a%"⟩, ⟨"rank", .among, .int32 3⟩,
    ⟨"name", .isNull, .null⟩] := rfl
  rw [list] at succeeds fails
  have title : Criterion.offence? sharedNotes ⟨"title", .like, .text "a%"⟩ = none := by
    decide +kernel
  have rank : Criterion.offence? sharedNotes ⟨"rank", .among, .int32 3⟩ =
      some (.typeMismatch (.singleForList .among "rank" .int32)) := by decide +kernel
  cases outcome : bindWhere m (some faultyChain) [.boolean true] with
  | mk result bound =>
    cases result with
    | ok text =>
      have spared := succeeds.mp ⟨text, congrArg Prod.fst outcome⟩ ⟨"rank", .among, .int32 3⟩
        (by simp)
      rw [rank] at spared
      cases spared
    | error e =>
      obtain ⟨before, node, after, split, spared, offends, rfl⟩ := fails e bound outcome
      match before, split with
      | [], split =>
        cases split
        rw [title] at offends
        cases offends
      | [_], split =>
        cases split
        rw [rank] at offends
        cases offends
        rfl
      | _ :: _ :: _, split =>
        obtain ⟨rfl, rfl, -⟩ : _ ∧ _ ∧ _ := by simpa [List.cons.injEq] using split
        have passed := spared ⟨"rank", .among, .int32 3⟩ (by simp)
        rw [rank] at passed
        cases passed

end Relational

end EntityStore
