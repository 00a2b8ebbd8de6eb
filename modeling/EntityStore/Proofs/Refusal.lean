import EntityStore.Proofs.Search.Notes
import EntityStore.Relational.Statement
import EntityStore.Search.Compile

/-!
# What both kinds of stores refuse

Relational and search stores compile a chain of conditions each in its own way. What they refuse in
it depends on the declaration of the entity alone, and so does the reason: both name the first
condition that is at fault, with the same error. The queries that they accept are the same too.
-/

namespace EntityStore

/-! ## Faults -/

namespace Descriptor

def declares (d : Descriptor) (property : String) : Bool :=
  d.fields.any (·.property == property)

def undeclared? (d : Descriptor) (parameter : Parameter) (property : String) : Option StoreError :=
  if d.declares property then none else some (.unknownProperty parameter property)

end Descriptor

namespace Criterion

/-- The error of a value that its operator does not take: a list where one value is compared, or
anything but a list of some values where several are. -/
def misshapen? (node : Criterion) : Option StoreError :=
  match node.operator.shape, node.value with
  | .single, .list _ => some (.typeMismatch (.listForSingle node.operator node.key))
  | .multi, .list [] => some (.invalidArgument .criteria (.noValues node.operator node.key))
  | .multi, .list (_ :: _) => none
  | .multi, v => some (.typeMismatch (.singleForList node.operator node.key v.kind))
  | _, _ => none

def fault? (d : Descriptor) (node : Criterion) : Option StoreError :=
  (d.undeclared? .criteria node.key).or node.misshapen?

def unsearchable? (node : Criterion) : Option StoreError :=
  if node.operator = .fullText ∨ node.operator = .phrase then
    some (.unsupported "JdbcDao" "full-text match criteria")
  else none

def offence? (d : Descriptor) (node : Criterion) : Option StoreError :=
  (d.undeclared? .criteria node.key).or (node.unsearchable?.or node.misshapen?)

/-- A condition that both kinds of stores know: it searches no text, and compares with a pattern
only what could be one. -/
structure Common (node : Criterion) : Prop where
  compares : node.operator ≠ .fullText ∧ node.operator ≠ .phrase
  pattern : node.operator = .like → node.value.kind = .text ∨ node.value.kind = .list

theorem unsearchable?_of_shape {node : Criterion} (compares : node.operator.shape ≠ .single) :
    node.unsearchable? = none := by
  unfold unsearchable?
  rw [if_neg]
  rintro (searches | searches) <;> exact compares (by rw [searches]; rfl)

theorem refusal?_singleValue {node : Criterion} (one : node.operator.shape = .single) :
    refusal? node.singleValue = node.misshapen? := by
  unfold singleValue misshapen?
  rw [one]
  cases node.value <;> rfl

theorem refusal?_listValues {node : Criterion} (several : node.operator.shape = .multi) :
    refusal? node.listValues = node.misshapen? := by
  unfold listValues misshapen?
  rw [several]
  cases node.value with
  | list items => cases items <;> rfl
  | _ => rfl

end Criterion

def Criteria.fault? (d : Descriptor) (c : Criteria) : Option StoreError :=
  c.nodes.findSome? (Criterion.fault? d)

def Criteria.Common (c : Criteria) : Prop := ∀ node ∈ c.nodes, node.Common

namespace Query

def criteriaFault? (d : Descriptor) (q : Query) : Option StoreError :=
  q.criteria.bind (Criteria.fault? d)

def fieldFault? (d : Descriptor) (q : Query) : Option StoreError :=
  q.fields.findSome? (d.undeclared? .fields)

def orderFault? (d : Descriptor) (q : Query) : Option StoreError :=
  q.orderBys.findSome? fun o => d.undeclared? .orderBys o.key

def Common (q : Query) : Prop := ∀ c ∈ q.criteria, c.Common

end Query

/-! ## Properties -/

namespace Mapping

variable {d : Descriptor} {policy : Policy} {m : Mapping}

theorem Built.isSome_property? (built : Built d policy m) (property : String) :
    (m.property? property).isSome = d.declares property := by
  rw [Bool.eq_iff_iff, Mapping.property?, List.find?_isSome, Descriptor.declares, List.any_eq_true]
  simp [built.properties, FieldSpec.mapping]

theorem Built.refusal?_column (built : Built d policy m) (parameter : Parameter)
    (property : String) :
    refusal? (m.column parameter property) = d.undeclared? parameter property := by
  unfold Mapping.column Mapping.columnOf? Descriptor.undeclared?
  rw [← built.isSome_property?]
  cases m.property? property <;> rfl

end Mapping

namespace Criterion

/-! ## Conditions -/

variable {d : Descriptor} {m : Mapping} {node : Criterion}

theorem refusal?_predicate (built : Mapping.Built d .relational m) :
    refusal? (Relational.predicate m node) = node.offence? d := by
  unfold Relational.predicate
  rw [offence?, ← built.refusal?_column]
  refine refusal?_bind fun column _ => ?_
  cases shape : node.operator.shape with
  | noValue =>
    rw [unsearchable?_of_shape (by simp [shape])]
    simp [misshapen?, shape]
  | single =>
    unfold unsearchable?
    by_cases searches : node.operator = .fullText ∨ node.operator = .phrase
    · simp only [if_pos searches]
      rfl
    · simp only [if_neg searches]
      rw [refusal?_bind fun v _ => refusal?_pure _, Option.or_none, refusal?_singleValue shape,
        Option.none_or]
  | multi =>
    rw [unsearchable?_of_shape (by simp [shape])]
    simp only
    rw [refusal?_bind fun items _ => refusal?_pure _, Option.or_none, refusal?_listValues shape,
      Option.none_or]

theorem Common.offence?_eq (common : node.Common) : node.offence? d = node.fault? d := by
  have compares : ¬ (node.operator = .fullText ∨ node.operator = .phrase) :=
    not_or.mpr common.compares
  rw [offence?, fault?, unsearchable?, if_neg compares, Option.none_or]

theorem refusal?_checkShape : refusal? (Search.checkShape node) = node.misshapen? := by
  unfold Search.checkShape
  cases shape : node.operator.shape with
  | noValue => simp [misshapen?, shape]
  | single => simp only [refusal?_map, refusal?_singleValue shape]
  | multi => simp only [refusal?_map, refusal?_listValues shape]

theorem refusal?_leaf (common : node.Common) (shaped : node.misshapen? = none) (field : String) :
    refusal? (Search.leaf field node) = none := by
  obtain ⟨key, operator, value⟩ := node
  cases operator
  case like =>
    have text : value.kind = .text ∨ value.kind = .list := common.pattern rfl
    cases value with
    | text pattern => rfl
    | list items => cases shaped
    | _ => simp [Value.kind] at text
  case among | notAmong =>
    cases value with
    | list items => rfl
    | _ => cases shaped
  all_goals rfl

theorem refusal?_clause (built : Mapping.Built d .search m) (common : node.Common) :
    refusal? (Search.clause m node) = node.fault? d := by
  unfold Search.clause
  rw [fault?, ← built.refusal?_column]
  refine refusal?_bind fun field _ => ?_
  rw [← refusal?_checkShape, ← (refusal? (Search.checkShape node)).or_none]
  refine refusal?_bind fun _ ok => refusal?_leaf common ?_ field
  rw [← refusal?_checkShape, ok, refusal?_ok]

end Criterion

/-! ## Chains -/

theorem findSome?_congr {α β : Type} {f g : α → Option β} {xs : List α}
    (same : ∀ x ∈ xs, f x = g x) : xs.findSome? f = xs.findSome? g := by
  induction xs with
  | nil => rfl
  | cons x rest ih =>
    rw [List.findSome?_cons, List.findSome?_cons, same x List.mem_cons_self,
      ih fun y hy => same y (List.mem_cons_of_mem _ hy)]

namespace Criteria

variable {d : Descriptor} {m : Mapping} {c : Criteria}

theorem snd_predicates (nodes : List Criterion) :
    (Relational.predicates m nodes).2 =
      nodes.findSome? fun node => refusal? (Relational.predicate m node) := by
  induction nodes with
  | nil => rfl
  | cons node rest ih =>
    rw [Relational.predicates, List.findSome?_cons]
    cases Relational.predicate m node with
    | error e => rfl
    | ok p => exact ih

theorem refusal?_whereClause (built : Mapping.Built d .relational m) (common : c.Common) :
    refusal? (Relational.whereClause m (some c)) = c.fault? d := by
  have first : (Relational.predicates m c.nodes).2 = c.fault? d := by
    rw [snd_predicates, fault?]
    exact findSome?_congr fun node mem =>
      (Criterion.refusal?_predicate built).trans (common node mem).offence?_eq
  unfold Relational.whereClause
  simp only
  rw [← first]
  obtain ⟨ps, refusal⟩ := Relational.predicates m c.nodes
  cases refusal with
  | none => rfl
  | some e => rfl

theorem refusal?_query (built : Mapping.Built d .search m) (common : c.Common) :
    refusal? (Search.query m (some c)) = c.fault? d := by
  unfold Search.query
  rw [refusal?_bind fun clauses _ => refusal?_pure _, Option.or_none, refusal?_mapM, fault?]
  exact findSome?_congr fun node mem => Criterion.refusal?_clause built (common node mem)

end Criteria

/-! ## Queries -/

namespace Query

variable {d : Descriptor} {policy : Policy} {m : Mapping} {q : Query}

theorem refusal?_fields (built : Mapping.Built d policy m) :
    refusal? (q.fields.mapM (m.column .fields)) = q.fieldFault? d := by
  rw [refusal?_mapM, fieldFault?]
  exact findSome?_congr fun property _ => built.refusal?_column .fields property

theorem refusal?_orderBys {α : Type} (built : Mapping.Built d policy m)
    (item : OrderBy → String → α) :
    refusal? (q.orderBys.mapM fun o => (m.column .orderBys o.key).map (item o)) =
      q.orderFault? d := by
  rw [refusal?_mapM, orderFault?]
  refine findSome?_congr fun o _ => ?_
  rw [refusal?_map, built.refusal?_column]

theorem refusal?_selectClause (built : Mapping.Built d .relational m)
    (ungrouped : q.groupBys = []) :
    refusal? (Relational.selectClause m q) = q.fieldFault? d := by
  unfold Relational.selectClause Relational.selectList
  rw [refusal?_map, ← refusal?_fields built]
  cases q.fields with
  | nil => simp [ungrouped]
  | cons property rest => simp [ungrouped]

theorem refusal?_orderByClause (built : Mapping.Built d .relational m) :
    refusal? (Relational.orderByClause m q.orderBys) = q.orderFault? d := by
  unfold Relational.orderByClause
  cases keys : q.orderBys with
  | nil => simp [orderFault?, keys]
  | cons o rest =>
    simp only [List.isEmpty_cons, Bool.false_eq_true, if_false, refusal?_map]
    rw [← keys]
    exact refusal?_orderBys built _

theorem refusal?_select (built : Mapping.Built d .relational m) (ungrouped : q.groupBys = [])
    (common : q.Common) : refusal? (Relational.select m .mysql q) =
      (q.fieldFault? d).or ((q.criteriaFault? d).or (q.orderFault? d)) := by
  have condition : refusal? (Relational.whereClause m q.criteria) = q.criteriaFault? d := by
    unfold criteriaFault?
    cases chain : q.criteria with
    | none => rfl
    | some c => exact Criteria.refusal?_whereClause built (common c chain)
  unfold Relational.select
  rw [← refusal?_selectClause built ungrouped, ← condition, ← refusal?_orderByClause built]
  refine refusal?_bind fun columns _ => ?_
  refine refusal?_bind fun condition _ => ?_
  rw [ungrouped, ← (refusal? (Relational.orderByClause m q.orderBys)).or_none]
  change refusal? (Relational.orderByClause m q.orderBys >>= _) = _
  refine refusal?_bind fun order _ => ?_
  cases q.paging with
  | none => rfl
  | some window =>
    -- A window is refused in the other dialect alone.
    simp only [Relational.paginate]
    split <;> rfl

theorem refusal?_search (built : Mapping.Built d .search m) (ungrouped : q.groupBys = [])
    (common : q.Common) {window : Int64} {index : String} :
    refusal? (Search.search m window q index) =
      (q.criteriaFault? d).or ((q.fieldFault? d).or (q.orderFault? d)) := by
  have condition : refusal? (Search.query m q.criteria) = q.criteriaFault? d := by
    unfold criteriaFault?
    cases chain : q.criteria with
    | none => rfl
    | some c => exact Criteria.refusal?_query built (common c chain)
  have source : refusal? (if q.fields.isEmpty then .ok none
      else (q.fields.mapM (m.column .fields)).map some) = q.fieldFault? d := by
    rw [← refusal?_fields built]
    cases q.fields with
    | nil => rfl
    | cons property rest => simp
  unfold Search.search
  rw [← condition, ← source, ← refusal?_orderBys built fun o column => (column, o.direction)]
  refine refusal?_bind fun condition _ => ?_
  rw [ungrouped]
  refine refusal?_ite_bind fun columns => ?_
  rw [refusal?_bind fun sort _ => refusal?_pure _, Option.or_none]

end Query

/-- Both kinds of stores refuse a chain for its first fault and accept every other, and both accept
the same queries. -/
theorem refused_alike {d : Descriptor} {r s : Mapping}
    (relational : Mapping.build d .relational = .ok r) (search : Mapping.build d .search = .ok s) :
    (∀ c : Criteria, c.Common →
      refusal? (Relational.whereClause r (some c)) = c.fault? d ∧
        refusal? (Search.query s (some c)) = c.fault? d) ∧
    ∀ q : Query, q.groupBys = [] → q.Common → ∀ (window : Int64) (index : String),
      (∃ t, Relational.select r .mysql q = .ok t) ↔
        ∃ request, Search.search s window q index = .ok request := by
  have relational := Mapping.built_of_build relational
  have search := Mapping.built_of_build search
  refine ⟨fun c common => ⟨?_, ?_⟩, fun q ungrouped common window index => ?_⟩
  · exact Criteria.refusal?_whereClause relational common
  · exact Criteria.refusal?_query search common
  · rw [← refusal?_eq_none, ← refusal?_eq_none, Query.refusal?_select relational ungrouped common,
      Query.refusal?_search search ungrouped common]
    simp only [Option.or_eq_none_iff]
    exact and_left_comm

def sharedNotes : Descriptor :=
  { Search.notes.descriptor with names := { table := some "notes", index := some "notes" } }

/-- The second condition compares with no list, and the third property is not there. -/
def faultyChain : Criteria :=
  ((Criteria.single "title" .like (.text "a%")).and "rank" .among (.int32 3)).and "name" .isNull
    .null

theorem sharedNotes_refused_alike : ∃ r s,
    Mapping.build sharedNotes .relational = .ok r ∧ Mapping.build sharedNotes .search = .ok s ∧
      refusal? (Relational.whereClause r (some faultyChain)) =
        some (.typeMismatch (.singleForList .among "rank" .int32)) ∧
      refusal? (Search.query s (some faultyChain)) =
        some (.typeMismatch (.singleForList .among "rank" .int32)) ∧
      ((∃ t, Relational.select r .mysql { criteria := some faultyChain } = .ok t) ↔
        ∃ request, Search.search s 10 { criteria := some faultyChain } "notes" = .ok request) := by
  obtain ⟨r, relational⟩ := refusal?_eq_none.mp
    (show refusal? (Mapping.build sharedNotes .relational) = none by decide +kernel)
  obtain ⟨s, search⟩ := refusal?_eq_none.mp
    (show refusal? (Mapping.build sharedNotes .search) = none by decide +kernel)
  have common : faultyChain.Common := by
    intro node mem
    simp [faultyChain, Criteria.single, Criteria.and, Criteria.nodes] at mem
    rcases mem with rfl | rfl | rfl <;> exact ⟨by decide, by decide⟩
  have fault : faultyChain.fault? sharedNotes =
      some (.typeMismatch (.singleForList .among "rank" .int32)) := by decide +kernel
  obtain ⟨chains, queries⟩ := refused_alike relational search
  obtain ⟨whereClause, query⟩ := chains faultyChain common
  refine ⟨r, s, relational, search, whereClause.trans fault, query.trans fault, ?_⟩
  refine queries { criteria := some faultyChain } rfl ?_ 10 "notes"
  intro c mem
  cases mem
  exact common

end EntityStore
