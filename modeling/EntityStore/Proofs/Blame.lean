import EntityStore.Proofs.Refusal

/-!
# What a query is blamed for

A query is refused for its conditions, its fields, its groups or its order, and then the error names
what is at fault. Nothing but a window that cannot be written is an error of the query as a whole.
-/

namespace EntityStore

/-- Whatever the computation fails for, it is not a query as a whole. -/
def SparesQuery {α : Type} (x : Except StoreError α) : Prop :=
  ∀ fault, x ≠ .error (.invalidArgument .query fault)

namespace SparesQuery

variable {α β : Type}

theorem ok (a : α) : SparesQuery (.ok a) := nofun

theorem bind {x : Except StoreError α} {f : α → Except StoreError β} (first : SparesQuery x)
    (next : ∀ a, SparesQuery (f a)) : SparesQuery (x >>= f) := by
  cases x with
  | error e =>
    intro fault blamed
    cases blamed
    exact first fault rfl
  | ok a => exact next a

theorem map {x : Except StoreError α} {f : α → β} (spares : SparesQuery x) :
    SparesQuery (x.map f) :=
  fun fault blamed => spares fault (map_eq_error.mp blamed)

theorem mapM {f : α → Except StoreError β} (each : ∀ a, SparesQuery (f a)) (as : List α) :
    SparesQuery (as.mapM f) := by
  induction as with
  | nil => exact ok []
  | cons a rest ih =>
    rw [List.mapM_cons]
    exact bind (each a) fun b => bind ih fun bs => ok (b :: bs)

/-! ## Statements -/

theorem column {parameter : Parameter} (other : parameter ≠ .query) (m : Mapping)
    (property : String) : SparesQuery (m.column parameter property) := by
  unfold Mapping.column
  split
  · exact ok _
  · intro fault blamed
    cases blamed
    exact other rfl

theorem singleValue (node : Criterion) : SparesQuery node.singleValue := by
  unfold Criterion.singleValue
  split_ifs
  · exact nofun
  · exact ok _

theorem listValues (node : Criterion) : SparesQuery node.listValues := by
  unfold Criterion.listValues
  split
  · exact nofun
  · exact ok _
  · exact nofun

theorem predicate (m : Mapping) (node : Criterion) : SparesQuery (Relational.predicate m node) := by
  unfold Relational.predicate
  refine bind (column (by decide) m node.key) fun name => ?_
  dsimp only
  split
  · exact ok _
  · split_ifs
    · exact nofun
    · exact bind (singleValue node) fun _ => ok _
  · exact bind (listValues node) fun _ => ok _

theorem whereClause (m : Mapping) (criteria : Option Criteria) :
    SparesQuery (Relational.whereClause m criteria) := by
  unfold Relational.whereClause
  split
  · exact ok _
  · rename_i c
    have first := Criteria.snd_predicates (m := m) c.nodes
    split
    · rename_i e refused
      intro fault blamed
      cases blamed
      rw [refused] at first
      obtain ⟨node, -, found⟩ := List.exists_of_findSome?_eq_some first.symm
      exact predicate m node fault (refusal?_eq_some.mp found)
    · exact ok _

theorem groupColumns (m : Mapping) (g : GroupBy) : SparesQuery (Relational.groupColumns m g) := by
  unfold Relational.groupColumns
  refine bind (column (by decide) m g.key) fun key => ?_
  split
  · exact ok _
  · exact bind (column (by decide) m _) fun _ => ok _

theorem selectClause (m : Mapping) (q : Query) : SparesQuery (Relational.selectClause m q) := by
  unfold Relational.selectClause Relational.selectList
  refine map ?_
  split_ifs
  · exact map (mapM (groupColumns m) _)
  · exact mapM (column (by decide) m) _
  · exact ok _

theorem groupByClause (m : Mapping) (groups : List GroupBy) :
    SparesQuery (Relational.groupByClause m groups) := by
  unfold Relational.groupByClause
  split_ifs
  · exact ok _
  · have each (g : GroupBy) : SparesQuery (m.column .groupBys g.key) := column (by decide) m g.key
    exact map (mapM each groups)

theorem orderByClause (m : Mapping) (keys : List OrderBy) :
    SparesQuery (Relational.orderByClause m keys) := by
  unfold Relational.orderByClause
  split_ifs
  · exact ok _
  · refine map (mapM (fun o : OrderBy => ?_) keys)
    exact map (column (by decide) m o.key)

theorem select {q : Query} (windowless : q.paging = none) (m : Mapping) (dialect : Dialect) :
    SparesQuery (Relational.select m dialect q) := by
  unfold Relational.select
  rw [windowless]
  refine bind (selectClause m q) fun columns => bind (whereClause m _) fun condition => ?_
  exact bind (groupByClause m _) fun groups => bind (orderByClause m _) fun order => ok _

/-! ## Requests -/

theorem checkShape (node : Criterion) : SparesQuery (Search.checkShape node) := by
  unfold Search.checkShape
  split
  · exact ok _
  · exact map (singleValue node)
  · exact map (listValues node)

theorem leaf (field : String) (node : Criterion) : SparesQuery (Search.leaf field node) := by
  have text : SparesQuery node.value.asText := by
    unfold Value.asText
    split
    · exact ok _
    · exact nofun
  have items : SparesQuery node.value.asList := by
    unfold Value.asList
    split
    · exact ok _
    · exact nofun
  unfold Search.leaf
  split
  case h_7 => exact bind text fun _ => ok _
  case h_10 => exact bind items fun _ => ok _
  case h_11 => exact bind items fun _ => ok _
  all_goals exact ok _

theorem query (m : Mapping) (criteria : Option Criteria) :
    SparesQuery (Search.query m criteria) := by
  unfold Search.query
  split
  · exact ok _
  · refine bind (mapM (fun node => ?_) _) fun _ => ok _
    exact bind (column (by decide) m node.key) fun field =>
      bind (checkShape node) fun _ => leaf field node

theorem search (m : Mapping) (window : Int64) (q : Query) (index : String) :
    SparesQuery (Search.search m window q index) := by
  unfold Search.search
  refine bind (query m q.criteria) fun condition => ?_
  dsimp only
  split
  · exact bind (column (by decide) m _) fun _ => ok _
  · have sort (o : OrderBy) : SparesQuery ((m.column .orderBys o.key).map (·, o.direction)) :=
      map (column (by decide) m o.key)
    split_ifs
    · exact bind (ok _) fun _ => bind (mapM sort _) fun _ => ok _
    · exact bind (map (mapM (column (by decide) m) _)) fun _ => bind (mapM sort _) fun _ => ok _

end SparesQuery

end EntityStore
