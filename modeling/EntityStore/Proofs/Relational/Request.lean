import EntityStore.Proofs.Integer
import EntityStore.Proofs.Relational.Condition
import EntityStore.Relational.Statement

/-!
# What a compiled statement says

The text of every statement is given a second time, without a template and with the way a value is
written left open. A compiled statement is that text with question marks, it binds the values of its
own assignments, conditions and columns in their order, and read with its parameters it is that text
with literals.
-/

namespace EntityStore.Relational

inductive Request where
  | select (q : Query)
  | count (criteria : Option Criteria)
  | update (u : Update) (criteria : Criteria)
  | insert (values : List (String × Value))
  | deleteById (id : Id)

namespace Request

def compile (m : Mapping) (dialect : Dialect) : Request → Except StoreError Template
  | select q => Relational.select m dialect q
  | count criteria => Relational.count m criteria
  | update u criteria => Relational.update m u criteria
  | insert values => .ok (Relational.insert m values)
  | deleteById id => .ok (Relational.deleteById m id)

def ownColumns : Request → List String
  | insert values => values.map (·.1)
  | _ => []

end Request

/-! ## The text of a statement -/

variable {m : Mapping}

def groupNames (m : Mapping) (g : GroupBy) : List String :=
  m.named g.key ::
    (Text.nonBlank? g.countAlias).toList.map fun counter => "COUNT(*) AS " ++ m.named counter

def selectNames (m : Mapping) (q : Query) : List String :=
  if q.groupBys.isEmpty then
    if q.fields.isEmpty then m.persisted.map (·.column) else q.fields.map m.named
  else q.groupBys.flatMap (groupNames m)

def listText (keyword : String) (items : List String) : String :=
  if items.isEmpty then "" else keyword ++ ",".intercalate items ++ " "

def orderNames (m : Mapping) (o : OrderBy) : String := m.named o.key ++ " " ++ o.direction.keyword

def bodyText (m : Mapping) (mark : Value → String) (q : Query) : String :=
  "SELECT " ++ ",".intercalate (selectNames m q) ++ " FROM " ++ m.tableName ++ " " ++
    conditionText m mark q.criteria ++
    listText "GROUP BY " (q.groupBys.map fun g => m.named g.key) ++
    listText "ORDER BY " (q.orderBys.map (orderNames m))

def windowText (dialect : Dialect) (body : String) : Option (Int64 × Int64) → String
  | none => body
  | some (offset, limit) =>
    match dialect with
    | .mysql => body ++ "LIMIT " ++ toString offset.toInt ++ "," ++ toString limit.toInt
    | .oracle =>
      "SELECT * FROM (SELECT ROWNUM AS RN,table_alias.* FROM (" ++ body ++
        ") table_alias WHERE ROWNUM <= " ++ toString (offset.toInt + limit.toInt) ++
        ") WHERE RN > " ++ toString offset.toInt

def settings (m : Mapping) (entries : List (String × Value)) : List (String × Value) :=
  (entries.filter fun (property, _) => !m.isTransient property).map fun (property, value) =>
    (m.named property, value)

namespace Request

/-- The values of a request, in the order of its assignments, conditions or columns. -/
def values (m : Mapping) : Request → List Value
  | select q => conditionValues q.criteria
  | count criteria => conditionValues criteria
  | update u criteria => (settings m u.entries).map (·.2) ++ conditionValues (some criteria)
  | insert values => values.map (·.2)
  | deleteById id => [id.toValue]

/-- The statement of a request, its values as `mark` writes them. -/
def text (m : Mapping) (dialect : Dialect) (mark : Value → String) : Request → String
  | select q => windowText dialect (bodyText m mark q) q.paging
  | count criteria =>
    "SELECT COUNT(*) FROM " ++ m.tableName ++ " " ++ conditionText m mark criteria
  | update u criteria =>
    "UPDATE " ++ m.tableName ++ " SET " ++
      ",".intercalate ((settings m u.entries).map fun (column, v) => column ++ "=" ++ mark v) ++
      " " ++ conditionText m mark (some criteria)
  | insert values =>
    "INSERT INTO " ++ m.tableName ++ " (" ++ ",".intercalate (values.map (·.1)) ++ ") VALUES (" ++
      ",".intercalate (values.map fun (_, v) => mark v) ++ ")"
  | deleteById id => "DELETE FROM " ++ m.tableName ++ " WHERE " ++ m.key.column ++ " = " ++
      mark id.toValue

end Request

/-! ## Clauses without values -/

theorem groupNames_of_groupColumns {g : GroupBy} {columns : List String}
    (ok : groupColumns m g = .ok columns) : columns = groupNames m g := by
  unfold groupColumns at ok
  obtain ⟨key, hkey, ok⟩ := bind_eq_ok.mp ok
  rw [groupNames, ← Mapping.named_of_column hkey]
  split at ok
  · rename_i none
    cases ok
    simp [none]
  · rename_i counter some
    obtain ⟨column, hcolumn, ok⟩ := bind_eq_ok.mp ok
    cases ok
    simp [some, ← Mapping.named_of_column hcolumn]

theorem plain_of_groupColumns (names : m.PlainNames) {g : GroupBy} {columns : List String}
    (ok : groupColumns m g = .ok columns) : ∀ s ∈ columns, Text.Plain s := by
  unfold groupColumns at ok
  obtain ⟨key, hkey, ok⟩ := bind_eq_ok.mp ok
  have plain := names.column hkey
  split at ok
  · cases ok
    exact List.forall_mem_singleton.mpr plain
  · obtain ⟨column, hcolumn, ok⟩ := bind_eq_ok.mp ok
    cases ok
    refine List.forall_mem_cons.mpr ⟨plain, List.forall_mem_singleton.mpr ?_⟩
    exact (Text.plain_append _ _).mpr ⟨by decide, names.column hcolumn⟩

theorem selectNames_of_selectList {q : Query} {columns : List String}
    (ok : selectList m q = .ok columns) : columns = selectNames m q := by
  unfold selectList at ok
  rw [selectNames]
  split_ifs at ok with grouped listed
  · obtain ⟨lists, hlists, rfl⟩ := map_eq_ok.mp ok
    rw [mapM_eq_map (fun g _ => groupNames_of_groupColumns) hlists, ← List.flatMap_def]
    simp_all
  · rw [mapM_eq_map (fun f _ => Mapping.named_of_column) ok]
    simp_all
  · cases ok
    simp_all

theorem plain_of_selectList (names : m.PlainNames) {q : Query} {columns : List String}
    (ok : selectList m q = .ok columns) : ∀ s ∈ columns, Text.Plain s := by
  unfold selectList at ok
  intro s hs
  split_ifs at ok
  · obtain ⟨lists, hlists, rfl⟩ := map_eq_ok.mp ok
    obtain ⟨list, hlist, hs⟩ := List.mem_flatten.mp hs
    obtain ⟨g, -, hg⟩ := exists_of_mem_mapM hlists hlist
    exact plain_of_groupColumns names hg s hs
  · obtain ⟨f, -, hf⟩ := exists_of_mem_mapM ok hs
    exact names.column hf
  · cases ok
    obtain ⟨p, hp, rfl⟩ := List.mem_map.mp hs
    exact names.columns p (Mapping.mem_properties hp)

theorem listText_of_groupByClause {groups : List GroupBy} {s : String}
    (ok : groupByClause m groups = .ok s) :
    s = listText "GROUP BY " (groups.map fun g => m.named g.key) := by
  unfold groupByClause at ok
  split_ifs at ok with empty
  · cases ok
    simp_all [listText]
  · obtain ⟨columns, hcolumns, rfl⟩ := map_eq_ok.mp ok
    rw [mapM_eq_map (fun g _ => Mapping.named_of_column) hcolumns]
    simp_all [listText]

theorem plain_of_groupByClause (names : m.PlainNames) {groups : List GroupBy} {s : String}
    (ok : groupByClause m groups = .ok s) : Text.Plain s := by
  unfold groupByClause at ok
  split_ifs at ok
  · cases ok
    decide
  · obtain ⟨columns, hcolumns, rfl⟩ := map_eq_ok.mp ok
    have plain : ∀ c ∈ columns, Text.Plain c := by
      intro c hc
      obtain ⟨g, -, hg⟩ := exists_of_mem_mapM hcolumns hc
      exact names.column hg
    simp only [Text.plain_append]
    exact ⟨⟨by decide, Text.plain_intercalate (by decide) plain⟩, by decide⟩

theorem listText_of_orderByClause {keys : List OrderBy} {s : String}
    (ok : orderByClause m keys = .ok s) :
    s = listText "ORDER BY " (keys.map (orderNames m)) := by
  unfold orderByClause at ok
  split_ifs at ok with empty
  · cases ok
    simp_all [listText]
  · obtain ⟨items, hitems, rfl⟩ := map_eq_ok.mp ok
    have item : ∀ (o : OrderBy) (s : String), (m.column .orderBys o.key).map
        (fun column => column ++ " " ++ o.direction.keyword) = .ok s → s = orderNames m o := by
      intro o s ho
      obtain ⟨column, hcolumn, rfl⟩ := map_eq_ok.mp ho
      rw [orderNames, Mapping.named_of_column hcolumn]
    rw [mapM_eq_map item hitems]
    simp_all [listText]

theorem plain_of_orderByClause (names : m.PlainNames) {keys : List OrderBy} {s : String}
    (ok : orderByClause m keys = .ok s) : Text.Plain s := by
  unfold orderByClause at ok
  split_ifs at ok
  · cases ok
    decide
  · obtain ⟨items, hitems, rfl⟩ := map_eq_ok.mp ok
    have plain : ∀ item ∈ items, Text.Plain item := by
      intro item hitem
      obtain ⟨o, -, ho⟩ := exists_of_mem_mapM hitems hitem
      obtain ⟨column, hcolumn, rfl⟩ := map_eq_ok.mp ho
      simp only [Text.plain_append]
      exact ⟨⟨names.column hcolumn, by decide⟩, by cases o.direction <;> decide⟩
    simp only [Text.plain_append]
    exact ⟨⟨by decide, Text.plain_intercalate (by decide) plain⟩, by decide⟩

/-! ## Windows -/

theorem sensible_of_paging {q : Query} {offset limit : Int64}
    (given : q.paging = some (offset, limit)) : ¬ (offset < 0 ∨ limit ≤ 0) := by
  unfold Query.paging at given
  split at given
  · split_ifs at given with sensible
    cases given
    simpa using sensible
  · cases given

theorem reads_paginate {names : Prop} {dialect : Dialect} {t window : Template} {q : Query}
    {offset limit : Int64} {text : (Value → String) → String} {values : List Value}
    (given : q.paging = some (offset, limit)) (ht : t.Reads names text values)
    (ok : paginate dialect t offset limit = .ok window) :
    window.Reads names (fun mark => windowText dialect (text mark) (some (offset, limit)))
      values := by
  unfold paginate at ok
  rw [if_neg (sensible_of_paging given)] at ok
  cases dialect with
  | mysql =>
    simp only [Except.ok.injEq] at ok
    subst ok
    have finish : names → Text.Plain
        ("LIMIT " ++ toString offset.toInt ++ "," ++ toString limit.toInt) := by
      intro _
      simp only [Text.plain_append]
      exact ⟨⟨⟨by decide, Text.plain_toString _⟩, by decide⟩, Text.plain_toString _⟩
    refine (ht.append (Template.reads_fixed finish)).congr ?_
      (List.append_nil values)
    intro mark
    unfold windowText
    simp only [String.append_assoc]
  | oracle =>
    simp only at ok
    split at ok
    · cases ok
    · rename_i upper hupper
      simp only [Except.ok.injEq] at ok
      subst ok
      have start : names → Text.Plain
          "SELECT * FROM (SELECT ROWNUM AS RN,table_alias.* FROM (" := fun _ => by decide
      have finish : names → Text.Plain (") table_alias WHERE ROWNUM <= " ++
          toString upper.toInt ++ ") WHERE RN > " ++ toString offset.toInt) := by
        intro _
        simp only [Text.plain_append]
        exact ⟨⟨⟨by decide, Text.plain_toString _⟩, by decide⟩, Text.plain_toString _⟩
      refine (((Template.reads_fixed start).append ht).append
        (Template.reads_fixed finish)).congr ?_ (by simp)
      intro mark
      unfold windowText
      simp only [String.append_assoc, toInt_of_checkedInt64 hupper]

end EntityStore.Relational
