import EntityStore.Proofs.Relational.Request

/-!
# Places and values

Every compiled statement has as many question marks as values, and the value of a place is that of
the condition, the assignment or the column that the place stands in. Windows keep this.
-/

namespace EntityStore.Relational

variable {m : Mapping} {dialect : Dialect} {t : Template}

/-! ## Assignments -/

theorem settings_of_assignments {entries sets : List (String × Value)}
    (ok : assignments m entries = .ok sets) : sets = settings m entries := by
  induction entries generalizing sets with
  | nil => cases ok; rfl
  | cons entry rest ih =>
    obtain ⟨property, value⟩ := entry
    rw [assignments] at ok
    obtain ⟨column, hcolumn, ok⟩ := bind_eq_ok.mp ok
    obtain ⟨later, hlater, ok⟩ := bind_eq_ok.mp ok
    cases ok
    rw [ih hlater, settings, settings, Mapping.named_of_column hcolumn]
    cases hidden : m.isTransient property with
    | true => simp [hidden]
    | false => simp [hidden]

theorem plain_of_assignments (names : m.PlainNames) {entries sets : List (String × Value)}
    (ok : assignments m entries = .ok sets) : ∀ s ∈ sets, Text.Plain s.1 := by
  induction entries generalizing sets with
  | nil => cases ok; simp
  | cons entry rest ih =>
    obtain ⟨property, value⟩ := entry
    rw [assignments] at ok
    obtain ⟨column, hcolumn, ok⟩ := bind_eq_ok.mp ok
    obtain ⟨later, hlater, ok⟩ := bind_eq_ok.mp ok
    cases ok
    split_ifs
    · exact ih hlater
    · exact List.forall_mem_cons.mpr ⟨names.column hcolumn, ih hlater⟩

theorem reads_setting {names : Prop} {column : String} (value : Value)
    (plain : names → Text.Plain column) :
    Template.Reads names [.fixed (column ++ "="), .bound value]
      (fun mark => column ++ "=" ++ mark value) [value] := by
  have start : names → Text.Plain (column ++ "=") :=
    fun h => (Text.plain_append _ _).mpr ⟨plain h, by decide⟩
  exact (Template.reads_fixed start).append (Template.reads_bound value)

theorem reads_settings {names : Prop} {sets : List (String × Value)}
    (plain : names → ∀ s ∈ sets, Text.Plain s.1) :
    (Template.separated "," (sets.map fun (column, value) =>
        [.fixed (column ++ "="), .bound value])).Reads names
      (fun mark => ",".intercalate (sets.map fun (column, value) => column ++ "=" ++ mark value))
      (sets.map (·.2)) := by
  have parts : List.Forall₂
      (fun p (s : String × Value) =>
        Template.Reads names p (fun mark => s.1 ++ "=" ++ mark s.2) [s.2])
      (sets.map fun s => [.fixed (s.1 ++ "="), .bound s.2]) sets := by
    rw [List.forall₂_map_left_iff, List.forall₂_same]
    intro s hs
    exact reads_setting s.2 fun h => plain h s hs
  refine (Template.reads_separated (by decide) parts).congr (fun mark => rfl) ?_
  rw [List.map_eq_flatMap]

/-! ## Statements -/

theorem reads_select {q : Query} (ok : select m dialect q = .ok t) :
    t.Reads m.PlainNames (fun mark => (Request.select q).text m dialect mark)
      (conditionValues q.criteria) := by
  unfold select at ok
  obtain ⟨columns, hcolumns, ok⟩ := bind_eq_ok.mp ok
  obtain ⟨condition, hcondition, ok⟩ := bind_eq_ok.mp ok
  obtain ⟨groups, hgroups, ok⟩ := bind_eq_ok.mp ok
  obtain ⟨order, horder, ok⟩ := bind_eq_ok.mp ok
  obtain ⟨list, hlist, rfl⟩ := map_eq_ok.mp hcolumns
  have start : m.PlainNames → Text.Plain
      ("SELECT " ++ ",".intercalate list ++ " " ++ fromClause m) := by
    intro names
    simp only [Text.plain_append, fromClause]
    exact ⟨⟨⟨by decide, Text.plain_intercalate (by decide) (plain_of_selectList names hlist)⟩,
      by decide⟩, ⟨by decide, names.table⟩, by decide⟩
  have finish : m.PlainNames → Text.Plain (groups ++ order) := by
    intro names
    exact (Text.plain_append _ _).mpr
      ⟨plain_of_groupByClause names hgroups, plain_of_orderByClause names horder⟩
  -- Only the conditions have values: what stands before and after them is fixed.
  have all := ((Template.reads_fixed start).append (reads_whereClause hcondition)).append
    (Template.reads_fixed finish)
  rw [List.nil_append, List.append_nil] at all
  have body : ∀ mark, "SELECT " ++ ",".intercalate list ++ " " ++ fromClause m ++
      conditionText m mark q.criteria ++ (groups ++ order) = bodyText m mark q := by
    intro mark
    rw [bodyText, ← selectNames_of_selectList hlist, ← listText_of_groupByClause hgroups,
      ← listText_of_orderByClause horder, fromClause]
    have split : " FROM " = " " ++ "FROM " := rfl
    simp only [split, String.append_assoc]
  have read := all.congr body rfl
  split at ok
  · rename_i whole
    cases ok
    refine read.congr (fun mark => ?_) rfl
    show bodyText m mark q = windowText dialect (bodyText m mark q) q.paging
    rw [whole]
    rfl
  · rename_i offset limit given
    refine (reads_paginate given read ok).congr (fun mark => ?_) rfl
    show _ = windowText dialect (bodyText m mark q) q.paging
    rw [given]

theorem reads_count {criteria : Option Criteria} (ok : count m criteria = .ok t) :
    t.Reads m.PlainNames (fun mark => (Request.count criteria).text m dialect mark)
      (conditionValues criteria) := by
  unfold count at ok
  obtain ⟨condition, hcondition, ok⟩ := bind_eq_ok.mp ok
  cases ok
  have start : m.PlainNames → Text.Plain ("SELECT COUNT(*) " ++ fromClause m) := by
    intro names
    simp only [Text.plain_append, fromClause]
    exact ⟨by decide, ⟨by decide, names.table⟩, by decide⟩
  refine ((Template.reads_fixed start).append (reads_whereClause hcondition)).congr ?_ rfl
  intro mark
  unfold Request.text fromClause
  have split : "SELECT COUNT(*) FROM " = "SELECT COUNT(*) " ++ "FROM " := rfl
  simp only [split, String.append_assoc]

theorem reads_update {u : Update} {criteria : Criteria} (ok : update m u criteria = .ok t) :
    t.Reads m.PlainNames (fun mark => (Request.update u criteria).text m dialect mark)
      ((Request.update u criteria).values m) := by
  unfold update at ok
  obtain ⟨sets, hsets, ok⟩ := bind_eq_ok.mp ok
  obtain ⟨_, -, ok⟩ := bind_eq_ok.mp ok
  obtain ⟨condition, hcondition, ok⟩ := bind_eq_ok.mp ok
  cases ok
  have start : m.PlainNames → Text.Plain ("UPDATE " ++ m.tableName ++ " SET ") := by
    intro names
    simp only [Text.plain_append]
    exact ⟨⟨by decide, names.table⟩, by decide⟩
  have gap : m.PlainNames → Text.Plain " " := fun _ => by decide
  have settings := reads_settings fun names : m.PlainNames => plain_of_assignments names hsets
  refine ((((Template.reads_fixed start).append settings).append
    (Template.reads_fixed gap)).append (reads_whereClause hcondition)).congr ?_ ?_
  · intro mark
    unfold Request.text
    rw [settings_of_assignments hsets]
  · unfold Request.values
    rw [settings_of_assignments hsets, List.nil_append, List.append_nil]

theorem reads_insert {values : List (String × Value)} {names : Prop}
    (table : names → Text.Plain m.tableName) (columns : names → ∀ v ∈ values, Text.Plain v.1) :
    (insert m values).Reads names (fun mark => (Request.insert values).text m dialect mark)
      (values.map (·.2)) := by
  have start : names → Text.Plain ("INSERT INTO " ++ m.tableName ++ " (" ++
      ",".intercalate (values.map (·.1)) ++ ") VALUES (") := by
    intro h
    have plain : ∀ c ∈ values.map (·.1), Text.Plain c := by
      intro c hc
      obtain ⟨v, hv, rfl⟩ := List.mem_map.mp hc
      exact columns h v hv
    simp only [Text.plain_append]
    exact ⟨⟨⟨⟨by decide, table h⟩, by decide⟩, Text.plain_intercalate (by decide) plain⟩,
      by decide⟩
  have finish : names → Text.Plain ")" := fun _ => by decide
  refine (((Template.reads_fixed start).append (Template.reads_boundList _)).append
    (Template.reads_fixed finish)).congr ?_ (by simp)
  intro mark
  unfold Request.text
  rw [List.map_map]
  rfl

theorem reads_deleteById {id : Id} {names : Prop} (table : names → Text.Plain m.tableName)
    (key : names → Text.Plain m.key.column) :
    (deleteById m id).Reads names (fun mark => (Request.deleteById id).text m dialect mark)
      [id.toValue] := by
  have start : names → Text.Plain ("DELETE FROM " ++ m.tableName ++ " WHERE " ++
      m.key.column ++ " = ") := by
    intro h
    simp only [Text.plain_append]
    exact ⟨⟨⟨⟨by decide, table h⟩, by decide⟩, key h⟩, by decide⟩
  exact (Template.reads_fixed start).append (Template.reads_bound id.toValue)

/-- Where no name of the mapping, and none that the caller gives, is mistaken for a place. -/
def Request.PlainNames (m : Mapping) (r : Request) : Prop :=
  m.PlainNames ∧ Text.Plain m.key.column ∧ ∀ c ∈ r.ownColumns, Text.Plain c

theorem reads_compile {r : Request} (ok : r.compile m dialect = .ok t) :
    t.Reads (r.PlainNames m) (fun mark => r.text m dialect mark) (r.values m) := by
  cases r with
  | select q => exact (reads_select ok).weaken fun names => names.1
  | count criteria => exact (reads_count ok).weaken fun names => names.1
  | update u criteria => exact (reads_update ok).weaken fun names => names.1
  | insert values =>
    cases ok
    refine reads_insert (fun names => names.1.table) fun names v hv => ?_
    exact names.2.2 v.1 (List.mem_map_of_mem hv)
  | deleteById id =>
    cases ok
    exact reads_deleteById (fun names => names.1.table) fun names => names.2.1

/-! ## Alignment -/

/-- A statement has a question mark for each of its values. The values are those that are set,
followed by those of the conditions; each stands in the text, and where it is read in the log, in the
place of its own assignment, condition or column. -/
theorem statement_aligned {d : Descriptor} (built : Mapping.build d .relational = .ok m)
    (names : m.PlainNames) (dialect : Dialect) (r : Request)
    (own : ∀ c ∈ r.ownColumns, Text.Plain c) (ok : r.compile m dialect = .ok t) :
    t.statement.sql.toList.count '?' = t.statement.params.length ∧
      t.statement.params = r.values m ∧
      t.statement.sql = r.text m dialect (fun _ => "?") ∧
      t.statement.formatted = r.text m dialect Value.literal := by
  have read := reads_compile ok
  have key := names.columns _ (Mapping.mem_properties (Mapping.built_of_build built).key_mem)
  have plain := read.plain ⟨names, key, own⟩
  refine ⟨Template.count_marks plain, read.params, ?_, ?_⟩
  · rw [← read.rendered, ← Template.sql_eq_rendered]
    rfl
  · rw [Template.formatted_statement plain, Template.inlined_eq_rendered, read.rendered]

def nameChange : Request :=
  .update ((Update.empty.set "mark" (.boolean true)).set "ownerName" (.text "o'neill?"))
    ((Criteria.single "id" .among (.list [.int64 7, .int64 9])).and "ownerName" .isNotNull .null)

theorem nameChange_aligned :
    Mapping.build accounts.descriptor .relational = .ok accountMapping ∧
    accountMapping.PlainNames ∧
    (∀ c ∈ nameChange.ownColumns, Text.Plain c) ∧
    ∃ t, nameChange.compile accountMapping .oracle = .ok t ∧ t.params.length = 3 ∧
      t.statement.sql.toList.count '?' = t.statement.params.length ∧
      t.statement.params = nameChange.values accountMapping ∧
      t.statement.sql = nameChange.text accountMapping .oracle (fun _ => "?") ∧
      t.statement.formatted = nameChange.text accountMapping .oracle Value.literal := by
  have names : accountMapping.PlainNames := ⟨by decide +kernel, by decide +kernel⟩
  have own : ∀ c ∈ nameChange.ownColumns, Text.Plain c := by simp [nameChange, Request.ownColumns]
  refine ⟨build_accounts, names, own, _, rfl, rfl, ?_⟩
  exact statement_aligned build_accounts names .oracle nameChange own rfl

end EntityStore.Relational
