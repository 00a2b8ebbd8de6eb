import EntityStore.Proofs.Result
import EntityStore.WideColumn.Store

/-!
# Counts of rows in any order

The columns of a row may be visited in any order, and a row is counted as the integer of the first
count column, or else as the first integer of any column. Which numbers it may be counted as is told
from the columns alone; it is counted alike in every order exactly where that is one number at most.
-/

namespace EntityStore.WideColumn.Store

variable {τ : EntityType} {d : Store τ} {row visited : Row} {n : Int64}

/-! ## What a row offers -/

abbrev IsCount (cell : String × Value) : Prop := isCountColumn cell.1 = true

abbrev Holds (cell : String × Value) (n : Int64) : Prop := integer? cell.2 = some n

def Settled (row : Row) : Prop :=
  (∃ cell ∈ row, IsCount cell) ∧ ∀ cell ∈ row, IsCount cell → ∃ n, Holds cell n

/-- A number that the row may be counted as: that of a count column, or of any column where the
count columns leave it open. -/
def Offers (row : Row) (n : Int64) : Prop :=
  ∃ cell ∈ row, Holds cell n ∧ (IsCount cell ∨ ¬ Settled row)

theorem offers_perm (same : visited.Perm row) : Offers visited n ↔ Offers row n := by
  simp only [Offers, Settled, same.mem_iff]

theorem holds_nothing_iff {cell : String × Value} :
    integer? cell.2 = none ↔ ¬ ∃ n, Holds cell n := by
  rw [Option.eq_none_iff_forall_ne_some, not_exists]

theorem not_settled_iff : ¬ Settled row ↔
    (∀ cell ∈ row, ¬ IsCount cell) ∨ ∃ cell ∈ row, IsCount cell ∧ integer? cell.2 = none := by
  simp only [Settled, holds_nothing_iff, not_and_or, not_exists, not_forall, exists_prop]
  simp only [imp_iff_not_or]

theorem exists_offers_iff : (∃ n, Offers row n) ↔ ∃ cell ∈ row, ∃ n, Holds cell n := by
  constructor
  · rintro ⟨n, cell, mem, holds, -⟩
    exact ⟨cell, mem, n, holds⟩
  · rintro ⟨cell, mem, n, holds⟩
    by_cases settled : Settled row
    · obtain ⟨⟨counting, here, counts⟩, each⟩ := settled
      obtain ⟨m, number⟩ := each counting here counts
      exact ⟨m, counting, here, number, .inl counts⟩
    · exact ⟨n, cell, mem, holds, .inr settled⟩

/-! ## One order -/

def counted? (row : Row) : Option Int64 :=
  (row.find? fun cell => isCountColumn cell.1).bind fun cell => integer? cell.2

def first? (row : Row) : Option Int64 := row.findSome? fun cell => integer? cell.2

theorem countOfRow_eq (row : Row) : countOfRow row =
    match counted? row <|> first? row with
    | some n => .ok n
    | none => .error (.typeMismatch .noCount) := rfl

theorem countOfRow_of_counted (counted : counted? row = some n) : countOfRow row = .ok n := by
  rw [countOfRow_eq, counted]
  rfl

theorem countOfRow_of_uncounted (uncounted : counted? row = none) :
    countOfRow row = (first? row).elim (.error (.typeMismatch .noCount)) .ok := by
  rw [countOfRow_eq, uncounted]
  cases first? row <;> rfl

theorem unsettled_of_uncounted (uncounted : counted? row = none) : ¬ Settled row := by
  rintro ⟨⟨cell, mem, counts⟩, each⟩
  cases found : row.find? fun cell => isCountColumn cell.1 with
  | none => exact List.find?_eq_none.mp found cell mem counts
  | some first =>
    have counts : IsCount first := (List.find?_some found :)
    obtain ⟨n, holds⟩ := each first (List.mem_of_find?_eq_some found) counts
    rw [counted?, found, Option.bind_some, holds] at uncounted
    cases uncounted

/-- A row is counted as a number that it offers, and not at all where it offers none. -/
theorem countOfRow_cases (row : Row) :
    (∃ n, Offers row n ∧ countOfRow row = .ok n) ∨
      (¬ ∃ n, Offers row n) ∧ countOfRow row = .error (.typeMismatch .noCount) := by
  cases counted : counted? row with
  | some n =>
    obtain ⟨cell, found, holds⟩ := Option.bind_eq_some_iff.mp counted
    have counts : IsCount cell := (List.find?_some found :)
    exact .inl ⟨n, ⟨cell, List.mem_of_find?_eq_some found, holds, .inl counts⟩,
      countOfRow_of_counted counted⟩
  | none =>
    rw [countOfRow_of_uncounted counted, exists_offers_iff]
    cases first : first? row with
    | some n =>
      obtain ⟨cell, mem, holds⟩ := List.exists_of_findSome?_eq_some first
      exact .inl ⟨n, ⟨cell, mem, holds, .inr (unsettled_of_uncounted counted)⟩, rfl⟩
    | none =>
      refine .inr ⟨?_, rfl⟩
      rintro ⟨cell, mem, some⟩
      exact holds_nothing_iff.mp (List.findSome?_eq_none_iff.mp first cell mem) some

theorem countOfRow_eq_error {e : StoreError} :
    countOfRow row = .error e ↔ (¬ ∃ n, Offers row n) ∧ e = .typeMismatch .noCount := by
  rcases countOfRow_cases row with ⟨n, offers, ok⟩ | ⟨none, refused⟩
  · rw [ok]
    exact iff_of_false nofun fun unoffered => unoffered.1 ⟨n, offers⟩
  · rw [refused, Except.error.injEq, eq_comm, and_iff_right none]

/-! ## Every order -/

theorem exists_perm_cons {α : Type} {a : α} {as : List α} (mem : a ∈ as) :
    ∃ rest, (a :: rest).Perm as := by
  obtain ⟨front, back, rfl⟩ := List.append_of_mem mem
  exact ⟨front ++ back, List.perm_middle.symm⟩

theorem counted?_cons {cell : String × Value} (counts : IsCount cell) :
    counted? (cell :: row) = integer? cell.2 := by
  unfold counted?
  rw [List.find?_cons, counts, Option.bind_some]

theorem counted?_eq_none (none : ∀ cell ∈ row, ¬ IsCount cell) : counted? row = .none := by
  unfold counted?
  rw [List.find?_eq_none.mpr none, Option.bind_none]

theorem exists_visited (offers : Offers row n) :
    ∃ visited, visited.Perm row ∧ countOfRow visited = .ok n := by
  obtain ⟨cell, mem, holds, counts⟩ := offers
  obtain ⟨rest, same⟩ := exists_perm_cons mem
  by_cases own : IsCount cell
  · exact ⟨cell :: rest, same, countOfRow_of_counted ((counted?_cons own).trans holds)⟩
  -- The cell is the first with a number, after a count column without one if there is any.
  rcases not_settled_iff.mp (counts.resolve_left own) with none | ⟨blank, there, blankCounts, nothing⟩
  · have uncounted : counted? (cell :: rest) = .none :=
      counted?_eq_none fun other mem => none other (same.subset mem)
    refine ⟨cell :: rest, same, ?_⟩
    rw [countOfRow_of_uncounted uncounted, first?, List.findSome?_cons, holds]
    rfl
  · have later : blank ∈ rest := by
      refine (List.mem_cons.mp (same.symm.subset there)).resolve_left ?_
      rintro rfl
      exact own blankCounts
    obtain ⟨others, same'⟩ := exists_perm_cons later
    have uncounted : counted? (blank :: cell :: others) = .none :=
      (counted?_cons blankCounts).trans nothing
    refine ⟨blank :: cell :: others, (List.Perm.swap ..).trans ((same'.cons cell).trans same), ?_⟩
    rw [countOfRow_of_uncounted uncounted, first?, List.findSome?_cons, nothing,
      List.findSome?_cons, holds]
    rfl

theorem countOfRow_unordered_iff :
    (∀ visited, visited.Perm row → countOfRow visited = countOfRow row) ↔
      ∀ n n', Offers row n → Offers row n' → n = n' := by
  constructor
  · intro alike n n' offers offers'
    obtain ⟨visited, same, ok⟩ := exists_visited offers
    obtain ⟨visited', same', ok'⟩ := exists_visited offers'
    rw [alike visited same] at ok
    rw [alike visited' same', ok] at ok'
    exact Except.ok.inj ok'
  · intro single visited same
    rcases countOfRow_cases row with ⟨n, offers, ok⟩ | ⟨none, refused⟩
    · rcases countOfRow_cases visited with ⟨n', offers', ok'⟩ | ⟨none, -⟩
      · rw [ok, ok', single n n' offers ((offers_perm same).mp offers')]
      · exact absurd ⟨n, (offers_perm same).mpr offers⟩ none
    · rw [refused, countOfRow_eq_error]
      exact ⟨fun ⟨n, offers⟩ => none ⟨n, (offers_perm same).mp offers⟩, rfl⟩

/-! ## Counts of a store -/

def answering (rows : List Row) : (c : Call) → Unit → service.Answer c × Unit
  | .execute _, _ => (.ok rows, ())
  | .executeBatch _, _ => (.ok (), ())

def countOf (x : Action service Int64) (row : Row) (later : List Row) : Except StoreError Int64 :=
  (x.run.run (answering (row :: later)) ()).result

/-- The counts that a store reads from a row: of its table, or of a statement of a caller. -/
inductive Counting (d : Store τ) : Action service Int64 → Prop where
  | all : Counting d d.repository.countAll
  | bySql {s : Statement} (given : Text.isBlank s.sql = false) :
    Counting d (d.repository.countBySql s)

theorem countOf_of_counting {x : Action service Int64} (counting : Counting d x) (row : Row)
    (later : List Row) : countOf x row later = countOfRow row := by
  cases counting with
  | all => rfl
  | @bySql s given =>
    have checked : checkSql s.sql = .ok () := require_eq_ok.mpr (by rw [given]; rfl)
    have read : d.repository.countBySql s = d.readCount s := by
      show d.countBySql s = _
      rw [countBySql, checked]
      rfl
    rw [read]
    rfl

/-- A store counts a row, whatever the order of its columns, as a number that the row offers, and
each of these in some order; a row that offers none is refused in every order. So a row is counted
alike in every order exactly where it offers one number at most. -/
theorem count_unordered_iff {x : Action service Int64} (counting : Counting d x) (row : Row)
    (later : List Row) :
    (∀ r, (∃ visited, visited.Perm row ∧ countOf x visited later = r) ↔
      (∃ n, Offers row n ∧ r = .ok n) ∨
        (¬ ∃ n, Offers row n) ∧ r = .error (.typeMismatch .noCount)) ∧
    ((∀ visited, visited.Perm row → countOf x visited later = countOf x row later) ↔
      ∀ n n', Offers row n → Offers row n' → n = n') := by
  simp only [countOf_of_counting counting]
  refine ⟨fun r => ⟨?_, ?_⟩, countOfRow_unordered_iff⟩
  · rintro ⟨visited, same, rfl⟩
    simp only [← offers_perm same]
    exact countOfRow_cases visited
  · rintro (⟨n, offers, rfl⟩ | ⟨none, rfl⟩)
    · exact exists_visited offers
    · exact ⟨row, .refl _, countOfRow_eq_error.mpr ⟨none, rfl⟩⟩

def events : EntityType where
  typeName := "Event"
  names := { table := some "event", keyspace := some "audit" }
  fields := [⟨"id", ⟨.text, false⟩, .missing, true, false, false⟩]

def eventStore : Store events where
  mapping := {
    typeName := "Event"
    policy := .wideColumn
    properties := [⟨"id", "id", .text, false, false⟩]
    key := ⟨"id", "id", .text, false, false⟩
    version := none
    names := { table := some "event", keyspace := some "audit" } }

theorem shards_not_counted :
    Store.create events = .ok eventStore ∧
    Counting eventStore eventStore.repository.countAll ∧
    ∀ visited, visited.Perm [("shards", .int32 3), ("COUNT", .int64 5)] →
      countOf eventStore.repository.countAll visited [] = .ok 5 := by
  have built : Mapping.build events.descriptor .wideColumn = .ok eventStore.mapping := by
    decide +kernel
  have counting : Counting eventStore eventStore.repository.countAll := .all
  have settled : Settled [("shards", .int32 3), ("COUNT", .int64 5)] := by
    refine ⟨⟨("COUNT", .int64 5), by simp, rfl⟩, fun cell mem counts => ?_⟩
    rcases List.mem_pair.mp mem with rfl | rfl
    · cases counts
    · exact ⟨5, rfl⟩
  have five : ∀ n, Offers [("shards", .int32 3), ("COUNT", .int64 5)] n → n = 5 := by
    rintro n ⟨cell, mem, holds, counts | unsettled⟩
    · rcases List.mem_pair.mp mem with rfl | rfl
      · cases counts
      · exact (Option.some.inj holds).symm
    · exact absurd settled unsettled
  refine ⟨map_eq_ok.mpr ⟨_, built, rfl⟩, counting, fun visited same => ?_⟩
  exact (count_unordered_iff counting _ []).2.mpr
    (fun n n' offers offers' => (five n offers).trans (five n' offers').symm) visited same

/-- A count column without an integer hides the one that has it, where it is visited first. -/
theorem not_unordered : ¬ ∀ (row visited : Row), (row.map (·.1)).Nodup → visited.Perm row →
    (countOf eventStore.repository.countAll visited []).toOption =
      (countOf eventStore.repository.countAll row []).toOption := by
  intro alike
  have swapped := alike [("count", .int64 5), ("Count", .text "n/a"), ("shards", .int32 3)]
    [("Count", .text "n/a"), ("shards", .int32 3), ("count", .int64 5)] (by decide)
    (@List.perm_append_comm _ [_, _] [_])
  cases swapped

end EntityStore.WideColumn.Store
