import EntityStore.Proofs.Update
import Mathlib.Data.Set.Card

/-!
# What an update keeps of its edits

An update is a map whose keys stand in the order in which they came in. What it holds is said by the
history of its edits alone: under each key the value that was last set, unless the key was taken out
after it, and the keys by the edits with which they came in and since which they were not taken out.
-/

namespace EntityStore.Update

/-! ## The history of a key -/

def Edit.key : Edit → String
  | set key _ => key
  | erase key => key

def LastSet (edits : List Edit) (key : String) (value : Value) : Prop :=
  ∃ before after, edits = before ++ .set key value :: after ∧ ∀ edit ∈ after, edit.key ≠ key

/-- The key came in with the edit at the place, which set it while it was not there, and was not taken
out since. -/
def Since (edits : List Edit) (key : String) (place : Nat) : Prop :=
  ∃ before value after, edits = before ++ .set key value :: after ∧ before.length = place ∧
    (∀ old, ¬ LastSet before key old) ∧ .erase key ∉ after

variable {edits : List Edit} {edit : Edit} {key : String} {value : Value} {place : Nat}

theorem concat_eq_iff {α : Type} {xs before after : List α} {x y : α} :
    xs ++ [x] = before ++ y :: after ↔
      (after = [] ∧ xs = before ∧ x = y) ∨
        ∃ middle, after = middle ++ [x] ∧ xs = before ++ y :: middle := by
  rcases List.eq_nil_or_concat' after with rfl | ⟨middle, last, rfl⟩
  · simp
  · rw [← List.cons_append, ← List.append_assoc]
    constructor
    · intro same
      obtain ⟨rfl, ends⟩ := List.append_inj' same rfl
      cases ends
      exact .inr ⟨middle, rfl, rfl⟩
    · rintro (⟨none, -, -⟩ | ⟨middle', ends, rfl⟩)
      · simp at none
      · obtain ⟨rfl, same⟩ := List.append_inj' ends rfl
        cases same
        rfl

/-! ## One more edit -/

theorem lastSet_concat : LastSet (edits ++ [edit]) key value ↔
    edit = .set key value ∨ edit.key ≠ key ∧ LastSet edits key value := by
  constructor
  · rintro ⟨before, after, split, others⟩
    rcases concat_eq_iff.mp split with ⟨rfl, rfl, rfl⟩ | ⟨middle, rfl, rfl⟩
    · exact .inl rfl
    · rw [List.forall_mem_append, List.forall_mem_singleton] at others
      exact .inr ⟨others.2, before, middle, rfl, others.1⟩
  · rintro (rfl | ⟨other, before, after, rfl, others⟩)
    · exact ⟨edits, [], rfl, nofun⟩
    · refine ⟨before, after ++ [edit], by simp, ?_⟩
      rw [List.forall_mem_append, List.forall_mem_singleton]
      exact ⟨others, other⟩

theorem since_concat : Since (edits ++ [edit]) key place ↔
    (edit ≠ .erase key ∧ Since edits key place) ∨
      (∃ value, edit = .set key value) ∧ place = edits.length ∧ ∀ old, ¬ LastSet edits key old := by
  constructor
  · rintro ⟨before, value, after, split, rfl, absent, kept⟩
    rcases concat_eq_iff.mp split with ⟨rfl, rfl, rfl⟩ | ⟨middle, rfl, rfl⟩
    · exact .inr ⟨⟨value, rfl⟩, rfl, absent⟩
    · rw [List.mem_append, List.mem_singleton, not_or] at kept
      exact .inl ⟨kept.2 ∘ Eq.symm, before, value, middle, rfl, rfl, absent, kept.1⟩
  · rintro (⟨other, before, value, after, rfl, rfl, absent, kept⟩ | ⟨⟨value, rfl⟩, rfl, absent⟩)
    · refine ⟨before, value, after ++ [edit], by simp, rfl, absent, ?_⟩
      rw [List.mem_append, List.mem_singleton, not_or]
      exact ⟨kept, other ∘ Eq.symm⟩
    · exact ⟨edits, value, [], rfl, rfl, absent, List.not_mem_nil⟩

theorem not_lastSet_nil : ¬ LastSet [] key value := by
  rintro ⟨before, after, split, -⟩
  simp at split

theorem not_since_nil : ¬ Since [] key place := by
  rintro ⟨before, value, after, split, -⟩
  simp at split

theorem Since.lt_length (since : Since edits key place) : place < edits.length := by
  obtain ⟨before, value, after, rfl, rfl, -, -⟩ := since
  simp

theorem exists_since_iff : (∃ place, Since edits key place) ↔ ∃ value, LastSet edits key value := by
  induction edits using List.reverseRecOn with
  | nil => simp [not_since_nil, not_lastSet_nil]
  | append_singleton edits edit ih =>
    simp only [since_concat, lastSet_concat]
    cases edit with
    | set k v =>
      by_cases here : k = key
      · subst here
        refine iff_of_true ?_ ⟨v, .inl rfl⟩
        by_cases present : ∃ place, Since edits k place
        · obtain ⟨place, since⟩ := present
          exact ⟨place, .inl ⟨nofun, since⟩⟩
        · refine ⟨edits.length, .inr ⟨⟨v, rfl⟩, rfl, fun old last => ?_⟩⟩
          exact present (ih.mpr ⟨old, last⟩)
      · simp [Edit.key, here, ih]
    | erase k =>
      by_cases here : k = key
      · simp [Edit.key, here]
      · simp [Edit.key, here, ih]

theorem Since.unique {other : Nat} (since : Since edits key place) (since' : Since edits key other) :
    place = other := by
  induction edits using List.reverseRecOn with
  | nil => exact absurd since not_since_nil
  | append_singleton edits edit ih =>
    have present : Since edits key place ∨ Since edits key other →
        ¬ ∀ old, ¬ LastSet edits key old := by
      intro some absent
      have some : ∃ place, Since edits key place := some.elim (⟨_, ·⟩) (⟨_, ·⟩)
      obtain ⟨old, last⟩ := exists_since_iff.mp some
      exact absent old last
    rcases since_concat.mp since with ⟨-, since⟩ | ⟨-, rfl, absent⟩
    · rcases since_concat.mp since' with ⟨-, since'⟩ | ⟨-, -, absent⟩
      · exact ih since since'
      · exact absurd absent (present (.inl since))
    · rcases since_concat.mp since' with ⟨-, since'⟩ | ⟨-, rfl, -⟩
      · exact absurd absent (present (.inr since'))
      · rfl

/-! ## One more entry -/

theorem map_put_of_mem {entries : List (String × Value)} (mem : key ∈ entries.map (·.1)) :
    (put key value entries).map (·.1) = entries.map (·.1) := by
  induction entries with
  | nil => cases mem
  | cons entry rest ih =>
    rw [put]
    split_ifs with here
    · rfl
    · rw [List.map_cons, List.map_cons, ih]
      exact (List.mem_cons.mp mem).resolve_left (Ne.symm here)

theorem put_of_notMem {entries : List (String × Value)} (absent : key ∉ entries.map (·.1)) :
    put key value entries = entries ++ [(key, value)] := by
  induction entries with
  | nil => rfl
  | cons entry rest ih =>
    rw [List.map_cons, List.mem_cons, not_or] at absent
    rw [put, if_neg (Ne.symm absent.1), ih absent.2]
    rfl

theorem erase_eq_filter {u : Update} (distinct : Distinct u.entries) (key : String) :
    u.erase key = ⟨u.entries.filter (·.1 != key)⟩ := by
  unfold erase
  congr 1
  generalize u.entries = entries at distinct
  induction entries with
  | nil => rfl
  | cons entry rest ih =>
    obtain ⟨fresh, others⟩ := List.nodup_cons.mp distinct
    by_cases here : entry.1 = key
    · have kept : rest.filter (·.1 != key) = rest := by
        refine List.filter_eq_self.mpr fun other mem => ?_
        rw [bne_iff_ne, ← here]
        exact fun same => fresh (List.mem_map.mpr ⟨other, mem, same⟩)
      rw [List.eraseP_cons_of_pos (by simpa using here), List.filter_cons_of_neg (by simpa using here),
        kept]
    · rw [List.eraseP_cons_of_neg (by simpa using here), List.filter_cons_of_pos (by simpa using here),
        ih others]

theorem remove_eq (u : Update) (key : String) : u.remove key = (u.get? key, u.erase key) := by
  unfold remove get? erase
  rw [List.eraseP_eq_eraseIdx, List.find?_eq_bind_findIdx?_getElem?]
  cases u.entries.findIdx? (·.1 == key) <;> rfl

theorem get?_eq_some_iff {u : Update} (distinct : Distinct u.entries) :
    u.get? key = some value ↔ (key, value) ∈ u.entries := by
  unfold get?
  constructor
  · intro found
    obtain ⟨⟨k, v⟩, first, rfl⟩ := Option.map_eq_some_iff.mp found
    obtain rfl : k = key := by simpa using List.find?_some first
    exact List.mem_of_find?_eq_some first
  · intro mem
    cases found : u.entries.find? (·.1 == key) with
    | none => exact absurd (List.find?_eq_none.mp found _ mem) (by simp)
    | some entry =>
      have here : entry.1 = key := by simpa using List.find?_some found
      rw [List.inj_on_of_nodup_map distinct (List.mem_of_find?_eq_some found) mem here]
      rfl

/-! ## All edits -/

/-- The entries of the update are the last values of its keys, in the order in which these came in. -/
structure Tracks (edits : List Edit) (u : Update) : Prop where
  distinct : Distinct u.entries
  mem : ∀ key value, (key, value) ∈ u.entries ↔ LastSet edits key value
  order : u.keys.Pairwise fun k l => ∀ i j, Since edits k i → Since edits l j → i < j

namespace Tracks

variable {u : Update}

theorem mem_keys_iff (tracks : Tracks edits u) : key ∈ u.keys ↔ ∃ value, LastSet edits key value := by
  simp only [keys, List.mem_map, ← tracks.mem, Prod.exists, exists_and_right, exists_eq_right]

theorem mem_keys (tracks : Tracks edits u) (since : Since edits key place) : key ∈ u.keys :=
  tracks.mem_keys_iff.mpr (exists_since_iff.mp ⟨place, since⟩)

theorem since_of_concat (tracks : Tracks edits u) (present : key ∈ u.keys)
    (since : Since (edits ++ [edit]) key place) : Since edits key place := by
  rcases since_concat.mp since with ⟨-, since⟩ | ⟨-, -, absent⟩
  · exact since
  · obtain ⟨old, last⟩ := tracks.mem_keys_iff.mp present
    exact absurd last (absent old)

theorem order_concat (tracks : Tracks edits u) (edit : Edit) :
    u.keys.Pairwise fun k l => ∀ i j, Since (edits ++ [edit]) k i → Since (edits ++ [edit]) l j →
      i < j := by
  refine tracks.order.imp_of_mem fun hk hl before i j since since' => ?_
  exact before i j (tracks.since_of_concat hk since) (tracks.since_of_concat hl since')

theorem set (tracks : Tracks edits u) (k : String) (v : Value) :
    Tracks (edits ++ [.set k v]) (u.set k v) := by
  refine ⟨distinct_put tracks.distinct, fun key value => ?_, ?_⟩
  · rw [lastSet_concat, ← tracks.mem]
    refine (mem_put tracks.distinct _).trans ?_
    rw [Prod.mk.injEq, Edit.set.injEq, eq_comm (a := key), eq_comm (a := value), ne_comm]
    rfl
  · by_cases present : k ∈ u.keys
    · have same : (u.set k v).keys = u.keys := map_put_of_mem present
      rw [same]
      exact tracks.order_concat _
    · have grown : (u.set k v).keys = u.keys ++ [k] := by
        unfold Update.set keys
        rw [put_of_notMem present, List.map_append]
        rfl
      rw [grown, List.pairwise_append]
      refine ⟨tracks.order_concat _, List.pairwise_singleton _ _, ?_⟩
      intro key mem l last i j since since'
      cases List.mem_singleton.mp last
      -- The new key came in with this edit, and every other one before it.
      rcases since_concat.mp since' with ⟨-, old⟩ | ⟨-, rfl, -⟩
      · exact absurd (tracks.mem_keys old) present
      · exact (tracks.since_of_concat mem since).lt_length

theorem erase (tracks : Tracks edits u) (k : String) :
    Tracks (edits ++ [.erase k]) (u.erase k) := by
  have rest := erase_eq_filter tracks.distinct k
  refine ⟨Edit.distinct_apply tracks.distinct (.erase k), fun key value => ?_, ?_⟩
  · rw [lastSet_concat, ← tracks.mem, rest, List.mem_filter, and_comm]
    simp [Edit.key, ne_comm (a := key)]
  · have shorter : (u.erase k).keys.Sublist u.keys := List.eraseP_sublist.map _
    exact (tracks.order_concat _).sublist shorter

end Tracks

theorem tracks_edited (edits : List Edit) : Tracks edits (edited edits) := by
  induction edits using List.reverseRecOn with
  | nil =>
    refine ⟨distinct_nil, fun key value => ?_, List.Pairwise.nil⟩
    exact iff_of_false List.not_mem_nil not_lastSet_nil
  | append_singleton edits edit ih =>
    have next : edited (edits ++ [edit]) = edit.apply (edited edits) := by
      simp [edited, List.foldl_append]
    rw [next]
    cases edit with
    | set k v => exact ih.set k v
    | erase k => exact ih.erase k

structure OrderedMap (edits : List Edit) (u : Update) : Prop where
  distinct : u.keys.Nodup
  get : ∀ key value, u.get? key = some value ↔ LastSet edits key value
  entries : ∀ key value, (key, value) ∈ u.entries ↔ u.get? key = some value
  present : ∀ key, key ∈ u.keys ↔ ∃! place, Since edits key place
  order : u.keys.Pairwise fun k l => ∀ i j, Since edits k i → Since edits l j → i < j
  overwrite : ∀ key value, key ∈ u.keys → (u.set key value).keys = u.keys
  remove : ∀ key, u.remove key = (u.get? key, u.erase key)
  others : ∀ key, (u.erase key).entries = u.entries.filter (·.1 != key)
  size : u.size = {key | ∃ place, Since edits key place}.ncard

/-- However an update was built, it is the ordered map of its history. -/
theorem edited_ordered (edits : List Edit) : OrderedMap edits (edited edits) := by
  have tracks := tracks_edited edits
  have present : ∀ key, key ∈ (edited edits).keys ↔ ∃ place, Since edits key place :=
    fun key => tracks.mem_keys_iff.trans exists_since_iff.symm
  refine ⟨tracks.distinct, fun key value => ?_, fun key value => ?_, fun key => ?_, tracks.order,
    fun key value => map_put_of_mem, remove_eq _, fun key => ?_, ?_⟩
  · exact (get?_eq_some_iff tracks.distinct).trans (tracks.mem key value)
  · exact (get?_eq_some_iff tracks.distinct).symm
  · rw [present]
    constructor
    · rintro ⟨place, since⟩
      exact ⟨place, since, fun other since' => since'.unique since⟩
    · rintro ⟨place, since, -⟩
      exact ⟨place, since⟩
  · rw [erase_eq_filter tracks.distinct]
  · have keys : {key | ∃ place, Since edits key place} = ↑(edited edits).keys.toFinset := by
      ext key
      simp [← present]
    have once : (edited edits).keys.Nodup := tracks.distinct
    rw [keys, Set.ncard_coe_finset, List.toFinset_card_of_nodup once]
    simp [Update.keys, Update.size]

/-- A key that is set again after it was taken out stands last. -/
example : (edited [.set "a" .null, .set "b" .null, .erase "a", .set "a" (.int32 3),
    .set "b" (.int32 2)]).entries = [("b", .int32 2), ("a", .int32 3)] := by
  rfl

end EntityStore.Update
