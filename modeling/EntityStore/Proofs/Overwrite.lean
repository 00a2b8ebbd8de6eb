import EntityStore.Mapping.Row
import EntityStore.Update
import Mathlib.Data.List.Nodup

/-!
# Lists that are written over

An update, a row and a document are lists of names with what stands under them, in which what is
written takes the place of what stood there before. After several writes everything is either one of
those writes or stands under another name and is as it was.
-/

namespace EntityStore

/-- `write` leaves what it writes and what stands under other names, in the lists that are `Fit`. -/
structure Overwrites {β : Type} (Fit : List (String × β) → Prop)
    (write : String → β → List (String × β) → List (String × β)) : Prop where
  fit : ∀ {key value xs}, Fit xs → Fit (write key value xs)
  mem : ∀ {key value xs}, Fit xs → ∀ cell,
    cell ∈ write key value xs ↔ cell = (key, value) ∨ cell.1 ≠ key ∧ cell ∈ xs

def writeAll {β : Type} (write : String → β → List (String × β) → List (String × β))
    (cells xs : List (String × β)) : List (String × β) :=
  cells.foldl (fun xs (key, value) => write key value xs) xs

namespace Overwrites

variable {β : Type} {Fit : List (String × β) → Prop}
  {write : String → β → List (String × β) → List (String × β)}

theorem mem_keys (h : Overwrites Fit write) {xs : List (String × β)} (fit : Fit xs)
    {key : String} {value : β} (k : String) :
    k ∈ (write key value xs).map (·.1) ↔ k = key ∨ k ∈ xs.map (·.1) := by
  simp only [List.mem_map]
  constructor
  · rintro ⟨cell, hcell, rfl⟩
    rcases (h.mem fit cell).mp hcell with rfl | ⟨-, old⟩
    · exact .inl rfl
    · exact .inr ⟨cell, old, rfl⟩
  · intro hk
    by_cases here : k = key
    · exact ⟨(key, value), (h.mem fit _).mpr (.inl rfl), here.symm⟩
    · rcases hk with rfl | ⟨cell, old, rfl⟩
      · exact absurd rfl here
      · exact ⟨cell, (h.mem fit _).mpr (.inr ⟨here, old⟩), rfl⟩

theorem fit_writeAll (h : Overwrites Fit write) {cells xs : List (String × β)} (fit : Fit xs) :
    Fit (writeAll write cells xs) := by
  induction cells generalizing xs with
  | nil => exact fit
  | cons cell rest ih => exact ih (h.fit fit)

theorem mem_keys_writeAll (h : Overwrites Fit write) {cells xs : List (String × β)}
    (fit : Fit xs) (k : String) :
    k ∈ (writeAll write cells xs).map (·.1) ↔ k ∈ cells.map (·.1) ∨ k ∈ xs.map (·.1) := by
  induction cells generalizing xs with
  | nil => simp [writeAll]
  | cons cell rest ih =>
    obtain ⟨key, value⟩ := cell
    have grown : Fit (write key value xs) := h.fit fit
    rw [List.map_cons, List.mem_cons, or_comm (a := k = key), or_assoc, ← h.mem_keys fit]
    exact ih grown

theorem mem_writeAll (h : Overwrites Fit write) {cells xs : List (String × β)} (fit : Fit xs)
    {cell : String × β} (written : cell ∈ writeAll write cells xs) :
    cell ∈ cells ∨ cell.1 ∉ cells.map (·.1) ∧ cell ∈ xs := by
  induction cells generalizing xs with
  | nil => exact .inr ⟨by simp, written⟩
  | cons first rest ih =>
    -- What a later write leaves alone may still be what the first one wrote.
    rcases ih (h.fit fit) written with later | ⟨other, old⟩
    · exact .inl (List.mem_cons_of_mem _ later)
    · rcases (h.mem fit cell).mp old with rfl | ⟨ne, old⟩
      · exact .inl List.mem_cons_self
      · refine .inr ⟨?_, old⟩
        rw [List.map_cons, List.mem_cons, not_or]
        exact ⟨ne, other⟩

theorem mem_of_writeAll (h : Overwrites Fit write) (fit : Fit []) {cells : List (String × β)}
    {cell : String × β} (written : cell ∈ writeAll write cells []) : cell ∈ cells := by
  rcases h.mem_writeAll fit written with given | ⟨-, old⟩
  · exact given
  · cases old

theorem mem_keys_of_writeAll (h : Overwrites Fit write) (fit : Fit []) {cells : List (String × β)}
    (k : String) : k ∈ (writeAll write cells []).map (·.1) ↔ k ∈ cells.map (·.1) := by
  rw [h.mem_keys_writeAll fit, List.map_nil]
  exact or_iff_left List.not_mem_nil

end Overwrites

/-! ## One write -/

section

variable {β : Type} {key : String} {value : β} {xs rest later : List (String × β)}

theorem mem_cons_front (fresh : ∀ cell ∈ xs, cell.1 ≠ key) (cell : String × β) :
    cell ∈ (key, value) :: xs ↔ cell = (key, value) ∨ cell.1 ≠ key ∧ cell ∈ xs := by
  rw [List.mem_cons]
  constructor
  · rintro (rfl | mem)
    · exact .inl rfl
    · exact .inr ⟨fresh cell mem, mem⟩
  · rintro (rfl | ⟨-, mem⟩)
    · exact .inl rfl
    · exact .inr mem

theorem mem_cons_replaced (old : β) (fresh : ∀ cell ∈ rest, cell.1 ≠ key) (cell : String × β) :
    cell ∈ (key, value) :: rest ↔
      cell = (key, value) ∨ cell.1 ≠ key ∧ cell ∈ (key, old) :: rest := by
  rw [mem_cons_front fresh, List.mem_cons]
  refine or_congr_right (and_congr_right fun ne => ?_)
  constructor
  · exact .inr
  · rintro (rfl | mem)
    · exact absurd rfl ne
    · exact mem

theorem mem_cons_kept {kept cell : String × β} (ne : kept.1 ≠ key)
    (written : cell ∈ later ↔ cell = (key, value) ∨ cell.1 ≠ key ∧ cell ∈ rest) :
    cell ∈ kept :: later ↔ cell = (key, value) ∨ cell.1 ≠ key ∧ cell ∈ kept :: rest := by
  rw [List.mem_cons, List.mem_cons, written]
  constructor
  · rintro (rfl | rfl | ⟨other, mem⟩)
    · exact .inr ⟨ne, .inl rfl⟩
    · exact .inl rfl
    · exact .inr ⟨other, .inr mem⟩
  · rintro (rfl | ⟨other, rfl | mem⟩)
    · exact .inr (.inl rfl)
    · exact .inl rfl
    · exact .inr (.inr ⟨other, mem⟩)

end

/-! ## Updates and rows -/

def Distinct {β : Type} (xs : List (String × β)) : Prop := (xs.map (·.1)).Nodup

namespace Update

theorem mem_put {key : String} {value : Value} {xs : List (String × Value)} (distinct : Distinct xs)
    (cell : String × Value) :
    cell ∈ put key value xs ↔ cell = (key, value) ∨ cell.1 ≠ key ∧ cell ∈ xs := by
  induction xs with
  | nil => simp [put]
  | cons first rest ih =>
    obtain ⟨k, v⟩ := first
    obtain ⟨fresh, distinct⟩ := List.nodup_cons.mp distinct
    rw [put]
    split_ifs with here
    · subst here
      refine mem_cons_replaced v ?_ cell
      rintro other mem rfl
      exact fresh (List.mem_map.mpr ⟨other, mem, rfl⟩)
    · exact mem_cons_kept here (ih distinct)

theorem distinct_put {key : String} {value : Value} {xs : List (String × Value)}
    (distinct : Distinct xs) : Distinct (put key value xs) := by
  induction xs with
  | nil => exact List.nodup_singleton _
  | cons first rest ih =>
    obtain ⟨k, v⟩ := first
    obtain ⟨fresh, others⟩ := List.nodup_cons.mp distinct
    rw [put]
    split_ifs with here
    · exact distinct
    · refine List.nodup_cons.mpr ⟨?_, ih others⟩
      intro again
      obtain ⟨cell, mem, same⟩ := List.mem_map.mp again
      rcases (mem_put others cell).mp mem with rfl | ⟨-, old⟩
      · exact here same.symm
      · exact fresh (same ▸ List.mem_map_of_mem old)

theorem overwrites_put : Overwrites Distinct put := ⟨distinct_put, mem_put⟩

theorem distinct_nil : Distinct ([] : List (String × Value)) := List.nodup_nil

theorem entries_ofList (entries : List (String × Value)) :
    (ofList entries).entries = writeAll put entries [] := by
  have grown : ∀ u : Update, (entries.foldl (fun u entry => u.set entry.1 entry.2) u).entries =
      writeAll put entries u.entries := by
    induction entries with
    | nil => intro u; rfl
    | cons entry rest ih => intro u; exact ih _
  exact grown empty

end Update

theorem Row.overwrites_put : Overwrites Distinct Row.put where
  fit := by
    intro column value row distinct
    refine List.nodup_cons.mpr ⟨?_, distinct.sublist (List.filter_sublist.map _)⟩
    intro again
    obtain ⟨cell, mem, same⟩ := List.mem_map.mp again
    have other := (List.mem_filter.mp mem).2
    exact absurd same (by simpa using other)
  mem := by
    intro column value row _ cell
    rw [put, List.mem_cons, List.mem_filter, bne_iff_ne, and_comm]

theorem Row.mem_put_elsewhere {column : String} {value : Value} {row : Row}
    (distinct : Distinct row) {cell : String × Value} (other : cell.1 ≠ column) :
    cell ∈ row.put column value ↔ cell ∈ row := by
  rw [overwrites_put.mem distinct, and_iff_right other]
  refine or_iff_right ?_
  rintro rfl
  exact other rfl

end EntityStore
