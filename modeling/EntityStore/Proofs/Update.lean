import EntityStore.Proofs.Overwrite

/-!
# Updates as they are built

An update is built by setting properties and taking some of them out again. However it was built,
every property stands in it once.
-/

namespace EntityStore.Update

inductive Edit where
  | set (key : String) (value : Value)
  | erase (key : String)

def Edit.apply (u : Update) : Edit → Update
  | set key value => u.set key value
  | erase key => u.erase key

def edited (edits : List Edit) : Update := edits.foldl Edit.apply empty

theorem Edit.distinct_apply {u : Update} (distinct : Distinct u.entries) (edit : Edit) :
    Distinct (apply u edit).entries := by
  cases edit with
  | set key value => exact distinct_put distinct
  | erase key =>
    have shorter := (List.eraseP_sublist (p := (·.1 == key)) (l := u.entries)).map Prod.fst
    exact shorter.nodup distinct

theorem distinct_edited (edits : List Edit) : Distinct (edited edits).entries := by
  have kept : ∀ u : Update, Distinct u.entries → Distinct (edits.foldl Edit.apply u).entries := by
    induction edits with
    | nil => exact fun u distinct => distinct
    | cons edit rest ih => exact fun u distinct => ih _ (edit.distinct_apply distinct)
  exact kept empty distinct_nil

end EntityStore.Update
