import EntityStore.Entity
import EntityStore.Proofs.Result

/-!
# Errors that come late

An argument and an operation that a store does not have are refused without trying. All other errors
are late: those that a backend's failures become, and those of values that do not fit.
-/

namespace EntityStore

variable {τ : EntityType}

/-- The errors that say that something was not even tried. -/
def StoreError.Untried : StoreError → Prop
  | invalidArgument _ _ | unsupported _ _ => True
  | _ => False

def StoreError.Late (e : StoreError) : Prop := ¬ e.Untried

theorem StoreError.late_ofBackend (kind : CallKind) (failure : BackendError) :
    (ofBackend kind failure).Late := by
  unfold ofBackend
  split <;> exact id

theorem StoreError.late_ofBackendFor (kind : CallKind) (id : Id) (failure : BackendError) :
    (ofBackendFor kind id failure).Late := by
  unfold ofBackendFor
  split
  · exact fun untried => untried
  · exact late_ofBackend kind failure

theorem Scalar.late_of_convert {s : Scalar} {v : Value} {e : StoreError}
    (refused : s.convert v = .error e) : e.Late := by
  unfold convert at refused
  split at refused <;> (try split_ifs at refused) <;> cases refused <;> exact id

theorem Slot.late_of_write {property : String} {v : Value} {slots : List Slot} {e : StoreError}
    (refused : write property v slots = .error e) : e.Late := by
  induction slots with
  | nil => cases refused
  | cons s rest ih =>
    rw [write] at refused
    split_ifs at refused
    · unfold put Content.convert at refused
      split_ifs at refused
      · cases refused
      · exact Scalar.late_of_convert (map_eq_error.mp (map_eq_error.mp (map_eq_error.mp refused)))
    · exact ih (map_eq_error.mp refused)

theorem Entity.late_of_set {e : Entity τ} {property : String} {v : Value} {failure : StoreError}
    (refused : e.set property v = .error failure) : failure.Late := by
  unfold set at refused
  split at refused
  · rename_i write
    cases refused
    exact Slot.late_of_write write
  · cases refused

end EntityStore
