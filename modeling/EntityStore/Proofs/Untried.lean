import EntityStore.Proofs.Relational.Course
import EntityStore.Proofs.Relational.Writes
import EntityStore.Proofs.WideColumn.Course
import EntityStore.Relational.Router

/-!
# What is not tried touches nothing

Relational and wide-column stores refuse an argument, and an operation that they do not have, before
they call anything. Behind a relational store no router moves then.
-/

namespace EntityStore

namespace Relational.Router

variable {η σ α : Type}
  (execute : η → (command : Command) → σ → Except BackendError command.Reply × σ)

/-- Has each call executed by the source whose turn it is. -/
def routed (c : Call) : Router η × σ → service.Answer c × (Router η × σ)
  | (router, s) =>
    let (source, router) := router.next c.route
    let (answer, s) := execute source c.command s
    (answer, (router, s))

end Relational.Router

/-- Whatever the sources answer: where an argument or an operation is refused, nothing was called
and no router has moved. -/
theorem untouched_of_untried (τ : EntityType) :
    (∀ (d : Relational.Store τ) (operation : Operation τ) {η σ : Type}
      (execute : η → (command : Relational.Command) → σ → Except BackendError command.Reply × σ)
      (router : Relational.Router η) (s : σ) (e : StoreError),
      let run := (d.repository.perform operation).run (Relational.Router.routed execute) (router, s)
      run.result.result = .error e → e.Untried → run.calls = [] ∧ run.state = (router, s)) ∧
    ∀ (d : WideColumn.Store τ) (operation : Operation τ) {σ : Type}
      (answer : (c : WideColumn.Call) → σ → WideColumn.service.Answer c × σ) (s : σ)
      (e : StoreError),
      let run := (d.repository.perform operation).run answer s
      run.result.result = .error e → e.Untried → run.calls = [] ∧ run.state = s := by
  refine ⟨fun d operation η σ execute router s e refused untried => ?_,
    fun d operation σ answer s e refused untried => ?_⟩
  · exact d.abides.untouched (fun _ _ => Single.late_of_failed) (fun _ => rfl) refused untried
  · exact d.abides.untouched (fun _ _ => Single.late_of_failed) (fun _ => rfl) refused untried

def brokenSource (_ : String) (command : Relational.Command) (asked : Nat) :
    Except BackendError command.Reply × Nat :=
  (.error ⟨.connection, "no connection", none⟩, asked + 1)

def oneOfEach : Relational.Router String where
  writers := ["writer"]
  readers := ["reader"]
  hasWriter := nofun

def byBalance : Operation accounts := .findAllOrderedPaged [⟨"balance", .asc⟩] ⟨2, 10⟩

theorem accounts_untouched :
    let run := (Relational.Store.accountStore.repository.perform byBalance).run
      (Relational.Router.routed brokenSource) (oneOfEach, 0)
    (run.result.result = .error (.unknownProperty .orderBys "balance") ∧
      run.calls = [] ∧ run.state = (oneOfEach, 0)) ∧
    ∃ d, WideColumn.Store.create accounts = .ok d ∧
      let run := (d.repository.perform (.deleteById (.long 7))).run
        (fun _ asked => (.error ⟨.connection, "no connection", none⟩, asked + 1)) 0
      run.result.result = .error (.unsupported "WideColumnDao" "delete_by_id") ∧
        run.calls = [] ∧ run.state = 0 := by
  obtain ⟨relational, wideColumn⟩ := untouched_of_untried accounts
  refine ⟨⟨rfl, ?_⟩, ?_⟩
  · exact relational _ byBalance brokenSource oneOfEach 0 _ rfl trivial
  · obtain ⟨d, created⟩ := refusal?_eq_none.mp
      (show refusal? (WideColumn.Store.create accounts) = none by decide +kernel)
    exact ⟨d, created, rfl, wideColumn d (.deleteById (.long 7)) _ 0 _ rfl trivial⟩

end EntityStore
