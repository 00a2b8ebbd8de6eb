import EntityStore.Builder
import EntityStore.Proofs.Conversation
import EntityStore.Proofs.Result
import Mathlib.Tactic.SplitIfs

/-!
# What connecting comes to

Settings that are not valid are refused before anything is called. Otherwise a source is opened for
every address, or the one client is connected, and the first call that fails is the last.
-/

namespace EntityStore

variable {η : Type}

namespace Connection

/-! ## Calls up to the first that fails -/

def blame : Call → BackendError → StoreError
  | .dataSource _ url, failure => .configuration (.cannotOpen (redactUrl url) failure.message)
  | .searchClient _, failure => .configuration (.cannotCreate "search client" failure.message)
  | .wideColumnSession _, failure =>
    .configuration (.cannotCreate "wide-column session" failure.message)

/-- Each call with the handle that it is answered with. -/
def handed (calls : List Call) (handles : List η) : List (Exchange (service η)) :=
  List.zipWith (fun c handle => ⟨c, .ok handle⟩) calls handles

/-- The calls are made in order. They come to the handles of all, or to the error of the first that
fails, and none after that one is made. -/
inductive Opening (calls : List Call) :
    List (Exchange (service η)) → Except StoreError (List η) → Prop where
  | opened {handles : List η} (each : handles.length = calls.length) :
    Opening calls (handed calls handles) (.ok handles)
  | refused {front later : List Call} {c : Call} {handles : List η} {failure : BackendError}
    (split : calls = front ++ c :: later) (each : handles.length = front.length) :
    Opening calls (handed front handles ++ [⟨c, .error failure⟩]) (.error (blame c failure))

theorem map_call_handed {calls : List Call} {handles : List η}
    (each : handles.length = calls.length) : (handed calls handles).map (·.call) = calls := by
  unfold handed
  rw [List.map_zipWith]
  induction calls generalizing handles with
  | nil => rfl
  | cons c rest ih =>
    obtain _ | ⟨handle, later⟩ := handles
    · cases each
    · rw [List.zipWith_cons_cons, ih (Nat.succ.inj each)]

theorem handed_append {front later : List Call} {hs gs : List η}
    (each : hs.length = front.length) :
    handed (front ++ later) (hs ++ gs) = handed front hs ++ handed later gs :=
  List.zipWith_append each.symm

namespace Opening

variable {calls front later : List Call} {c : Call} {handles : List η}
  {xs ys : List (Exchange (service η))} {r : Except StoreError (List η)} {e : StoreError}

theorem nil : Opening [] [] (.ok ([] : List η)) := opened rfl

theorem fail {failure : BackendError} :
    Opening (η := η) (c :: later) [⟨c, .error failure⟩] (.error (blame c failure)) := by
  have none : ([] : List η).length = ([] : List Call).length := rfl
  exact refused (List.nil_append _).symm none

theorem append (first : Opening front xs (.ok handles)) (rest : Opening later ys r) :
    Opening (front ++ later) (xs ++ ys) (r.map (handles ++ ·)) := by
  cases first with
  | opened each =>
    cases rest with
    | opened others =>
      rw [← handed_append each]
      apply opened
      rw [List.length_append, List.length_append, each, others]
    | refused split others =>
      rw [← List.append_assoc, ← handed_append each]
      apply refused
      · rw [split, List.append_assoc]
      · rw [List.length_append, List.length_append, each, others]

theorem append_error (first : Opening front xs (.error e)) :
    Opening (η := η) (front ++ later) xs (.error e) := by
  cases first with
  | refused split each =>
    have longer : front ++ later = _ := congrArg (· ++ later) split
    exact refused (longer.trans (List.append_assoc _ _ _)) each

theorem single {answer : Except BackendError η} :
    Opening [c] [⟨c, answer⟩] ((answer.mapError (blame c)).map ([·])) := by
  cases answer with
  | error failure => exact fail
  | ok handle =>
    have each : [handle].length = [c].length := rfl
    exact opened each

end Opening

theorem opening_mapM {calls : List Call} {xs : List (Exchange (service η))}
    {r : Except StoreError (List η)}
    (whole : Action.Says (calls.mapM fun c => Action.call (S := service η) (blame c) c) xs r) :
    Opening calls xs r := by
  induction calls generalizing xs r with
  | nil =>
    obtain ⟨rfl, rfl⟩ := Action.says_pure.mp whole
    exact .nil
  | cons c rest ih =>
    rw [List.mapM_cons] at whole
    rcases Action.says_bind.mp whole with
      ⟨e, called, rfl⟩ | ⟨handle, first, later, called, others, rfl⟩
    · obtain ⟨_ | _, rfl, failed⟩ := Action.says_call.mp called
      · cases failed
        exact .fail
      · cases failed
    obtain ⟨answer, rfl, same⟩ := Action.says_call.mp called
    obtain rfl : answer = .ok handle := mapError_eq_ok.mp same.symm
    have here : Opening [c] [⟨c, .ok handle⟩] (.ok [handle]) := .single
    rcases Action.says_bind.mp others with
      ⟨e, failed, rfl⟩ | ⟨handles, most, last, opened, ended, rfl⟩
    · exact here.append (ih failed)
    · obtain ⟨rfl, rfl⟩ := Action.says_pure.mp ended
      rw [List.append_nil]
      exact here.append (ih opened)

end Connection

open Connection

/-! ## Attempts -/

namespace Relational.Router

def sourceUrls (urls : List String) : List String := urls.filter (!Text.isBlank ·)

structure Connected (settings : RelationalSettings) (router : Router η) : Prop where
  writers : router.writers.length = (sourceUrls settings.writeUrls).length
  readers : router.readers.length = (sourceUrls settings.readUrls).length
  some : 1 ≤ router.writers.length
  fresh : router.writes = 0 ∧ router.reads = 0

theorem sourceUrls_ne_nil {settings : RelationalSettings} (valid : settings.validate = .ok ()) :
    sourceUrls settings.writeUrls ≠ [] := by
  unfold RelationalSettings.validate at valid
  split_ifs at valid with blank
  intro none
  apply blank
  unfold sourceUrls at none
  rw [List.filter_eq_nil_iff] at none
  rw [List.all_eq_true]
  intro url mem
  simpa using none url mem

end Relational.Router

def StoreSettings.connections : StoreSettings → List Call
  | relational s => (Relational.Router.sourceUrls s.writeUrls ++
      Relational.Router.sourceUrls s.readUrls).map (.dataSource s.dialect)
  | search s => [.searchClient s]
  | wideColumn s => [.wideColumnSession s]

/-- An attempt to connect: settings that are not valid are refused and nothing is called for them,
and for others the calls are made. -/
inductive Attempt (settings : StoreSettings) :
    List (Exchange (service η)) → Except StoreError (List η) → Prop where
  | invalid {e : StoreError} (refused : settings.validate = .error e) :
    Attempt settings [] (.error e)
  | tried {xs : List (Exchange (service η))} {r : Except StoreError (List η)}
    (valid : settings.validate = .ok ()) (opening : Opening settings.connections xs r) :
    Attempt settings xs r

variable {xs : List (Exchange (Connection.service η))}

namespace Relational.Router

theorem opening_openSources {dialect : Dialect} {urls : List String}
    {r : Except StoreError (List η)} (whole : (openSources dialect urls).Says xs r) :
    Opening ((sourceUrls urls).map (.dataSource dialect)) xs r := by
  apply opening_mapM
  rw [List.mapM_map]
  exact whole

def sources (router : Router η) : List η := router.writers ++ router.readers

theorem attempt_connect {settings : RelationalSettings} {r : Except StoreError (Router η)}
    (whole : (connect settings).Says xs r) :
    Attempt (.relational settings) xs (r.map sources) ∧
      ∀ router, r = .ok router → Connected settings router := by
  unfold connect at whole
  rcases Action.says_lift_bind.mp whole with ⟨e, refused, rfl, rfl⟩ | ⟨⟨⟩, valid, opens⟩
  · exact ⟨.invalid refused, nofun⟩
  rcases Action.says_bind.mp opens with
    ⟨e, failed, rfl⟩ | ⟨writers, first, later, openWriters, rest, rfl⟩
  · refine ⟨.tried valid ?_, nofun⟩
    rw [StoreSettings.connections, List.map_append]
    exact (opening_openSources failed).append_error
  have opened := opening_openSources openWriters
  rcases Action.says_bind.mp rest with
    ⟨e, failed, rfl⟩ | ⟨readers, most, last, openReaders, created, rfl⟩
  · refine ⟨.tried valid ?_, nofun⟩
    rw [StoreSettings.connections, List.map_append]
    exact opened.append (opening_openSources failed)
  obtain ⟨rfl, rfl⟩ := Program.says_done.mp created
  have others := opening_openSources openReaders
  have whole := opened.append others
  rw [← List.map_append] at whole
  obtain ⟨lengthWriters⟩ := opened
  obtain ⟨lengthReaders⟩ := others
  rw [List.length_map] at lengthWriters lengthReaders
  have many := List.length_pos_iff.mpr (sourceUrls_ne_nil valid)
  have some : writers ≠ [] := List.length_pos_iff.mp (by omega)
  rw [List.append_nil, create, dif_neg some]
  refine ⟨.tried valid whole, ?_⟩
  rintro router ⟨⟩
  exact ⟨lengthWriters, lengthReaders, List.length_pos_iff.mpr some, rfl, rfl⟩

end Relational.Router

namespace Builder

theorem attempt_connectSearch {settings : SearchSettings} {r : Except StoreError η}
    (whole : (connectSearch settings).Says xs r) :
    Attempt (.search settings) xs (r.map ([·])) := by
  unfold connectSearch at whole
  rcases Action.says_lift_bind.mp whole with ⟨e, refused, rfl, rfl⟩ | ⟨⟨⟩, valid, called⟩
  · exact .invalid refused
  · obtain ⟨answer, rfl, rfl⟩ := Action.says_call.mp called
    exact .tried valid .single

theorem attempt_connectWideColumn {settings : WideColumnSettings} {r : Except StoreError η}
    (whole : (connectWideColumn settings).Says xs r) :
    Attempt (.wideColumn settings) xs (r.map ([·])) := by
  unfold connectWideColumn at whole
  rcases Action.says_lift_bind.mp whole with ⟨e, refused, rfl, rfl⟩ | ⟨⟨⟩, valid, called⟩
  · exact .invalid refused
  · obtain ⟨answer, rfl, rfl⟩ := Action.says_call.mp called
    exact .tried valid .single

end Builder

end EntityStore
