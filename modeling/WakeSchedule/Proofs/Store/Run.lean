import WakeSchedule.Proofs.Store.Mirror
import WakeSchedule.Proofs.Store.Settings
/-! Runs of requests from a fresh store. After every run the rules of a store are conflict free, and
its listings and numbers are those of the history of each kind. -/

namespace WakeSchedule

section Account

variable {ι : Type} {wakeChange? : ι → Option (Change WakeRule)}
  {sleepChange? : ι → Option (Change SleepRule)}

/-- The tables hold what the noted requests made of the rules of their kinds. -/
structure MemoryStore.Accounts (store : MemoryStore) (wakeChange? : ι → Option (Change WakeRule))
    (sleepChange? : ι → Option (Change SleepRule)) (log : List (ι × Reply)) : Prop where
  wake : store.wake.Reflects (eventsOf wakeChange? log)
  sleep : store.sleep.Reflects (eventsOf sleepChange? log)

theorem MemoryStore.Accounts.fresh :
    ({} : MemoryStore).Accounts wakeChange? sleepChange? [] :=
  ⟨.fresh, .fresh⟩

theorem MemoryStore.Accounts.step {store later : MemoryStore} {log : List (ι × Reply)}
    {exchange : ι × Reply} (accounts : store.Accounts wakeChange? sleepChange? log)
    (wake : store.wake.Step (eventOf? wakeChange? exchange) later.wake)
    (sleep : store.sleep.Step (eventOf? sleepChange? exchange) later.sleep) :
    later.Accounts wakeChange? sleepChange? (log ++ [exchange]) := by
  constructor
  · rw [eventsOf_append_exchange]
    exact accounts.wake.step wake
  · rw [eventsOf_append_exchange]
    exact accounts.sleep.step sleep

end Account

theorem MemoryStore.run_accounts (requests : List StoreRequest) :
    (serveAll StoreRequest.serve ({} : MemoryStore) requests).2.Accounts
      StoreRequest.wakeChange? StoreRequest.sleepChange?
      (serveAll StoreRequest.serve ({} : MemoryStore) requests).1 := by
  refine serveAll_invariant (fun log store => MemoryStore.Accounts store _ _ log) .fresh ?_
    requests
  intro log store request accounts
  have step := store.serve_step request
  exact accounts.step step.1 step.2

/-- Whatever a database does to its rules, the store it mirrors can do too. -/
theorem Mirrors.serve_step {store : MemoryStore} {db : Database} (mirror : Mirrors store db)
    (request : DatabaseRequest) : ∃ later, Mirrors later (request.serve db).2 ∧
      store.wake.Step (eventOf? DatabaseRequest.wakeChange? (request, (request.serve db).1))
        later.wake ∧
      store.sleep.Step (eventOf? DatabaseRequest.sleepChange? (request, (request.serve db).1))
        later.sleep := by
  cases request with
  | rules request =>
      rcases mirror.serve request with ⟨noWake, noSleep, _, kept⟩ | agree
      · refine ⟨store, ?_, ?_, ?_⟩
        · rw [DatabaseRequest.serve, kept]
          exact mirror
        · rw [eventOf?, DatabaseRequest.wakeChange?, noWake]
          exact .unchanged
        · rw [eventOf?, DatabaseRequest.sleepChange?, noSleep]
          exact .unchanged
      · have step := store.serve_step request
        rw [← agree.answer] at step
        exact ⟨(request.serve store).2, agree.mirror, step⟩
  | changeSettings settings =>
      refine ⟨store, ?_, .unchanged, .unchanged⟩
      have kept := db.changeSettings_rules settings
      exact ⟨kept.1.trans mirror.wake, kept.2.trans mirror.sleep⟩
  | reset =>
      refine ⟨⟨store.wake.clear, store.sleep.clear⟩, ?_, .cleared, .cleared⟩
      constructor
      · exact congrArg Table.clear mirror.wake
      · exact congrArg Table.clear mirror.sleep

theorem Database.run_accounts (requests : List DatabaseRequest) :
    ∃ store, Mirrors store (serveAll DatabaseRequest.serve ({} : Database) requests).2 ∧
      store.Accounts DatabaseRequest.wakeChange? DatabaseRequest.sleepChange?
        (serveAll DatabaseRequest.serve ({} : Database) requests).1 := by
  refine serveAll_invariant
    (fun log db => ∃ store, Mirrors store db ∧ store.Accounts _ _ log) ⟨{}, .fresh, .fresh⟩ ?_
    requests
  intro log db request mirrored
  rcases mirrored with ⟨store, mirror, accounts⟩
  rcases mirror.serve_step request with ⟨later, laterMirror, wake, sleep⟩
  exact ⟨later, laterMirror, accounts.step wake sleep⟩

section Conflicts

variable {σ : Type} [RuleStore σ]

def FreeOfConflicts (store : σ) : Prop :=
  (∃ rules, RuleStore.wakeRules store = .ok rules ∧ ConflictFree rules) ∧
    ∃ rules, RuleStore.sleepRules store = .ok rules ∧ ConflictFree rules

end Conflicts

/-- In every store that has served any requests, in any order, two rules that are enabled never fire
on one weekday at one time. -/
theorem stores_stay_conflict_free :
    (∀ requests : List StoreRequest,
      FreeOfConflicts (serveAll StoreRequest.serve ({} : MemoryStore) requests).2) ∧
    ∀ requests : List DatabaseRequest,
      FreeOfConflicts (serveAll DatabaseRequest.serve ({} : Database) requests).2 := by
  constructor
  · intro requests
    have accounts := MemoryStore.run_accounts requests
    exact ⟨⟨_, rfl, accounts.wake.free⟩, ⟨_, rfl, accounts.sleep.free⟩⟩
  · intro requests
    rcases Database.run_accounts requests with ⟨store, mirror, accounts⟩
    constructor
    · refine ⟨_, congrArg (·.mapError StoreError.toScheduleError) mirror.wakeRules, ?_⟩
      exact accounts.wake.free.map WakeRule.firesOn_tidied WakeRule.timeCode_tidied
    · refine ⟨_, congrArg (·.mapError StoreError.toScheduleError) mirror.sleepRules, ?_⟩
      exact accounts.sleep.free.map SleepRule.firesOn_tidied SleepRule.timeCode_tidied

end WakeSchedule
