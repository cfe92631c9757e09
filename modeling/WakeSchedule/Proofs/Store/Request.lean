import WakeSchedule.Decision
import WakeSchedule.Proofs.Store.History
import WakeSchedule.Store.Database
/-! Requests to a store, one atomic step each, and what a run of them did to the rules of a kind. A
run is one sequence of requests, whoever brought them and however those of several were mixed. -/

namespace WakeSchedule

inductive StoreRequest
  | wakeRules
  | sleepRules
  | enabledWakeRules
  | enabledSleepRules
  | insertWake (rule : WakeRule)
  | insertSleep (rule : SleepRule)
  | addWake (rule : WakeRule)
  | addSleep (rule : SleepRule)
  | delete (kind : RuleKind) (id : RuleId)
  | nextWake (clock : Clock) (settings : Settings)
  | tick (clock : Clock) (settings : Settings)
  | boot (clock : Clock) (settings : Settings)

inductive Answer
  | wakeRules (rules : List WakeRule)
  | sleepRules (rules : List SleepRule)
  | stored (id : RuleId)
  | done
  | nextWake (order : Invocation)
  | tick (decision : TickDecision)
  | boot (decision : BootDecision)
  deriving DecidableEq, Repr

abbrev Reply := Except ScheduleError Answer

section Serve

variable {σ ι ο β : Type}

def replying (answer : β → Answer) (step : Except ScheduleError β × σ) : Reply × σ :=
  (step.1.map answer, step.2)

def StoreRequest.serve [RuleStore σ] (store : σ) : StoreRequest → Reply × σ
  | .wakeRules => ((RuleStore.wakeRules store).map .wakeRules, store)
  | .sleepRules => ((RuleStore.sleepRules store).map .sleepRules, store)
  | .enabledWakeRules => ((RuleStore.enabledWakeRules store).map .wakeRules, store)
  | .enabledSleepRules => ((RuleStore.enabledSleepRules store).map .sleepRules, store)
  | .insertWake rule => replying .stored (RuleStore.insertWake rule store)
  | .insertSleep rule => replying .stored (RuleStore.insertSleep rule store)
  | .addWake rule => replying .stored (addWakeRule rule store)
  | .addSleep rule => replying .stored (addSleepRule rule store)
  | .delete kind id => replying (fun _ => .done) (RuleStore.delete kind id store)
  | .nextWake clock settings => ((scheduleNextWake store clock settings).map .nextWake, store)
  | .tick clock settings => ((handleTick store clock settings).map .tick, store)
  | .boot clock settings => ((handleBoot store clock settings).map .boot, store)

/-- A database may also be asked to change its settings and to start over. -/
inductive DatabaseRequest
  | rules (request : StoreRequest)
  | changeSettings (settings : Settings)
  | reset

def DatabaseRequest.serve (db : Database) : DatabaseRequest → Reply × Database
  | .rules request => request.serve db
  | .changeSettings settings => replying (fun _ => .done)
      (failingAs StoreError.toScheduleError (db.changeSettings settings))
  | .reset => (.ok .done, db.reset)

/-- Serves requests in order, each on what the one before left, and notes the replies. -/
def serveAll (serve : σ → ι → ο × σ) (store : σ) : List ι → List (ι × ο) × σ
  | [] => ([], store)
  | request :: requests =>
      let step := serve store request
      let rest := serveAll serve step.2 requests
      ((request, step.1) :: rest.1, rest.2)

/-- What holds of no requests and is kept by each holds of every run and of the notes on it. -/
theorem serveAll_invariant {serve : σ → ι → ο × σ} {store : σ}
    (holds : List (ι × ο) → σ → Prop) (start : holds [] store)
    (kept : ∀ log now request, holds log now →
      holds (log ++ [(request, (serve now request).1)]) (serve now request).2)
    (requests : List ι) :
    holds (serveAll serve store requests).1 (serveAll serve store requests).2 := by
  -- The notes grow at their end, so the induction is over the requests for any notes before them.
  have onward : ∀ log now, holds log now →
      holds (log ++ (serveAll serve now requests).1) (serveAll serve now requests).2 := by
    induction requests with
    | nil =>
        intro log now before
        simpa [serveAll] using before
    | cons request requests ih =>
        intro log now before
        have after := ih _ _ (kept log now request before)
        rwa [List.append_assoc] at after
  exact onward [] store start

theorem forall_replies {serve : σ → ι → ο × σ} {holds : ο → Prop}
    (each : ∀ store request, holds (serve store request).1) (store : σ) (requests : List ι) :
    ∀ exchange ∈ (serveAll serve store requests).1, holds exchange.2 := by
  induction requests generalizing store with
  | nil =>
      intro _ member
      cases member
  | cons request requests ih =>
      intro exchange member
      rcases List.mem_cons.mp member with rfl | later
      · exact each store request
      · exact ih _ exchange later

end Serve

section Change

variable {ρ ι : Type}

/-- What a request means to do to the rules of one kind. -/
inductive Change (ρ : Type)
  | store (rule : ρ)
  | delete (id : RuleId)
  | clear

/-- What has come of a change; one that is refused is no event. -/
def Change.event? : Change ρ → Reply → Option (Event ρ)
  | .store rule, .ok (.stored id) => some (.stored id rule)
  | .delete id, .ok _ => some (.deleted id)
  | .clear, .ok _ => some .cleared
  | _, _ => none

def StoreRequest.wakeChange? : StoreRequest → Option (Change WakeRule)
  | .insertWake rule | .addWake rule => some (.store rule)
  | .delete .wake id => some (.delete id)
  | _ => none

def StoreRequest.sleepChange? : StoreRequest → Option (Change SleepRule)
  | .insertSleep rule | .addSleep rule => some (.store rule)
  | .delete .sleep id => some (.delete id)
  | _ => none

def DatabaseRequest.wakeChange? : DatabaseRequest → Option (Change WakeRule)
  | .rules request => request.wakeChange?
  | .changeSettings _ => none
  | .reset => some .clear

def DatabaseRequest.sleepChange? : DatabaseRequest → Option (Change SleepRule)
  | .rules request => request.sleepChange?
  | .changeSettings _ => none
  | .reset => some .clear

def eventOf? (change? : ι → Option (Change ρ)) (exchange : ι × Reply) : Option (Event ρ) :=
  (change? exchange.1).bind (·.event? exchange.2)

theorem eventOf?_eq_stored {change? : ι → Option (Change ρ)} {exchange : ι × Reply} {id : RuleId}
    {rule : ρ} (made : eventOf? change? exchange = some (.stored id rule)) :
    change? exchange.1 = some (.store rule) := by
  rcases Option.bind_eq_some_iff.mp made with ⟨change, meant, event⟩
  rw [meant]
  unfold Change.event? at event
  split at event <;> cases event
  rfl

def eventsOf (change? : ι → Option (Change ρ)) (log : List (ι × Reply)) : List (Event ρ) :=
  log.filterMap (eventOf? change?)

theorem eventsOf_append_exchange (change? : ι → Option (Change ρ)) (log : List (ι × Reply))
    (exchange : ι × Reply) : eventsOf change? (log ++ [exchange]) =
      eventsOf change? log ++ (eventOf? change? exchange).toList := by
  rw [eventsOf, List.filterMap_append]
  rfl

end Change

section Memory

namespace Table

variable {τ α : Type} [RuleTime τ]

theorem step_takeIn (table : Table (Rule τ α)) (rule : Rule τ α) :
    table.Step ((Change.store rule).event?
        (((table.takeIn rule rule (MemoryStore.rulesOf table)).1.mapError .violation).map .stored))
      (table.takeIn rule rule (MemoryStore.rulesOf table)).2 := by
  unfold takeIn
  cases accepted : checkConflict rule (MemoryStore.rulesOf table) with
  | error violation => exact .unchanged
  | ok => exact .stored rule accepted

theorem step_delete (table : Table (Rule τ α)) (id : RuleId) (missing : ScheduleError) :
    table.Step ((Change.delete id).event? ((table.delete id missing).1.map fun _ => .done))
      (table.delete id missing).2 := by
  unfold delete
  cases present : table.contains id with
  | false => exact .unchanged
  | true => exact .deleted id present

end Table

theorem MemoryStore.serve_step (store : MemoryStore) (request : StoreRequest) :
    store.wake.Step (eventOf? StoreRequest.wakeChange? (request, (request.serve store).1))
        (request.serve store).2.wake ∧
      store.sleep.Step (eventOf? StoreRequest.sleepChange? (request, (request.serve store).1))
        (request.serve store).2.sleep := by
  cases request with
  | wakeRules | sleepRules | enabledWakeRules | enabledSleepRules | nextWake | tick | boot =>
      exact ⟨.unchanged, .unchanged⟩
  | insertWake rule => exact ⟨store.wake.step_takeIn rule, .unchanged⟩
  | insertSleep rule => exact ⟨.unchanged, store.sleep.step_takeIn rule⟩
  | addWake rule =>
      simp only [StoreRequest.serve, addWakeRule]
      cases checkWakeRule rule with
      | error violation => exact ⟨.unchanged, .unchanged⟩
      | ok => exact ⟨store.wake.step_takeIn rule, .unchanged⟩
  | addSleep rule =>
      simp only [StoreRequest.serve, addSleepRule]
      cases checkSleepRule rule with
      | error violation => exact ⟨.unchanged, .unchanged⟩
      | ok => exact ⟨.unchanged, store.sleep.step_takeIn rule⟩
  | delete kind id =>
      cases kind with
      | wake => exact ⟨store.wake.step_delete id (.ruleNotFound .wake id), .unchanged⟩
      | sleep => exact ⟨.unchanged, store.sleep.step_delete id (.ruleNotFound .sleep id)⟩

theorem MemoryStore.forall_rows_of_stored {holds : WakeRule → Prop} (store : MemoryStore)
    (requests : List StoreRequest) (before : ∀ entry ∈ store.wake.entries, holds entry.row)
    (stored : ∀ request ∈ requests, ∀ given, request.wakeChange? = some (.store given) →
      holds given) :
    ∀ entry ∈ (serveAll StoreRequest.serve store requests).2.wake.entries, holds entry.row := by
  induction requests generalizing store with
  | nil => exact before
  | cons request requests ih =>
      apply ih
      · refine (store.serve_step request).1.forall_rows before fun _ rule made => ?_
        exact stored request List.mem_cons_self rule (eventOf?_eq_stored made)
      · exact fun other later => stored other (List.mem_cons_of_mem _ later)

end Memory

end WakeSchedule
