import WakeSchedule.Console.Journal
import WakeSchedule.Proofs.Console.Calls
import WakeSchedule.Proofs.Console.Settings
/-! Failures. Every check of a step comes before its first change, so a step that fails leaves what
it began with, and a run comes to the same without those of its steps that fail. -/

namespace WakeSchedule

section Step

variable {σ τ ε δ β γ : Type}

/-- A step either succeeds or leaves the state that it began with. -/
def AllOrNothing (before : σ) (step : Except ε β × σ) : Prop :=
  ∀ failure, step.1 = .error failure → step.2 = before

namespace AllOrNothing

variable {before : σ} {step : Except ε β × σ}

theorem unchanged (before : σ) (answer : Except ε β) : AllOrNothing before (answer, before) :=
  fun _ _ => rfl

theorem done (value : β) (after : σ) :
    AllOrNothing before ((.ok value : Except ε β), after) := by
  intro failure failed
  cases failed

theorem of_isOk (whole : AllOrNothing before step) (failed : step.1.isOk = false) :
    step.2 = before := by
  rcases step with ⟨answer, after⟩
  cases answer with
  | error failure => exact whole failure rfl
  | ok value => cases failed

theorem answered (whole : AllOrNothing before step) {answer : Except δ γ}
    (same : answer.isOk = step.1.isOk) : AllOrNothing before (answer, step.2) := by
  intro failure failed
  change answer = .error failure at failed
  rw [failed] at same
  exact whole.of_isOk same.symm

theorem mapError (whole : AllOrNothing before step) (cause : ε → δ) :
    AllOrNothing before (step.1.mapError cause, step.2) :=
  whole.answered (isOk_mapError cause step.1)

theorem map (whole : AllOrNothing before step) (change : β → γ) :
    AllOrNothing before (step.1.map change, step.2) :=
  whole.answered (isOk_map change step.1)

theorem within (whole : AllOrNothing before step) (place : σ → τ) :
    AllOrNothing (place before) (step.1, place step.2) :=
  fun failure failed => congrArg place (whole failure failed)

end AllOrNothing

end Step

namespace Table

variable {ρ τ α ε : Type} [RuleTime τ]

theorem takeIn_allOrNothing (table : Table ρ) (row : ρ) (rule : Rule τ α)
    (present : List (Rule τ α)) : AllOrNothing table (table.takeIn row rule present) := by
  unfold takeIn
  cases checkConflict rule present with
  | error violation => exact .unchanged table _
  | ok => exact .done _ _

theorem delete_allOrNothing (table : Table ρ) (id : RuleId) (missing : ε) :
    AllOrNothing table (table.delete id missing) := by
  unfold delete
  cases table.contains id with
  | false => exact .unchanged table _
  | true => exact .done _ _

end Table

section Store

variable {σ : Type} [RuleStore σ]

/-- The steps that are meant to change the rules of a store do so, or fail and change nothing. -/
structure Atomic (σ : Type) [RuleStore σ] : Prop where
  insertWake : ∀ (rule : WakeRule) (store : σ),
    AllOrNothing store (RuleStore.insertWake rule store)
  insertSleep : ∀ (rule : SleepRule) (store : σ),
    AllOrNothing store (RuleStore.insertSleep rule store)
  delete : ∀ (kind : RuleKind) (id : RuleId) (store : σ),
    AllOrNothing store (RuleStore.delete kind id store)

namespace Atomic

variable (atomic : Atomic σ) (store : σ)

include atomic

theorem addWakeRule (rule : WakeRule) : AllOrNothing store (addWakeRule rule store) := by
  unfold WakeSchedule.addWakeRule
  cases checkWakeRule rule with
  | error violation => exact .unchanged store _
  | ok => exact atomic.insertWake rule store

theorem addSleepRule (rule : SleepRule) : AllOrNothing store (addSleepRule rule store) := by
  unfold WakeSchedule.addSleepRule
  cases checkSleepRule rule with
  | error violation => exact .unchanged store _
  | ok => exact atomic.insertSleep rule store

theorem serve (request : StoreRequest) : AllOrNothing store (request.serve store) := by
  cases request with
  | wakeRules | sleepRules | enabledWakeRules | enabledSleepRules | nextWake | tick | boot =>
      exact .unchanged store _
  | insertWake rule => exact (atomic.insertWake rule store).map _
  | insertSleep rule => exact (atomic.insertSleep rule store).map _
  | addWake rule => exact (atomic.addWakeRule store rule).map _
  | addSleep rule => exact (atomic.addSleepRule store rule).map _
  | delete kind id => exact (atomic.delete kind id store).map _

end Atomic

end Store

theorem MemoryStore.atomic : Atomic MemoryStore := by
  constructor
  · intro rule store
    exact ((store.wake.takeIn_allOrNothing rule rule _).mapError _).within
      fun table => { store with wake := table }
  · intro rule store
    exact ((store.sleep.takeIn_allOrNothing rule rule _).mapError _).within
      fun table => { store with sleep := table }
  · intro kind id store
    cases kind with
    | wake =>
        exact (store.wake.delete_allOrNothing id _).within fun table => { store with wake := table }
    | sleep =>
        exact (store.sleep.delete_allOrNothing id _).within
          fun table => { store with sleep := table }

namespace Database

theorem insertWake_allOrNothing (rule : WakeRule) (db : Database) :
    AllOrNothing db (db.insertWake rule) := by
  unfold insertWake
  cases db.enabledWakeRules with
  | error failure => exact .unchanged db _
  | ok present =>
      exact ((db.wake.takeIn_allOrNothing _ rule present).mapError _).within
        fun table => { db with wake := table }

theorem insertSleep_allOrNothing (rule : SleepRule) (db : Database) :
    AllOrNothing db (db.insertSleep rule) := by
  unfold insertSleep
  cases db.enabledSleepRules with
  | error failure => exact .unchanged db _
  | ok present =>
      exact ((db.sleep.takeIn_allOrNothing _ rule present).mapError _).within
        fun table => { db with sleep := table }

theorem delete_allOrNothing (kind : RuleKind) (id : RuleId) (db : Database) :
    AllOrNothing db (db.delete kind id) := by
  cases kind with
  | wake => exact (db.wake.delete_allOrNothing id _).within fun table => { db with wake := table }
  | sleep =>
      exact (db.sleep.delete_allOrNothing id _).within fun table => { db with sleep := table }

theorem atomic : Atomic Database where
  insertWake rule db := (db.insertWake_allOrNothing rule).mapError _
  insertSleep rule db := (db.insertSleep_allOrNothing rule).mapError _
  delete kind id db := (db.delete_allOrNothing kind id).mapError _

theorem changeSettings_allOrNothing (settings : Settings) (db : Database) :
    AllOrNothing db (db.changeSettings settings) := by
  cases check : settings.check with
  | error violation =>
      rw [db.changeSettings_of_invalid settings check]
      exact .unchanged db _
  | ok =>
      rw [db.changeSettings_of_valid settings check]
      exact .done _ _

end Database

theorem DatabaseRequest.serve_allOrNothing (request : DatabaseRequest) (db : Database) :
    AllOrNothing db (request.serve db) := by
  cases request with
  | rules request => exact Database.atomic.serve db request
  | changeSettings settings => exact ((db.changeSettings_allOrNothing settings).mapError _).map _
  | reset => exact .done _ _

namespace Console

variable {db : Database}

theorem answering_allOrNothing {ε β : Type} {step : Except ε β × Database}
    (whole : AllOrNothing db step) (cause : ε → CommandError) (lines : β → List String) :
    AllOrNothing db (answering cause lines step) :=
  (whole.mapError cause).map lines

variable (db)

theorem addWake_allOrNothing (new : NewWakeRule) : AllOrNothing db (addWake new db) := by
  unfold addWake
  cases new.rule db with
  | error failure => exact .unchanged db _
  | ok rule => exact answering_allOrNothing (Database.atomic.addWakeRule db rule) _ _

theorem addSleep_allOrNothing (new : NewSleepRule) : AllOrNothing db (addSleep new db) := by
  unfold addSleep
  cases new.rule with
  | error failure => exact .unchanged db _
  | ok rule => exact answering_allOrNothing (Database.atomic.addSleepRule db rule) _ _

theorem changeSettings_allOrNothing (change : SettingsChange) :
    AllOrNothing db (changeSettings change db) := by
  unfold changeSettings
  cases db.readSettings with
  | error failure => exact .unchanged db _
  | ok settings =>
      exact answering_allOrNothing (db.changeSettings_allOrNothing (change.apply settings)) _ _

theorem reset_allOrNothing (confirmed : Bool) : AllOrNothing db (reset confirmed db) := by
  cases confirmed with
  | false => exact .unchanged db _
  | true => exact .done _ _

end Console

theorem Outcome.ofStep_allOrNothing {db : Database}
    {step : Except CommandError (List String) × Database} (whole : AllOrNothing db step) :
    AllOrNothing db ((ofStep step).result, (ofStep step).db) := by
  rw [ofStep_db]
  exact whole.answered (ofStep_isOk step)

namespace Command

variable (command : Command) (clock : Clock) (runner : Runner) (db : Database)

theorem run_db_of_reading (reading : command.changes = false) :
    (command.run clock runner db).db = db := by
  cases command with
  | listRules kind json | showSettings json =>
      rw [run, Outcome.ofStep_db]
      rfl
  | schedule target dryRun | tick dryRun | boot dryRun => rw [run, Outcome.ofDeed_db]
  | addWakeRule | addSleepRule | deleteRule | changeSettings | reset => cases reading

theorem run_allOrNothing :
    AllOrNothing db ((command.run clock runner db).result, (command.run clock runner db).db) := by
  cases changes : command.changes with
  | false =>
      intro _ _
      exact command.run_db_of_reading clock runner db changes
  | true =>
      cases command with
      | addWakeRule new => exact Outcome.ofStep_allOrNothing (Console.addWake_allOrNothing db new)
      | addSleepRule new => exact Outcome.ofStep_allOrNothing (Console.addSleep_allOrNothing db new)
      | deleteRule kind id =>
          exact Outcome.ofStep_allOrNothing
            (Console.answering_allOrNothing (Database.atomic.delete kind id db) _ _)
      | changeSettings change =>
          exact Outcome.ofStep_allOrNothing (Console.changeSettings_allOrNothing db change)
      | reset confirmed =>
          exact Outcome.ofStep_allOrNothing (Console.reset_allOrNothing db confirmed)
      | listRules | schedule | tick | boot | showSettings => cases changes

end Command

/-- A step of a run that changed nothing can be left out, and the others are answered as before. -/
theorem serveAll_without {σ ι ο : Type} {serve : σ → ι → ο × σ} (succeeded : ο → Bool)
    (kept : ∀ state request, succeeded (serve state request).1 = false →
      (serve state request).2 = state) (state : σ) (requests : List ι) :
    serveAll serve state (((serveAll serve state requests).1.filter (succeeded ·.2)).map (·.1)) =
      ((serveAll serve state requests).1.filter (succeeded ·.2),
        (serveAll serve state requests).2) := by
  induction requests generalizing state with
  | nil => rfl
  | cons request requests ih =>
      cases went : succeeded (serve state request).1 with
      | false =>
          have same := ih state
          simp only [serveAll, List.filter_cons, went, kept state request went]
          exact same
      | true =>
          have same := ih (serve state request).2
          simp only [serveAll, List.filter_cons, went, if_true, List.map_cons, same]

theorem Action.perform_of_failed (db : Database) (action : Action)
    (failed : (action.perform db).1 = false) : (action.perform db).2 = db := by
  cases action with
  | serve request => exact (request.serve_allOrNothing db).of_isOk failed
  | run command clock runner => exact (command.run_allOrNothing clock runner db).of_isOk failed

/-- Whatever a store holds, a failure leaves no trace in its rules, its settings and the numbers it
will give, be it that of a command or of a request. Commands that list, schedule, tick or boot leave
none either, and a run answers and comes to the same without those of its steps that failed. -/
theorem failures_leave_no_trace :
    (∀ (command : Command) (clock : Clock) (runner : Runner) (db : Database),
      let outcome := command.run clock runner db
      (∀ failure, outcome.result = .error failure → outcome.db = db) ∧
        (command.changes = false → outcome.db = db)) ∧
    (∀ (request : DatabaseRequest) (db : Database), AllOrNothing db (request.serve db)) ∧
    (∀ (request : StoreRequest) (store : MemoryStore), AllOrNothing store (request.serve store)) ∧
    (∀ (actions : List Action) (db : Database),
      let done := serveAll Action.perform db actions
      let succeeded := done.1.filter (·.2)
      serveAll Action.perform db (succeeded.map (·.1)) = (succeeded, done.2)) ∧
    ∀ (requests : List StoreRequest) (store : MemoryStore),
      let done := serveAll StoreRequest.serve store requests
      let succeeded := done.1.filter (·.2.isOk)
      serveAll StoreRequest.serve store (succeeded.map (·.1)) = (succeeded, done.2) := by
  refine ⟨?_, ?_, ?_, ?_, ?_⟩
  · intro command clock runner db outcome
    exact ⟨command.run_allOrNothing clock runner db, command.run_db_of_reading clock runner db⟩
  · intro request db
    exact request.serve_allOrNothing db
  · intro request store
    exact MemoryStore.atomic.serve store request
  · intro actions db done succeeded
    exact serveAll_without id Action.perform_of_failed db actions
  · intro requests store done succeeded
    refine serveAll_without Except.isOk ?_ store requests
    intro now request failed
    exact (MemoryStore.atomic.serve now request).of_isOk failed

/-- A taken slot, an alarm that cannot be set, a reset without consent and a number never given. The
rule that is stored after these four failures gets the number it would have got before them. -/
theorem failures_leave_no_trace_on_monday :
    let taken : NewWakeRule := ⟨"again", "063000", .ofDays [.tuesday], some .mem, none, false⟩
    let free : NewWakeRule := ⟨"late", "073000", .ofDays [.tuesday], some .mem, none, false⟩
    let runner : Runner := fun _ => .error "not found"
    let last : Action := .run (.addWakeRule free) mondayNight runner
    let actions : List Action := [.run (.addWakeRule taken) mondayNight runner,
      .run (.tick false) mondayNight runner, .run (.reset false) mondayNight runner,
      .serve (.rules (.delete .wake 2)), last]
    let done := serveAll Action.perform mondayDatabase actions
    done.1.map (·.2) = [false, false, false, false, true] ∧ done.2.wake.ids = [1, 2] ∧
      serveAll Action.perform mondayDatabase [last] = ([(last, true)], done.2) := by
  intro taken free runner last actions done
  have answers : done.1.map (·.2) = [false, false, false, false, true] := by decide
  have log : done.1 = actions.zip [false, false, false, false, true] := List.zip_of_prod rfl answers
  have succeeded : done.1.filter (·.2) = [(last, true)] := by rw [log]; rfl
  have without := failures_leave_no_trace.2.2.2.1 actions mondayDatabase
  dsimp only at without
  rw [succeeded] at without
  exact ⟨answers, by decide, without⟩

end WakeSchedule
