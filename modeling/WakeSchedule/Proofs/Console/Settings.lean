import WakeSchedule.Proofs.Arguments
import WakeSchedule.Proofs.Console.Occasion
import WakeSchedule.Proofs.Store.Settings

namespace WakeSchedule

def Command.settingsChange? : Command → Option (Settings → Settings)
  | .changeSettings change => some change.apply
  | .reset _ => some fun _ => defaultSettings
  | _ => none

theorem Command.run_settings {command : Command} (other : command.settingsChange? = none)
    (clock : Clock) (runner : Runner) (db : Database) :
    (command.run clock runner db).db.settings = db.settings := by
  cases command with
  | listRules kind json | showSettings json =>
      rw [run, Outcome.ofStep_db]
      rfl
  | addWakeRule new =>
      rw [run, Outcome.ofStep_db, Console.addWake]
      split
      · rfl
      · simp only [Console.answering, Database.addWakeRule_settings]
  | addSleepRule new =>
      rw [run, Outcome.ofStep_db, Console.addSleep]
      split
      · rfl
      · simp only [Console.answering, Database.addSleepRule_settings]
  | deleteRule kind id =>
      rw [run, Outcome.ofStep_db, Console.deleteRule, Console.answering]
      exact db.delete_settings kind id
  | schedule target dryRun | tick dryRun | boot dryRun => rw [run, Outcome.ofDeed_db]
  | changeSettings change | reset confirmed => cases other

/-- What is done to a database. -/
inductive Action
  | serve (request : DatabaseRequest)
  | run (command : Command) (clock : Clock) (runner : Runner)

namespace Action

def perform (db : Database) : Action → Bool × Database
  | serve request => ((request.serve db).1.isOk, (request.serve db).2)
  | run command clock runner =>
      ((command.run clock runner db).result.isOk, (command.run clock runner db).db)

def settingsChange? : Action → Option (Settings → Settings)
  | serve request => request.settingsChange?
  | run command _ _ => command.settingsChange?

theorem perform_settings {action : Action} (other : action.settingsChange? = none)
    (db : Database) : (action.perform db).2.settings = db.settings := by
  cases action with
  | serve request => exact DatabaseRequest.serve_settings other db
  | run command clock runner => exact Command.run_settings other clock runner db

def settle (current : Settings) (action : Action) (succeeded : Bool) : Settings :=
  match action.settingsChange? with
  | some change => if succeeded then change current else current
  | none => current

theorem serve_changeSettings (settings : Settings) (db : Database) :
    (serve (.changeSettings settings)).perform db =
      ((db.changeSettings settings).1.isOk, (db.changeSettings settings).2) := by
  simp only [perform, DatabaseRequest.serve, replying, failingAs, isOk_map, isOk_mapError]

theorem run_changeSettings {db : Database} {current : Settings}
    (read : db.readSettings = .ok current) (change : SettingsChange) (clock : Clock)
    (runner : Runner) : (run (.changeSettings change) clock runner).perform db =
      ((db.changeSettings (change.apply current)).1.isOk,
        (db.changeSettings (change.apply current)).2) := by
  simp only [perform, Command.run, Outcome.ofStep_isOk, Outcome.ofStep_db, Console.changeSettings,
    read, Console.answering, isOk_map, isOk_mapError]

end Action

/-- The settings that the last successful change in a run has written, or else the defaults. -/
def settingsAfter (log : List (Action × Bool)) : Settings :=
  log.foldl (fun current entry => entry.1.settle current entry.2) defaultSettings

theorem settingsAfter_append_entry (log : List (Action × Bool)) (entry : Action × Bool) :
    settingsAfter (log ++ [entry]) = entry.1.settle (settingsAfter log) entry.2 := by
  rw [settingsAfter, List.foldl_append]
  rfl

structure Database.Settled (db : Database) (settings : Settings) : Prop where
  stored : db.settings = some (.ofSettings settings)
  valid : settings.check = .ok ()

namespace Database.Settled

variable {db : Database} {current : Settings}

theorem fresh : ({} : Database).Settled defaultSettings := ⟨rfl, defaultSettings_check⟩

theorem read (settled : db.Settled current) : db.readSettings = .ok current := by
  rw [readSettings, settled.stored]
  change (SettingsRow.ofSettings current).toSettings.mapError _ = _
  rw [SettingsRow.toSettings_ofSettings]
  rfl

theorem changed (settled : db.Settled current) (settings : Settings) :
    (db.changeSettings settings).2.Settled
      (if (db.changeSettings settings).1.isOk then settings else current) := by
  cases check : settings.check with
  | error violation =>
      rw [db.changeSettings_of_invalid settings check]
      exact settled
  | ok =>
      rw [db.changeSettings_of_valid settings check]
      exact ⟨rfl, check⟩

theorem perform (settled : db.Settled current) (action : Action) :
    (action.perform db).2.Settled (action.settle current (action.perform db).1) := by
  cases change : action.settingsChange? with
  | none =>
      rw [Action.settle, change]
      exact ⟨(Action.perform_settings change db).trans settled.stored, settled.valid⟩
  | some means =>
      cases action with
      | serve request =>
          cases request with
          | rules request => cases change
          | changeSettings settings =>
              rw [Action.serve_changeSettings]
              exact settled.changed settings
          | reset => exact ⟨rfl, defaultSettings_check⟩
      | run command clock runner =>
          cases command with
          | changeSettings asked =>
              rw [Action.run_changeSettings settled.read]
              exact settled.changed (asked.apply current)
          | reset confirmed =>
              cases confirmed with
              | false => exact settled
              | true => exact ⟨rfl, defaultSettings_check⟩
          | _ => cases change

end Database.Settled

theorem Database.run_settled (actions : List Action) :
    (serveAll Action.perform ({} : Database) actions).2.Settled
      (settingsAfter (serveAll Action.perform ({} : Database) actions).1) := by
  refine serveAll_invariant (fun log (db : Database) => db.Settled (settingsAfter log)) .fresh ?_
    actions
  intro log db action settled
  rw [settingsAfter_append_entry]
  exact settled.perform action

/-- The alarm orders that are built with the settings, over any store and at any time. -/
inductive Ordered (settings : Settings) : Invocation → Prop
  | next {σ : Type} [RuleStore σ] (store : σ) (clock : Clock) (order : Invocation)
      (scheduled : scheduleNextWake store clock settings = .ok order) : Ordered settings order
  | tick {σ : Type} [RuleStore σ] (store : σ) (clock : Clock) (rule : SleepRule)
      (order : Invocation) (decided : handleTick store clock settings = .ok (.suspend rule order)) :
      Ordered settings order
  | manual (text : String) (mode : PowerMode) (order : Invocation)
      (made : Invocation.manual text mode settings.options = .ok order) : Ordered settings order

theorem Ordered.options_eq {settings : Settings} {order : Invocation}
    (ordered : Ordered settings order) : order.options = settings.options := by
  cases ordered with
  | next store clock order scheduled => exact options_of_scheduled scheduled
  | tick store clock rule order decided =>
      exact options_of_scheduled (handleTick_eq_suspend decided).2
  | manual text mode order made => exact (Invocation.manual_eq_ok made).1

theorem Ordered.flagsOnce {settings : Settings} {order : Invocation}
    (ordered : Ordered settings order) (valid : settings.check = .ok ()) :
    FlagsOnce order.arguments := by
  apply Invocation.flagsOnce
  rw [ordered.options_eq]
  exact ((Settings.check_eq_ok_iff settings).mp valid).1

/-- After any run on a fresh database its settings read as they were last written, they pass their
check, and no alarm order that is built with them names its date or its mode twice. Only a change of
settings ever moves them. Such a change succeeds exactly where the settings pass their check, so the
bounds of the table stop none of these, and a change that fails leaves the database as it is. -/
theorem settings_stay_valid :
    (∀ actions : List Action,
      let done := serveAll Action.perform ({} : Database) actions
      done.2.readSettings = .ok (settingsAfter done.1) ∧ (settingsAfter done.1).check = .ok () ∧
        ∀ order, Ordered (settingsAfter done.1) order → FlagsOnce order.arguments) ∧
    (∀ (action : Action) (db : Database), action.settingsChange? = none →
      (action.perform db).2.settings = db.settings) ∧
    ∀ (settings : Settings) (db : Database),
      ((db.changeSettings settings).1 = .ok () ↔ settings.check = .ok ()) ∧
        (settings.check = .ok () → (SettingsRow.ofSettings settings).admitted = true) ∧
        ∀ failure, (db.changeSettings settings).1 = .error failure →
          (db.changeSettings settings).2 = db := by
  refine ⟨?_, ?_, ?_⟩
  · intro actions done
    have settled : done.2.Settled (settingsAfter done.1) := Database.run_settled actions
    refine ⟨settled.read, settled.valid, ?_⟩
    intro order ordered
    exact ordered.flagsOnce settled.valid
  · intro action db other
    exact Action.perform_settings other db
  · intro settings db
    refine ⟨db.changeSettings_eq_ok_iff settings, SettingsRow.admitted_ofSettings, ?_⟩
    intro failure failed
    cases check : settings.check with
    | error violation => rw [db.changeSettings_of_invalid settings check]
    | ok =>
        rw [db.changeSettings_of_valid settings check] at failed
        cases failed

theorem settings_stay_valid_on_a_run :
    let chosen : Settings := { defaultSettings with options := "--rtc=rtc1 -v", bootTime := 3600 }
    let reserved : Settings := { defaultSettings with options := "--mode=mem" }
    let asked : SettingsChange := ⟨none, none, none, some "-a -t", none, none, none⟩
    let clock : Clock := .ofMoment ⟨⟨2026, 1, 5, by decide⟩, ⟨23, 2, 0⟩⟩
    let actions : List Action := [.serve (.changeSettings chosen),
      .serve (.rules (.addWake (wakeRule "early" ⟨6, 30, 0⟩ (.ofDays [.tuesday]) none .mem))),
      .serve (.changeSettings reserved),
      .run (.changeSettings asked) clock fun _ => .error "not found"]
    let done := serveAll Action.perform ({} : Database) actions
    let order : Invocation :=
      ⟨⟨⟨2026, 1, 6, by decide⟩, ⟨6, 30, 0⟩⟩, .mem, none, "--rtc=rtc1 -v"⟩
    done.1.map (·.2) = [true, true, false, false] ∧ done.2.readSettings = .ok chosen ∧
      scheduleNextWake done.2 clock chosen = .ok order ∧
      order.arguments = ["--date", "20260106063000", "--rtc=rtc1", "-v", "-m", "mem"] ∧
      FlagsOnce order.arguments := by
  intro chosen reserved asked clock actions done order
  have run : done.1.map (·.2) = [true, true, false, false] := by decide
  have last : settingsAfter done.1 = chosen := by decide
  rcases settings_stay_valid.1 actions with ⟨read, _, orders⟩
  have scheduled : scheduleNextWake done.2 clock chosen = .ok order := by decide
  have ordered : Ordered (settingsAfter done.1) order := by
    rw [last]
    exact .next done.2 clock order scheduled
  refine ⟨run, ?_, scheduled, by decide, orders order ordered⟩
  rw [read, last]

end WakeSchedule
