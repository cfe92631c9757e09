import WakeSchedule.Console.Deed
import WakeSchedule.Console.Listing

namespace WakeSchedule

/-- All that a command leaves behind. Each text written ends with a line break of its own. -/
structure Outcome where
  result : Except CommandError Unit
  db : Database
  written : List String
  calls : List Call

namespace Outcome

def output (outcome : Outcome) : String := String.join (outcome.written.map (· ++ "\n"))

def ofStep (step : Except CommandError (List String) × Database) : Outcome :=
  match step.1 with
  | .ok lines => ⟨.ok (), step.2, lines, []⟩
  | .error failure => ⟨.error failure, step.2, [], []⟩

def ofDeed (dryRun : Bool) (runner : Runner) (db : Database) :
    Except CommandError Deed → Outcome
  | .error failure => ⟨.error failure, db, [], []⟩
  | .ok deed =>
      if dryRun then ⟨.ok (), db, deed.announced, []⟩
      else
        let done := (deed.perform runner).run []
        ⟨done.1, db, deed.told, done.2⟩

end Outcome

def listing (kind : Option RuleKind) (db : Database) : Except CommandError Listing := do
  let wake ← if kind = some .sleep then pure none
    else some <$> (RuleStore.wakeRules db).mapError .schedule
  let sleep ← if kind = some .wake then pure none
    else some <$> (RuleStore.sleepRules db).mapError .schedule
  return { wake, sleep }

def NewWakeRule.rule (new : NewWakeRule) (db : Database) : Except CommandError WakeRule := do
  let mode ← match new.mode with
    | some mode => pure mode
    | none => (·.defaultMode) <$> db.readSettings.mapError .store
  let time ← (TimeOfDay.parse new.time).mapError .violation
  return (wakeRule new.name time new.days new.command mode).withEnabled !new.disabled

def NewSleepRule.rule (new : NewSleepRule) : Except CommandError SleepRule := do
  let time ← (SleepTime.parse new.time).mapError .violation
  return (sleepRule new.name time new.days).withEnabled !new.disabled

def SettingsChange.apply (change : SettingsChange) (settings : Settings) : Settings :=
  { enabled := change.enabled.getD settings.enabled
    commandsEnabled := change.commands.getD settings.commandsEnabled
    useLocalTime := change.localTime.getD settings.useLocalTime
    options := (change.options.map trim).getD settings.options
    defaultMode := change.defaultMode.getD settings.defaultMode
    bootTime := change.bootTime.getD settings.bootTime
    shutdownOnFailure := change.shutdownOnFailure.getD settings.shutdownOnFailure }

namespace Console

def unchanged {β : Type} (db : Database) (answer : Except CommandError β) :
    Except CommandError β × Database :=
  (answer, db)

def answering {ε β : Type} (cause : ε → CommandError) (lines : β → List String)
    (step : Except ε β × Database) : Except CommandError (List String) × Database :=
  ((step.1.mapError cause).map lines, step.2)

def listRules (kind : Option RuleKind) (json : Bool) (db : Database) :
    Except CommandError (List String) × Database :=
  unchanged db ((listing kind db).map (·.lines json))

def added (kind : RuleKind) (id : RuleId) : List String := [s!"Added {kind.tag} rule {intText id}"]

def addWake (new : NewWakeRule) (db : Database) :
    Except CommandError (List String) × Database :=
  match new.rule db with
  | .error failure => (.error failure, db)
  | .ok rule => answering .schedule (added .wake) (addWakeRule rule db)

def addSleep (new : NewSleepRule) (db : Database) :
    Except CommandError (List String) × Database :=
  match new.rule with
  | .error failure => (.error failure, db)
  | .ok rule => answering .schedule (added .sleep) (addSleepRule rule db)

def deleteRule (kind : RuleKind) (id : RuleId) (db : Database) :
    Except CommandError (List String) × Database :=
  answering .schedule (fun _ => [s!"Deleted {kind.tag} rule {intText id}"])
    (RuleStore.delete kind id db)

def showSettings (json : Bool) (db : Database) :
    Except CommandError (List String) × Database :=
  unchanged db ((db.readSettings.mapError .store).map (·.lines json))

/-- The settings are read, changed and written back in two steps. -/
def changeSettings (change : SettingsChange) (db : Database) :
    Except CommandError (List String) × Database :=
  match db.readSettings with
  | .error failure => (.error (.store failure), db)
  | .ok settings =>
      answering .store (fun _ => (change.apply settings).lines false)
        (db.changeSettings (change.apply settings))

def reset (confirmed : Bool) (db : Database) : Except CommandError (List String) × Database :=
  if confirmed then (.ok ["Database reset"], db.reset) else (.error .unconfirmedReset, db)

end Console

def Command.run (command : Command) (clock : Clock) (runner : Runner) (db : Database) : Outcome :=
  match command with
  | .listRules kind json => .ofStep (Console.listRules kind json db)
  | .addWakeRule new => .ofStep (Console.addWake new db)
  | .addSleepRule new => .ofStep (Console.addSleep new db)
  | .deleteRule kind id => .ofStep (Console.deleteRule kind id db)
  | .schedule target dryRun => .ofDeed dryRun runner db (scheduleDeed target clock db)
  | .tick dryRun => .ofDeed dryRun runner db (tickDeed clock db)
  | .boot dryRun => .ofDeed dryRun runner db (bootDeed clock db)
  | .showSettings json => .ofStep (Console.showSettings json db)
  | .changeSettings change => .ofStep (Console.changeSettings change db)
  | .reset confirmed => .ofStep (Console.reset confirmed db)

end WakeSchedule
