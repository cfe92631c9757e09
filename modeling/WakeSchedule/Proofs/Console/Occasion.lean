import WakeSchedule.Proofs.Agenda
import WakeSchedule.Proofs.Console.Deed
import WakeSchedule.Proofs.Store.Row
/-! The occasions on which something may be done to the machine, and all that can be decided on each
of them. Every command for anything else is a step on the database. -/

namespace WakeSchedule

inductive Occasion
  | schedule (target : WakeTarget)
  | tick
  | boot
  deriving DecidableEq, Repr

namespace Occasion

def command : Occasion → Bool → Command
  | schedule target, dryRun => .schedule target dryRun
  | tick, dryRun => .tick dryRun
  | boot, dryRun => .boot dryRun

def deed (clock : Clock) (db : Database) : Occasion → Except CommandError Deed
  | schedule target => scheduleDeed target clock db
  | tick => tickDeed clock db
  | boot => bootDeed clock db

theorem run_command (occasion : Occasion) (dryRun : Bool) (clock : Clock) (runner : Runner)
    (db : Database) : (occasion.command dryRun).run clock runner db =
      .ofDeed dryRun runner db (occasion.deed clock db) := by
  cases occasion <;> rfl

end Occasion

theorem Command.occasion_or_step (command : Command) :
    (∃ occasion dryRun, command = Occasion.command occasion dryRun) ∨
      ∃ step : Database → Except CommandError (List String) × Database,
        ∀ clock runner db, command.run clock runner db = .ofStep (step db) := by
  cases command with
  | schedule target dryRun => exact Or.inl ⟨.schedule target, dryRun, rfl⟩
  | tick dryRun => exact Or.inl ⟨.tick, dryRun, rfl⟩
  | boot dryRun => exact Or.inl ⟨.boot, dryRun, rfl⟩
  | listRules kind json => exact Or.inr ⟨Console.listRules kind json, fun _ _ _ => rfl⟩
  | addWakeRule new => exact Or.inr ⟨Console.addWake new, fun _ _ _ => rfl⟩
  | addSleepRule new => exact Or.inr ⟨Console.addSleep new, fun _ _ _ => rfl⟩
  | deleteRule kind id => exact Or.inr ⟨Console.deleteRule kind id, fun _ _ _ => rfl⟩
  | showSettings json => exact Or.inr ⟨Console.showSettings json, fun _ _ _ => rfl⟩
  | changeSettings change => exact Or.inr ⟨Console.changeSettings change, fun _ _ _ => rfl⟩
  | reset confirmed => exact Or.inr ⟨Console.reset confirmed, fun _ _ _ => rfl⟩

theorem Command.silent_or_done (command : Command) (clock : Clock) (runner : Runner)
    (db : Database) : (command.run clock runner db).calls = [] ∨
      ∃ occasion deed, command = Occasion.command occasion false ∧
        occasion.deed clock db = .ok deed ∧ command.run clock runner db =
          ⟨deed.result runner, db, deed.told, deed.calls⟩ := by
  rcases command.occasion_or_step with ⟨occasion, dryRun, rfl⟩ | ⟨step, run⟩
  · rw [occasion.run_command]
    cases decides : occasion.deed clock db with
    | error failure => exact Or.inl rfl
    | ok deed =>
        cases dryRun with
        | true => exact Or.inl rfl
        | false => exact Or.inr ⟨occasion, deed, rfl, decides, Outcome.ofDeed_done runner db deed⟩
  · left
    rw [run]
    exact Outcome.ofStep_calls (step db)

/-- A database never boots for an empty command, whatever its rows are. -/
theorem Database.boot_ne_empty (db : Database) (clock : Clock) (settings : Settings)
    (rule : WakeRule) : handleBoot db clock settings ≠ .ok (.runCommand rule "") := by
  intro ran
  obtain ⟨_, empty, rules, listed, found⟩ := handleBoot_eq_runCommand ran
  have read : db.enabledWakeRules = .ok rules := mapError_eq_ok.mp listed
  have chosen := List.mem_filter.mp (mem_of_earliest? found)
  exact readEntries_command_ne_empty read rule chosen.1 empty

/-- What may be decided on an occasion under the settings. -/
inductive Decided (db : Database) (clock : Clock) (settings : Settings) : Occasion → Deed → Prop
  | next (order : Invocation) (scheduled : scheduleNextWake db clock settings = .ok order) :
      Decided db clock settings (.schedule .nextRule) (.arm order)
  | noNext (line : String)
      (nothing : scheduleNextWake db clock settings = .error .nothingScheduled) :
      Decided db clock settings (.schedule .nextRule) (.say line)
  | manual (text : String) (mode : Option PowerMode) (order : Invocation)
      (bare : order.command = none) :
      Decided db clock settings (.schedule (.timestamp text mode)) (.arm order)
  | stayOn : Decided db clock settings .tick .nothing
  | suspend (order : Invocation) (on : settings.enabled = true)
      (scheduled : scheduleNextWake db clock settings = .ok order) :
      Decided db clock settings .tick (.arm order)
  | powerOff (on : settings.enabled = true) (asked : settings.shutdownOnFailure = true)
      (nothing : scheduleNextWake db clock settings = .error .nothingScheduled) :
      Decided db clock settings .tick .powerOff
  | noCommand : Decided db clock settings .boot .nothing
  | runCommand (text : String) (something : text ≠ "") (on : settings.enabled = true)
      (commands : settings.commandsEnabled = true) :
      Decided db clock settings .boot (.runCommand text)

section Decide

variable {db : Database} {clock : Clock} {settings : Settings} {deed : Deed}

theorem scheduledDeed_decided
    (decides : scheduledDeed (scheduleNextWake db clock settings) = .ok deed) :
    Decided db clock settings (.schedule .nextRule) deed := by
  cases outcome : scheduleNextWake db clock settings with
  | ok order =>
      rw [outcome] at decides
      cases decides
      exact .next order outcome
  | error failure =>
      rw [outcome] at decides
      cases failure with
      | nothingScheduled =>
          cases decides
          exact .noNext _ outcome
      | violation | ruleNotFound | store => cases decides

theorem tickedDeed_decided (decides : tickedDeed (handleTick db clock settings) = .ok deed) :
    Decided db clock settings .tick deed := by
  cases outcome : handleTick db clock settings with
  | ok decision =>
      rw [outcome] at decides
      cases decision with
      | disabled | idle =>
          cases decides
          exact .stayOn
      | suspend rule order =>
          cases decides
          have held := handleTick_eq_suspend outcome
          exact .suspend order held.1 held.2
      | powerOff rule =>
          cases decides
          rcases handleTick_eq_powerOff outcome with ⟨on, nothing, asked⟩
          exact .powerOff on asked nothing
  | error failure =>
      rw [outcome] at decides
      cases failure with
      | nothingScheduled =>
          cases decides
          exact .stayOn
      | violation | ruleNotFound | store => cases decides

theorem bootedDeed_decided {decision : BootDecision}
    (decided : handleBoot db clock settings = .ok decision) :
    Decided db clock settings .boot (bootedDeed decision) := by
  cases decision with
  | disabled | idle => exact .noCommand
  | runCommand rule text =>
      have on := (handleBoot_eq_runCommand decided).1
      have something : text ≠ "" := by
        intro empty
        rw [empty] at decided
        exact db.boot_ne_empty clock settings rule decided
      exact .runCommand text something on.1 on.2

theorem Occasion.decided {occasion : Occasion} (read : db.readSettings = .ok settings)
    (decides : occasion.deed clock db = .ok deed) :
    Decided db clock settings occasion deed := by
  have known : db.readSettings.mapError CommandError.store = .ok settings := by rw [read]; rfl
  cases occasion with
  | schedule target =>
      obtain ⟨current, same, decides⟩ := bind_eq_ok.mp decides
      cases known.symm.trans same
      cases target with
      | nextRule => exact scheduledDeed_decided decides
      | timestamp text mode =>
          obtain ⟨order, made, decides⟩ := bind_eq_ok.mp decides
          cases decides
          exact .manual text mode order (Invocation.manual_eq_ok (mapError_eq_ok.mp made)).2
  | tick =>
      obtain ⟨current, same, decides⟩ := bind_eq_ok.mp decides
      cases known.symm.trans same
      exact tickedDeed_decided decides
  | boot =>
      obtain ⟨current, same, decides⟩ := bind_eq_ok.mp decides
      cases known.symm.trans same
      obtain ⟨decision, decided, decides⟩ := bind_eq_ok.mp decides
      cases decides
      exact bootedDeed_decided (mapError_eq_ok.mp decided)

theorem Occasion.deed_of_scheduled {order : Invocation} (read : db.readSettings = .ok settings)
    (scheduled : scheduleNextWake db clock settings = .ok order) :
    (Occasion.schedule .nextRule).deed clock db = .ok (.arm order) := by
  rw [deed, scheduleDeed, read]
  change scheduledDeed (scheduleNextWake db clock settings) = _
  rw [scheduled]
  rfl

end Decide

end WakeSchedule
