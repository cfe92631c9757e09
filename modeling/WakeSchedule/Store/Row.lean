import WakeSchedule.Settings
import WakeSchedule.Store.RuleStore

namespace WakeSchedule

def flag (value : Bool) : Int := if value then 1 else 0

/-- Any flag but zero is set. -/
def isSet (flag : Int) : Bool := flag ≠ 0

structure WakeRow where
  name : String
  time : String
  days : Week Int
  command : Option String
  mode : String
  enabled : Int
  deriving DecidableEq, Repr

structure SleepRow where
  name : String
  time : String
  days : Week Int
  enabled : Int
  deriving DecidableEq, Repr

structure SettingsRow where
  enabled : Int
  commandsEnabled : Int
  useLocalTime : Int
  options : String
  defaultMode : String
  bootTime : Int
  shutdownOnFailure : Int
  deriving DecidableEq, Repr

def WakeRow.ofRule (rule : WakeRule) : WakeRow :=
  { name := rule.name, time := rule.time.digits, days := rule.days.map flag,
    command := rule.action.command, mode := rule.action.mode.tag, enabled := flag rule.enabled }

def WakeRow.toRule (id : RuleId) (row : WakeRow) : Except Violation WakeRule := do
  let time ← TimeOfDay.parse row.time
  let mode ← PowerMode.parse row.mode
  let rule := wakeRule row.name time (row.days.map isSet) row.command mode
  return (rule.withId id).withEnabled (isSet row.enabled)

def SleepRow.ofRule (rule : SleepRule) : SleepRow :=
  { name := rule.name, time := rule.time.digits, days := rule.days.map flag,
    enabled := flag rule.enabled }

def SleepRow.toRule (id : RuleId) (row : SleepRow) : Except Violation SleepRule := do
  let time ← SleepTime.parse row.time
  let rule := sleepRule row.name time (row.days.map isSet)
  return (rule.withId id).withEnabled (isSet row.enabled)

def SettingsRow.ofSettings (settings : Settings) : SettingsRow :=
  { enabled := flag settings.enabled, commandsEnabled := flag settings.commandsEnabled,
    useLocalTime := flag settings.useLocalTime, options := settings.options,
    defaultMode := settings.defaultMode.tag, bootTime := settings.bootTime.toNat,
    shutdownOnFailure := flag settings.shutdownOnFailure }

def SettingsRow.admitted (row : SettingsRow) : Bool := 0 ≤ row.bootTime && row.bootTime ≤ 3600

/-- A boot time is any number of sixteen bits; its limit is not looked at again. -/
def readBootTime (seconds : Int) : Except RowFault UInt16 :=
  if 0 ≤ seconds ∧ seconds < 65536 then .ok (.ofNat seconds.toNat) else .error (.bootTime seconds)

def SettingsRow.toSettings (row : SettingsRow) : Except RowFault Settings := do
  let defaultMode ← (PowerMode.parse row.defaultMode).mapError .defaultMode
  let bootTime ← readBootTime row.bootTime
  return { enabled := isSet row.enabled, commandsEnabled := isSet row.commandsEnabled,
           useLocalTime := isSet row.useLocalTime, options := row.options, defaultMode, bootTime,
           shutdownOnFailure := isSet row.shutdownOnFailure }

end WakeSchedule
