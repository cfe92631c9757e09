import WakeSchedule.Calendar.Moment
import WakeSchedule.Store.RuleStore

namespace WakeSchedule

structure Invocation where
  wakeAt : Moment
  mode : PowerMode
  command : Option String
  options : String
  deriving DecidableEq, Repr

namespace Invocation

def preCommand (invocation : Invocation) : Option String :=
  invocation.command.filter fun command => command.toList ≠ []

def withoutCommand (invocation : Invocation) : Invocation := { invocation with command := none }

def arguments (invocation : Invocation) : List String :=
  ["--date", invocation.wakeAt.timestamp] ++ words invocation.options
    ++ ["-m", invocation.mode.tag]

def commandLine (invocation : Invocation) : String :=
  "rtcwake " ++ String.intercalate " " invocation.arguments

def onDate (date : Date) (rule : WakeRule) (options : String) :
    Except ScheduleError Invocation := do
  let time ← rule.time.clockTime.mapError .violation
  return ⟨⟨date, time⟩, rule.action.mode, rule.action.command, options⟩

/-- What `onDate` comes to, as the time of a rule is always one of a clock. -/
def ofRule (date : Date) (rule : WakeRule) (options : String) : Invocation :=
  ⟨⟨date, rule.time⟩, rule.action.mode, rule.action.command, options⟩

def ofRuleAhead (daysAhead : Nat) (rule : WakeRule) (today : Date) (options : String) :
    Except ScheduleError Invocation := do
  let date ← (today.addDays daysAhead).mapError .violation
  onDate date rule options

def manual (timestamp : String) (mode : PowerMode) (options : String) :
    Except ScheduleError Invocation := do
  let wakeAt ← (Moment.parse (trim timestamp)).mapError .violation
  return ⟨wakeAt, mode, none, options⟩

end Invocation

end WakeSchedule
