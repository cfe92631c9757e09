import WakeSchedule.CommandLine.Command
import WakeSchedule.Decision
import WakeSchedule.Store.Database
/-! Deeds: what a scheduling command has decided to do to the machine, how a dry run announces it,
and how it is done through a runner of programs. -/

namespace WakeSchedule

inductive Call
  | command (text : String)
  | arm (invocation : Invocation)
  | powerOff
  deriving DecidableEq, Repr

/-- How a started program ended; without a code it was stopped from outside. Whether it succeeded is
not kept beside the code, since success is nothing but an end with status zero. -/
structure ExitReport where
  program : String
  code : Option Int
  deriving DecidableEq, Repr

def ExitReport.succeeded (report : ExitReport) : Bool := report.code = some 0

/-- A runner starts programs: it reports how one ended, or why it could not be started. -/
abbrev Runner := Call → Except String ExitReport

def Runner.start (runner : Runner) (call : Call) : StateM (List Call) (Except String ExitReport) := do
  modify (· ++ [call])
  return runner call

inductive CommandError
  | violation (cause : Violation)
  | schedule (cause : ScheduleError)
  | store (cause : StoreError)
  | notStarted (program reason : String)
  | failed (report : ExitReport)
  | unconfirmedReset
  deriving DecidableEq, Repr

def statusText : Option Int → String
  | some code => intText code
  | none => "unknown"

def CommandError.message : CommandError → String
  | .violation cause => cause.message
  | .schedule cause => cause.message
  | .store cause => cause.message
  | .notStarted program reason => s!"could not start {program}: {reason}"
  | .failed report => s!"{report.program} exited with status {statusText report.code}"
  | .unconfirmedReset => "refusing to reset without --yes"

inductive Deed
  | nothing
  | say (line : String)
  | runCommand (command : String)
  | arm (invocation : Invocation)
  | powerOff
  deriving DecidableEq, Repr

namespace Deed

def preCommandLine (invocation : Invocation) : List String :=
  (invocation.preCommand.map ("pre-command: " ++ ·)).toList

def announced : Deed → List String
  | nothing => []
  | say line => [line]
  | runCommand command => [command]
  | arm invocation => preCommandLine invocation ++ [invocation.commandLine]
  | powerOff => ["shutdown --poweroff now"]

def checkExit (program : String) : Except String ExitReport → Except CommandError Unit
  | .error reason => .error (.notStarted program reason)
  | .ok report => if report.succeeded then .ok () else .error (.failed report)

/-- Does a deed, starting one program after another. A rule's command may fail or not start at all;
arming the alarm and powering off must succeed. -/
def perform (runner : Runner) : Deed → StateM (List Call) (Except CommandError Unit)
  | nothing | say _ => return .ok ()
  | runCommand command => do
      let _ ← runner.start (.command command)
      return .ok ()
  | arm invocation => do
      if let some command := invocation.preCommand then
        let _ ← runner.start (.command command)
      return checkExit "rtcwake" (← runner.start (.arm invocation))
  | powerOff => return checkExit "shutdown" (← runner.start .powerOff)

/-- What is written even when the deed is done. -/
def told : Deed → List String
  | say line => [line]
  | nothing | runCommand _ | arm _ | powerOff => []

end Deed

def scheduledDeed : Except ScheduleError Invocation → Except CommandError Deed
  | .ok invocation => .ok (.arm invocation)
  | .error .nothingScheduled => .ok (.say "No wake rule scheduled")
  | .error cause => .error (.schedule cause)

def scheduleDeed (target : WakeTarget) (clock : Clock) (db : Database) :
    Except CommandError Deed := do
  let settings ← db.readSettings.mapError .store
  match target with
  | .nextRule => scheduledDeed (scheduleNextWake db clock settings)
  | .timestamp text mode =>
      let mode := mode.getD settings.defaultMode
      return .arm (← (Invocation.manual text mode settings.options).mapError .schedule)

/-- A tick with nothing to wake for later leaves the machine on without a word. -/
def tickedDeed : Except ScheduleError TickDecision → Except CommandError Deed
  | .ok .disabled | .ok .idle => .ok .nothing
  | .ok (.suspend _ invocation) => .ok (.arm invocation)
  | .ok (.powerOff _) => .ok .powerOff
  | .error .nothingScheduled => .ok .nothing
  | .error cause => .error (.schedule cause)

def tickDeed (clock : Clock) (db : Database) : Except CommandError Deed := do
  let settings ← db.readSettings.mapError .store
  tickedDeed (handleTick db clock settings)

def bootedDeed : BootDecision → Deed
  | .disabled | .idle => .nothing
  | .runCommand _ command => .runCommand command

def bootDeed (clock : Clock) (db : Database) : Except CommandError Deed := do
  let settings ← db.readSettings.mapError .store
  return bootedDeed (← (handleBoot db clock settings).mapError .schedule)

end WakeSchedule
