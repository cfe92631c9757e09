import Std.Time
import WakeSchedule.Console.Journal
/-! The program. Its database file is a journal; the programs that a command calls for are written
to standard output, one to a line, for a shell to start. -/

namespace WakeSchedule

def readClock (useLocalTime : Bool) : IO (Except Violation Clock) := do
  let now ← if useLocalTime then Std.Time.PlainDateTime.now
    else do
      let stamp ← Std.Time.Timestamp.now
      pure (Std.Time.DateTime.ofTimestamp stamp Std.Time.TimeZone.ZoneRules.UTC).toPlainDateTime
  let reading : Reading :=
    { year := now.year, month := now.month.toNat, day := now.day.toNat, hour := now.hour.toNat,
      minute := now.minute.toNat, second := now.second.toNat,
      nanoseconds := now.nanosecond.toNat }
  return reading.moment.map Clock.ofMoment

def readJournal (path : String) : IO (List String) := do
  let lines ← try IO.FS.lines path catch _ => pure #[]
  return lines.toList

def appendLine (path line : String) : IO Unit := do
  let handle ← IO.FS.Handle.mk path .append
  handle.putStrLn line

def runArguments (arguments : Arguments) : IO UInt32 := do
  let db := Database.replay (← readJournal arguments.database)
  let settings := (db.readSettings.toOption).getD defaultSettings
  match ← readClock settings.useLocalTime with
  | .error violation =>
      IO.eprintln violation.message
      return 1
  | .ok clock =>
      let outcome := arguments.command.run clock deferringRunner db
      IO.print outcome.output
      for call in outcome.calls do
        IO.println call.shellLine
      if let some line := arguments.command.journalLine? outcome then
        appendLine arguments.database line
      match outcome.result with
      | .ok () => return 0
      | .error failure =>
          IO.eprintln failure.message
          return 1

def usageText : String :=
  "commands: rules list|add-wake|add-sleep|delete, schedule, tick, boot, config show|set, reset"

end WakeSchedule

open WakeSchedule in
def main (words : List String) : IO UInt32 := do
  match parseArguments words with
  | .ok arguments => runArguments arguments
  | .error .helpWanted | .error .versionWanted =>
      IO.println usageText
      return 0
  | .error (.badValue fault) =>
      IO.eprintln fault.message
      return 2
  | .error _ =>
      IO.eprintln usageText
      return 2
