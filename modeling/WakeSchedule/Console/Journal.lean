import WakeSchedule.CommandLine.Write
import WakeSchedule.Console.Run
/-! The journal of a database: one line for each command that changed it. Running the commands again
in order gives the database back. -/

namespace WakeSchedule

namespace Journal

def escape : Char → List Char
  | '\\' => ['\\', '\\']
  | '\t' => ['\\', 't']
  | '\n' => ['\\', 'n']
  | '\r' => ['\\', 'r']
  | c => [c]

def unescape : List Char → List Char
  | '\\' :: 't' :: rest => '\t' :: unescape rest
  | '\\' :: 'n' :: rest => '\n' :: unescape rest
  | '\\' :: 'r' :: rest => '\r' :: unescape rest
  | '\\' :: c :: rest => c :: unescape rest
  | c :: rest => c :: unescape rest
  | [] => []

def line (words : List String) : String :=
  String.intercalate "\t" (words.map fun word => .ofList (word.toList.flatMap escape))

def words (line : String) : List String :=
  (piecesBy (· = '\t') line.toList).map fun piece => .ofList (unescape piece)

end Journal

/-- Whether a command that succeeds may leave another database. -/
def Command.changes : Command → Bool
  | addWakeRule _ | addSleepRule _ | deleteRule .. | changeSettings _ | reset _ => true
  | listRules .. | schedule .. | tick _ | boot _ | showSettings _ => false

def Command.journalLine? (command : Command) (outcome : Outcome) : Option String :=
  match outcome.result with
  | .ok () => if command.changes then some (Journal.line command.words) else none
  | .error _ => none

def idleClock : Clock := .ofMoment ⟨⟨1, 1, 1, by decide⟩, ⟨0, 0, 0⟩⟩

def idleRunner : Runner := fun _ => .error "nothing is started"

/-- Runs the command of a journal line. It asks no clock and starts no program, so idle ones do. -/
def Database.replayLine (db : Database) (line : String) : Database :=
  match parseArguments (Journal.words line) with
  | .ok arguments => (arguments.command.run idleClock idleRunner db).db
  | .error _ => db

def Database.replay (lines : List String) : Database := lines.foldl Database.replayLine {}

def Call.shellLine : Call → String
  | command text => text
  | arm invocation => invocation.commandLine
  | powerOff => "shutdown --poweroff now"

/-- A runner that leaves starting programs to someone else and expects them to succeed. -/
def deferringRunner : Runner := fun call => .ok ⟨call.shellLine, some 0⟩

end WakeSchedule
