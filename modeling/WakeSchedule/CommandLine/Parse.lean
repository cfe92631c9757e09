import WakeSchedule.CommandLine.Level
/-! Reading the command line, from left to right and level by level. The value of an option that
stands in a word of its own is looked at when the next option begins or the words end. -/

namespace WakeSchedule

inductive Token
  | dashes
  | long (label : String) (value : Option String)
  | short (letters : List Char)
  | plain
  deriving DecidableEq, Repr

def Token.ofWord (word : String) : Token :=
  match word.toList with
  | ['-', '-'] => .dashes
  | '-' :: '-' :: rest => .long (.ofList (cutAt '=' rest).1) ((cutAt '=' rest).2.map .ofList)
  | ['-'] => .plain
  | '-' :: letters => .short letters
  | _ => .plain

structure Progress where
  given : List Given := []
  louder : Nat := 0
  quieter : Nat := 0
  /-- An option whose value is still to be looked at, or still to come. -/
  pending : Option (Field × Option String) := none
  wordsOnly : Bool := false

namespace Progress

def record (progress : Progress) (field : Field) (value : Except UsageError field.shape.Value) :
    Except UsageError Progress :=
  if Given.has progress.given field then .error .conflict
  else return { progress with given := progress.given ++ [⟨field, ← value⟩] }

def settle (progress : Progress) : Except UsageError Progress :=
  match progress.pending with
  | none => .ok progress
  | some (_, none) => .error .missingValue
  | some (field, some text) =>
      { progress with pending := none }.record field (field.shape.read text)

def takeField (progress : Progress) (field : Field) (attached : Option String) :
    Except UsageError Progress :=
  match field.shape.mark?, attached with
  | some _, some _ => .error .unwantedValue
  | some mark, none => do (← progress.settle).record field (.ok mark)
  | none, some text => do (← progress.settle).record field (field.shape.read text)
  | none, none => return { ← progress.settle with pending := some (field, none) }

def take (progress : Progress) (request : Request) (attached : Option String) :
    Except UsageError Progress :=
  match request, attached with
  | .field field, attached => progress.takeField field attached
  | _, some _ => .error .unwantedValue
  | .help, none => do let _ ← progress.settle; .error .helpWanted
  | .version, none => do let _ ← progress.settle; .error .versionWanted
  | .louder, none => do
      let progress ← progress.settle
      return { progress with louder := progress.louder + 1 }
  | .quieter, none => do
      let progress ← progress.settle
      return { progress with quieter := progress.quieter + 1 }

/-- The letters after an option that takes a value are that value, after an equals sign if any. -/
def attachedLetters : List Char → Option String
  | [] => none
  | '=' :: value => some (.ofList value)
  | value => some (.ofList value)

def takeLetters (level : Level) (progress : Progress) : List Char → Except UsageError Progress
  | [] => .ok progress
  | letter :: letters =>
      match level.short? letter with
      | none => .error .unknownArgument
      | some (.field field) => progress.takeField field (attachedLetters letters)
      | some request => do takeLetters level (← progress.take request none) letters

def takeToken (level : Level) (progress : Progress) : Token → Except UsageError Progress
  | .dashes => .ok { progress with wordsOnly := true }
  | .long label value =>
      match level.long? label with
      | none => .error .unknownArgument
      | some request => progress.take request value
  | .short letters => progress.takeLetters level letters
  | .plain => .error level.stray

def awaiting? (progress : Progress) : Option Field :=
  match progress.pending with
  | some (field, none) => some field
  | _ => none

def takeValue? (progress : Progress) (word : String) : Option Progress :=
  match progress.awaiting? with
  | some field =>
      if field.takesAnyWord || Token.ofWord word = .plain then
        some { progress with pending := some (field, some word) }
      else none
  | none => none

end Progress

/-- What is known once the command has been read: how loud and how quiet to be is taken from the
innermost level that says so. -/
structure Gathered where
  command : Command
  database : Option String
  louder : Option Nat
  quieter : Option Nat
  deriving DecidableEq, Repr

def counted (count : Nat) : Option Nat := if count = 0 then none else some count

open Given in
def Verb.command (verb : Verb) (given : List Given) : Except UsageError Command :=
  match verb with
  | .listRules => .ok (.listRules (find? given .kind) (has given .json))
  | .addWakeRule =>
      match find? given .name, find? given .time, find? given .days with
      | some name, some time, some days => .ok (.addWakeRule
          { name, time, days, mode := find? given .mode, command := find? given .command,
            disabled := has given .disabled })
      | _, _, _ => .error .missingArgument
  | .addSleepRule =>
      match find? given .name, find? given .time, find? given .days with
      | some name, some time, some days => .ok (.addSleepRule
          { name, time, days, disabled := has given .disabled })
      | _, _, _ => .error .missingArgument
  | .deleteRule =>
      match find? given .kind, find? given .id with
      | some kind, some id => .ok (.deleteRule kind id)
      | _, _ => .error .missingArgument
  | .schedule =>
      match find? given .wakeAt, find? given .mode with
      | some text, mode => .ok (.schedule (.timestamp text mode) (has given .dryRun))
      | none, some _ => .error .missingArgument
      | none, none => .ok (.schedule .nextRule (has given .dryRun))
  | .tick => .ok (.tick (has given .dryRun))
  | .boot => .ok (.boot (has given .dryRun))
  | .showSettings => .ok (.showSettings (has given .json))
  | .changeSettings => .ok (.changeSettings
      { enabled := find? given .enabled, commands := find? given .commands,
        localTime := find? given .localTime, options := find? given .options,
        defaultMode := find? given .defaultMode, bootTime := find? given .bootTime,
        shutdownOnFailure := find? given .shutdownOnFailure })
  | .reset => .ok (.reset (has given .yes))

namespace Progress

def agreed (progress : Progress) : Except UsageError Progress :=
  if 0 < progress.louder ∧ 0 < progress.quieter then .error .conflict else .ok progress

def isBare (progress : Progress) : Bool :=
  progress.given.isEmpty && progress.louder = 0 && progress.quieter = 0

def close (level : Level) (progress : Progress) : Except UsageError Gathered := do
  let progress ← progress.settle
  match level with
  | .verb verb =>
      let progress ← progress.agreed
      return { command := ← verb.command progress.given, database := none,
               louder := counted progress.louder, quieter := counted progress.quieter }
  | _ => .error (if progress.isBare then .nothingGiven else .missingCommand)

def closeOver (progress : Progress) (inner : Gathered) : Except UsageError Gathered := do
  let progress ← (← progress.settle).agreed
  return { inner with
    database := inner.database <|> Given.find? progress.given .database
    louder := inner.louder <|> counted progress.louder
    quieter := inner.quieter <|> counted progress.quieter }

end Progress

def readLevel (level : Level) (progress : Progress) : List String → Except UsageError Gathered
  | [] => progress.close level
  | word :: rest =>
      if progress.wordsOnly then .error (level.strayAfterDashes word)
      else match progress.takeValue? word with
        | some progress => readLevel level progress rest
        | none =>
            if progress.awaiting?.isNone && level.asksHelp word then .error (level.helpOn rest)
            else match if progress.awaiting?.isNone then level.child? word else none with
              | some child => do progress.closeOver (← readLevel child {} rest)
              | none => do readLevel level (← progress.takeToken level (.ofWord word)) rest

inductive LogLevel
  | off
  | error
  | warn
  | info
  | debug
  | trace
  deriving DecidableEq, Repr

namespace LogLevel

def tag : LogLevel → String
  | off => "off"
  | error => "error"
  | warn => "warn"
  | info => "info"
  | debug => "debug"
  | trace => "trace"

/-- Counting starts at the level for information, stops at either end of the scale, and sees no more
than 255 requests of a kind. -/
def ofCounts (louder quieter : Nat) : LogLevel :=
  match (3 + min louder 255 - min quieter 255 : Nat) with
  | 0 => off
  | 1 => error
  | 2 => warn
  | 3 => info
  | 4 => debug
  | _ => trace

end LogLevel

structure Arguments where
  database : String
  logLevel : LogLevel
  command : Command
  deriving DecidableEq, Repr

def defaultDatabase : String := "/var/lib/gawake/gawake.db"

/-- Reads the words of a command line. A database named by the environment (`GAWAKE_DATABASE`) is
not looked at, so without a word for it the default one is taken. -/
def parseArguments (words : List String) : Except UsageError Arguments := do
  let gathered ← readLevel .top {} words
  return { database := gathered.database.getD defaultDatabase
           logLevel := .ofCounts (gathered.louder.getD 0) (gathered.quieter.getD 0)
           command := gathered.command }

end WakeSchedule
