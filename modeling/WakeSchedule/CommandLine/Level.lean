import WakeSchedule.CommandLine.Field

namespace WakeSchedule

inductive Verb
  | listRules
  | addWakeRule
  | addSleepRule
  | deleteRule
  | schedule
  | tick
  | boot
  | showSettings
  | changeSettings
  | reset
  deriving DecidableEq, Repr

def Verb.fields : Verb → List Field
  | listRules => [.kind, .json]
  | addWakeRule => [.name, .time, .days, .mode, .command, .disabled]
  | addSleepRule => [.name, .time, .days, .disabled]
  | deleteRule => [.kind, .id]
  | schedule => [.wakeAt, .mode, .dryRun]
  | tick | boot => [.dryRun]
  | showSettings => [.json]
  | changeSettings => [.enabled, .commands, .localTime, .options, .defaultMode, .bootTime,
      .shutdownOnFailure]
  | reset => [.yes]

inductive Level
  | top
  | rules
  | settings
  | verb (leaf : Verb)
  deriving DecidableEq, Repr

inductive Request
  | help
  | version
  | louder
  | quieter
  | field (field : Field)
  deriving DecidableEq, Repr

namespace Level

def fields : Level → List Field
  | top => [.database]
  | rules | settings => []
  | verb leaf => leaf.fields

def children : Level → List (List String × Level)
  | top => [(["rules"], .rules), (["schedule", "s"], .verb .schedule), (["tick", "t"], .verb .tick),
      (["boot", "wake-tick"], .verb .boot), (["config"], .settings), (["reset"], .verb .reset)]
  | rules => [(["list", "ls"], .verb .listRules), (["add-wake"], .verb .addWakeRule),
      (["add-sleep"], .verb .addSleepRule), (["delete", "rm"], .verb .deleteRule)]
  | settings => [(["show"], .verb .showSettings), (["set"], .verb .changeSettings)]
  | verb _ => []

def isVerb (level : Level) : Bool := level.children.isEmpty

def child? (level : Level) (word : String) : Option Level :=
  (level.children.find? fun child => child.1.contains word).map (·.2)

def asksHelp (level : Level) (word : String) : Bool := !level.isVerb && word = "help"

/-- Help can be asked for any chain of words that leads to a level; the word for help itself leads
nowhere further. -/
def helpOn : Level → List String → UsageError
  | _, [] => .helpWanted
  | level, word :: words =>
      if level.asksHelp word then if words.isEmpty then .helpWanted else .unknownCommand
      else match level.child? word with
        | some child => helpOn child words
        | none => .unknownCommand

def long? (level : Level) (label : String) : Option Request :=
  if label = "help" then some .help
  else if label = "version" then if level = top then some .version else none
  else if label = "verbose" then some .louder
  else if label = "quiet" then some .quieter
  else (level.fields.find? (·.label = label)).map .field

def short? (level : Level) (letter : Char) : Option Request :=
  if letter = 'h' then some .help
  else if letter = 'V' then if level = top then some .version else none
  else if letter = 'v' then some .louder
  else if letter = 'q' then some .quieter
  else if letter = 'd' then if level = top then some (.field .database) else none
  else none

def stray (level : Level) : UsageError := if level.isVerb then .unknownArgument else .unknownCommand

/-- After a lone pair of dashes no word is a command any more. -/
def strayAfterDashes (level : Level) (word : String) : UsageError :=
  if level.asksHelp word || (level.child? word).isSome then .unknownArgument else level.stray

end Level

end WakeSchedule
