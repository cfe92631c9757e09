import WakeSchedule.CommandLine.Parse

namespace WakeSchedule

def Verb.words : Verb → List String
  | listRules => ["rules", "list"]
  | addWakeRule => ["rules", "add-wake"]
  | addSleepRule => ["rules", "add-sleep"]
  | deleteRule => ["rules", "delete"]
  | schedule => ["schedule"]
  | tick => ["tick"]
  | boot => ["boot"]
  | showSettings => ["config", "show"]
  | changeSettings => ["config", "set"]
  | reset => ["reset"]

def Given.word (given : Given) : String :=
  "--" ++ given.field.label ++
    match given.field.shape.write? given.value with
    | none => ""
    | some text => "=" ++ text

namespace Command

def verb : Command → Verb
  | listRules .. => .listRules
  | addWakeRule _ => .addWakeRule
  | addSleepRule _ => .addSleepRule
  | deleteRule .. => .deleteRule
  | schedule .. => .schedule
  | tick _ => .tick
  | boot _ => .boot
  | showSettings _ => .showSettings
  | changeSettings _ => .changeSettings
  | reset _ => .reset

def valued (field : Field) (value : Option field.shape.Value) : List Given :=
  (value.map (⟨field, ·⟩)).toList

def marked (field : Field) (on : Bool) : List Given :=
  if on then (field.shape.mark?.map (⟨field, ·⟩)).toList else []

def options : Command → List Given
  | listRules kind json => valued .kind kind ++ marked .json json
  | addWakeRule rule => valued .name (some rule.name) ++ valued .time (some rule.time)
      ++ valued .days (some rule.days) ++ valued .mode rule.mode ++ valued .command rule.command
      ++ marked .disabled rule.disabled
  | addSleepRule rule => valued .name (some rule.name) ++ valued .time (some rule.time)
      ++ valued .days (some rule.days) ++ marked .disabled rule.disabled
  | deleteRule kind id => valued .kind (some kind) ++ valued .id (some id)
  | schedule .nextRule dryRun => marked .dryRun dryRun
  | schedule (.timestamp text mode) dryRun =>
      valued .wakeAt (some text) ++ valued .mode mode ++ marked .dryRun dryRun
  | tick dryRun => marked .dryRun dryRun
  | boot dryRun => marked .dryRun dryRun
  | showSettings json => marked .json json
  | changeSettings change => valued .enabled change.enabled ++ valued .commands change.commands
      ++ valued .localTime change.localTime ++ valued .options change.options
      ++ valued .defaultMode change.defaultMode ++ valued .bootTime change.bootTime
      ++ valued .shutdownOnFailure change.shutdownOnFailure
  | reset confirmed => marked .yes confirmed

def words (command : Command) : List String :=
  command.verb.words ++ command.options.map Given.word

end Command

end WakeSchedule
