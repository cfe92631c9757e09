import WakeSchedule.Json.Value
import WakeSchedule.Settings
import WakeSchedule.Rule
/-! How rules, settings and their parts are written as JSON values and read back. Keys that are not
known are passed over; nothing is trimmed. The members of an object are taken to have keys of their
own; where a key stood twice, its first member would be read. -/

namespace WakeSchedule

namespace Json

def bool? : Json → Option Bool
  | bool value => some value
  | _ => none

def text? : Json → Option String
  | text value => some value
  | _ => none

def intIn? (low high : Int) : Json → Option Int
  | int value => if low ≤ value ∧ value ≤ high then some value else none
  | _ => none

def list? : Json → Option (List Json)
  | list items => some items
  | _ => none

/-- The members of a record. A list with one item for each key stands for a record as well, with the
items in the order of the keys. -/
def record? (keys : List String) : Json → Option (List (String × Json))
  | object members => some members
  | list items => if items.length = keys.length then some (keys.zip items) else none
  | _ => none

/-- A tag is a text, or the only key of an object that holds null. -/
def tag? : Json → Option String
  | text tag => some tag
  | object [(tag, null)] => some tag
  | _ => none

def required {α : Type} (members : List (String × Json)) (key : String)
    (read? : Json → Option α) : Option α :=
  (members.lookup key).bind read?

/-- The member of a key, where a missing one and null stand for nothing. -/
def optional {α : Type} (members : List (String × Json)) (key : String)
    (read? : Json → Option α) : Option (Option α) :=
  match members.lookup key with
  | none | some null => some none
  | some value => (read? value).map some

def ofOption {α : Type} (write : α → Json) : Option α → Json
  | none => null
  | some value => write value

end Json

open Json

def Weekday.toJson (day : Weekday) : Json := .text day.tag

def Weekday.ofJson? (value : Json) : Option Weekday :=
  value.tag?.bind fun tag => Weekday.all.find? fun day => day.tag = tag

def PowerMode.toJson (mode : PowerMode) : Json := .text mode.tag

def PowerMode.ofJson? (value : Json) : Option PowerMode := value.tag?.bind PowerMode.ofTag?

def RuleKind.toJson (kind : RuleKind) : Json := .text kind.tag

def RuleKind.ofJson? (value : Json) : Option RuleKind := value.tag?.bind RuleKind.ofTag?

def TimeOfDay.toJson (time : TimeOfDay) : Json := .text time.digits

def TimeOfDay.ofJson? (value : Json) : Option TimeOfDay :=
  value.text?.bind fun text => (TimeOfDay.parse text).toOption

def SleepTime.toJson (time : SleepTime) : Json := .text time.digits

def SleepTime.ofJson? (value : Json) : Option SleepTime :=
  value.text?.bind fun text => (SleepTime.parse text).toOption

def Mask.toJson (mask : Mask) : Json := .object [("days", .list (mask.toList.map .bool))]

def Mask.keys : List String := ["days"]

def Mask.ofJson? (value : Json) : Option Mask := do
  let days ← required (← value.record? keys) "days" list?
  Week.ofList? (← days.mapM bool?)

def RuleId.ofJson? : Json → Option RuleId := intIn? (-0x8000000000000000) 0x7fffffffffffffff

def WakeRule.toJson (rule : WakeRule) : Json :=
  .object [("rule_id", ofOption .int rule.id), ("name", .text rule.name),
    ("time", rule.time.toJson), ("weekdays", rule.days.toJson),
    ("command", ofOption .text rule.action.command), ("mode", rule.action.mode.toJson),
    ("enabled", .bool rule.enabled)]

def WakeRule.keys : List String :=
  ["rule_id", "name", "time", "weekdays", "command", "mode", "enabled"]

def WakeRule.ofJson? (value : Json) : Option WakeRule := do
  let members ← value.record? keys
  let id ← optional members "rule_id" RuleId.ofJson?
  let name ← required members "name" text?
  let time ← required members "time" TimeOfDay.ofJson?
  let days ← required members "weekdays" Mask.ofJson?
  let command ← optional members "command" text?
  let mode ← required members "mode" PowerMode.ofJson?
  let enabled ← required members "enabled" bool?
  return ⟨id, name, time, days, ⟨command, mode⟩, enabled⟩

def SleepRule.toJson (rule : SleepRule) : Json :=
  .object [("rule_id", ofOption .int rule.id), ("name", .text rule.name),
    ("time", rule.time.toJson), ("weekdays", rule.days.toJson), ("enabled", .bool rule.enabled)]

def SleepRule.keys : List String := ["rule_id", "name", "time", "weekdays", "enabled"]

def SleepRule.ofJson? (value : Json) : Option SleepRule := do
  let members ← value.record? keys
  let id ← optional members "rule_id" RuleId.ofJson?
  let name ← required members "name" text?
  let time ← required members "time" SleepTime.ofJson?
  let days ← required members "weekdays" Mask.ofJson?
  let enabled ← required members "enabled" bool?
  return ⟨id, name, time, days, (), enabled⟩

def bootTimeOfJson? (value : Json) : Option UInt16 :=
  (intIn? 0 65535 value).map fun seconds => .ofNat seconds.toNat

def Settings.toJson (settings : Settings) : Json :=
  .object [("enabled", .bool settings.enabled),
    ("commands_enabled", .bool settings.commandsEnabled),
    ("use_localtime", .bool settings.useLocalTime), ("rtcwake_options", .text settings.options),
    ("default_mode", settings.defaultMode.toJson),
    ("boot_time_seconds", .int settings.bootTime.toNat),
    ("shutdown_on_failure", .bool settings.shutdownOnFailure)]

def Settings.keys : List String :=
  ["enabled", "commands_enabled", "use_localtime", "rtcwake_options", "default_mode",
    "boot_time_seconds", "shutdown_on_failure"]

def Settings.ofJson? (value : Json) : Option Settings := do
  let members ← value.record? keys
  return { enabled := ← required members "enabled" bool?
           commandsEnabled := ← required members "commands_enabled" bool?
           useLocalTime := ← required members "use_localtime" bool?
           options := ← required members "rtcwake_options" text?
           defaultMode := ← required members "default_mode" PowerMode.ofJson?
           bootTime := ← required members "boot_time_seconds" bootTimeOfJson?
           shutdownOnFailure := ← required members "shutdown_on_failure" bool? }

end WakeSchedule
