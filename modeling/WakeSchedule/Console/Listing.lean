import WakeSchedule.Json.Record

namespace WakeSchedule

def padLeft (width : Nat) (text : String) : String :=
  .ofList (List.replicate (width - text.length) ' ') ++ text

def padRight (width : Nat) (text : String) : String :=
  text ++ .ofList (List.replicate (width - text.length) ' ')

def idText {τ α : Type} (rule : Rule τ α) : String := (rule.id.map intText).getD "-"

def yesNo (value : Bool) : String := if value then "yes" else "no"

def columns (cells : List String) : String := String.intercalate "  " cells

def wakeLine (id name time days mode enabled command : String) : String :=
  columns [padLeft 4 id, padRight 32 name, padRight 6 time, padRight 7 days, padRight 7 mode,
    padRight 3 enabled, command]

def sleepLine (id name time days enabled : String) : String :=
  columns [padLeft 4 id, padRight 32 name, padRight 6 time, padRight 7 days, padRight 3 enabled]

def wakeRuleLine (rule : WakeRule) : String :=
  wakeLine (idText rule) rule.name rule.time.digits (Mask.digits rule.days) rule.action.mode.tag
    (yesNo rule.enabled) (rule.action.command.getD "-")

def sleepRuleLine (rule : SleepRule) : String :=
  sleepLine (idText rule) rule.name rule.time.digits (Mask.digits rule.days) (yesNo rule.enabled)

def wakeTable (rules : List WakeRule) : List String :=
  "Wake rules:" :: wakeLine "ID" "NAME" "TIME" "DAYS" "MODE" "ON" "COMMAND"
    :: rules.map wakeRuleLine

def sleepTable (rules : List SleepRule) : List String :=
  "Sleep rules:" :: sleepLine "ID" "NAME" "TIME" "DAYS" "ON" :: rules.map sleepRuleLine

structure Listing where
  wake : Option (List WakeRule)
  sleep : Option (List SleepRule)
  deriving DecidableEq, Repr

def Listing.table (listing : Listing) : List String :=
  ((listing.wake.map wakeTable).getD []) ++ ((listing.sleep.map sleepTable).getD [])

def Listing.toJson (listing : Listing) : Json :=
  .object
    ((listing.wake.map fun rules => ("wake", Json.list (rules.map WakeRule.toJson))).toList
      ++ (listing.sleep.map fun rules => ("sleep", Json.list (rules.map SleepRule.toJson))).toList)

def Listing.lines (listing : Listing) (json : Bool) : List String :=
  if json then [listing.toJson.pretty] else listing.table

def trueFalse (value : Bool) : String := if value then "true" else "false"

def Settings.table (settings : Settings) : List String :=
  ["enabled:          " ++ trueFalse settings.enabled,
    "commands_enabled: " ++ trueFalse settings.commandsEnabled,
    "use_localtime:    " ++ trueFalse settings.useLocalTime,
    "rtcwake_options:  " ++ settings.options,
    "default_mode:     " ++ settings.defaultMode.tag,
    "boot_time:        " ++ settings.bootTime.toNat.repr ++ "s",
    "shutdown_on_fail: " ++ trueFalse settings.shutdownOnFailure]

def Settings.lines (settings : Settings) (json : Bool) : List String :=
  if json then [settings.toJson.pretty] else settings.table

end WakeSchedule
