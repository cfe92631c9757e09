import WakeSchedule.Violation

namespace WakeSchedule

inductive PowerMode
  | off
  | disk
  | mem
  | standby
  | freeze
  | no
  | on
  | disable
  | showAlarm
  deriving DecidableEq, Repr

namespace PowerMode

def all : List PowerMode := [off, disk, mem, standby, freeze, no, on, disable, showAlarm]

def tag : PowerMode → String
  | off => "off"
  | disk => "disk"
  | mem => "mem"
  | standby => "standby"
  | freeze => "freeze"
  | no => "no"
  | on => "on"
  | disable => "disable"
  | showAlarm => "show"

instance : Inhabited PowerMode := ⟨off⟩

def ofTag? (text : String) : Option PowerMode := all.find? fun mode => mode.tag = text

def parse (text : String) : Except Violation PowerMode :=
  match ofTag? (lowered (trim text)) with
  | some mode => .ok mode
  | none => .error (.powerMode text)

theorem parse_tag (mode : PowerMode) : parse mode.tag = .ok mode := by
  cases mode <;> rfl

end PowerMode

inductive RuleKind
  | wake
  | sleep
  deriving DecidableEq, Repr

namespace RuleKind

def tag : RuleKind → String
  | wake => "wake"
  | sleep => "sleep"

def ofTag? (text : String) : Option RuleKind := [wake, sleep].find? fun kind => kind.tag = text

def names : RuleKind → List String
  | wake => ["wake", "on", "turnon"]
  | sleep => ["sleep", "off", "turnoff"]

def parse (text : String) : Except Violation RuleKind :=
  match [wake, sleep].find? fun kind => kind.names.contains (lowered (trim text)) with
  | some kind => .ok kind
  | none => .error (.ruleKind text)

theorem parse_tag (kind : RuleKind) : parse kind.tag = .ok kind := by
  cases kind <;> rfl

end RuleKind

structure Settings where
  enabled : Bool
  commandsEnabled : Bool
  useLocalTime : Bool
  options : String
  defaultMode : PowerMode
  bootTime : UInt16
  shutdownOnFailure : Bool
  deriving DecidableEq, Repr

def defaultSettings : Settings :=
  { enabled := true, commandsEnabled := false, useLocalTime := true, options := "-a",
    defaultMode := .off, bootTime := 300, shutdownOnFailure := false }

/-- Flags that every alarm order sets itself. -/
def reservedFlags : List String := ["--date", "-m", "--mode", "-t"]

def flagOf (word : String) : String := .ofList (cutAt '=' word.toList).1

def checkOptions (options : String) : Except Violation Unit :=
  match ((words options).map flagOf).find? reservedFlags.contains with
  | some flag => .error (.reservedFlag flag)
  | none => .ok ()

def maxBootTime : Nat := 3600

def checkBootTime (seconds : UInt16) : Except Violation Unit :=
  if maxBootTime < seconds.toNat then .error (.bootTime (.tooLong seconds.toNat)) else .ok ()

def Settings.check (settings : Settings) : Except Violation Unit := do
  checkOptions settings.options
  checkBootTime settings.bootTime

end WakeSchedule
