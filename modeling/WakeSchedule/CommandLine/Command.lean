import WakeSchedule.Rule

namespace WakeSchedule

structure NewWakeRule where
  name : String
  time : String
  days : Mask
  mode : Option PowerMode
  command : Option String
  disabled : Bool
  deriving DecidableEq, Repr

structure NewSleepRule where
  name : String
  time : String
  days : Mask
  disabled : Bool
  deriving DecidableEq, Repr

structure SettingsChange where
  enabled : Option Bool
  commands : Option Bool
  localTime : Option Bool
  options : Option String
  defaultMode : Option PowerMode
  bootTime : Option UInt16
  shutdownOnFailure : Option Bool
  deriving DecidableEq, Repr

/-- A power mode can only be named together with a timestamp. -/
inductive WakeTarget
  | nextRule
  | timestamp (text : String) (mode : Option PowerMode)
  deriving DecidableEq, Repr

inductive Command
  | listRules (kind : Option RuleKind) (json : Bool)
  | addWakeRule (rule : NewWakeRule)
  | addSleepRule (rule : NewSleepRule)
  | deleteRule (kind : RuleKind) (id : RuleId)
  | schedule (target : WakeTarget) (dryRun : Bool)
  | tick (dryRun : Bool)
  | boot (dryRun : Bool)
  | showSettings (json : Bool)
  | changeSettings (change : SettingsChange)
  | reset (confirmed : Bool)
  deriving DecidableEq, Repr

end WakeSchedule
