import WakeSchedule.CommandLine.Command

namespace WakeSchedule

inductive ValueFault
  | violation (cause : Violation)
  | number (fault : NumberFault)
  | outOfBounds (value : Int)
  | notBoolean
  deriving DecidableEq, Repr

def ValueFault.message : ValueFault → String
  | .violation cause => cause.message
  | .number fault => fault.message
  | .outOfBounds value => s!"{intText value} is not in 0..=65535"
  | .notBoolean => "value was not a boolean"

inductive UsageError
  | helpWanted
  | versionWanted
  | nothingGiven
  | missingCommand
  | unknownCommand
  | unknownArgument
  | missingArgument
  | conflict
  | missingValue
  | unwantedValue
  | badValue (fault : ValueFault)
  deriving DecidableEq, Repr

inductive Shape
  | switch
  | text
  | path
  | kind
  | mode
  | mask
  | number
  | seconds
  | boolean
  deriving DecidableEq, Repr

namespace Shape

@[reducible] def Value : Shape → Type
  | switch => Unit
  | text | path => String
  | kind => RuleKind
  | mode => PowerMode
  | mask => Mask
  | number => RuleId
  | seconds => UInt16
  | boolean => Bool

def trueWords : List String := ["y", "yes", "t", "true", "on", "1"]

def falseWords : List String := ["n", "no", "f", "false", "off", "0"]

def readBoolean (text : String) : Except UsageError Bool :=
  if trueWords.contains (lowered text) then .ok true
  else if falseWords.contains (lowered text) then .ok false
  else .error (.badValue .notBoolean)

def readNumber (text : String) : Except UsageError Int :=
  (readInt64 text).mapError fun fault => .badValue (.number fault)

def readSeconds (text : String) : Except UsageError UInt16 := do
  let number ← readNumber text
  if 0 ≤ number ∧ number < 65536 then return .ofNat number.toNat
  else .error (.badValue (.outOfBounds number))

def refuse {α : Type} (result : Except Violation α) : Except UsageError α :=
  result.mapError fun cause => .badValue (.violation cause)

def read : (shape : Shape) → String → Except UsageError shape.Value
  | switch, _ => .error .unwantedValue
  | text, value => .ok value
  | path, value => if value.toList = [] then .error .missingValue else .ok value
  | kind, value => refuse (RuleKind.parse value)
  | mode, value => refuse (PowerMode.parse value)
  | mask, value => refuse (Mask.parse value)
  | number, value => readNumber value
  | seconds, value => readSeconds value
  | boolean, value => readBoolean value

def mark? : (shape : Shape) → Option shape.Value
  | switch => some ()
  | text | path | kind | mode | mask | number | seconds | boolean => none

def write? : (shape : Shape) → shape.Value → Option String
  | switch, _ => none
  | text, value | path, value => some value
  | kind, value => some value.tag
  | mode, value => some value.tag
  | mask, value => some (Mask.digits value)
  | number, value => some (intText value)
  | seconds, value => some value.toNat.repr
  | boolean, value => some (if value then "true" else "false")

end Shape

inductive Field
  | database
  | kind
  | json
  | name
  | time
  | days
  | mode
  | command
  | disabled
  | id
  | wakeAt
  | dryRun
  | yes
  | enabled
  | commands
  | localTime
  | options
  | defaultMode
  | bootTime
  | shutdownOnFailure
  deriving DecidableEq, Repr

namespace Field

def label : Field → String
  | database => "database"
  | kind => "kind"
  | json => "json"
  | name => "name"
  | time => "time"
  | days => "days"
  | mode => "mode"
  | command => "command"
  | disabled => "disabled"
  | id => "id"
  | wakeAt => "at"
  | dryRun => "dry-run"
  | yes => "yes"
  | enabled => "enabled"
  | commands => "commands"
  | localTime => "localtime"
  | options => "options"
  | defaultMode => "default-mode"
  | bootTime => "boot-time"
  | shutdownOnFailure => "shutdown-on-failure"

@[reducible] def shape : Field → Shape
  | database => .path
  | kind => .kind
  | json | disabled | dryRun | yes => .switch
  | name | time | command | wakeAt | options => .text
  | days => .mask
  | mode | defaultMode => .mode
  | id => .number
  | enabled | commands | localTime | shutdownOnFailure => .boolean
  | bootTime => .seconds

/-- Whether the word after the option is its value even if it looks like an option. -/
def takesAnyWord (field : Field) : Bool := field = options

end Field

structure Given where
  field : Field
  value : field.shape.Value

namespace Given

def has (given : List Given) (field : Field) : Bool := given.any (·.field = field)

def find? : List Given → (field : Field) → Option field.shape.Value
  | [], _ => none
  | first :: rest, field =>
      if same : first.field = field then some (same ▸ first.value) else find? rest field

end Given

end WakeSchedule
