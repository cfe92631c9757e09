import WakeSchedule.Calendar.Date

namespace WakeSchedule

inductive TimeField
  | hour
  | minutes
  | seconds
  deriving DecidableEq, Repr

def TimeField.label : TimeField → String
  | .hour => "hour"
  | .minutes => "minutes"
  | .seconds => "seconds"

def TimeField.last : TimeField → Nat
  | .hour => 23
  | .minutes => 59
  | .seconds => 59

inductive TimeFault
  | notDigits (text : String) (width : Nat)
  | outOfRange (digits : String) (field : TimeField) (value : Nat)
  | offGrid (digits : String) (minute : Nat)
  deriving DecidableEq, Repr

def TimeFault.message : TimeFault → String
  | .notDigits text width => s!"'{text}' must be exactly {width.repr} digits"
  | .outOfRange digits field value =>
      s!"'{digits}': {field.label} must be between 00 and {padNat 2 field.last}, " ++
        s!"got {padNat 2 value}"
  | .offGrid digits minute =>
      s!"'{digits}': minutes must be 00, 15, 30 or 45, got {padNat 2 minute}"

inductive MaskFault
  | empty
  | digitCount (text : String)
  | badDigit (text : String) (digit : Char)
  /-- A digit stands at a place that no day of the week has. -/
  | noDay (place : Nat)
  | unknownDay (text : String)
  deriving DecidableEq, Repr

def MaskFault.message : MaskFault → String
  | .empty => "Weekday mask cannot be empty"
  | .digitCount text => s!"'{text}' must have exactly 7 digits, Sunday to Saturday"
  | .badDigit text digit => s!"'{text}' contains '{digit.toString}'; use only 0 and 1"
  | .noDay place => s!"index out of bounds: the len is 7 but the index is {place.repr}"
  | .unknownDay text => s!"'{text}' is not a weekday"

inductive NameFault
  | blank
  | tooLong (length : Nat)
  deriving DecidableEq, Repr

def NameFault.message : NameFault → String
  | .blank => "Name cannot be empty"
  | .tooLong length => s!"Name must be at most 32 characters, got {length.repr}"

inductive BootTimeFault
  | tooLong (seconds : Nat)
  | described (reason : String)
  deriving DecidableEq, Repr

def BootTimeFault.message : BootTimeFault → String
  | .tooLong seconds => s!"must be at most 3600 seconds, got {seconds.repr}"
  | .described reason => reason

inductive MomentField
  | year
  | month
  | day
  | hour
  | minute
  | second
  deriving DecidableEq, Repr

def MomentField.label : MomentField → String
  | .year => "year"
  | .month => "month"
  | .day => "day"
  | .hour => "hour"
  | .minute => "minute"
  | .second => "second"

inductive TimestampFault
  | notDigits
  | malformed
  | outOfRange (field : MomentField)
  deriving DecidableEq, Repr

def TimestampFault.message : TimestampFault → String
  | .notDigits => "expected exactly 14 digits (YYYYMMDDhhmmss)"
  | .malformed => "malformed digits"
  | .outOfRange field => s!"{field.label} was not in range"

inductive Violation
  | slotTaken (day : Weekday) (digits : String)
  | time (fault : TimeFault)
  | mask (fault : MaskFault)
  | name (fault : NameFault)
  | longCommand (length : Nat)
  | powerMode (text : String)
  | ruleKind (text : String)
  | reservedFlag (flag : String)
  | bootTime (fault : BootTimeFault)
  | timestamp (text : String) (fault : TimestampFault)
  | dateOverflow (days : Nat) (date : Date)
  deriving DecidableEq, Repr

def Violation.message : Violation → String
  | .slotTaken day digits =>
      s!"There is already a rule on {day.name} at {digits}; choose another time or day"
  | .time fault => s!"Invalid time format: {fault.message}"
  | .mask fault => s!"Invalid weekday mask: {fault.message}"
  | .name fault => s!"Invalid rule name: {fault.message}"
  | .longCommand length =>
      s!"Invalid command: Command must be at most 128 characters, got {length.repr}"
  | .powerMode text => s!"Invalid power mode: '{text}'"
  | .ruleKind text => s!"Invalid rule kind: '{text}'. Expected 'wake' or 'sleep'"
  | .reservedFlag flag =>
      s!"Invalid rtcwake options: '{flag}' is set by Gawake and cannot be part of the options"
  | .bootTime fault => s!"Invalid boot time: {fault.message}"
  | .timestamp text fault => s!"Invalid timestamp '{text}': {fault.message}"
  | .dateOverflow days date =>
      s!"Date arithmetic overflow while adding {days.repr} days to {date.text}"

end WakeSchedule
