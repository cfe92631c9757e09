import WakeSchedule.Calendar.TimeOfDay
import WakeSchedule.Mask
import WakeSchedule.Settings
/-! Weekly rules. A wake rule ends a sleep at a second of the day, in a power mode and perhaps after
a command; a sleep rule begins one at a quarter hour. Two enabled rules of a kind must not fire on
the same weekday at the same time. -/

namespace WakeSchedule

/-- Rules are numbered by the store that keeps them. A number that is given as text or in a record
has 64 bits; the count of a store is left without that bound. -/
abbrev RuleId := Int

structure Rule (τ α : Type) where
  id : Option RuleId
  name : String
  time : τ
  days : Mask
  action : α
  enabled : Bool
  deriving DecidableEq, Repr

structure WakeAction where
  command : Option String
  mode : PowerMode
  deriving DecidableEq, Repr

abbrev WakeRule := Rule TimeOfDay WakeAction

abbrev SleepRule := Rule SleepTime Unit

/-- What the schedule needs to know of a time: a number that orders times, and their digits. -/
class RuleTime (τ : Type) where
  code : τ → Nat
  digits : τ → String

instance : RuleTime TimeOfDay := ⟨TimeOfDay.code, TimeOfDay.digits⟩

instance : RuleTime SleepTime := ⟨SleepTime.code, SleepTime.digits⟩

namespace Rule

variable {τ α : Type}

def withId (rule : Rule τ α) (id : RuleId) : Rule τ α := { rule with id := some id }

def withEnabled (rule : Rule τ α) (enabled : Bool) : Rule τ α := { rule with enabled := enabled }

def timeCode [RuleTime τ] (rule : Rule τ α) : Nat := RuleTime.code rule.time

def firesOn (rule : Rule τ α) (day : Weekday) : Bool := rule.enabled && rule.days.get day

end Rule

def tidyCommand (command : String) : Option String :=
  if (trim command).toList = [] then none else some (trim command)

def wakeRule (name : String) (time : TimeOfDay) (days : Mask) (command : Option String)
    (mode : PowerMode) : WakeRule :=
  ⟨none, trim name, time, days, ⟨command.bind tidyCommand, mode⟩, true⟩

def sleepRule (name : String) (time : SleepTime) (days : Mask) : SleepRule :=
  ⟨none, trim name, time, days, (), true⟩

def maxNameLength : Nat := 32

def maxCommandLength : Nat := 128

def checkName (name : String) : Except Violation Unit :=
  if (trim name).toList = [] then .error (.name .blank)
  else if maxNameLength < name.length then .error (.name (.tooLong name.length))
  else .ok ()

def checkCommand : Option String → Except Violation Unit
  | none => .ok ()
  | some command =>
      if maxCommandLength < command.length then .error (.longCommand command.length) else .ok ()

def checkWakeRule (rule : WakeRule) : Except Violation Unit := do
  checkName rule.name
  checkCommand rule.action.command

def checkSleepRule (rule : SleepRule) : Except Violation Unit := checkName rule.name

section Conflict

variable {τ α : Type} [RuleTime τ]

def slotTaken (rules : List (Rule τ α)) (day : Weekday) (code : Nat) : Bool :=
  rules.any fun rule => rule.firesOn day && rule.timeCode = code

/-- A disabled candidate takes no slot; otherwise the first of its days that is taken is reported.
-/
def checkConflict (candidate : Rule τ α) (rules : List (Rule τ α)) : Except Violation Unit :=
  if candidate.enabled then
    match candidate.days.activeDays.find? fun day => slotTaken rules day candidate.timeCode with
    | some day => .error (.slotTaken day (RuleTime.digits candidate.time))
    | none => .ok ()
  else .ok ()

/-- Both rules fire on one weekday at one time. -/
def Clash (a b : Rule τ α) : Prop :=
  a.timeCode = b.timeCode ∧ ∃ day, a.firesOn day ∧ b.firesOn day

def ConflictFree (rules : List (Rule τ α)) : Prop := rules.Pairwise fun a b => ¬Clash a b

end Conflict

end WakeSchedule
