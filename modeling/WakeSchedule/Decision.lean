import WakeSchedule.Invocation
import WakeSchedule.Settings
import WakeSchedule.Store.RuleStore
/-! What to do at a moment: which rule fires next and which are due, the alarm for the next wake, and
the answers to a tick and to a boot. -/

namespace WakeSchedule

section Agenda

variable {τ α : Type} [RuleTime τ]

/-- The rule with the earliest time; of several the first in the list. -/
def earliest? : List (Rule τ α) → Option (Rule τ α)
  | [] => none
  | rule :: rules =>
      match earliest? rules with
      | none => some rule
      | some best => if best.timeCode < rule.timeCode then some best else some rule

structure Occurrence (ρ : Type) where
  daysAhead : Nat
  rule : ρ
  deriving DecidableEq, Repr

def laterToday? (today : Weekday) (now : Nat) (rules : List (Rule τ α)) : Option (Rule τ α) :=
  earliest? (rules.filter fun rule => rule.firesOn today && now < rule.timeCode)

def firstOn? (day : Weekday) (rules : List (Rule τ α)) : Option (Rule τ α) :=
  earliest? (rules.filter (·.firesOn day))

/-- A rule at the very time of asking has passed, and comes again in seven days at the latest. -/
def nextOccurrence? (today : Weekday) (now : Nat) (rules : List (Rule τ α)) :
    Option (Occurrence (Rule τ α)) :=
  match laterToday? today now rules with
  | some rule => some ⟨0, rule⟩
  | none => [1, 2, 3, 4, 5, 6, 7].findSome? fun days =>
      (firstOn? (today.offset days) rules).map (⟨days, ·⟩)

/-- Minutes from its time on during which a sleep rule is due. -/
def sleepTolerance : Nat := 5

def SleepRule.isDue (rule : SleepRule) (now : TimeOfDay) : Bool :=
  rule.time.minutes ≤ now.minutes && now.minutes < rule.time.minutes + sleepTolerance

def dueSleepRule? (today : Weekday) (now : TimeOfDay) (rules : List SleepRule) :
    Option SleepRule :=
  earliest? (rules.filter fun rule => rule.firesOn today && SleepRule.isDue rule now)

/-- Both ends of the boot window belong to it. -/
def WakeRule.inBootWindow (rule : WakeRule) (now : TimeOfDay) (width : Nat) : Bool :=
  rule.time.seconds ≤ now.seconds && now.seconds ≤ rule.time.seconds + width

def bootedRule? (today : Weekday) (now : TimeOfDay) (rules : List WakeRule) (width : Nat) :
    Option WakeRule :=
  earliest? (rules.filter fun rule => rule.firesOn today && WakeRule.inBootWindow rule now width)

end Agenda

variable {σ : Type} [RuleStore σ]

def scheduleNextWake (store : σ) (clock : Clock) (settings : Settings) :
    Except ScheduleError Invocation := do
  let rules ← RuleStore.enabledWakeRules store
  match nextOccurrence? clock.weekday clock.time.code rules with
  | none => .error .nothingScheduled
  | some occurrence =>
      let date ← (clock.addDays clock.date occurrence.daysAhead).mapError .violation
      let invocation ← Invocation.onDate date occurrence.rule settings.options
      return if settings.commandsEnabled then invocation else invocation.withoutCommand

inductive TickDecision
  | disabled
  | idle
  | suspend (rule : SleepRule) (invocation : Invocation)
  | powerOff (rule : SleepRule)
  deriving DecidableEq, Repr

/-- What a due sleep rule leads to. Power goes off without an alarm only where nothing at all is
scheduled and the settings ask for it. -/
def suspendOrPowerOff (rule : SleepRule) (settings : Settings) :
    Except ScheduleError Invocation → Except ScheduleError TickDecision
  | .ok invocation => .ok (.suspend rule invocation)
  | .error .nothingScheduled =>
      if settings.shutdownOnFailure then .ok (.powerOff rule) else .error .nothingScheduled
  | .error failure => .error failure

def handleTick (store : σ) (clock : Clock) (settings : Settings) :
    Except ScheduleError TickDecision :=
  if settings.enabled then do
    let rules ← RuleStore.enabledSleepRules store
    match dueSleepRule? clock.weekday clock.time rules with
    | none => return .idle
    | some rule => suspendOrPowerOff rule settings (scheduleNextWake store clock settings)
  else .ok .disabled

inductive BootDecision
  | disabled
  | idle
  | runCommand (rule : WakeRule) (command : String)
  deriving DecidableEq, Repr

def handleBoot (store : σ) (clock : Clock) (settings : Settings) :
    Except ScheduleError BootDecision :=
  if settings.enabled && settings.commandsEnabled then do
    let rules ← RuleStore.enabledWakeRules store
    match bootedRule? clock.weekday clock.time rules settings.bootTime.toNat with
    | none => return .idle
    | some rule =>
        match rule.action.command with
        | none => return .idle
        | some command => return .runCommand rule command
  else .ok .disabled

end WakeSchedule
