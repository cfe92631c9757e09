import WakeSchedule.Rule
/-! What the schedule asks of a store of rules, and why a store, or a decision taken over it, fails.
Each operation is one step, which answers and leaves the store it goes on with. -/

namespace WakeSchedule

inductive RowFault
  | rule (id : RuleId) (violation : Violation)
  | defaultMode (violation : Violation)
  | bootTime (seconds : Int)
  | described (reason : String)
  deriving DecidableEq, Repr

def RowFault.message : RowFault → String
  | .rule id violation => s!"rule {intText id}: {violation.message}"
  | .defaultMode violation => s!"config default mode: {violation.message}"
  | .bootTime seconds =>
      let fault : NumberFault := if seconds < 0 then .tooSmall else .tooLarge
      s!"config boot time {intText seconds}: {fault.message}"
  | .described reason => reason

inductive StoreError
  | database (reason : String)
  | connection (reason : String)
  | migration (reason : String)
  | query (reason : String)
  | initialization (reason : String)
  | unreadable (fault : RowFault)
  | violation (cause : Violation)
  | ruleNotFound (kind : RuleKind) (id : RuleId)
  deriving DecidableEq, Repr

def ruleNotFoundMessage (kind : RuleKind) (id : RuleId) : String :=
  s!"No {kind.tag} rule with id {intText id}"

def StoreError.message : StoreError → String
  | .database reason => s!"Database error: {reason}"
  | .connection reason => s!"Database connection failed: {reason}"
  | .migration reason => s!"Migration failed: {reason}"
  | .query reason => s!"Query failed: {reason}"
  | .initialization reason => s!"Initialization error: {reason}"
  | .unreadable fault => s!"Stored row is invalid: {fault.message}"
  | .violation cause => s!"Domain violation: {cause.message}"
  | .ruleNotFound kind id => ruleNotFoundMessage kind id

inductive ScheduleError
  | nothingScheduled
  | violation (cause : Violation)
  | ruleNotFound (kind : RuleKind) (id : RuleId)
  | store (cause : StoreError)
  deriving DecidableEq, Repr

def ScheduleError.message : ScheduleError → String
  | .nothingScheduled => "No rule scheduled"
  | .violation cause => s!"Domain violation: {cause.message}"
  | .ruleNotFound kind id => ruleNotFoundMessage kind id
  | .store cause => s!"Store error: {cause.message}"

/-- A refused value and a missing rule keep their meaning; any other cause is the store's own. -/
def StoreError.toScheduleError : StoreError → ScheduleError
  | .violation cause => .violation cause
  | .ruleNotFound kind id => .ruleNotFound kind id
  | cause => .store cause

class RuleStore (σ : Type) where
  wakeRules : σ → Except ScheduleError (List WakeRule)
  sleepRules : σ → Except ScheduleError (List SleepRule)
  enabledWakeRules : σ → Except ScheduleError (List WakeRule)
  enabledSleepRules : σ → Except ScheduleError (List SleepRule)
  insertWake : WakeRule → σ → Except ScheduleError RuleId × σ
  insertSleep : SleepRule → σ → Except ScheduleError RuleId × σ
  delete : RuleKind → RuleId → σ → Except ScheduleError Unit × σ

def failingAs {ε δ β σ : Type} (f : ε → δ) (step : Except ε β × σ) : Except δ β × σ :=
  (step.1.mapError f, step.2)

variable {σ : Type} [RuleStore σ]

def addWakeRule (rule : WakeRule) (store : σ) : Except ScheduleError RuleId × σ :=
  match checkWakeRule rule with
  | .error violation => (.error (.violation violation), store)
  | .ok () => RuleStore.insertWake rule store

def addSleepRule (rule : SleepRule) (store : σ) : Except ScheduleError RuleId × σ :=
  match checkSleepRule rule with
  | .error violation => (.error (.violation violation), store)
  | .ok () => RuleStore.insertSleep rule store

end WakeSchedule
