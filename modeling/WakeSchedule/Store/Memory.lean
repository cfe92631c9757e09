import WakeSchedule.Store.RuleStore
import WakeSchedule.Store.Table

namespace WakeSchedule

structure MemoryStore where
  wake : Table WakeRule := {}
  sleep : Table SleepRule := {}
  deriving DecidableEq, Repr

namespace MemoryStore

variable {τ α : Type}

def rulesOf (table : Table (Rule τ α)) : List (Rule τ α) :=
  table.entries.map fun entry => entry.row.withId entry.id

def insertWake (rule : WakeRule) (store : MemoryStore) :
    Except ScheduleError RuleId × MemoryStore :=
  let step := store.wake.takeIn rule rule (rulesOf store.wake)
  (step.1.mapError .violation, { store with wake := step.2 })

def insertSleep (rule : SleepRule) (store : MemoryStore) :
    Except ScheduleError RuleId × MemoryStore :=
  let step := store.sleep.takeIn rule rule (rulesOf store.sleep)
  (step.1.mapError .violation, { store with sleep := step.2 })

def delete (kind : RuleKind) (id : RuleId) (store : MemoryStore) :
    Except ScheduleError Unit × MemoryStore :=
  match kind with
  | .wake =>
      let step := store.wake.delete id (ScheduleError.ruleNotFound .wake id)
      (step.1, { store with wake := step.2 })
  | .sleep =>
      let step := store.sleep.delete id (ScheduleError.ruleNotFound .sleep id)
      (step.1, { store with sleep := step.2 })

instance : RuleStore MemoryStore where
  wakeRules store := .ok (rulesOf store.wake)
  sleepRules store := .ok (rulesOf store.sleep)
  enabledWakeRules store := .ok ((rulesOf store.wake).filter (·.enabled))
  enabledSleepRules store := .ok ((rulesOf store.sleep).filter (·.enabled))
  insertWake := insertWake
  insertSleep := insertSleep
  delete := delete

end MemoryStore

end WakeSchedule
