import WakeSchedule.Store.Row
import WakeSchedule.Store.RuleStore
import WakeSchedule.Store.Table
/-! The store of text rows, which also keeps the settings. Rows are read back whenever they are
listed, so a damaged one shows only then. -/

namespace WakeSchedule

structure Database where
  wake : Table WakeRow := {}
  sleep : Table SleepRow := {}
  settings : Option SettingsRow := some (.ofSettings defaultSettings)
  deriving DecidableEq, Repr

namespace Database

variable {ρ β : Type}

def readEntries (toRule : RuleId → ρ → Except Violation β) :
    List (Entry ρ) → Except StoreError (List β)
  | [] => .ok []
  | entry :: entries =>
      match toRule entry.id entry.row with
      | .error violation => .error (.unreadable (.rule entry.id violation))
      | .ok rule => (readEntries toRule entries).map (rule :: ·)

def wakeRules (db : Database) : Except StoreError (List WakeRule) :=
  readEntries WakeRow.toRule db.wake.entries

def sleepRules (db : Database) : Except StoreError (List SleepRule) :=
  readEntries SleepRow.toRule db.sleep.entries

/-- Only a flag of exactly one selects a row here. -/
def enabledWakeRules (db : Database) : Except StoreError (List WakeRule) :=
  readEntries WakeRow.toRule (db.wake.entries.filter (·.row.enabled = 1))

def enabledSleepRules (db : Database) : Except StoreError (List SleepRule) :=
  readEntries SleepRow.toRule (db.sleep.entries.filter (·.row.enabled = 1))

def insertWake (rule : WakeRule) (db : Database) : Except StoreError RuleId × Database :=
  match db.enabledWakeRules with
  | .error failure => (.error failure, db)
  | .ok present =>
      let step := db.wake.takeIn (.ofRule rule) rule present
      (step.1.mapError .violation, { db with wake := step.2 })

def insertSleep (rule : SleepRule) (db : Database) : Except StoreError RuleId × Database :=
  match db.enabledSleepRules with
  | .error failure => (.error failure, db)
  | .ok present =>
      let step := db.sleep.takeIn (.ofRule rule) rule present
      (step.1.mapError .violation, { db with sleep := step.2 })

def delete (kind : RuleKind) (id : RuleId) (db : Database) :
    Except StoreError Unit × Database :=
  match kind with
  | .wake =>
      let step := db.wake.delete id (StoreError.ruleNotFound .wake id)
      (step.1, { db with wake := step.2 })
  | .sleep =>
      let step := db.sleep.delete id (StoreError.ruleNotFound .sleep id)
      (step.1, { db with sleep := step.2 })

/-- Without a settings row the defaults hold. -/
def readSettings (db : Database) : Except StoreError Settings :=
  match db.settings with
  | none => .ok defaultSettings
  | some row => row.toSettings.mapError .unreadable

def replaceSettings (row : SettingsRow) (db : Database) : Except StoreError Unit × Database :=
  if row.admitted then (.ok (), { db with settings := some row })
  else (.error (.database "CHECK constraint failed: boot_time_seconds BETWEEN 0 AND 3600"), db)

def changeSettings (settings : Settings) (db : Database) : Except StoreError Unit × Database :=
  match settings.check with
  | .error violation => (.error (.violation violation), db)
  | .ok () => db.replaceSettings (.ofSettings settings)

/-- Removes every rule and restores the default settings; numbers already given stay given. -/
def reset (db : Database) : Database :=
  { wake := db.wake.clear, sleep := db.sleep.clear, settings := some (.ofSettings defaultSettings) }

instance : RuleStore Database where
  wakeRules db := db.wakeRules.mapError StoreError.toScheduleError
  sleepRules db := db.sleepRules.mapError StoreError.toScheduleError
  enabledWakeRules db := db.enabledWakeRules.mapError StoreError.toScheduleError
  enabledSleepRules db := db.enabledSleepRules.mapError StoreError.toScheduleError
  insertWake rule db := failingAs StoreError.toScheduleError (db.insertWake rule)
  insertSleep rule db := failingAs StoreError.toScheduleError (db.insertSleep rule)
  delete kind id db := failingAs StoreError.toScheduleError (db.delete kind id)

end Database

end WakeSchedule
