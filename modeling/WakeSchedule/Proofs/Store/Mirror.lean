import WakeSchedule.Proofs.Store.Request
import WakeSchedule.Proofs.Store.Row
/-! The database as a mirror of the store that keeps the rules. Its tables hold the rows of the same
rules under the same numbers, so what it lists are those rules, with their texts tidied. -/

namespace WakeSchedule

variable {ρ τ α : Type}

namespace Table

def map (write : α → ρ) (table : Table α) : Table ρ :=
  ⟨table.entries.map fun entry => ⟨entry.id, write entry.row⟩, table.lastId⟩

theorem map_push (write : α → ρ) (table : Table α) (row : α) :
    (table.push row).map write = (table.map write).push (write row) := by
  simp only [map, push, List.map_append, List.map_cons, List.map_nil]

theorem map_erase (write : α → ρ) (table : Table α) (id : RuleId) :
    (table.erase id).map write = (table.map write).erase id := by
  simp only [map, erase, List.filter_map]
  rfl

theorem contains_map (write : α → ρ) (table : Table α) (id : RuleId) :
    (table.map write).contains id = table.contains id := by
  simp only [map, contains, List.any_map]
  rfl

theorem map_takeIn [RuleTime τ] (write : Rule τ α → ρ) (table : Table (Rule τ α))
    (rule : Rule τ α) {shown : Rule τ α → Rule τ α}
    (sameDays : ∀ rule day, (shown rule).firesOn day = rule.firesOn day)
    (sameTime : ∀ rule, (shown rule).timeCode = rule.timeCode) :
    (table.map write).takeIn (write rule) rule
        (((MemoryStore.rulesOf table).filter (·.enabled)).map shown) =
      ((table.takeIn rule rule (MemoryStore.rulesOf table)).1,
        (table.takeIn rule rule (MemoryStore.rulesOf table)).2.map write) := by
  rw [takeIn, takeIn, checkConflict_enabled_map rule _ sameDays sameTime]
  cases checkConflict rule (MemoryStore.rulesOf table) with
  | error violation => rfl
  | ok => exact congrArg (Prod.mk _) (map_push write table rule).symm

theorem failingAs_map_delete {ε δ : Type} (write : α → ρ) (table : Table α) (id : RuleId)
    (cause : ε → δ) (missing : ε) : failingAs cause ((table.map write).delete id missing) =
      ((table.delete id (cause missing)).1, (table.delete id (cause missing)).2.map write) := by
  rw [delete, delete, contains_map]
  cases table.contains id with
  | false => rfl
  | true => exact congrArg (Prod.mk _) (map_erase write table id).symm

end Table

namespace Database

section Read

variable {toRule : RuleId → ρ → Except Violation (Rule τ α)} {write : Rule τ α → ρ}
  {shown : Rule τ α → Rule τ α}
  (back : ∀ id rule, toRule id (write rule) = .ok ((shown rule).withId id))
  (numbered : ∀ id rule, shown (rule.withId id) = (shown rule).withId id)

include back numbered

/-- A written row reads back as the rule it shows, so written rows are listed without fail. -/
theorem readEntries_map (entries : List (Entry (Rule τ α))) :
    readEntries toRule (entries.map fun entry => ⟨entry.id, write entry.row⟩) =
      .ok ((entries.map fun entry => entry.row.withId entry.id).map shown) := by
  induction entries with
  | nil => rfl
  | cons entry entries ih =>
      simp only [List.map_cons, readEntries, back, numbered, ih]
      rfl

theorem readEntries_filter_map (table : Table (Rule τ α)) (selected : ρ → Bool)
    (marked : ∀ rule, selected (write rule) = rule.enabled) :
    readEntries toRule ((table.map write).entries.filter (selected ·.row)) =
      .ok (((MemoryStore.rulesOf table).filter (·.enabled)).map shown) := by
  have same : (fun entry : Entry ρ => selected entry.row) ∘
      (fun entry : Entry (Rule τ α) => ⟨entry.id, write entry.row⟩) =
        fun entry => entry.row.enabled := funext fun entry => marked entry.row
  rw [Table.map, MemoryStore.rulesOf, List.filter_map, List.filter_map, same]
  exact readEntries_map back numbered _

end Read

variable (db : Database)

theorem enabledWakeRules_map (table : Table WakeRule) :
    Database.enabledWakeRules { db with wake := table.map WakeRow.ofRule } =
      .ok (((MemoryStore.rulesOf table).filter (·.enabled)).map WakeRule.tidied) :=
  readEntries_filter_map WakeRow.toRule_ofRule (fun _ _ => rfl) table
    (fun row => row.enabled = 1) fun rule => decide_flag rule.enabled

theorem enabledSleepRules_map (table : Table SleepRule) :
    Database.enabledSleepRules { db with sleep := table.map SleepRow.ofRule } =
      .ok (((MemoryStore.rulesOf table).filter (·.enabled)).map SleepRule.tidied) :=
  readEntries_filter_map SleepRow.toRule_ofRule (fun _ _ => rfl) table
    (fun row => row.enabled = 1) fun rule => decide_flag rule.enabled

theorem insertWake_map (table : Table WakeRule) (rule : WakeRule) :
    let taken := table.takeIn rule rule (MemoryStore.rulesOf table)
    RuleStore.insertWake rule { db with wake := table.map WakeRow.ofRule } =
      (taken.1.mapError .violation, { db with wake := taken.2.map WakeRow.ofRule }) := by
  have taken := table.map_takeIn WakeRow.ofRule rule WakeRule.firesOn_tidied
    WakeRule.timeCode_tidied
  change failingAs StoreError.toScheduleError (Database.insertWake rule _) = _
  simp only [insertWake, enabledWakeRules_map, taken]
  exact congrArg (Prod.mk · _) (mapError_violation _)

theorem insertSleep_map (table : Table SleepRule) (rule : SleepRule) :
    let taken := table.takeIn rule rule (MemoryStore.rulesOf table)
    RuleStore.insertSleep rule { db with sleep := table.map SleepRow.ofRule } =
      (taken.1.mapError .violation, { db with sleep := taken.2.map SleepRow.ofRule }) := by
  have taken := table.map_takeIn SleepRow.ofRule rule SleepRule.firesOn_tidied
    SleepRule.timeCode_tidied
  change failingAs StoreError.toScheduleError (Database.insertSleep rule _) = _
  simp only [insertSleep, enabledSleepRules_map, taken]
  exact congrArg (Prod.mk · _) (mapError_violation _)

end Database

structure Mirrors (store : MemoryStore) (db : Database) : Prop where
  wake : db.wake = store.wake.map WakeRow.ofRule
  sleep : db.sleep = store.sleep.map SleepRow.ofRule

/-- Two steps that answer alike and leave the one store mirrored by the other. -/
structure Agree {β : Type} (first : β × MemoryStore) (second : β × Database) : Prop where
  answer : second.1 = first.1
  mirror : Mirrors first.2 second.2

theorem Agree.replying {β : Type} {first : Except ScheduleError β × MemoryStore}
    {second : Except ScheduleError β × Database} (agree : Agree first second)
    {answer : β → Answer} : Agree (replying answer first) (replying answer second) :=
  ⟨congrArg (·.map answer) agree.answer, agree.mirror⟩

namespace Mirrors

variable {store : MemoryStore} {db : Database}

theorem fresh : Mirrors {} {} := ⟨rfl, rfl⟩

theorem wakeRules (mirror : Mirrors store db) :
    db.wakeRules = .ok ((MemoryStore.rulesOf store.wake).map WakeRule.tidied) := by
  rw [Database.wakeRules, mirror.wake]
  exact Database.readEntries_map WakeRow.toRule_ofRule (fun _ _ => rfl) store.wake.entries

theorem sleepRules (mirror : Mirrors store db) :
    db.sleepRules = .ok ((MemoryStore.rulesOf store.sleep).map SleepRule.tidied) := by
  rw [Database.sleepRules, mirror.sleep]
  exact Database.readEntries_map SleepRow.toRule_ofRule (fun _ _ => rfl) store.sleep.entries

theorem enabledWakeRules (mirror : Mirrors store db) : db.enabledWakeRules =
    .ok (((MemoryStore.rulesOf store.wake).filter (·.enabled)).map WakeRule.tidied) := by
  have listed := db.enabledWakeRules_map store.wake
  rwa [← mirror.wake] at listed

theorem enabledSleepRules (mirror : Mirrors store db) : db.enabledSleepRules =
    .ok (((MemoryStore.rulesOf store.sleep).filter (·.enabled)).map SleepRule.tidied) := by
  have listed := db.enabledSleepRules_map store.sleep
  rwa [← mirror.sleep] at listed

theorem insertWake (mirror : Mirrors store db) (rule : WakeRule) :
    Agree (RuleStore.insertWake rule store) (RuleStore.insertWake rule db) := by
  have taken := db.insertWake_map store.wake rule
  rw [← mirror.wake] at taken
  exact ⟨congrArg (·.1) taken, congrArg (·.2.wake) taken,
    (congrArg (·.2.sleep) taken).trans mirror.sleep⟩

theorem insertSleep (mirror : Mirrors store db) (rule : SleepRule) :
    Agree (RuleStore.insertSleep rule store) (RuleStore.insertSleep rule db) := by
  have taken := db.insertSleep_map store.sleep rule
  rw [← mirror.sleep] at taken
  exact ⟨congrArg (·.1) taken, (congrArg (·.2.wake) taken).trans mirror.wake,
    congrArg (·.2.sleep) taken⟩

theorem delete (mirror : Mirrors store db) (kind : RuleKind) (id : RuleId) :
    Agree (RuleStore.delete kind id store) (RuleStore.delete kind id db) := by
  change Agree (store.delete kind id)
    (failingAs StoreError.toScheduleError (db.delete kind id))
  cases kind with
  | wake =>
      have lost := store.wake.failingAs_map_delete WakeRow.ofRule id StoreError.toScheduleError
        (.ruleNotFound .wake id)
      rw [Database.delete, mirror.wake]
      exact ⟨congrArg (·.1) lost, congrArg (·.2) lost, mirror.sleep⟩
  | sleep =>
      have lost := store.sleep.failingAs_map_delete SleepRow.ofRule id StoreError.toScheduleError
        (.ruleNotFound .sleep id)
      rw [Database.delete, mirror.sleep]
      exact ⟨congrArg (·.1) lost, mirror.wake, congrArg (·.2) lost⟩

theorem serve (mirror : Mirrors store db) (request : StoreRequest) :
    (request.wakeChange? = none ∧ request.sleepChange? = none ∧
        (request.serve store).2 = store ∧ (request.serve db).2 = db) ∨
      Agree (request.serve store) (request.serve db) := by
  cases request with
  | wakeRules | sleepRules | enabledWakeRules | enabledSleepRules | nextWake | tick | boot =>
      exact .inl ⟨rfl, rfl, rfl, rfl⟩
  | insertWake rule => exact .inr (mirror.insertWake rule).replying
  | insertSleep rule => exact .inr (mirror.insertSleep rule).replying
  | addWake rule =>
      right
      simp only [StoreRequest.serve, addWakeRule]
      cases checkWakeRule rule with
      | error violation => exact ⟨rfl, mirror⟩
      | ok => exact (mirror.insertWake rule).replying
  | addSleep rule =>
      right
      simp only [StoreRequest.serve, addSleepRule]
      cases checkSleepRule rule with
      | error violation => exact ⟨rfl, mirror⟩
      | ok => exact (mirror.insertSleep rule).replying
  | delete kind id => exact .inr (mirror.delete kind id).replying

end Mirrors

end WakeSchedule
