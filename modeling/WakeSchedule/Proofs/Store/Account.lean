import WakeSchedule.Proofs.Store.Run
/-! What a store shows of its rules. Every listing and every deletion is accounted for by the
history of its kind: the rules stored, under the numbers they were given, and not removed since. -/

namespace WakeSchedule

variable {σ τ α : Type}

def Entry.listed (shown : Rule τ α → Rule τ α) (entry : Entry (Rule τ α)) : Rule τ α :=
  (shown entry.row).withId entry.id

/-- What a store shows of the rules of a kind when these events were all that befell them. -/
structure Shows [RuleStore σ] (store : σ) (kind : RuleKind)
    (listing : σ → Except ScheduleError (List (Rule τ α))) (shown : Rule τ α → Rule τ α)
    (events : List (Event (Rule τ α))) : Prop where
  numbered : storedIds events = firstIds (storedIds events).length
  distinct : (storedIds events).Nodup
  listed : listing store = .ok ((surviving events).map (Entry.listed shown))
  ascending : ((surviving events).map (·.id)).Pairwise (· < ·)
  deletes : ∀ id ∈ (surviving events).map (·.id), ∃ before entry after,
    surviving events = before ++ entry :: after ∧ entry.id = id ∧
      (RuleStore.delete kind id store).1 = .ok () ∧
      listing (RuleStore.delete kind id store).2 =
        .ok ((before ++ after).map (Entry.listed shown))
  refuses : ∀ id ∉ (surviving events).map (·.id),
    RuleStore.delete kind id store = (.error (.ruleNotFound kind id), store)

/-- Stores that differ in the table of a kind alone, list that table and delete from it. -/
structure Holds [RuleStore σ] (place : Table (Rule τ α) → σ) (kind : RuleKind)
    (listing : σ → Except ScheduleError (List (Rule τ α)))
    (shown : Rule τ α → Rule τ α) : Prop where
  lists : ∀ table, listing (place table) = .ok (table.entries.map (Entry.listed shown))
  deletes : ∀ table id, RuleStore.delete kind id (place table) =
    ((table.delete id (ScheduleError.ruleNotFound kind id)).1,
      place (table.delete id (ScheduleError.ruleNotFound kind id)).2)

theorem Holds.shows [RuleTime τ] [RuleStore σ] {place : Table (Rule τ α) → σ} {kind : RuleKind}
    {listing : σ → Except ScheduleError (List (Rule τ α))} {shown : Rule τ α → Rule τ α}
    (holds : Holds place kind listing shown) {table : Table (Rule τ α)}
    {events : List (Event (Rule τ α))} (reflects : table.Reflects events) :
    Shows (place table) kind listing shown events where
  numbered := reflects.numbered
  distinct := by
    rw [reflects.numbered]
    exact nodup_firstIds _
  listed := by
    rw [← reflects.entries]
    exact holds.lists table
  ascending := by
    rw [← reflects.entries]
    exact reflects.ascending
  deletes := by
    intro id present
    rw [← reflects.entries] at present ⊢
    obtain ⟨before, entry, after, split, same, rest⟩ :=
      table.erase_split reflects.ascending present
    refine ⟨before, entry, after, split, same, ?_⟩
    rw [holds.deletes, table.delete_of_mem _ present]
    exact ⟨rfl, by rw [holds.lists, rest]⟩
  refuses := by
    intro id absent
    rw [← reflects.entries] at absent
    rw [holds.deletes, table.delete_of_not_mem _ absent]

theorem MemoryStore.holds_wake (store : MemoryStore) :
    Holds (fun table => { store with wake := table }) .wake RuleStore.wakeRules
      (fun rule => rule) :=
  ⟨fun _ => rfl, fun _ _ => rfl⟩

theorem MemoryStore.holds_sleep (store : MemoryStore) :
    Holds (fun table => { store with sleep := table }) .sleep RuleStore.sleepRules
      (fun rule => rule) :=
  ⟨fun _ => rfl, fun _ _ => rfl⟩

theorem Database.holds_wake (db : Database) :
    Holds (fun table => { db with wake := table.map WakeRow.ofRule }) .wake RuleStore.wakeRules
      WakeRule.tidied := by
  constructor
  · intro table
    have read := readEntries_map WakeRow.toRule_ofRule (fun _ _ => rfl) table.entries
    rw [List.map_map] at read
    exact congrArg (·.mapError StoreError.toScheduleError) read
  · intro table id
    have lost := table.failingAs_map_delete WakeRow.ofRule id StoreError.toScheduleError
      (.ruleNotFound .wake id)
    exact congrArg (fun step => (step.1, { db with wake := step.2 })) lost

theorem Database.holds_sleep (db : Database) :
    Holds (fun table => { db with sleep := table.map SleepRow.ofRule }) .sleep RuleStore.sleepRules
      SleepRule.tidied := by
  constructor
  · intro table
    have read := readEntries_map SleepRow.toRule_ofRule (fun _ _ => rfl) table.entries
    rw [List.map_map] at read
    exact congrArg (·.mapError StoreError.toScheduleError) read
  · intro table id
    have lost := table.failingAs_map_delete SleepRow.ofRule id StoreError.toScheduleError
      (.ruleNotFound .sleep id)
    exact congrArg (fun step => (step.1, { db with sleep := step.2 })) lost

namespace Mirrors

variable {store : MemoryStore} {db : Database}

theorem serve_untouched (mirror : Mirrors store db) (request : DatabaseRequest) :
    (request.wakeChange? = none → (request.serve db).2.wake = db.wake) ∧
      (request.sleepChange? = none → (request.serve db).2.sleep = db.sleep) := by
  rcases mirror.serve_step request with ⟨later, laterMirror, wake, sleep⟩
  constructor
  · intro untouched
    rw [eventOf?, untouched] at wake
    rw [laterMirror.wake, wake.eq_of_no_event, mirror.wake]
  · intro untouched
    rw [eventOf?, untouched] at sleep
    rw [laterMirror.sleep, sleep.eq_of_no_event, mirror.sleep]

end Mirrors

theorem MemoryStore.serve_untouched (store : MemoryStore) (request : StoreRequest) :
    (request.wakeChange? = none → (request.serve store).2.wake = store.wake) ∧
      (request.sleepChange? = none → (request.serve store).2.sleep = store.sleep) := by
  rcases store.serve_step request with ⟨wake, sleep⟩
  constructor
  · intro untouched
    rw [eventOf?, untouched] at wake
    exact wake.eq_of_no_event
  · intro untouched
    rw [eventOf?, untouched] at sleep
    exact sleep.eq_of_no_event

/-- Each store numbers the rules of a kind in the order of storing, whatever is refused, deleted or
cleared in between, lists those that are left, and is never moved by requests about the other kind.
A database lists their texts tidied. -/
theorem stores_show_their_history :
    (∀ requests : List StoreRequest,
      let run := serveAll StoreRequest.serve ({} : MemoryStore) requests
      Shows run.2 .wake RuleStore.wakeRules (fun rule => rule)
          (eventsOf StoreRequest.wakeChange? run.1) ∧
        Shows run.2 .sleep RuleStore.sleepRules (fun rule => rule)
          (eventsOf StoreRequest.sleepChange? run.1) ∧
        ∀ request : StoreRequest,
          (request.wakeChange? = none → (request.serve run.2).2.wake = run.2.wake) ∧
            (request.sleepChange? = none → (request.serve run.2).2.sleep = run.2.sleep)) ∧
    ∀ requests : List DatabaseRequest,
      let run := serveAll DatabaseRequest.serve ({} : Database) requests
      Shows run.2 .wake RuleStore.wakeRules WakeRule.tidied
          (eventsOf DatabaseRequest.wakeChange? run.1) ∧
        Shows run.2 .sleep RuleStore.sleepRules SleepRule.tidied
          (eventsOf DatabaseRequest.sleepChange? run.1) ∧
        ∀ request : DatabaseRequest,
          (request.wakeChange? = none → (request.serve run.2).2.wake = run.2.wake) ∧
            (request.sleepChange? = none → (request.serve run.2).2.sleep = run.2.sleep) := by
  constructor
  · intro requests run
    have accounts := MemoryStore.run_accounts requests
    exact ⟨run.2.holds_wake.shows accounts.wake, run.2.holds_sleep.shows accounts.sleep,
      run.2.serve_untouched⟩
  · intro requests run
    rcases Database.run_accounts requests with ⟨store, mirror, accounts⟩
    have wake := run.2.holds_wake.shows accounts.wake
    have sleep := run.2.holds_sleep.shows accounts.sleep
    rw [← mirror.wake] at wake
    rw [← mirror.sleep] at sleep
    exact ⟨wake, sleep, mirror.serve_untouched⟩

end WakeSchedule
