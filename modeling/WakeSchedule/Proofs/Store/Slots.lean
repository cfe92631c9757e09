import WakeSchedule.Proofs.Store.Account

namespace WakeSchedule

section Check

variable {τ α : Type} [RuleTime τ]

/-- What the check of a candidate against the rules of its kind depends on. -/
structure ChecksSlots (candidate : Rule τ α) (rules : List (Rule τ α)) : Prop where
  fails : (∃ violation, checkConflict candidate rules = .error violation) ↔
    candidate.enabled = true ∧ ∃ rule ∈ rules, rule.enabled = true ∧
      rule.timeCode = candidate.timeCode ∧
        ∃ day, rule.days.get day = true ∧ candidate.days.get day = true
  names : ∀ violation, checkConflict candidate rules = .error violation →
    ∃ day, violation = .slotTaken day (RuleTime.digits candidate.time) ∧
      SharesSlot candidate rules day ∧
        ∀ earlier, earlier.index < day.index → ¬SharesSlot candidate rules earlier
  anyOrder : ∀ shuffled, rules.Perm shuffled →
    checkConflict candidate shuffled = checkConflict candidate rules
  sameEnabled : ∀ others : List (Rule τ α),
    others.filter (·.enabled) = rules.filter (·.enabled) →
      checkConflict candidate others = checkConflict candidate rules
  enabledAlone :
    checkConflict candidate (rules.filter (·.enabled)) = checkConflict candidate rules
  fewer : ∀ fewer, fewer ⊆ rules → checkConflict candidate rules = .ok () →
    checkConflict candidate fewer = .ok ()

theorem exists_clash_iff (candidate : Rule τ α) (rules : List (Rule τ α)) :
    (∃ rule ∈ rules, Clash rule candidate) ↔
      candidate.enabled = true ∧ ∃ rule ∈ rules, rule.enabled = true ∧
        rule.timeCode = candidate.timeCode ∧
          ∃ day, rule.days.get day = true ∧ candidate.days.get day = true := by
  simp only [Clash, Rule.firesOn, Bool.and_eq_true]
  constructor
  · intro clash
    obtain ⟨rule, listed, sameTime, day, ⟨enabled, active⟩, own, candidateActive⟩ := clash
    exact ⟨own, rule, listed, enabled, sameTime, day, active, candidateActive⟩
  · intro given
    obtain ⟨own, rule, listed, enabled, sameTime, day, active, candidateActive⟩ := given
    exact ⟨rule, listed, sameTime, day, ⟨enabled, active⟩, own, candidateActive⟩

theorem checksSlots (candidate : Rule τ α) (rules : List (Rule τ α)) :
    ChecksSlots candidate rules where
  fails := (checkConflict_fails_iff candidate rules).trans (exists_clash_iff candidate rules)
  names violation := (checkConflict_eq_error_iff candidate rules violation).mp
  anyOrder _ shuffle := checkConflict_congr candidate (slotTaken_perm shuffle)
  sameEnabled := by
    intro others same
    apply checkConflict_congr
    intro day code
    rw [← slotTaken_enabled others, same, slotTaken_enabled]
  enabledAlone := checkConflict_congr candidate (slotTaken_enabled rules)
  fewer := by
    intro fewer part accepted
    have apart := (checkConflict_eq_ok_iff candidate rules).mp accepted
    exact (checkConflict_eq_ok_iff candidate fewer).mpr fun rule listed => apart rule (part listed)

end Check

section Batch

variable {σ τ α : Type}

def TakesIn [RuleTime τ] (place : Table (Rule τ α) → σ)
    (insert : Rule τ α → σ → Except ScheduleError RuleId × σ) : Prop :=
  ∀ table rule, insert rule (place table) =
    ((table.takeIn rule rule (MemoryStore.rulesOf table)).1.mapError .violation,
      place (table.takeIn rule rule (MemoryStore.rulesOf table)).2)

def AcceptsAll (insert : Rule τ α → σ → Except ScheduleError RuleId × σ) (store : σ)
    (rules : List (Rule τ α)) : Prop :=
  ∀ exchange ∈ (serveAll (fun now rule => insert rule now) store rules).1,
    ∃ id, exchange.2 = .ok id

/-- A batch is taken in for what its enabled rules are, and never for its order. -/
structure TakesBatches [RuleTime τ] (insert : Rule τ α → σ → Except ScheduleError RuleId × σ)
    (empty : σ) : Prop where
  accepts : ∀ rules, AcceptsAll insert empty rules ↔ ConflictFree (rules.filter (·.enabled))
  anyOrder : ∀ rules shuffled, rules.Perm shuffled →
    (AcceptsAll insert empty rules ↔ AcceptsAll insert empty shuffled)

theorem acceptsAll_cons (insert : Rule τ α → σ → Except ScheduleError RuleId × σ) (store : σ)
    (rule : Rule τ α) (rules : List (Rule τ α)) :
    AcceptsAll insert store (rule :: rules) ↔
      (∃ id, (insert rule store).1 = .ok id) ∧ AcceptsAll insert (insert rule store).2 rules :=
  List.forall_mem_cons

variable [RuleTime τ]

namespace TakesIn

variable {place : Table (Rule τ α) → σ}
  {insert : Rule τ α → σ → Except ScheduleError RuleId × σ} (takes : TakesIn place insert)

include takes

theorem insert_of_accepted {table : Table (Rule τ α)} {rule : Rule τ α}
    (accepted : checkConflict rule (MemoryStore.rulesOf table) = .ok ()) :
    insert rule (place table) = (.ok (table.lastId + 1), place (table.push rule)) := by
  rw [takes, Table.takeIn, accepted]
  rfl

theorem insert_of_refused {table : Table (Rule τ α)} {rule : Rule τ α} {violation : Violation}
    (refused : checkConflict rule (MemoryStore.rulesOf table) = .error violation) :
    insert rule (place table) = (.error (.violation violation), place table) := by
  rw [takes, Table.takeIn, refused]
  rfl

theorem acceptsAll_iff (table : Table (Rule τ α)) (rules : List (Rule τ α)) :
    AcceptsAll insert (place table) rules ↔
      (∀ present ∈ MemoryStore.rulesOf table, ∀ rule ∈ rules, ¬Clash present rule) ∧
        ConflictFree rules := by
  induction rules generalizing table with
  | nil => simp [AcceptsAll, serveAll, ConflictFree]
  | cons rule rules ih =>
      rw [acceptsAll_cons]
      cases outcome : checkConflict rule (MemoryStore.rulesOf table) with
      | error violation =>
          obtain ⟨present, stored, clash⟩ :=
            (checkConflict_fails_iff rule _).mp ⟨violation, outcome⟩
          rw [takes.insert_of_refused outcome]
          constructor
          · intro accepted
            obtain ⟨⟨_, wrong⟩, _⟩ := accepted
            cases wrong
          · intro free
            exact absurd clash (free.1 present stored rule List.mem_cons_self)
      | ok =>
          have apart := (checkConflict_eq_ok_iff rule _).mp outcome
          rw [takes.insert_of_accepted outcome, ih, Table.rulesOf_push]
          simp only [ConflictFree, List.pairwise_cons, List.forall_mem_append,
            List.forall_mem_singleton, List.forall_mem_cons]
          -- A clash does not read the number that the rule is stored under.
          constructor
          · intro accepted
            obtain ⟨_, ⟨old, new⟩, free⟩ := accepted
            exact ⟨fun present stored => ⟨apart present stored, old present stored⟩, new, free⟩
          · intro given
            obtain ⟨old, new, free⟩ := given
            exact ⟨⟨_, rfl⟩, ⟨fun present stored => (old present stored).2, new⟩, free⟩

theorem takesBatches : TakesBatches insert (place {}) := by
  have accepts : ∀ rules, AcceptsAll insert (place {}) rules ↔ ConflictFree rules := by
    intro rules
    rw [takes.acceptsAll_iff]
    exact and_iff_right fun _ absent => nomatch absent
  constructor
  case accepts =>
    intro rules
    rw [accepts, conflictFree_enabled_iff]
  case anyOrder =>
    intro rules shuffled shuffle
    rw [accepts, accepts]
    exact ⟨fun free => free.perm shuffle, fun free => free.perm shuffle.symm⟩

end TakesIn

end Batch

section Deletion

variable {σ τ α : Type}

structure SameSlots (one other : Rule τ α) : Prop where
  time : one.time = other.time
  days : one.days = other.days
  flag : one.enabled = other.enabled

theorem SameSlots.firesOn {one other : Rule τ α} (same : SameSlots one other) (day : Weekday) :
    one.firesOn day = other.firesOn day := by
  simp only [Rule.firesOn, same.flag, same.days]

theorem SameSlots.timeCode [RuleTime τ] {one other : Rule τ α} (same : SameSlots one other) :
    one.timeCode = other.timeCode := by
  simp only [Rule.timeCode, same.time]

variable [RuleStore σ]

/-- After a deletion the store lists all rules but one, and takes in any rule with the slots of that
one, itself among them. -/
def FreesSlots (store : σ) (kind : RuleKind)
    (listing : σ → Except ScheduleError (List (Rule τ α)))
    (insert : Rule τ α → σ → Except ScheduleError RuleId × σ) : Prop :=
  ∀ id later, RuleStore.delete kind id store = (.ok (), later) →
    ∃ before deleted after, listing store = .ok (before ++ deleted :: after) ∧
      deleted.id = some id ∧ listing later = .ok (before ++ after) ∧
        ∀ candidate, SameSlots candidate deleted → ∃ newId, (insert candidate later).1 = .ok newId

theorem Holds.freesSlots [RuleTime τ] {place : Table (Rule τ α) → σ} {kind : RuleKind}
    {listing : σ → Except ScheduleError (List (Rule τ α))} {shown : Rule τ α → Rule τ α}
    {insert : Rule τ α → σ → Except ScheduleError RuleId × σ}
    (holds : Holds place kind listing shown) (takes : TakesIn place insert)
    (kept : ∀ rule, SameSlots (shown rule) rule) {table : Table (Rule τ α)}
    {events : List (Event (Rule τ α))} (reflects : table.Reflects events) :
    FreesSlots (place table) kind listing insert := by
  intro id later done
  rw [holds.deletes] at done
  by_cases present : id ∈ table.ids
  · rw [table.delete_of_mem _ present] at done
    cases done
    obtain ⟨before, entry, after, split, numbered, rest⟩ :=
      table.erase_split reflects.ascending present
    refine ⟨before.map (Entry.listed shown), entry.listed shown, after.map (Entry.listed shown),
      ?_, congrArg some numbered, ?_, ?_⟩
    · rw [holds.lists, split, List.map_append, List.map_cons]
    · rw [holds.lists, rest, List.map_append]
    · intro candidate same
      have free := reflects.free
      rw [MemoryStore.rulesOf, split, List.map_append, List.map_cons] at free
      have accepted : checkConflict candidate (MemoryStore.rulesOf (table.erase id)) = .ok () := by
        rw [MemoryStore.rulesOf, rest, List.map_append]
        -- The candidate is compared with the rule that was shown, the check with the one stored.
        apply free.accepts_removed
        · exact fun day => (same.firesOn day).trans ((kept entry.row).firesOn day)
        · exact same.timeCode.trans (kept entry.row).timeCode
      exact ⟨_, congrArg (·.1) (takes.insert_of_accepted accepted)⟩
  · rw [table.delete_of_not_mem _ present] at done
    cases done

theorem WakeRule.sameSlots_tidied (rule : WakeRule) : SameSlots (WakeRule.tidied rule) rule :=
  ⟨rfl, rfl, rfl⟩

theorem SleepRule.sameSlots_tidied (rule : SleepRule) : SameSlots (SleepRule.tidied rule) rule :=
  ⟨rfl, rfl, rfl⟩

theorem SameSlots.refl (rule : Rule τ α) : SameSlots rule rule := ⟨rfl, rfl, rfl⟩

end Deletion

theorem MemoryStore.takesIn_wake (store : MemoryStore) :
    TakesIn (fun table => { store with wake := table }) RuleStore.insertWake :=
  fun _ _ => rfl

theorem MemoryStore.takesIn_sleep (store : MemoryStore) :
    TakesIn (fun table => { store with sleep := table }) RuleStore.insertSleep :=
  fun _ _ => rfl

theorem Database.takesIn_wake (db : Database) :
    TakesIn (fun table => { db with wake := table.map WakeRow.ofRule }) RuleStore.insertWake :=
  db.insertWake_map

theorem Database.takesIn_sleep (db : Database) :
    TakesIn (fun table => { db with sleep := table.map SleepRow.ofRule }) RuleStore.insertSleep :=
  db.insertSleep_map

/-- A candidate is refused exactly where it shares a slot with a rule of its kind, on the first such
day of the week, whatever else is listed and in whatever order. A fresh store therefore takes in a
batch exactly when no two of its enabled rules share a slot, and every store that has served any
requests takes in again the rule that it has just deleted. -/
theorem slots_are_given_once_and_freed :
    (∀ candidate rules, ChecksSlots (candidate : WakeRule) rules) ∧
    (∀ candidate rules, ChecksSlots (candidate : SleepRule) rules) ∧
    TakesBatches RuleStore.insertWake ({} : MemoryStore) ∧
    TakesBatches RuleStore.insertSleep ({} : MemoryStore) ∧
    TakesBatches RuleStore.insertWake ({} : Database) ∧
    TakesBatches RuleStore.insertSleep ({} : Database) ∧
    (∀ requests : List StoreRequest,
      let store := (serveAll StoreRequest.serve ({} : MemoryStore) requests).2
      FreesSlots store .wake RuleStore.wakeRules RuleStore.insertWake ∧
        FreesSlots store .sleep RuleStore.sleepRules RuleStore.insertSleep) ∧
    ∀ requests : List DatabaseRequest,
      let db := (serveAll DatabaseRequest.serve ({} : Database) requests).2
      FreesSlots db .wake RuleStore.wakeRules RuleStore.insertWake ∧
        FreesSlots db .sleep RuleStore.sleepRules RuleStore.insertSleep := by
  refine ⟨checksSlots, checksSlots, (MemoryStore.takesIn_wake {}).takesBatches,
    (MemoryStore.takesIn_sleep {}).takesBatches, (Database.takesIn_wake {}).takesBatches,
    (Database.takesIn_sleep {}).takesBatches, ?_, ?_⟩
  · intro requests store
    have accounts := MemoryStore.run_accounts requests
    constructor
    · exact store.holds_wake.freesSlots store.takesIn_wake SameSlots.refl accounts.wake
    · exact store.holds_sleep.freesSlots store.takesIn_sleep SameSlots.refl accounts.sleep
  · intro requests db
    obtain ⟨store, mirror, accounts⟩ := Database.run_accounts requests
    have wake := db.holds_wake.freesSlots db.takesIn_wake WakeRule.sameSlots_tidied accounts.wake
    have sleep := db.holds_sleep.freesSlots db.takesIn_sleep SleepRule.sameSlots_tidied
      accounts.sleep
    rw [← mirror.wake] at wake
    rw [← mirror.sleep] at sleep
    exact ⟨wake, sleep⟩

end WakeSchedule
