import WakeSchedule.Proofs.Console.Calls
import WakeSchedule.Proofs.NextWake
import WakeSchedule.Proofs.SleepWindow
/-! Ticks. What a tick comes to follows in one way from the rules that are listed, the time and the
settings. The power goes off only where no listed wake rule can ever fire. -/

namespace WakeSchedule

section Branches

/-! Each branch that a tick can take, from what is listed. -/

variable {σ : Type} [RuleStore σ]

/-- The sleep rules are listed, and this is the one of them that is due, if any is. -/
def DueNow (store : σ) (clock : Clock) (due : Option SleepRule) : Prop :=
  ∃ rules, RuleStore.enabledSleepRules store = .ok rules ∧
    rules.find? (SleepRule.dueAt · clock.weekday clock.time) = due

variable {store : σ} {clock : Clock} {settings : Settings} {failure : ScheduleError}

theorem scheduleNextWake_of_unlisted
    (unlisted : RuleStore.enabledWakeRules store = .error failure) :
    scheduleNextWake store clock settings = .error failure := by
  rw [scheduleNextWake, unlisted]
  rfl

theorem handleTick_of_off (off : settings.enabled = false) :
    handleTick store clock settings = .ok .disabled := by
  simp [handleTick, off]

theorem handleTick_of_unlisted (on : settings.enabled = true)
    (unlisted : RuleStore.enabledSleepRules store = .error failure) :
    handleTick store clock settings = .error failure := by
  rw [handleTick, if_pos on, unlisted]
  rfl

theorem handleTick_of_quiet (on : settings.enabled = true) (quiet : DueNow store clock none) :
    handleTick store clock settings = .ok .idle := by
  rcases quiet with ⟨rules, listed, missing⟩
  rw [← dueSleepRule?_eq_find?] at missing
  simp only [handleTick, on, listed, missing, if_true, bind, Except.bind]
  rfl

theorem handleTick_of_due (on : settings.enabled = true) {rule : SleepRule}
    (due : DueNow store clock (some rule)) : handleTick store clock settings =
      suspendOrPowerOff rule settings (scheduleNextWake store clock settings) := by
  rcases due with ⟨rules, listed, found⟩
  rw [← dueSleepRule?_eq_find?] at found
  simp only [handleTick, on, listed, found, if_true, bind, Except.bind]

end Branches

section Outcome

variable {σ : Type} [RuleStore σ]

/-- What a tick comes to, and when. A day past the calendar is no reason to power off. -/
inductive TickOutcome (store : σ) (today : Weekday) (now : Moment) (settings : Settings) :
    Except ScheduleError TickDecision → Prop
  | disabled (off : settings.enabled = false) : TickOutcome store today now settings (.ok .disabled)
  | sleepUnlisted (on : settings.enabled = true) (failure : ScheduleError)
      (unlisted : RuleStore.enabledSleepRules store = .error failure) :
      TickOutcome store today now settings (.error failure)
  | idle (on : settings.enabled = true) (quiet : DueNow store (.showing today now) none) :
      TickOutcome store today now settings (.ok .idle)
  | wakeUnlisted (on : settings.enabled = true) (rule : SleepRule)
      (due : DueNow store (.showing today now) (some rule)) (failure : ScheduleError)
      (unlisted : RuleStore.enabledWakeRules store = .error failure) :
      TickOutcome store today now settings (.error failure)
  | powerOff (on : settings.enabled = true) (rule : SleepRule)
      (due : DueNow store (.showing today now) (some rule)) (rules : List WakeRule)
      (listed : RuleStore.enabledWakeRules store = .ok rules) (never : ¬SomeActive rules)
      (asked : settings.shutdownOnFailure = true) :
      TickOutcome store today now settings (.ok (.powerOff rule))
  | stayOn (on : settings.enabled = true) (rule : SleepRule)
      (due : DueNow store (.showing today now) (some rule)) (rules : List WakeRule)
      (listed : RuleStore.enabledWakeRules store = .ok rules) (never : ¬SomeActive rules)
      (unasked : settings.shutdownOnFailure = false) :
      TickOutcome store today now settings (.error .nothingScheduled)
  | suspend (on : settings.enabled = true) (rule : SleepRule)
      (due : DueNow store (.showing today now) (some rule)) (order : Invocation)
      (scheduled : scheduleNextWake store (.showing today now) settings = .ok order) :
      TickOutcome store today now settings (.ok (.suspend rule order))
  | pastCalendar (on : settings.enabled = true) (rule : SleepRule)
      (due : DueNow store (.showing today now) (some rule)) (days : Nat)
      (overflow : scheduleNextWake store (.showing today now) settings =
        .error (.violation (.dateOverflow days now.date))) :
      TickOutcome store today now settings (.error (.violation (.dateOverflow days now.date)))

/-- A listing fails for reasons of the store, never because nothing is scheduled. -/
structure ListsOrFails (store : σ) : Prop where
  wake : RuleStore.enabledWakeRules store ≠ .error .nothingScheduled
  sleep : RuleStore.enabledSleepRules store ≠ .error .nothingScheduled

variable {store : σ} {today : Weekday} {now : Moment} {settings : Settings}
  {rules : List WakeRule}

theorem scheduleNextWake_of_never (listed : RuleStore.enabledWakeRules store = .ok rules)
    (never : ¬SomeActive rules) :
    scheduleNextWake store (.showing today now) settings = .error .nothingScheduled := by
  rw [scheduleNextWake_eq_nextOrder listed]
  rcases nextOrder_cases settings today now rules with ⟨_, outcome⟩ | ⟨days, rule, next, _⟩
  · exact outcome
  · exact absurd (someActive_of_firesOn next.upcoming.1 next.upcoming.2.1) never

theorem TickOutcome.eq {outcome : Except ScheduleError TickDecision} (sound : ListsOrFails store)
    (comes : TickOutcome store today now settings outcome) :
    handleTick store (.showing today now) settings = outcome := by
  cases comes with
  | disabled off => exact handleTick_of_off off
  | sleepUnlisted on failure unlisted => exact handleTick_of_unlisted on unlisted
  | idle on quiet => exact handleTick_of_quiet on quiet
  | wakeUnlisted on rule due failure unlisted =>
      have other : failure ≠ .nothingScheduled := by
        rintro rfl
        exact sound.wake unlisted
      rw [handleTick_of_due on due, scheduleNextWake_of_unlisted unlisted]
      cases failure with
      | nothingScheduled => exact absurd rfl other
      | violation | ruleNotFound | store => rfl
  | powerOff on rule due rules listed never asked =>
      rw [handleTick_of_due on due, scheduleNextWake_of_never listed never]
      exact if_pos asked
  | stayOn on rule due rules listed never unasked =>
      rw [handleTick_of_due on due, scheduleNextWake_of_never listed never]
      exact if_neg (Bool.eq_false_iff.mp unasked)
  | suspend on rule due order scheduled => rw [handleTick_of_due on due, scheduled]; rfl
  | pastCalendar on rule due days overflow => rw [handleTick_of_due on due, overflow]; rfl

theorem TickOutcome.exists_of_due (on : settings.enabled = true) {rule : SleepRule}
    (due : DueNow store (.showing today now) (some rule)) :
    ∃ outcome, TickOutcome store today now settings outcome := by
  cases listed : RuleStore.enabledWakeRules store with
  | error failure => exact ⟨_, .wakeUnlisted on rule due failure listed⟩
  | ok rules =>
      have scheduled := scheduleNextWake_eq_nextOrder listed today now settings
      rcases nextOrder_cases settings today now rules with
        ⟨never, _⟩ | ⟨days, next, _, ⟨date, _, order⟩ | ⟨_, overflow⟩⟩
      · cases asked : settings.shutdownOnFailure with
        | false => exact ⟨_, .stayOn on rule due rules listed never asked⟩
        | true => exact ⟨_, .powerOff on rule due rules listed never asked⟩
      · exact ⟨_, .suspend on rule due _ (scheduled.trans order)⟩
      · exact ⟨_, .pastCalendar on rule due days (scheduled.trans overflow)⟩

theorem handleTick_outcome (store : σ) (today : Weekday) (now : Moment) (settings : Settings)
    (sound : ListsOrFails store) :
    TickOutcome store today now settings (handleTick store (.showing today now) settings) := by
  have comes : ∃ outcome, TickOutcome store today now settings outcome := by
    cases on : settings.enabled with
    | false => exact ⟨_, .disabled on⟩
    | true =>
        cases listed : RuleStore.enabledSleepRules store with
        | error failure => exact ⟨_, .sleepUnlisted on failure listed⟩
        | ok rules =>
            cases found : rules.find? (SleepRule.dueAt · today now.time) with
            | none => exact ⟨_, .idle on ⟨rules, listed, found⟩⟩
            | some rule => exact TickOutcome.exists_of_due on ⟨rules, listed, found⟩
  -- Each outcome is what the tick answers under its conditions, so the one found is the answer.
  rcases comes with ⟨outcome, comes⟩
  rwa [comes.eq sound]

theorem handleTick_eq_nothingScheduled_iff (sound : ListsOrFails store) :
    handleTick store (.showing today now) settings = .error .nothingScheduled ↔
      settings.enabled = true ∧ settings.shutdownOnFailure = false ∧
        (∃ rule, DueNow store (.showing today now) (some rule)) ∧
        ∃ rules, RuleStore.enabledWakeRules store = .ok rules ∧ ¬SomeActive rules := by
  constructor
  · intro decided
    have comes := handleTick_outcome store today now settings sound
    rw [decided] at comes
    cases comes with
    | sleepUnlisted _ _ unlisted => exact absurd unlisted sound.sleep
    | wakeUnlisted _ _ _ _ unlisted => exact absurd unlisted sound.wake
    | stayOn on rule due rules listed never unasked =>
        exact ⟨on, unasked, ⟨rule, due⟩, rules, listed, never⟩
  · rintro ⟨on, unasked, ⟨rule, due⟩, rules, listed, never⟩
    exact (TickOutcome.stayOn on rule due rules listed never unasked).eq sound

theorem not_firing_of_never (never : ¬SomeActive rules) (moment : Moment) :
    ¬Firing rules moment := by
  rintro ⟨rule, member, fires⟩
  simp only [WakeRule.firesAt, Bool.and_eq_true] at fires
  exact never (someActive_of_firesOn member fires.1)

theorem instant_lt_of_scheduled {order : Invocation}
    (scheduled : scheduleNextWake store (.showing today now) settings = .ok order) :
    now.instant < order.wakeAt.instant := by
  obtain ⟨rules, listed, _⟩ := bind_eq_ok.mp scheduled
  rw [scheduleNextWake_eq_nextOrder listed] at scheduled
  rcases nextOrder_cases settings today now rules with
    ⟨_, outcome⟩ | ⟨days, rule, next, ⟨date, number, outcome⟩ | ⟨_, outcome⟩⟩
  · rw [outcome] at scheduled
    cases scheduled
  · rw [outcome] at scheduled
    cases scheduled
    exact next.upcoming.instant_lt number
  · rw [outcome] at scheduled
    cases scheduled

/-- How a tick decides over a store, and what that comes to: an alarm that is set rings later, the
machine stays on for want of one only where no wake rule has a day, and where the power goes off
without one no wake rule ever fires. -/
structure TickConduct (store : σ) (today : Weekday) (now : Moment) (settings : Settings) :
    Prop where
  decides : ∀ outcome, handleTick store (.showing today now) settings = outcome ↔
    TickOutcome store today now settings outcome
  ringsLater : ∀ rule order,
    handleTick store (.showing today now) settings = .ok (.suspend rule order) →
      now.instant < order.wakeAt.instant
  unscheduled : handleTick store (.showing today now) settings = .error .nothingScheduled ↔
    settings.enabled = true ∧ settings.shutdownOnFailure = false ∧
      (∃ rule, DueNow store (.showing today now) (some rule)) ∧
      ∃ rules, RuleStore.enabledWakeRules store = .ok rules ∧ ¬SomeActive rules
  offForGood : ∀ rule, handleTick store (.showing today now) settings = .ok (.powerOff rule) →
    ∃ rules, RuleStore.enabledWakeRules store = .ok rules ∧ ∀ moment, ¬Firing rules moment

theorem ListsOrFails.tickConduct (sound : ListsOrFails store) (today : Weekday) (now : Moment)
    (settings : Settings) : TickConduct store today now settings := by
  have comes := handleTick_outcome store today now settings sound
  refine ⟨?_, ?_, handleTick_eq_nothingScheduled_iff sound, ?_⟩
  · intro outcome
    constructor
    · rintro rfl
      exact comes
    · intro comes
      exact comes.eq sound
  · intro rule order decided
    exact instant_lt_of_scheduled (handleTick_eq_suspend decided).2
  · intro rule decided
    rw [decided] at comes
    cases comes with
    | powerOff on _ due rules listed never asked =>
        exact ⟨rules, listed, not_firing_of_never never⟩

theorem MemoryStore.listsOrFails (store : MemoryStore) : ListsOrFails store where
  wake := by
    intro wrong
    cases wrong
  sleep := by
    intro wrong
    cases wrong

theorem mapError_ne_nothingScheduled {β : Type} (answer : Except StoreError β) :
    answer.mapError StoreError.toScheduleError ≠ .error .nothingScheduled := by
  intro wrong
  cases answer with
  | ok rules => cases wrong
  | error failure => cases failure <;> cases wrong

theorem Database.listsOrFails (db : Database) : ListsOrFails db where
  wake := mapError_ne_nothingScheduled db.enabledWakeRules
  sleep := mapError_ne_nothingScheduled db.enabledSleepRules

end Outcome

section PowerOff

theorem Deed.powerOff_mem_calls (deed : Deed) : .powerOff ∈ deed.calls ↔ deed = .powerOff := by
  cases deed with
  | nothing | say | runCommand | powerOff => simp [calls]
  | arm order => cases order.preCommand <;> simp [calls]

variable (clock : Clock) (db : Database)

theorem tickDeed_eq_powerOff_iff : tickDeed clock db = .ok .powerOff ↔
    ∃ settings rule, db.readSettings = .ok settings ∧
      handleTick db clock settings = .ok (.powerOff rule) := by
  constructor
  · intro decides
    obtain ⟨settings, read, decides⟩ := bind_eq_ok.mp decides
    refine ⟨settings, ?_⟩
    cases outcome : handleTick db clock settings with
    | ok decision =>
        rw [outcome] at decides
        cases decision with
        | powerOff rule => exact ⟨rule, mapError_eq_ok.mp read, rfl⟩
        | disabled | idle | suspend => cases decides
    | error failure =>
        rw [outcome] at decides
        cases failure <;> cases decides
  · rintro ⟨settings, rule, read, decided⟩
    rw [tickDeed, read]
    change tickedDeed (handleTick db clock settings) = _
    rw [decided]
    rfl

theorem tick_powers_off_iff (dryRun : Bool) (runner : Runner) :
    .powerOff ∈ ((Command.tick dryRun).run clock runner db).calls ↔ dryRun = false ∧
      ∃ settings rule, db.readSettings = .ok settings ∧
        handleTick db clock settings = .ok (.powerOff rule) := by
  rw [← tickDeed_eq_powerOff_iff]
  change .powerOff ∈ (Outcome.ofDeed dryRun runner db (tickDeed clock db)).calls ↔ _
  cases decides : tickDeed clock db with
  | error failure => simp [Outcome.ofDeed_failed]
  | ok deed =>
      cases dryRun with
      | true => simp [Outcome.ofDeed_announced]
      | false => simp [Outcome.ofDeed_done, Deed.powerOff_mem_calls]

end PowerOff

/-- Over both stores, whatever they hold, a tick comes to one outcome for one reason, and the power
goes off only where nothing is left that could have woken the machine. The command for a tick powers
off in that case alone. -/
theorem ticks_decide_in_one_way (today : Weekday) (now : Moment) (settings : Settings) :
    (∀ store : MemoryStore, TickConduct store today now settings) ∧
    (∀ db : Database, TickConduct db today now settings) ∧
    ∀ (clock : Clock) (db : Database) (dryRun : Bool) (runner : Runner),
      .powerOff ∈ ((Command.tick dryRun).run clock runner db).calls ↔ dryRun = false ∧
        ∃ settings rule, db.readSettings = .ok settings ∧
          handleTick db clock settings = .ok (.powerOff rule) := by
  refine ⟨?_, ?_, ?_⟩
  · intro store
    exact store.listsOrFails.tickConduct today now settings
  · intro db
    exact db.listsOrFails.tickConduct today now settings
  · intro clock db dryRun runner
    exact tick_powers_off_iff clock db dryRun runner

def darkDatabase : Database :=
  let never : WakeRule := wakeRule "never" ⟨6, 30, 0⟩ Mask.empty none .mem
  { mondayDatabase with
    wake := ⟨[⟨1, .ofRule never⟩], 1⟩
    settings := some (.ofSettings { defaultSettings with shutdownOnFailure := true }) }

theorem power_goes_off_on_monday :
    let settings := { defaultSettings with shutdownOnFailure := true }
    let now : Moment := ⟨⟨2026, 1, 5, by decide⟩, ⟨23, 4, 59⟩⟩
    let runner : Runner := fun _ => .ok ⟨"shutdown", some 0⟩
    (∃ rule, handleTick darkDatabase (.showing .monday now) settings = .ok (.powerOff rule)) ∧
      ((Command.tick false).run (.showing .monday now) runner darkDatabase).calls = [.powerOff] ∧
      ∃ rules, RuleStore.enabledWakeRules darkDatabase = .ok rules ∧ rules.length = 1 ∧
        ∀ moment, ¬Firing rules moment := by
  intro settings now runner
  let night : SleepRule := (sleepRule "night" ⟨23, 0⟩ (.ofDays [.monday])).withId 1
  have decided : handleTick darkDatabase (.showing .monday now) settings =
      .ok (.powerOff night) := by decide
  have calls : ((Command.tick false).run (.showing .monday now) runner darkDatabase).calls =
      [.powerOff] := by decide
  have conduct := (ticks_decide_in_one_way .monday now settings).2.1 darkDatabase
  obtain ⟨rules, listed, never⟩ := conduct.offForGood night decided
  have one : (RuleStore.enabledWakeRules darkDatabase).map (·.length) = .ok 1 := by decide
  rw [listed] at one
  exact ⟨⟨night, decided⟩, calls, rules, listed, Except.ok.inj one, never⟩

end WakeSchedule
