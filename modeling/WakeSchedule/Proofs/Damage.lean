import WakeSchedule.Proofs.Store.Agreement
import WakeSchedule.Proofs.Store.Shelf
import WakeSchedule.Proofs.Tick

namespace WakeSchedule

section Decide

theorem Untroubled.of_eq_ok {β : Type} {answer : Except ScheduleError β} {value : β}
    (answered : answer = .ok value) : Untroubled answer := by
  rw [answered]
  exact .ok value

variable {σ : Type} [RuleStore σ]

theorem scheduleNextWake_eq_store_iff (store : σ) (clock : Clock) (settings : Settings)
    (cause : StoreError) : scheduleNextWake store clock settings = .error (.store cause) ↔
      RuleStore.enabledWakeRules store = .error (.store cause) := by
  cases listed : RuleStore.enabledWakeRules store with
  | error failure => rw [scheduleNextWake_of_unlisted listed]; simp
  | ok rules =>
      constructor
      · intro failed
        exact absurd failed (scheduleNextWake_untroubled (.of_eq_ok listed) clock settings cause)
      · intro wrong
        cases wrong

theorem suspendOrPowerOff_eq_store_iff (rule : SleepRule) (settings : Settings)
    (outcome : Except ScheduleError Invocation) (cause : StoreError) :
    suspendOrPowerOff rule settings outcome = .error (.store cause) ↔
      outcome = .error (.store cause) := by
  cases outcome with
  | ok order => simp [suspendOrPowerOff]
  | error failure =>
      cases failure with
      | nothingScheduled =>
          cases asked : settings.shutdownOnFailure <;> simp [suspendOrPowerOff, asked]
      | violation | ruleNotFound | store => simp [suspendOrPowerOff]

theorem handleBoot_eq_store_iff (store : σ) (clock : Clock) (settings : Settings)
    (cause : StoreError) : handleBoot store clock settings = .error (.store cause) ↔
      settings.enabled = true ∧ settings.commandsEnabled = true ∧
        RuleStore.enabledWakeRules store = .error (.store cause) := by
  cases on : settings.enabled && settings.commandsEnabled with
  | false =>
      have answer : handleBoot store clock settings = .ok .disabled := by simp [handleBoot, on]
      rw [answer]
      constructor
      · intro wrong
        cases wrong
      · rintro ⟨enabled, commands, _⟩
        rw [enabled, commands] at on
        cases on
  | true =>
      have both := (Bool.and_eq_true _ _).mp on
      cases listed : RuleStore.enabledWakeRules store with
      | error failure =>
          have answer : handleBoot store clock settings = .error failure := by
            rw [handleBoot, if_pos on, listed]
            rfl
          rw [answer]
          simp [both]
      | ok rules =>
          constructor
          · intro failed
            exact absurd failed (handleBoot_untroubled (.of_eq_ok listed) clock settings cause)
          · rintro ⟨_, _, wrong⟩
            cases wrong

theorem handleTick_eq_store_iff (store : σ) (clock : Clock) (settings : Settings)
    (cause : StoreError) : handleTick store clock settings = .error (.store cause) ↔
      settings.enabled = true ∧ (RuleStore.enabledSleepRules store = .error (.store cause) ∨
        (∃ rule, DueNow store clock (some rule)) ∧
          RuleStore.enabledWakeRules store = .error (.store cause)) := by
  cases on : settings.enabled with
  | false => simp [handleTick_of_off on]
  | true =>
      cases listed : RuleStore.enabledSleepRules store with
      | error failure => simp [handleTick_of_unlisted on listed, DueNow, listed]
      | ok rules =>
          cases due : rules.find? (SleepRule.dueAt · clock.weekday clock.time) with
          | none =>
              have quiet : DueNow store clock none := ⟨rules, listed, due⟩
              simp [handleTick_of_quiet on quiet, DueNow, listed, due]
          | some rule =>
              have now : DueNow store clock (some rule) := ⟨rules, listed, due⟩
              rw [handleTick_of_due on now, suspendOrPowerOff_eq_store_iff,
                scheduleNextWake_eq_store_iff]
              constructor
              · intro unlisted
                exact ⟨rfl, Or.inr ⟨⟨rule, now⟩, unlisted⟩⟩
              · rintro ⟨_, wrong | ⟨_, unlisted⟩⟩
                · cases wrong
                · exact unlisted

/-- The decisions that the failure of a listing reaches are those that need it. A tick needs the
wake rules only where a sleep rule is due. -/
structure FailureReaches (store : σ) : Prop where
  schedule : ∀ clock settings cause,
    scheduleNextWake store clock settings = .error (.store cause) ↔
      RuleStore.enabledWakeRules store = .error (.store cause)
  boot : ∀ clock settings cause, handleBoot store clock settings = .error (.store cause) ↔
    settings.enabled = true ∧ settings.commandsEnabled = true ∧
      RuleStore.enabledWakeRules store = .error (.store cause)
  tick : ∀ clock settings cause, handleTick store clock settings = .error (.store cause) ↔
    settings.enabled = true ∧ (RuleStore.enabledSleepRules store = .error (.store cause) ∨
      (∃ rule, DueNow store clock (some rule)) ∧
        RuleStore.enabledWakeRules store = .error (.store cause))

theorem failureReaches (store : σ) : FailureReaches store :=
  ⟨scheduleNextWake_eq_store_iff store, handleBoot_eq_store_iff store,
    handleTick_eq_store_iff store⟩

end Decide

structure SameAnswers (first second : Database) : Prop where
  schedule : ∀ clock settings,
    scheduleNextWake second clock settings = scheduleNextWake first clock settings
  tick : ∀ clock settings, handleTick second clock settings = handleTick first clock settings
  boot : ∀ clock settings, handleBoot second clock settings = handleBoot first clock settings
  insertWake : ∀ rule, (RuleStore.insertWake rule second).1 = (RuleStore.insertWake rule first).1
  insertSleep : ∀ rule, (RuleStore.insertSleep rule second).1 = (RuleStore.insertSleep rule first).1

theorem sameAnswers_of_sameEnabled {first second : Database}
    (wake : wakeShelf.SameEnabled first second) (sleep : sleepShelf.SameEnabled first second) :
    SameAnswers first second := by
  have wakeRules : RuleStore.enabledWakeRules second = RuleStore.enabledWakeRules first :=
    wakeShelf_lawful.enabledRules_congr wake
  have sleepRules : RuleStore.enabledSleepRules second = RuleStore.enabledSleepRules first :=
    sleepShelf_lawful.enabledRules_congr sleep
  have schedule : ∀ clock settings,
      scheduleNextWake second clock settings = scheduleNextWake first clock settings := by
    intro clock settings
    simp only [scheduleNextWake, wakeRules]
  refine ⟨schedule, ?_, ?_, wakeShelf_lawful.insert_congr wake,
    sleepShelf_lawful.insert_congr sleep⟩
  · intro clock settings
    simp only [handleTick, sleepRules, schedule]
  · intro clock settings
    simp only [handleBoot, wakeRules]

/-- Rows of any texts, under ascending numbers. What reads them fails and names the first that is
damaged, inserts are blocked by enabled ones alone, deletions by none, and the kinds keep apart. A
decision fails only where it needs a listing that does, and rows that are not enabled leave it and
every insert as they are. -/
theorem damage_is_contained {db : Database} (wake : db.wake.ids.Pairwise (· < ·))
    (sleep : db.sleep.ids.Pairwise (· < ·)) :
    wakeShelf.Contained db ∧ sleepShelf.Contained db ∧ wakeShelf.Apart sleepShelf ∧
      sleepShelf.Apart wakeShelf ∧ FailureReaches db ∧
      ∀ other, wakeShelf.SameEnabled db other → sleepShelf.SameEnabled db other →
        SameAnswers db other := by
  refine ⟨wakeShelf_lawful.contained wake, sleepShelf_lawful.contained sleep, ?_, ?_,
    failureReaches db, ?_⟩
  · exact wakeShelf_lawful.apart (fun _ _ => rfl) fun _ _ _ => rfl
  · exact sleepShelf_lawful.apart (fun _ _ => rfl) fun _ _ _ => rfl
  · intro other sameWake sameSleep
    exact sameAnswers_of_sameEnabled sameWake sameSleep

/-- Between two sound rows a mode that is none, in a row that is not enabled; after them a time that
is none, in an enabled row. -/
def damagedDatabase : Database :=
  let sound : WakeRow := .ofRule (wakeRule "early" ⟨6, 30, 0⟩ (.ofDays [.tuesday]) none .mem)
  { mondayDatabase with
    wake := ⟨[⟨1, sound⟩, ⟨2, { sound with mode := "nap", enabled := 0 }⟩,
      ⟨3, { sound with name := "late", time := "073000" }⟩,
      ⟨5, { sound with time := "250000", mode := "nap" }⟩], 5⟩ }

/-- Until the enabled row is deleted no wake rule can be stored, not even a disabled one, and a tick
fails too, but only at night. -/
theorem damage_is_contained_on_monday :
    let late : StoreError := .unreadable (.rule 5 (.time (.outOfRange "250000" .hour 25)))
    let disabled : WakeRule := (wakeRule "idle" ⟨9, 0, 0⟩ .everyDay none .mem).withEnabled false
    let noon : Clock := .ofMoment ⟨⟨2026, 1, 5, by decide⟩, ⟨12, 0, 0⟩⟩
    damagedDatabase.wake.ids.Pairwise (· < ·) ∧ damagedDatabase.sleep.ids.Pairwise (· < ·) ∧
      RuleStore.wakeRules damagedDatabase =
        .error (.store (.unreadable (.rule 2 (.powerMode "nap")))) ∧
      RuleStore.insertWake disabled damagedDatabase = (.error (.store late), damagedDatabase) ∧
      handleTick damagedDatabase noon defaultSettings = .ok .idle ∧
      handleTick damagedDatabase mondayNight defaultSettings = .error (.store late) ∧
      ∃ later, RuleStore.delete .wake 5 damagedDatabase = (.ok (), later) ∧
        (RuleStore.insertWake disabled later).1 = .ok 6 := by
  intro late disabled noon
  have wake : damagedDatabase.wake.ids.Pairwise (· < ·) := by decide
  have sleep : damagedDatabase.sleep.ids.Pairwise (· < ·) := by decide
  rcases damage_is_contained wake sleep with ⟨contained, _, _, _, reaches, _⟩
  have unlisted : RuleStore.enabledWakeRules damagedDatabase = .error (.store late) := by decide
  refine ⟨wake, sleep, by decide, ?_, by decide, ?_, ?_⟩
  · obtain ⟨cause, blocked⟩ :=
      (contained.blocked disabled).mpr (contained.enabledListed.fails.mp ⟨_, unlisted⟩)
    have same := (contained.cause disabled cause).mp (congrArg (·.1) blocked)
    cases same.symm.trans unlisted
    exact blocked
  · let night : SleepRule := (sleepRule "night" ⟨23, 0⟩ (.ofDays [.monday])).withId 1
    have due : DueNow damagedDatabase mondayNight (some night) := ⟨[night], by decide, by decide⟩
    exact (reaches.tick mondayNight defaultSettings late).mpr
      ⟨rfl, Or.inr ⟨⟨night, due⟩, unlisted⟩⟩
  · obtain ⟨later, deleted, _⟩ := contained.deletes 5 (by decide)
    refine ⟨later, deleted, ?_⟩
    have left : (RuleStore.delete .wake 5 damagedDatabase).2 = later := congrArg (·.2) deleted
    rw [← left]
    decide

end WakeSchedule
