import WakeSchedule.Decision
import WakeSchedule.Proofs.Calendar.Instant

namespace WakeSchedule

section Except

variable {ε δ α β : Type}

theorem bind_eq_ok {answer : Except ε α} {next : α → Except ε β} {result : β} :
    (answer >>= next) = .ok result ↔ ∃ value, answer = .ok value ∧ next value = .ok result := by
  cases answer with
  | error failure => simp [bind, Except.bind]
  | ok value => simp [bind, Except.bind]

theorem mapError_eq_ok {answer : Except ε α} {cause : ε → δ} {result : α} :
    answer.mapError cause = .ok result ↔ answer = .ok result := by
  cases answer with
  | error failure => exact ⟨nofun, nofun⟩
  | ok value =>
      constructor
      · intro same
        cases same
        rfl
      · intro same
        cases same
        rfl

theorem isOk_map (f : α → β) (answer : Except ε α) : (answer.map f).isOk = answer.isOk := by
  cases answer <;> rfl

theorem isOk_mapError (cause : ε → δ) (answer : Except ε α) :
    (answer.mapError cause).isOk = answer.isOk := by
  cases answer <;> rfl

theorem mapError_violation (answer : Except Violation β) :
    (answer.mapError StoreError.violation).mapError StoreError.toScheduleError =
      answer.mapError ScheduleError.violation := by
  cases answer <;> rfl

end Except

theorem Invocation.onDate_eq (date : Date) (rule : WakeRule) (options : String) :
    onDate date rule options = .ok (ofRule date rule options) := by
  rw [onDate, rule.time.clockTime_eq]
  rfl

section Decide

variable {σ : Type} [RuleStore σ] {store : σ} {clock : Clock} {settings : Settings}
  {order : Invocation}

/-- The order that is scheduled is that of some rule, without its command while commands are off. -/
theorem exists_rule_of_scheduled (scheduled : scheduleNextWake store clock settings = .ok order) :
    ∃ date rule, order = if settings.commandsEnabled then .ofRule date rule settings.options
      else (Invocation.ofRule date rule settings.options).withoutCommand := by
  obtain ⟨rules, _, scheduled⟩ := bind_eq_ok.mp scheduled
  split at scheduled
  next => cases scheduled
  next occurrence _ =>
    obtain ⟨date, _, scheduled⟩ := bind_eq_ok.mp scheduled
    rw [Invocation.onDate_eq] at scheduled
    cases scheduled
    exact ⟨date, occurrence.rule, rfl⟩

theorem options_of_scheduled (scheduled : scheduleNextWake store clock settings = .ok order) :
    order.options = settings.options := by
  obtain ⟨date, rule, rfl⟩ := exists_rule_of_scheduled scheduled
  split <;> rfl

theorem commands_of_scheduled (scheduled : scheduleNextWake store clock settings = .ok order)
    {text : String} (carries : order.command = some text) : settings.commandsEnabled = true := by
  obtain ⟨date, rule, rfl⟩ := exists_rule_of_scheduled scheduled
  split at carries
  next on => exact on
  next => cases carries

theorem suspendOrPowerOff_eq_suspend {due rule : SleepRule}
    {outcome : Except ScheduleError Invocation}
    (decided : suspendOrPowerOff due settings outcome = .ok (.suspend rule order)) :
    outcome = .ok order := by
  unfold suspendOrPowerOff at decided
  split at decided
  · cases decided
    rfl
  · split at decided <;> cases decided
  · cases decided

theorem suspendOrPowerOff_eq_powerOff {due rule : SleepRule}
    {outcome : Except ScheduleError Invocation}
    (decided : suspendOrPowerOff due settings outcome = .ok (.powerOff rule)) :
    outcome = .error .nothingScheduled ∧ settings.shutdownOnFailure = true := by
  unfold suspendOrPowerOff at decided
  split at decided
  · cases decided
  · split at decided
    next asked => exact ⟨rfl, asked⟩
    next => cases decided
  · cases decided

theorem handleTick_eq_ok {decision : TickDecision}
    (decided : handleTick store clock settings = .ok decision) :
    decision = .disabled ∨ decision = .idle ∨ settings.enabled = true ∧ ∃ due,
      suspendOrPowerOff due settings (scheduleNextWake store clock settings) = .ok decision := by
  unfold handleTick at decided
  split at decided
  next on =>
    obtain ⟨rules, _, decided⟩ := bind_eq_ok.mp decided
    split at decided
    · cases decided
      exact Or.inr (Or.inl rfl)
    · exact Or.inr (Or.inr ⟨on, _, decided⟩)
  next =>
    cases decided
    exact Or.inl rfl

theorem handleTick_eq_suspend {rule : SleepRule}
    (decided : handleTick store clock settings = .ok (.suspend rule order)) :
    settings.enabled = true ∧ scheduleNextWake store clock settings = .ok order := by
  rcases handleTick_eq_ok decided with wrong | wrong | ⟨on, due, decided⟩
  · cases wrong
  · cases wrong
  · exact ⟨on, suspendOrPowerOff_eq_suspend decided⟩

theorem handleTick_eq_powerOff {rule : SleepRule}
    (decided : handleTick store clock settings = .ok (.powerOff rule)) :
    settings.enabled = true ∧ scheduleNextWake store clock settings = .error .nothingScheduled ∧
      settings.shutdownOnFailure = true := by
  rcases handleTick_eq_ok decided with wrong | wrong | ⟨on, due, decided⟩
  · cases wrong
  · cases wrong
  · exact ⟨on, suspendOrPowerOff_eq_powerOff decided⟩

theorem handleBoot_eq_runCommand {rule : WakeRule} {text : String}
    (decided : handleBoot store clock settings = .ok (.runCommand rule text)) :
    (settings.enabled = true ∧ settings.commandsEnabled = true) ∧
      rule.action.command = some text ∧
      ∃ rules, RuleStore.enabledWakeRules store = .ok rules ∧
        bootedRule? clock.weekday clock.time rules settings.bootTime.toNat = some rule := by
  unfold handleBoot at decided
  split at decided
  next on =>
    obtain ⟨rules, listed, decided⟩ := bind_eq_ok.mp decided
    split at decided
    · cases decided
    next booted found =>
      split at decided
      · cases decided
      next command carried =>
        cases decided
        exact ⟨by simpa using on, carried, rules, listed, found⟩
  next => cases decided

end Decide

section Order

variable {text options : String} {mode : PowerMode} {order : Invocation}

theorem Invocation.manual_eq_ok (made : manual text mode options = .ok order) :
    order.options = options ∧ order.command = none := by
  obtain ⟨wakeAt, _, made⟩ := bind_eq_ok.mp made
  cases made
  exact ⟨rfl, rfl⟩

theorem Invocation.preCommand_eq_some (first : order.preCommand = some text) :
    order.command = some text ∧ text ≠ "" := by
  rcases Option.filter_eq_some_iff.mp first with ⟨carries, something⟩
  refine ⟨carries, ?_⟩
  rintro rfl
  exact absurd something (by decide)

end Order

end WakeSchedule
