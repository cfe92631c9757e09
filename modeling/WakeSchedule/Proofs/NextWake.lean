import WakeSchedule.Proofs.Agenda
import WakeSchedule.Proofs.Decision
import WakeSchedule.Store.Memory

namespace WakeSchedule

/-- An enabled wake rule fires on each of its weekdays, at its time of day. -/
def WakeRule.firesAt (rule : WakeRule) (moment : Moment) : Bool :=
  rule.firesOn moment.date.weekday && rule.time = moment.time

def Firing (rules : List WakeRule) (moment : Moment) : Prop :=
  ∃ rule ∈ rules, WakeRule.firesAt rule moment = true

structure NextFiring (rules : List WakeRule) (now next : Moment) : Prop where
  fires : Firing rules next
  later : now.instant < next.instant
  least : ∀ moment, Firing rules moment → now.instant < moment.instant →
    next.instant ≤ moment.instant

theorem NextFiring.unique {rules : List WakeRule} {now first second : Moment}
    (one : NextFiring rules now first) (other : NextFiring rules now second) : first = second := by
  apply Moment.instant_injective
  apply Int.le_antisymm
  · exact one.least second other.fires other.later
  · exact other.least first one.fires one.later

/-- Some rule is enabled and has a day to fire on. -/
def SomeActive (rules : List WakeRule) : Prop :=
  ∃ rule ∈ rules, rule.enabled = true ∧ Mask.isEmpty rule.days = false

theorem not_someActive_iff (rules : List WakeRule) : ¬SomeActive rules ↔
    ∀ rule ∈ rules, rule.enabled = true → Mask.isEmpty rule.days = true := by
  simp only [SomeActive, not_exists, not_and, Bool.not_eq_false]

theorem someActive_of_firesOn {rules : List WakeRule} {rule : WakeRule} {day : Weekday}
    (listed : rule ∈ rules) (fires : rule.firesOn day = true) : SomeActive rules := by
  by_contra idle
  have never := (Rule.never_fires_iff rule).mpr ((not_someActive_iff rules).mp idle rule listed)
  rw [never day] at fires
  cases fires

section Agenda

variable {rules : List WakeRule} {rule : WakeRule} {now : Moment} {days : Nat}

theorem upcoming_of_firesAt {moment : Moment} (listed : rule ∈ rules)
    (fires : WakeRule.firesAt rule moment = true) (later : now.instant < moment.instant) :
    ∃ ahead : Nat, moment.date.dayNumber = now.date.dayNumber + ahead ∧
      Upcoming now.date.weekday now.time.code rules ahead rule := by
  simp only [WakeRule.firesAt, Bool.and_eq_true, decide_eq_true_eq] at fires
  rcases fires with ⟨onDay, atTime⟩
  have order := (Moment.instant_lt_iff now moment).mp later
  obtain ⟨ahead, number⟩ : ∃ ahead : Nat, moment.date.dayNumber = now.date.dayNumber + ahead :=
    ⟨(moment.date.dayNumber - now.date.dayNumber).toNat, by omega⟩
  refine ⟨ahead, number, listed, ?_, ?_⟩
  · rwa [← Date.weekday_of_dayNumber number]
  · have code : rule.timeCode = moment.time.code := congrArg TimeOfDay.code atTime
    omega

theorem NextUp.days_le (next : NextUp now.date.weekday now.time.code rules days rule)
    {moment : Moment} (fires : Firing rules moment) (later : now.instant < moment.instant) :
    now.date.dayNumber + days ≤ moment.date.dayNumber := by
  rcases fires with ⟨other, listed, firesAt⟩
  rcases upcoming_of_firesAt listed firesAt later with ⟨ahead, number, upcoming⟩
  have order := next.least ahead other upcoming
  omega

theorem Upcoming.instant_lt {today : Weekday} {date : Date}
    (upcoming : Upcoming today now.time.code rules days rule)
    (number : date.dayNumber = now.date.dayNumber + days) :
    now.instant < (⟨date, rule.time⟩ : Moment).instant := by
  rcases upcoming with ⟨_, _, late⟩
  have code : rule.timeCode = rule.time.code := rfl
  rw [Moment.instant_lt_iff]
  simp only
  omega

theorem NextUp.no_firing_of_past (next : NextUp now.date.weekday now.time.code rules days rule)
    (past : Date.lastNumber < now.date.dayNumber + days) :
    ¬∃ moment, Firing rules moment ∧ now.instant < moment.instant := by
  intro firing
  rcases firing with ⟨moment, fires, later⟩
  have order := next.days_le fires later
  have bounds := moment.date.dayNumber_bounds
  omega

theorem NextUp.nextFiring (next : NextUp now.date.weekday now.time.code rules days rule)
    {date : Date} (number : date.dayNumber = now.date.dayNumber + days) :
    NextFiring rules now ⟨date, rule.time⟩ := by
  rcases next.upcoming with ⟨listed, onDay, _⟩
  refine ⟨⟨rule, listed, ?_⟩, next.upcoming.instant_lt number, ?_⟩
  · simp [WakeRule.firesAt, Date.weekday_of_dayNumber number, onDay]
  · intro moment firing later
    rcases firing with ⟨other, otherListed, firesAt⟩
    rcases upcoming_of_firesAt otherListed firesAt later with ⟨ahead, otherNumber, upcoming⟩
    have order := next.least ahead other upcoming
    simp only [WakeRule.firesAt, Bool.and_eq_true, decide_eq_true_eq] at firesAt
    have code : rule.timeCode = rule.time.code := rfl
    have otherCode : other.timeCode = moment.time.code := congrArg TimeOfDay.code firesAt.2
    rw [Moment.instant_le_iff]
    simp only
    omega

theorem NextUp.instant_le (next : NextUp now.date.weekday now.time.code rules days rule)
    {date : Date} (number : date.dayNumber = now.date.dayNumber + days) :
    (⟨date, rule.time⟩ : Moment).instant ≤ now.instant + 7 * 86400 := by
  have start := now.time.seconds_lt
  have finish := rule.time.seconds_lt
  have soon := next.soon
  simp only [Moment.instant, number]
  rcases Nat.lt_or_eq_of_le soon with sooner | week
  · omega
  · subst week
    have passed := (TimeOfDay.code_le_iff rule.time now.time).mp next.code_le_of_week
    omega

theorem NextUp.find?_firesAt (next : NextUp now.date.weekday now.time.code rules days rule)
    {date : Date} (number : date.dayNumber = now.date.dayNumber + days) :
    rules.find? (WakeRule.firesAt · ⟨date, rule.time⟩) = some rule := by
  rw [← next.first]
  apply List.find?_congr
  intro other _
  have same : other.time = rule.time ↔ other.timeCode = rule.timeCode :=
    ⟨congrArg TimeOfDay.code, TimeOfDay.code_injective⟩
  simp only [WakeRule.firesAt, Date.weekday_of_dayNumber number, same]

end Agenda

theorem filter_enabled_filter {τ α : Type} (rules : List (Rule τ α)) {picked : Rule τ α → Bool}
    (enabled : ∀ rule, picked rule = true → rule.enabled = true) :
    (rules.filter (·.enabled)).filter picked = rules.filter picked := by
  rw [List.filter_filter]
  apply List.filter_congr
  intro rule _
  cases pick : picked rule with
  | false => rfl
  | true => rw [enabled rule pick]; rfl

theorem Rule.enabled_of_firesOn {τ α : Type} {rule : Rule τ α} {day : Weekday}
    (fires : rule.firesOn day = true) : rule.enabled = true :=
  ((Bool.and_eq_true _ _).mp fires).1

theorem nextOccurrence?_enabled (today : Weekday) (now : Nat) (rules : List WakeRule) :
    nextOccurrence? today now (rules.filter (·.enabled)) = nextOccurrence? today now rules := by
  have onDay : ∀ day, firstOn? day (rules.filter (·.enabled)) = firstOn? day rules := by
    intro day
    rw [firstOn?, firstOn?, filter_enabled_filter]
    intro rule fires
    exact Rule.enabled_of_firesOn fires
  have later : laterToday? today now (rules.filter (·.enabled)) = laterToday? today now rules := by
    rw [laterToday?, laterToday?, filter_enabled_filter]
    intro rule coming
    exact Rule.enabled_of_firesOn ((Bool.and_eq_true _ _).mp coming).1
  simp only [nextOccurrence?, onDay, later]

def alarmOrder (settings : Settings) (date : Date) (rule : WakeRule) : Invocation :=
  { wakeAt := ⟨date, rule.time⟩, mode := rule.action.mode,
    command := if settings.commandsEnabled then rule.action.command else none,
    options := settings.options }

/-- A clock that adds days as the calendar does, whatever day of the week it shows. -/
def Clock.showing (today : Weekday) (now : Moment) : Clock :=
  { weekday := today, time := now.time, date := now.date }

def nextOrder (settings : Settings) (today : Weekday) (now : Moment) (rules : List WakeRule) :
    Except ScheduleError Invocation :=
  match nextOccurrence? today now.time.code rules with
  | none => .error .nothingScheduled
  | some occurrence =>
      match now.date.addDays occurrence.daysAhead with
      | .ok date => .ok (alarmOrder settings date occurrence.rule)
      | .error violation => .error (.violation violation)

/-- All that the next order can come to: no rule ever fires, the day of the next rule is in the
calendar, or it lies past the last date. -/
theorem nextOrder_cases (settings : Settings) (today : Weekday) (now : Moment)
    (rules : List WakeRule) :
    (¬SomeActive rules ∧ nextOrder settings today now rules = .error .nothingScheduled) ∨
    ∃ days rule, NextUp today now.time.code rules days rule ∧
      ((∃ date, date.dayNumber = now.date.dayNumber + days ∧
          nextOrder settings today now rules = .ok (alarmOrder settings date rule)) ∨
        (Date.lastNumber < now.date.dayNumber + days ∧
          nextOrder settings today now rules =
            .error (.violation (.dateOverflow days now.date)))) := by
  unfold nextOrder
  cases found : nextOccurrence? today now.time.code rules with
  | none =>
      have idle := (nextOccurrence?_none _ _ _).mp found
      exact Or.inl ⟨(not_someActive_iff rules).mpr idle, rfl⟩
  | some occurrence =>
      rcases occurrence with ⟨days, rule⟩
      refine Or.inr ⟨days, rule, nextOccurrence?_spec found, ?_⟩
      by_cases within : now.date.dayNumber + days ≤ Date.lastNumber
      · rcases now.date.addDays_ok_of_le days within with ⟨date, reached⟩
        refine Or.inl ⟨date, (Date.addDays_eq_ok _ _ _).mp reached, ?_⟩
        simp only [reached]
      · have past := Int.not_le.mp within
        refine Or.inr ⟨past, ?_⟩
        simp only [Date.addDays_eq_error now.date days past]

section Schedule

variable {σ : Type} [RuleStore σ] {store : σ} {rules : List WakeRule}

theorem scheduleNextWake_eq_nextOrder (listed : RuleStore.enabledWakeRules store = .ok rules)
    (today : Weekday) (now : Moment) (settings : Settings) :
    scheduleNextWake store (.showing today now) settings =
      nextOrder settings today now rules := by
  unfold scheduleNextWake nextOrder
  rw [listed]
  change (match nextOccurrence? today now.time.code rules with
    | none => _ | some occurrence => _) = _
  cases nextOccurrence? today now.time.code rules with
  | none => rfl
  | some occurrence =>
      change ((now.date.addDays occurrence.daysAhead).mapError ScheduleError.violation >>=
        fun date => _) = _
      dsimp only
      cases now.date.addDays occurrence.daysAhead with
      | error violation => rfl
      | ok date =>
          change (Invocation.onDate date occurrence.rule settings.options >>= fun _ => _) = _
          rw [Invocation.onDate_eq]
          change Except.ok _ = Except.ok _
          cases on : settings.commandsEnabled <;>
            simp [alarmOrder, on, Invocation.ofRule, Invocation.withoutCommand]

theorem scheduleNextWake_eq
    (listed : RuleStore.enabledWakeRules store = .ok (rules.filter (·.enabled))) (now : Moment)
    (settings : Settings) :
    scheduleNextWake store (.ofMoment now) settings =
      nextOrder settings now.date.weekday now rules := by
  have order := scheduleNextWake_eq_nextOrder listed now.date.weekday now settings
  rwa [nextOrder, nextOccurrence?_enabled] at order

theorem scheduleNextWake_cases
    (listed : RuleStore.enabledWakeRules store = .ok (rules.filter (·.enabled))) (now : Moment)
    (settings : Settings) :
    (¬SomeActive rules ∧
      scheduleNextWake store (.ofMoment now) settings = .error .nothingScheduled) ∨
    ∃ days rule, NextUp now.date.weekday now.time.code rules days rule ∧
      ((∃ date, date.dayNumber = now.date.dayNumber + days ∧
          scheduleNextWake store (.ofMoment now) settings = .ok (alarmOrder settings date rule)) ∨
        (Date.lastNumber < now.date.dayNumber + days ∧
          scheduleNextWake store (.ofMoment now) settings =
            .error (.violation (.dateOverflow days now.date)))) := by
  rw [scheduleNextWake_eq listed]
  exact nextOrder_cases settings now.date.weekday now rules

theorem scheduleNextWake_eq_ok_iff
    (listed : RuleStore.enabledWakeRules store = .ok (rules.filter (·.enabled))) (now : Moment)
    (settings : Settings) (order : Invocation) :
    scheduleNextWake store (.ofMoment now) settings = .ok order ↔
      NextFiring rules now order.wakeAt ∧ order.options = settings.options ∧
        ∃ rule, rules.find? (WakeRule.firesAt · order.wakeAt) = some rule ∧
          order.mode = rule.action.mode ∧
          order.command = if settings.commandsEnabled then rule.action.command else none := by
  rcases scheduleNextWake_cases listed now settings with
    ⟨idle, outcome⟩ | ⟨days, rule, next, ⟨date, number, outcome⟩ | ⟨past, outcome⟩⟩
  · rw [outcome]
    constructor
    · intro wrong
      cases wrong
    · intro described
      rcases described with ⟨⟨⟨rule, member, fires⟩, _, _⟩, _⟩
      simp only [WakeRule.firesAt, Bool.and_eq_true] at fires
      exact absurd (someActive_of_firesOn member fires.1) idle
  · rw [outcome]
    constructor
    · intro same
      cases same
      exact ⟨next.nextFiring number, rfl, rule, next.find?_firesAt number, rfl, rfl⟩
    · intro described
      rcases described with ⟨firing, options, other, first, mode, command⟩
      have wakeAt := (next.nextFiring number).unique firing
      rw [← wakeAt, next.find?_firesAt number] at first
      cases first
      rcases order with ⟨_, _, _, _⟩
      simp only at wakeAt options mode command
      rw [alarmOrder, wakeAt, ← options, ← mode, ← command]
  · rw [outcome]
    constructor
    · intro wrong
      cases wrong
    · intro described
      rcases described with ⟨firing, _⟩
      exact absurd ⟨order.wakeAt, firing.fires, firing.later⟩ (next.no_firing_of_past past)

theorem scheduleNextWake_succeeds_iff
    (listed : RuleStore.enabledWakeRules store = .ok (rules.filter (·.enabled))) (now : Moment)
    (settings : Settings) :
    (∃ order, scheduleNextWake store (.ofMoment now) settings = .ok order) ↔
      ∃ moment, Firing rules moment ∧ now.instant < moment.instant := by
  constructor
  · intro scheduled
    rcases scheduled with ⟨order, outcome⟩
    have firing := ((scheduleNextWake_eq_ok_iff listed now settings order).mp outcome).1
    exact ⟨order.wakeAt, firing.fires, firing.later⟩
  · intro coming
    rcases coming with ⟨moment, fires, later⟩
    rcases scheduleNextWake_cases listed now settings with
      ⟨idle, _⟩ | ⟨days, rule, next, ⟨date, _, outcome⟩ | ⟨past, _⟩⟩
    · rcases fires with ⟨rule, member, firesAt⟩
      simp only [WakeRule.firesAt, Bool.and_eq_true] at firesAt
      exact absurd (someActive_of_firesOn member firesAt.1) idle
    · exact ⟨_, outcome⟩
    · exact absurd ⟨moment, fires, later⟩ (next.no_firing_of_past past)

/-- The agenda looks seven days ahead, so no alarm is further away. -/
theorem scheduleNextWake_within_week
    (listed : RuleStore.enabledWakeRules store = .ok (rules.filter (·.enabled))) (now : Moment)
    (settings : Settings) (order : Invocation)
    (scheduled : scheduleNextWake store (.ofMoment now) settings = .ok order) :
    order.wakeAt.instant ≤ now.instant + 7 * 86400 := by
  rcases scheduleNextWake_cases listed now settings with
    ⟨_, outcome⟩ | ⟨days, rule, next, ⟨date, number, outcome⟩ | ⟨_, outcome⟩⟩
  · rw [outcome] at scheduled
    cases scheduled
  · rw [outcome] at scheduled
    cases scheduled
    exact next.instant_le number
  · rw [outcome] at scheduled
    cases scheduled

theorem scheduleNextWake_eq_nothing_iff
    (listed : RuleStore.enabledWakeRules store = .ok (rules.filter (·.enabled))) (now : Moment)
    (settings : Settings) :
    scheduleNextWake store (.ofMoment now) settings = .error .nothingScheduled ↔
      ¬SomeActive rules := by
  rcases scheduleNextWake_cases listed now settings with
    ⟨idle, outcome⟩ | ⟨days, rule, next, rest⟩
  · constructor
    · intro _
      exact idle
    · intro _
      exact outcome
  · have active := someActive_of_firesOn next.upcoming.1 next.upcoming.2.1
    constructor
    · intro wrong
      rcases rest with ⟨date, _, outcome⟩ | ⟨_, outcome⟩
      · rw [outcome] at wrong
        cases wrong
      · rw [outcome] at wrong
        cases wrong
    · intro idle
      exact absurd active idle

theorem scheduleNextWake_eq_overflow_iff
    (listed : RuleStore.enabledWakeRules store = .ok (rules.filter (·.enabled))) (now : Moment)
    (settings : Settings) :
    (∃ days, scheduleNextWake store (.ofMoment now) settings =
        .error (.violation (.dateOverflow days now.date))) ↔
      SomeActive rules ∧ ¬∃ moment, Firing rules moment ∧ now.instant < moment.instant := by
  rw [← scheduleNextWake_succeeds_iff listed now settings]
  rcases scheduleNextWake_cases listed now settings with
    ⟨idle, outcome⟩ | ⟨days, rule, next, ⟨date, _, outcome⟩ | ⟨past, outcome⟩⟩
  · rw [outcome]
    constructor
    · intro overflow
      rcases overflow with ⟨_, wrong⟩
      cases wrong
    · intro idle
      rcases idle with ⟨active, _⟩
      exact absurd active idle
  · rw [outcome]
    constructor
    · intro overflow
      rcases overflow with ⟨_, wrong⟩
      cases wrong
    · intro missed
      rcases missed with ⟨_, missing⟩
      exact absurd ⟨_, rfl⟩ missing
  · rw [outcome]
    constructor
    · intro _
      refine ⟨someActive_of_firesOn next.upcoming.1 next.upcoming.2.1, ?_⟩
      intro scheduled
      rcases scheduled with ⟨_, wrong⟩
      cases wrong
    · intro _
      exact ⟨days, rfl⟩

/-- The alarm order is that of the least firing after now, for the first rule that fires then. Each
of the two refusals has its one cause: no rule ever fires, or the calendar ends before one does. -/
theorem scheduleNextWake_wakes_at_next_firing
    (listed : RuleStore.enabledWakeRules store = .ok (rules.filter (·.enabled))) (now : Moment)
    (settings : Settings) :
    (∀ order, scheduleNextWake store (.ofMoment now) settings = .ok order ↔
      NextFiring rules now order.wakeAt ∧ order.options = settings.options ∧
        ∃ rule, rules.find? (WakeRule.firesAt · order.wakeAt) = some rule ∧
          order.mode = rule.action.mode ∧
          order.command = if settings.commandsEnabled then rule.action.command else none) ∧
    ((∃ order, scheduleNextWake store (.ofMoment now) settings = .ok order) ↔
      ∃ moment, Firing rules moment ∧ now.instant < moment.instant) ∧
    (∀ order, scheduleNextWake store (.ofMoment now) settings = .ok order →
      order.wakeAt.instant ≤ now.instant + 7 * 86400) ∧
    (scheduleNextWake store (.ofMoment now) settings = .error .nothingScheduled ↔
      ¬SomeActive rules) ∧
    ((∃ days, scheduleNextWake store (.ofMoment now) settings =
        .error (.violation (.dateOverflow days now.date))) ↔
      SomeActive rules ∧ ¬∃ moment, Firing rules moment ∧ now.instant < moment.instant) :=
  ⟨scheduleNextWake_eq_ok_iff listed now settings,
    scheduleNextWake_succeeds_iff listed now settings,
    scheduleNextWake_within_week listed now settings,
    scheduleNextWake_eq_nothing_iff listed now settings,
    scheduleNextWake_eq_overflow_iff listed now settings⟩

end Schedule

def saturdayStore : MemoryStore :=
  let early : WakeRule :=
    ⟨none, "early", ⟨6, 30, 0⟩, .ofDays [.saturday], ⟨some "mount", .mem⟩, true⟩
  { wake := ⟨[⟨1, early.withEnabled false⟩, ⟨2, early⟩], 2⟩ }

theorem next_firing_at_new_year :
    RuleStore.enabledWakeRules saturdayStore =
        .ok ((MemoryStore.rulesOf saturdayStore.wake).filter (·.enabled)) ∧
      scheduleNextWake saturdayStore (.ofMoment ⟨⟨2027, 12, 31, by decide⟩, ⟨23, 2, 0⟩⟩)
          defaultSettings = .ok ⟨⟨⟨2028, 1, 1, by decide⟩, ⟨6, 30, 0⟩⟩, .mem, none, "-a"⟩ ∧
      NextFiring (MemoryStore.rulesOf saturdayStore.wake)
        ⟨⟨2027, 12, 31, by decide⟩, ⟨23, 2, 0⟩⟩ ⟨⟨2028, 1, 1, by decide⟩, ⟨6, 30, 0⟩⟩ := by
  have listed : RuleStore.enabledWakeRules saturdayStore =
      .ok ((MemoryStore.rulesOf saturdayStore.wake).filter (·.enabled)) := rfl
  have outcome : scheduleNextWake saturdayStore
      (.ofMoment ⟨⟨2027, 12, 31, by decide⟩, ⟨23, 2, 0⟩⟩) defaultSettings =
        .ok ⟨⟨⟨2028, 1, 1, by decide⟩, ⟨6, 30, 0⟩⟩, .mem, none, "-a"⟩ := by decide
  have answers := scheduleNextWake_wakes_at_next_firing listed
    ⟨⟨2027, 12, 31, by decide⟩, ⟨23, 2, 0⟩⟩ defaultSettings
  exact ⟨listed, outcome, ((answers.1 _).mp outcome).1⟩

end WakeSchedule
