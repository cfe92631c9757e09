import WakeSchedule.Proofs.Conflict
import WakeSchedule.Proofs.Decision
import WakeSchedule.Proofs.NextWake
/-! Runs of wake-ups. Where each wake is scheduled at the moment of the one before, the moments of a
run are all the firings up to the last of them, in order and each of them once. -/

namespace WakeSchedule

/-- The alarm set at a moment stays right until it rings. -/
theorem NextFiring.onward {rules : List WakeRule} {now later next : Moment}
    (firing : NextFiring rules now next) (passed : now.instant ≤ later.instant)
    (waiting : later.instant < next.instant) : NextFiring rules later next where
  fires := firing.fires
  later := waiting
  least := by
    intro moment fires after
    exact firing.least moment fires (Int.lt_of_le_of_lt passed after)

theorem ConflictFree.filter_firesAt {rules : List WakeRule} {moment : Moment} {rule : WakeRule}
    (free : ConflictFree (rules.filter (·.enabled)))
    (found : rules.find? (WakeRule.firesAt · moment) = some rule) :
    rules.filter (WakeRule.firesAt · moment) = [rule] := by
  have enabled : (rules.filter (·.enabled)).filter (WakeRule.firesAt · moment) =
      rules.filter (WakeRule.firesAt · moment) := by
    apply filter_enabled_filter
    intro other fires
    exact Rule.enabled_of_firesOn ((Bool.and_eq_true _ _).mp fires).1
  have clashing : ∀ one other, WakeRule.firesAt one moment = true →
      WakeRule.firesAt other moment = true → Clash one other := by
    intro one other oneFires otherFires
    simp only [WakeRule.firesAt, Bool.and_eq_true, decide_eq_true_eq] at oneFires otherFires
    have sameTime : one.timeCode = other.timeCode :=
      congrArg TimeOfDay.code (oneFires.2.trans otherFires.2.symm)
    exact ⟨sameTime, moment.date.weekday, oneFires.1, otherFires.1⟩
  have single := free.filter_eq_find? clashing
  rw [← List.head?_filter, enabled, List.head?_filter, found] at single
  exact single

def Moment.Before (a b : Moment) : Prop := a.instant < b.instant

def wakeMoments (orders : List Invocation) : List Moment := orders.map (·.wakeAt)

def lastMoment : Moment → List Invocation → Moment
  | now, [] => now
  | _, order :: orders => lastMoment order.wakeAt orders

theorem le_lastMoment {now : Moment} {orders : List Invocation}
    (ascending : (now :: wakeMoments orders).Pairwise Moment.Before) :
    now.instant ≤ (lastMoment now orders).instant := by
  induction orders generalizing now with
  | nil => exact Int.le_refl _
  | cons order orders ih =>
      rcases List.pairwise_cons.mp ascending with ⟨before, rest⟩
      have first : now.instant < order.wakeAt.instant := before order.wakeAt (by simp [wakeMoments])
      exact Int.le_trans (Int.le_of_lt first) (ih rest)

section Run

variable {σ : Type} [RuleStore σ]

/-- The orders of so many wake-ups in a row, each scheduled at the moment of the one before. -/
def wakeUps (store : σ) (settings : Settings) :
    Nat → Moment → Except ScheduleError (List Invocation)
  | 0, _ => .ok []
  | count + 1, now => do
      let order ← scheduleNextWake store (.ofMoment now) settings
      return order :: (← wakeUps store settings count order.wakeAt)

variable {store : σ} {settings : Settings} {rules : List WakeRule} {now : Moment} {count : Nat}
  {orders : List Invocation}

theorem wakeUps_succ_eq_ok : wakeUps store settings (count + 1) now = .ok orders ↔
    ∃ order rest, scheduleNextWake store (.ofMoment now) settings = .ok order ∧
      wakeUps store settings count order.wakeAt = .ok rest ∧ orders = order :: rest := by
  constructor
  · intro run
    rcases bind_eq_ok.mp run with ⟨order, scheduled, run⟩
    rcases bind_eq_ok.mp run with ⟨rest, onward, run⟩
    cases run
    exact ⟨order, rest, scheduled, onward, rfl⟩
  · rintro ⟨order, rest, scheduled, onward, rfl⟩
    exact bind_eq_ok.mpr ⟨order, scheduled, bind_eq_ok.mpr ⟨rest, onward, rfl⟩⟩

theorem length_of_wakeUps (run : wakeUps store settings count now = .ok orders) :
    orders.length = count := by
  induction count generalizing now orders with
  | zero =>
      cases run
      rfl
  | succ count ih =>
      rcases wakeUps_succ_eq_ok.mp run with ⟨order, rest, _, onward, rfl⟩
      rw [List.length_cons, ih onward]

variable (listed : RuleStore.enabledWakeRules store = .ok (rules.filter (·.enabled)))

include listed

theorem nextFiring_of_scheduled {order : Invocation}
    (scheduled : scheduleNextWake store (.ofMoment now) settings = .ok order) :
    NextFiring rules now order.wakeAt :=
  ((scheduleNextWake_eq_ok_iff listed now settings order).mp scheduled).1

theorem wakeUps_ascending (run : wakeUps store settings count now = .ok orders) :
    (now :: wakeMoments orders).Pairwise Moment.Before := by
  induction count generalizing now orders with
  | zero =>
      cases run
      exact List.pairwise_singleton _ _
  | succ count ih =>
      rcases wakeUps_succ_eq_ok.mp run with ⟨order, rest, scheduled, onward, rfl⟩
      have first := (nextFiring_of_scheduled listed scheduled).later
      have others := ih onward
      refine List.pairwise_cons.mpr ⟨?_, others⟩
      intro moment member
      rcases List.mem_cons.mp member with rfl | later
      · exact first
      · exact Int.lt_trans first ((List.pairwise_cons.mp others).1 moment later)

/-- No firing is passed over: each that comes after the start is the next one at some point. -/
theorem mem_wakeMoments_iff (run : wakeUps store settings count now = .ok orders)
    (moment : Moment) : moment ∈ wakeMoments orders ↔ Firing rules moment ∧
      now.instant < moment.instant ∧ moment.instant ≤ (lastMoment now orders).instant := by
  induction count generalizing now orders with
  | zero =>
      cases run
      simp only [wakeMoments, List.map_nil, List.not_mem_nil, lastMoment, false_iff]
      omega
  | succ count ih =>
      rcases wakeUps_succ_eq_ok.mp run with ⟨order, rest, scheduled, onward, rfl⟩
      have next := nextFiring_of_scheduled listed scheduled
      have last := le_lastMoment (wakeUps_ascending listed onward)
      rw [wakeMoments, List.map_cons, List.mem_cons]
      constructor
      · rintro (rfl | later)
        · exact ⟨next.fires, next.later, last⟩
        · rcases (ih onward).mp later with ⟨fires, after, before⟩
          exact ⟨fires, Int.lt_trans next.later after, before⟩
      · rintro ⟨fires, after, before⟩
        rcases Int.lt_or_eq_of_le (next.least moment fires after) with past | same
        · exact Or.inr ((ih onward).mpr ⟨fires, past, before⟩)
        · exact Or.inl (Moment.instant_injective same.symm)

theorem wakeUps_succeeds_iff : (∃ orders, wakeUps store settings count now = .ok orders) ↔
    ∃ firings : List Moment, firings.length = count ∧
      (now :: firings).Pairwise Moment.Before ∧ ∀ moment ∈ firings, Firing rules moment := by
  constructor
  · rintro ⟨orders, run⟩
    refine ⟨wakeMoments orders, ?_, wakeUps_ascending listed run, ?_⟩
    · rw [wakeMoments, List.length_map, length_of_wakeUps run]
    · intro moment member
      exact ((mem_wakeMoments_iff listed run moment).mp member).1
  · rintro ⟨firings, enough, ascending, fire⟩
    induction firings generalizing now count with
    | nil =>
        subst enough
        exact ⟨[], rfl⟩
    | cons first later ih =>
        subst enough
        rcases List.pairwise_cons.mp ascending with ⟨before, others⟩
        have coming : now.instant < first.instant := before first (by simp)
        have fires := fire first (by simp)
        rcases (scheduleNextWake_succeeds_iff listed now settings).mpr ⟨first, fires, coming⟩
          with ⟨order, scheduled⟩
        -- The next firing is the first of the list or comes before it, so the others stay ahead.
        have soon := (nextFiring_of_scheduled listed scheduled).least first fires coming
        have ahead : (order.wakeAt :: later).Pairwise Moment.Before := by
          rcases List.pairwise_cons.mp others with ⟨after, rest⟩
          refine List.pairwise_cons.mpr ⟨?_, rest⟩
          intro moment member
          exact Int.lt_of_le_of_lt soon (after moment member)
        rcases ih rfl ahead (fun moment member => fire moment (by simp [member])) with ⟨rest, run⟩
        exact ⟨order :: rest, wakeUps_succ_eq_ok.mpr ⟨order, rest, scheduled, run, rfl⟩⟩

theorem scheduleNextWake_onward {order : Invocation} {later : Moment}
    (scheduled : scheduleNextWake store (.ofMoment now) settings = .ok order)
    (passed : now.instant ≤ later.instant) (waiting : later.instant < order.wakeAt.instant) :
    scheduleNextWake store (.ofMoment later) settings = .ok order := by
  rw [scheduleNextWake_eq_ok_iff listed] at scheduled ⊢
  exact ⟨scheduled.1.onward passed waiting, scheduled.2⟩

theorem wakeUps_rule (free : ConflictFree (rules.filter (·.enabled)))
    (run : wakeUps store settings count now = .ok orders) : ∀ order ∈ orders, ∃ rule,
      rules.filter (WakeRule.firesAt · order.wakeAt) = [rule] ∧ order.mode = rule.action.mode ∧
        order.command = if settings.commandsEnabled then rule.action.command else none := by
  induction count generalizing now orders with
  | zero =>
      cases run
      intro _ member
      cases member
  | succ count ih =>
      rcases wakeUps_succ_eq_ok.mp run with ⟨first, rest, scheduled, onward, rfl⟩
      intro order member
      rcases List.mem_cons.mp member with rfl | later
      · rcases ((scheduleNextWake_eq_ok_iff listed now settings order).mp scheduled).2.2
          with ⟨rule, found, mode, command⟩
        exact ⟨rule, free.filter_firesAt found, mode, command⟩
      · exact ih onward order later

/-- A run of wake-ups goes through the firings that come after its start. It passes over none, has
none twice, and goes on while the calendar has any. Between two of them the order that is set stays
the same, and where no rules conflict it is that of the one rule that fires. -/
theorem wakeUps_are_the_firings (settings : Settings) (now : Moment) :
    (∀ count orders, wakeUps store settings count now = .ok orders →
      orders.length = count ∧ (now :: wakeMoments orders).Pairwise Moment.Before ∧
        (∀ moment, moment ∈ wakeMoments orders ↔ Firing rules moment ∧
          now.instant < moment.instant ∧ moment.instant ≤ (lastMoment now orders).instant) ∧
        (ConflictFree (rules.filter (·.enabled)) → ∀ order ∈ orders, ∃ rule,
          rules.filter (WakeRule.firesAt · order.wakeAt) = [rule] ∧
            order.mode = rule.action.mode ∧
            order.command = if settings.commandsEnabled then rule.action.command else none)) ∧
    (∀ count, (∃ orders, wakeUps store settings count now = .ok orders) ↔
      ∃ firings : List Moment, firings.length = count ∧
        (now :: firings).Pairwise Moment.Before ∧ ∀ moment ∈ firings, Firing rules moment) ∧
    ∀ order later, scheduleNextWake store (.ofMoment now) settings = .ok order →
      now.instant ≤ later.instant → later.instant < order.wakeAt.instant →
        scheduleNextWake store (.ofMoment later) settings = .ok order := by
  refine ⟨?_, ?_, ?_⟩
  · intro count orders run
    exact ⟨length_of_wakeUps run, wakeUps_ascending listed run, mem_wakeMoments_iff listed run,
      fun free => wakeUps_rule listed free run⟩
  · intro count
    exact wakeUps_succeeds_iff listed
  · intro order later scheduled passed waiting
    exact scheduleNextWake_onward listed scheduled passed waiting

end Run

def tuesdayStore : MemoryStore :=
  let early : WakeRule :=
    ⟨none, "early", ⟨6, 30, 0⟩, .ofDays [.tuesday], ⟨some "mount", .disk⟩, true⟩
  let late : WakeRule :=
    ⟨none, "late", ⟨23, 59, 59⟩, .ofDays [.tuesday, .wednesday], ⟨none, .mem⟩, true⟩
  { wake := ⟨[⟨1, early⟩, ⟨2, late⟩], 2⟩ }

theorem wakeUps_from_leap_day :
    let rules := MemoryStore.rulesOf tuesdayStore.wake
    let start : Moment := ⟨⟨2028, 2, 29, by decide⟩, ⟨6, 30, 0⟩⟩
    let woken : List Moment := [⟨⟨2028, 2, 29, by decide⟩, ⟨23, 59, 59⟩⟩,
      ⟨⟨2028, 3, 1, by decide⟩, ⟨23, 59, 59⟩⟩, ⟨⟨2028, 3, 7, by decide⟩, ⟨6, 30, 0⟩⟩]
    RuleStore.enabledWakeRules tuesdayStore = .ok (rules.filter (·.enabled)) ∧
      (wakeUps tuesdayStore defaultSettings 3 start).map wakeMoments = .ok woken ∧
      (∀ moment, moment ∈ woken ↔ Firing rules moment ∧ start.instant < moment.instant ∧
        moment.instant ≤ start.instant + 7 * 86400) ∧
      ConflictFree (rules.filter (·.enabled)) ∧
      ∃ rule, rules.filter (WakeRule.firesAt · woken[2]) = [rule] ∧ rule.action.mode = .disk := by
  intro rules start woken
  have listed : RuleStore.enabledWakeRules tuesdayStore =
      .ok (rules.filter (·.enabled)) := rfl
  let orders : List Invocation := [⟨woken[0], .mem, none, "-a"⟩, ⟨woken[1], .mem, none, "-a"⟩,
    ⟨woken[2], .disk, none, "-a"⟩]
  have outcome : wakeUps tuesdayStore defaultSettings 3 start = .ok orders := by decide
  have last : (lastMoment start orders).instant = start.instant + 7 * 86400 := by decide
  have free : ConflictFree (rules.filter (·.enabled)) := by
    refine List.pairwise_pair.mpr ?_
    intro clash
    exact absurd clash.1 (by decide)
  have run := (wakeUps_are_the_firings listed defaultSettings start).1 3 orders outcome
  rcases run.2.2.2 free ⟨woken[2], .disk, none, "-a"⟩ (by simp [orders]) with ⟨rule, one, mode, _⟩
  refine ⟨listed, by rw [outcome]; rfl, ?_, free, rule, one, mode.symm⟩
  rw [← last]
  exact run.2.2.1

end WakeSchedule
