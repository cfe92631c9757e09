import WakeSchedule.Proofs.Agenda
import WakeSchedule.Proofs.Calendar.Instant
import WakeSchedule.Proofs.Decision
/-! Going through the calendar date by date. Adding days to a date, which goes by day numbers, leads
to the date that so many steps from one date to the next lead to, as long as the calendar lasts. -/

namespace WakeSchedule

namespace Date

def after? (date : Date) : Nat → Option Date
  | 0 => some date
  | days + 1 => (date.after? days).bind next?

def last : Date := ⟨9999, 12, 31, by decide⟩

theorem last_dayNumber : last.dayNumber = lastNumber := by decide

theorem one_le_monthLength (year : Int) (month : Nat) : 1 ≤ monthLength year month := by
  unfold monthLength
  split
  · split <;> decide
  · split <;> decide

variable {date later : Date} {days : Nat}

theorem dayNumber_of_next? (step : date.next? = some later) :
    later.dayNumber = date.dayNumber + 1 := by
  obtain ⟨_, ⟨begun, lastMonth⟩, _, lastDay⟩ := date.valid
  have month := daysBeforeMonth_succ date.year date.month begun
  unfold next? at step
  split at step
  next inMonth =>
    obtain ⟨sameYear, sameMonth, day⟩ := ofFields?_eq_some_iff.mp step
    rw [dayNumber, dayNumber, sameYear, sameMonth, day]
    omega
  next monthOver =>
    split at step
    next inYear =>
      obtain ⟨sameYear, nextMonth, day⟩ := ofFields?_eq_some_iff.mp step
      rw [dayNumber, dayNumber, sameYear, nextMonth, day, month]
      omega
    next yearOver =>
      obtain ⟨nextYear, first, day⟩ := ofFields?_eq_some_iff.mp step
      have december : date.month = 12 := by omega
      have whole := daysBeforeMonth_thirteen date.year
      rw [december] at month monthOver lastDay
      rw [dayNumber, dayNumber, nextYear, first, day, december, daysBeforeYear_succ]
      have january : daysBeforeMonth (date.year + 1) 1 = 0 := rfl
      rw [show 12 + 1 = 13 from rfl, whole] at month
      split at month
      next leap =>
        rw [if_pos leap]
        omega
      next common =>
        rw [if_neg common]
        omega

theorem eq_last_of_next? (ended : date.next? = none) : date = last := by
  obtain ⟨⟨firstYear, lastYear⟩, ⟨begun, lastMonth⟩, positive, lastDay⟩ := date.valid
  unfold next? at ended
  split at ended
  next inMonth =>
    have valid : IsDate date.year date.month (date.day + 1) :=
      ⟨⟨firstYear, lastYear⟩, ⟨begun, lastMonth⟩, by omega, inMonth⟩
    rw [ofFields?, dif_pos valid] at ended
    cases ended
  next monthOver =>
    split at ended
    next inYear =>
      have some : 1 ≤ monthLength date.year (date.month + 1) := one_le_monthLength _ _
      have valid : IsDate date.year (date.month + 1) 1 :=
        ⟨⟨firstYear, lastYear⟩, ⟨by omega, by omega⟩, Nat.le_refl 1, some⟩
      rw [ofFields?, dif_pos valid] at ended
      cases ended
    next yearOver =>
      have december : date.month = 12 := by omega
      have final : date.year = 9999 := by
        apply Int.le_antisymm lastYear
        apply Int.not_lt.mp
        intro earlier
        have valid : IsDate (date.year + 1) 1 1 :=
          ⟨⟨by omega, by omega⟩, ⟨by omega, by omega⟩, Nat.le_refl 1, one_le_monthLength _ _⟩
        rw [ofFields?, dif_pos valid] at ended
        cases ended
      rw [december, final] at monthOver lastDay
      have length : monthLength 9999 12 = 31 := by decide
      have day : date.day = 31 := by omega
      cases date
      simp_all [last]

theorem next?_eq_some_iff : date.next? = some later ↔ later.dayNumber = date.dayNumber + 1 := by
  constructor
  · exact dayNumber_of_next?
  · intro number
    cases step : date.next? with
    | none =>
        have bounds := dayNumber_bounds later
        rw [eq_last_of_next? step, last_dayNumber] at number
        omega
    | some other =>
        have same : other.dayNumber = later.dayNumber := by rw [dayNumber_of_next? step, number]
        rw [dayNumber_injective same]

theorem after?_eq_some_iff :
    date.after? days = some later ↔ later.dayNumber = date.dayNumber + days := by
  induction days generalizing later with
  | zero =>
      rw [after?, Option.some.injEq, Int.natCast_zero, Int.add_zero]
      exact ⟨fun same => by rw [same], fun same => dayNumber_injective same.symm⟩
  | succ days ih =>
      rw [after?, Option.bind_eq_some_iff]
      simp only [ih, next?_eq_some_iff]
      constructor
      · intro reached
        obtain ⟨middle, before, step⟩ := reached
        rw [step, before]
        omega
      · intro number
        have first := dayNumber_bounds date
        have bounds := dayNumber_bounds later
        -- There is a date one step before, since day numbers have no gaps.
        obtain ⟨middle, before⟩ :=
          exists_of_number (date.dayNumber + days) (by omega) (by omega)
        exact ⟨middle, before, by omega⟩

theorem after?_eq_none_iff : date.after? days = none ↔ lastNumber < date.dayNumber + days := by
  rw [Option.eq_none_iff_forall_ne_some]
  simp only [ne_eq, after?_eq_some_iff]
  constructor
  · intro missing
    apply Int.not_le.mp
    intro within
    have first := dayNumber_bounds date
    obtain ⟨later, number⟩ := exists_of_number (date.dayNumber + days) (by omega) within
    exact missing later number
  · intro past later number
    have bounds := dayNumber_bounds later
    omega

/-- What has to come of going on by so many days: the date that as many steps lead to, which has the
weekday of as many days on, and an overflow where the calendar ends before. -/
structure LeadsTo (date : Date) (days : Nat) (answer : Except Violation Date) : Prop where
  reached : ∀ later, answer = .ok later ↔ date.after? days = some later
  weekday : ∀ later, answer = .ok later → later.weekday = date.weekday.offset days
  ended : answer = .error (.dateOverflow days date) ↔ date.after? days = none

theorem leadsTo_addDays (date : Date) (days : Nat) : date.LeadsTo days (date.addDays days) where
  reached := fun later => by rw [addDays_eq_ok, after?_eq_some_iff]
  weekday := fun later added => weekday_of_dayNumber ((addDays_eq_ok date later days).mp added)
  ended := by
    constructor
    · intro overflow
      cases reached : date.after? days with
      | none => rfl
      | some later =>
          have added := (addDays_eq_ok date later days).mpr (after?_eq_some_iff.mp reached)
          rw [overflow] at added
          cases added
    · intro ended
      exact addDays_eq_error date days (after?_eq_none_iff.mp ended)

theorem exists_left (date : Date) : ∃ left, date.after? left = some last ∧
    ∀ days, (∃ later, date.addDays days = .ok later) ↔ days ≤ left := by
  have bounds := dayNumber_bounds date
  obtain ⟨left, distance⟩ := Int.le.dest bounds.2
  refine ⟨left, after?_eq_some_iff.mpr (last_dayNumber.trans distance.symm), ?_⟩
  intro days
  constructor
  · intro added
    obtain ⟨later, added⟩ := added
    have number := (addDays_eq_ok date later days).mp added
    have within := dayNumber_bounds later
    omega
  · intro within
    exact addDays_ok_of_le date days (by omega)

theorem addDays_addDays (date : Date) (first second : Nat) (later : Date) :
    ((date.addDays first).bind fun middle => middle.addDays second) = .ok later ↔
      date.addDays (first + second) = .ok later := by
  rw [addDays_eq_ok]
  constructor
  · intro added
    obtain ⟨middle, before, after⟩ := bind_eq_ok.mp added
    have number := (addDays_eq_ok date middle first).mp before
    rw [(addDays_eq_ok middle later second).mp after]
    omega
  · intro number
    have bounds := dayNumber_bounds later
    obtain ⟨middle, before⟩ := addDays_ok_of_le date first (by omega)
    have halfway := (addDays_eq_ok date middle first).mp before
    exact bind_eq_ok.mpr ⟨middle, before, (addDays_eq_ok middle later second).mpr (by omega)⟩

end Date

section Wakes

variable {now : Nat} {rules : List WakeRule} {today : Date} {next : Occurrence WakeRule}

theorem firesOn_of_ahead (found : nextOccurrence? today.weekday now rules = some next)
    {later : Date} (reached : today.after? next.daysAhead = some later) :
    next.rule.firesOn later.weekday = true := by
  have upcoming := (nextOccurrence?_spec found).upcoming
  rw [Date.weekday_of_dayNumber (Date.after?_eq_some_iff.mp reached)]
  exact upcoming.2.1

theorem ofRuleAhead_cases (found : nextOccurrence? today.weekday now rules = some next)
    (options : String) :
    (∃ order, Invocation.ofRuleAhead next.daysAhead next.rule today options = .ok order ∧
        today.after? next.daysAhead = some order.wakeAt.date ∧
        next.rule.firesOn order.wakeAt.date.weekday = true) ∨
      today.after? next.daysAhead = none ∧
        Invocation.ofRuleAhead next.daysAhead next.rule today options =
          .error (.violation (.dateOverflow next.daysAhead today)) := by
  have leads := today.leadsTo_addDays next.daysAhead
  cases reached : today.after? next.daysAhead with
  | none =>
      right
      refine ⟨rfl, ?_⟩
      rw [Invocation.ofRuleAhead, leads.ended.mpr reached]
      rfl
  | some later =>
      left
      refine ⟨.ofRule later next.rule options, ?_, rfl, firesOn_of_ahead found reached⟩
      rw [Invocation.ofRuleAhead, (leads.reached later).mpr reached]
      exact Invocation.onDate_eq later next.rule options

/-- Days are added to a date as the calendar goes, step by step, up to its last date, with the
weekdays in their cycle, and all at once or in two parts. A wake that is found some days ahead is
ordered for a day on which its rule fires, unless the calendar ends before. -/
theorem days_are_added_by_the_calendar (date : Date) :
    (∀ days, date.LeadsTo days (date.addDays days)) ∧
    (∃ left, date.after? left = some .last ∧
      ∀ days, (∃ later, date.addDays days = .ok later) ↔ days ≤ left) ∧
    (∀ first second later,
      ((date.addDays first).bind fun middle => middle.addDays second) = .ok later ↔
        date.addDays (first + second) = .ok later) ∧
    ∀ now rules next options, nextOccurrence? date.weekday now rules = some next →
      (∃ order, Invocation.ofRuleAhead next.daysAhead next.rule date options = .ok order ∧
          date.after? next.daysAhead = some order.wakeAt.date ∧
          next.rule.firesOn order.wakeAt.date.weekday = true) ∨
        date.after? next.daysAhead = none ∧
          Invocation.ofRuleAhead next.daysAhead next.rule date options =
            .error (.violation (.dateOverflow next.daysAhead date)) :=
  ⟨date.leadsTo_addDays, date.exists_left, date.addDays_addDays,
    fun _ _ _ options found => ofRuleAhead_cases found options⟩

theorem days_are_added_over_a_leap_day :
    let monday : Date := ⟨2028, 2, 28, by decide⟩
    let thursday : Date := ⟨2028, 3, 2, by decide⟩
    let rule : WakeRule :=
      ⟨some 1, "backup", ⟨6, 30, 0⟩, .ofDays [.thursday], ⟨some "backup", .mem⟩, true⟩
    nextOccurrence? monday.weekday 63000 [rule] = some ⟨3, rule⟩ ∧
      monday.after? 3 = some thursday ∧
      ∃ order, Invocation.ofRuleAhead 3 rule monday "-a" = .ok order ∧
        order.wakeAt.date = thursday := by
  intro monday thursday rule
  have found : nextOccurrence? monday.weekday 63000 [rule] = some ⟨3, rule⟩ := by decide
  have reached : monday.after? 3 = some thursday := by decide
  refine ⟨found, reached, ?_⟩
  rcases (days_are_added_by_the_calendar monday).2.2.2 63000 [rule] ⟨3, rule⟩ "-a" found with
    landed | ended
  · obtain ⟨order, ordered, on, _⟩ := landed
    refine ⟨order, ordered, ?_⟩
    change monday.after? 3 = some order.wakeAt.date at on
    rw [reached] at on
    exact (Option.some.inj on).symm
  · have missing : monday.after? 3 = none := ended.1
    rw [reached] at missing
    cases missing

end Wakes

/-- The year before year 1 is the leap year 0, and no day follows the last one. -/
example : (⟨-1, 12, 31, by decide⟩ : Date).addDays 60 = .ok ⟨0, 2, 29, by decide⟩ ∧
    Date.last.addDays 1 = .error (.dateOverflow 1 .last) := by decide

end WakeSchedule
