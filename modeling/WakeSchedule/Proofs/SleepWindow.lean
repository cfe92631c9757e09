import WakeSchedule.Proofs.Agenda
import WakeSchedule.Proofs.Calendar.Instant
import WakeSchedule.Proofs.Conflict
/-! The windows in which sleep rules are due. Each lies within its day and no two times share a
moment, so where rules are free of conflicts a run of ticks finds each rule on each day on which it
hits the window. -/

namespace WakeSchedule

/-- Times on the quarter-hour grid that are less than a quarter of an hour apart are one time. -/
theorem SleepTime.eq_of_near {a b : SleepTime} (after : a.minutes < b.minutes + 15)
    (before : b.minutes < a.minutes + 15) : a = b := by
  rcases a with ⟨⟨hour, _⟩, ⟨quarter, _⟩⟩
  rcases b with ⟨⟨otherHour, _⟩, ⟨otherQuarter, _⟩⟩
  simp only [minutes, minute] at after before
  simp only [mk.injEq, Fin.mk.injEq]
  omega

/-- A sleep rule is due on its weekdays in the five minutes from its time on. -/
def SleepRule.Due (rule : SleepRule) (today : Weekday) (now : TimeOfDay) : Prop :=
  rule.firesOn today = true ∧ rule.time.minutes ≤ now.minutes ∧
    now.minutes < rule.time.minutes + 5

def SleepRule.dueAt (rule : SleepRule) (today : Weekday) (now : TimeOfDay) : Bool :=
  rule.firesOn today && SleepRule.isDue rule now

theorem SleepRule.dueAt_iff (rule : SleepRule) (today : Weekday) (now : TimeOfDay) :
    SleepRule.dueAt rule today now = true ↔ SleepRule.Due rule today now := by
  simp only [dueAt, isDue, Bool.and_eq_true, decide_eq_true_eq]
  rfl

section Due

variable {one other : SleepRule} {today : Weekday} {now : TimeOfDay}

theorem SleepRule.time_eq_of_due (oneDue : SleepRule.Due one today now)
    (otherDue : SleepRule.Due other today now) : one.time = other.time := by
  rcases oneDue with ⟨_, begun, running⟩
  rcases otherDue with ⟨_, otherBegun, otherRunning⟩
  apply SleepTime.eq_of_near <;> omega

theorem SleepRule.clash_of_due (oneDue : SleepRule.dueAt one today now = true)
    (otherDue : SleepRule.dueAt other today now = true) : Clash one other := by
  rw [SleepRule.dueAt_iff] at oneDue otherDue
  have sameTime := SleepRule.time_eq_of_due oneDue otherDue
  exact ⟨congrArg SleepTime.code sameTime, today, oneDue.1, otherDue.1⟩

end Due

theorem earliest?_eq_head? {τ α : Type} [RuleTime τ] {rules : List (Rule τ α)}
    (same : ∀ one ∈ rules, ∀ other ∈ rules, one.timeCode = other.timeCode) :
    earliest? rules = rules.head? := by
  cases rules with
  | nil => rfl
  | cons rule rules =>
      rw [earliest?, List.head?_cons]
      cases later : earliest? rules with
      | none => rfl
      | some best =>
          have level := same best (List.mem_cons_of_mem _ (mem_of_earliest? later)) rule
            List.mem_cons_self
          simp [level]

/-- All rules that are due at a time have the same time, so the first of them is taken. -/
theorem dueSleepRule?_eq_find? (today : Weekday) (now : TimeOfDay) (rules : List SleepRule) :
    dueSleepRule? today now rules = rules.find? (SleepRule.dueAt · today now) := by
  rw [← List.head?_filter]
  apply earliest?_eq_head?
  intro one oneDue other otherDue
  exact (SleepRule.clash_of_due (List.mem_filter.mp oneDue).2 (List.mem_filter.mp otherDue).2).1

structure PicksFirstDue (rules : List SleepRule) (today : Weekday) (now : TimeOfDay) : Prop where
  first : ∀ rule, dueSleepRule? today now rules = some rule ↔ ∃ before after,
    rules = before ++ rule :: after ∧ SleepRule.Due rule today now ∧
      ∀ earlier ∈ before, ¬SleepRule.Due earlier today now
  missing : dueSleepRule? today now rules = none ↔
    ∀ rule ∈ rules, ¬SleepRule.Due rule today now
  level : ∀ one ∈ rules, ∀ other ∈ rules, SleepRule.Due one today now →
    SleepRule.Due other today now → one.time = other.time

theorem picksFirstDue (rules : List SleepRule) (today : Weekday) (now : TimeOfDay) :
    PicksFirstDue rules today now where
  first := by
    intro rule
    simp only [dueSleepRule?_eq_find?, List.find?_eq_some_iff_append, ← SleepRule.dueAt_iff,
      Bool.not_eq_true', Bool.not_eq_true]
    constructor
    · intro found
      rcases found with ⟨due, before, after, split, none⟩
      exact ⟨before, after, split, due, none⟩
    · intro first
      rcases first with ⟨before, after, split, due, none⟩
      exact ⟨due, before, after, split, none⟩
  missing := by simp only [dueSleepRule?_eq_find?, List.find?_eq_none, SleepRule.dueAt_iff]
  level := fun _ _ _ _ oneDue otherDue => SleepRule.time_eq_of_due oneDue otherDue

section Window

variable (rule : SleepRule)

def SleepRule.opens : Nat := rule.time.minutes * 60

theorem SleepRule.opens_lt : SleepRule.opens rule + 300 < 86400 := by
  have hour := rule.time.hour.isLt
  have quarter := rule.time.quarter.isLt
  simp only [opens, SleepTime.minutes, SleepTime.minute]
  omega

theorem SleepRule.dueAt_iff_seconds (today : Weekday) (now : TimeOfDay) :
    SleepRule.dueAt rule today now = true ↔ rule.firesOn today = true ∧
      SleepRule.opens rule ≤ now.seconds ∧ now.seconds < SleepRule.opens rule + 300 := by
  rw [SleepRule.dueAt_iff, Due]
  apply and_congr_right
  intro _
  have second := now.second.isLt
  simp only [opens, TimeOfDay.seconds]
  omega

/-- The tick falls into the window that a rule opens on a date. -/
def SleepRule.InWindow (date : Date) (tick : Moment) : Prop :=
  date.dayNumber * 86400 + SleepRule.opens rule ≤ tick.instant ∧
    tick.instant < date.dayNumber * 86400 + SleepRule.opens rule + 300

/-- No window reaches into another day. -/
theorem SleepRule.inWindow_iff (date : Date) (tick : Moment) :
    SleepRule.InWindow rule date tick ↔ tick.date = date ∧
      SleepRule.opens rule ≤ tick.time.seconds ∧
        tick.time.seconds < SleepRule.opens rule + 300 := by
  have within := SleepRule.opens_lt rule
  have bound := tick.time.seconds_lt
  simp only [InWindow, Moment.instant]
  constructor
  · intro within
    rcases within with ⟨begun, running⟩
    refine ⟨Date.dayNumber_injective ?_, ?_⟩ <;> omega
  · intro within
    rcases within with ⟨rfl, begun, running⟩
    omega

end Window

def sleepsOf (rules : List SleepRule) (ticks : List Moment) : List (Date × SleepRule) :=
  ticks.filterMap fun tick =>
    (dueSleepRule? tick.date.weekday tick.time rules).map fun rule => (tick.date, rule)

section Free

variable {rules : List SleepRule} (free : ConflictFree rules)

include free

theorem ConflictFree.dueSleepRule?_eq_some_iff {rule : SleepRule} {today : Weekday}
    {now : TimeOfDay} : dueSleepRule? today now rules = some rule ↔
      rule ∈ rules ∧ SleepRule.dueAt rule today now = true := by
  have one : rules.filter (SleepRule.dueAt · today now) =
      (rules.find? (SleepRule.dueAt · today now)).toList :=
    free.filter_eq_find? fun _ _ => SleepRule.clash_of_due
  rw [dueSleepRule?_eq_find?, ← Option.mem_toList, ← one, List.mem_filter]

theorem ConflictFree.mem_sleepsOf_iff {ticks : List Moment} {date : Date} {rule : SleepRule} :
    (date, rule) ∈ sleepsOf rules ticks ↔ (rule ∈ rules ∧ rule.firesOn date.weekday = true) ∧
      ∃ tick ∈ ticks, SleepRule.InWindow rule date tick := by
  simp only [sleepsOf, List.mem_filterMap, Option.map_eq_some_iff, Prod.mk.injEq]
  constructor
  · intro slept
    rcases slept with ⟨tick, run, other, found, rfl, rfl⟩
    obtain ⟨listed, due⟩ := free.dueSleepRule?_eq_some_iff.mp found
    obtain ⟨fires, window⟩ := (SleepRule.dueAt_iff_seconds _ _ _).mp due
    exact ⟨⟨listed, fires⟩, tick, run, (SleepRule.inWindow_iff _ _ _).mpr ⟨rfl, window⟩⟩
  · intro fired
    rcases fired with ⟨⟨listed, fires⟩, tick, run, hit⟩
    obtain ⟨rfl, window⟩ := (SleepRule.inWindow_iff _ _ _).mp hit
    have due := (SleepRule.dueAt_iff_seconds _ _ _).mpr ⟨fires, window⟩
    exact ⟨tick, run, rule, free.dueSleepRule?_eq_some_iff.mpr ⟨listed, due⟩, rfl, rfl⟩

end Free

structure SleepsOnTime (rules : List SleepRule) : Prop where
  single : ∀ today now, (rules.filter (SleepRule.dueAt · today now)).length ≤ 1
  anyOrder : ∀ shuffled, rules.Perm shuffled → ∀ today now,
    dueSleepRule? today now shuffled = dueSleepRule? today now rules
  window : ∀ rule ∈ rules, rule.enabled = true → ∀ today now,
    dueSleepRule? today now rules = some rule ↔ rule.days.get today = true ∧
      SleepRule.opens rule ≤ now.seconds ∧ now.seconds < SleepRule.opens rule + 300
  whole : ∀ rule ∈ rules, ∀ date : Date, ∀ offset : Nat, offset < 300 → ∃ now : TimeOfDay,
    (⟨date, now⟩ : Moment).instant = date.dayNumber * 86400 + SleepRule.opens rule + offset
  run : ∀ ticks date rule, (date, rule) ∈ sleepsOf rules ticks ↔
    (rule ∈ rules ∧ rule.firesOn date.weekday = true) ∧
      ∃ tick ∈ ticks, SleepRule.InWindow rule date tick

theorem ConflictFree.sleepsOnTime {rules : List SleepRule} (free : ConflictFree rules) :
    SleepsOnTime rules where
  single := by
    intro today now
    rw [free.filter_eq_find? fun _ _ => SleepRule.clash_of_due]
    exact Option.length_toList_le
  anyOrder := by
    intro shuffled shuffle today now
    rw [dueSleepRule?_eq_find?, dueSleepRule?_eq_find?]
    exact free.find?_perm shuffle fun _ _ => SleepRule.clash_of_due
  window := by
    intro rule listed enabled today now
    rw [free.dueSleepRule?_eq_some_iff, SleepRule.dueAt_iff_seconds]
    simp only [Rule.firesOn, enabled, Bool.true_and, listed, true_and]
  whole := by
    intro rule _ date offset short
    have within := SleepRule.opens_lt rule
    obtain ⟨now, seconds⟩ := TimeOfDay.exists_seconds
      (show SleepRule.opens rule + offset < 86400 by omega)
    refine ⟨now, ?_⟩
    simp only [Moment.instant, seconds]
    omega
  run := fun _ _ _ => free.mem_sleepsOf_iff

/-- Of any rules the first that is due is picked, and all that are due have one time. Where rules
are free of conflicts only one is due at a time, in whatever order they are listed, each in the
three hundred seconds from its time on. All of these belong to one date, so a run of ticks misses no
sleep whose window it hits. -/
theorem sleep_rules_are_due_in_their_windows :
    (∀ rules today now, PicksFirstDue rules today now) ∧
      ∀ rules, ConflictFree rules → SleepsOnTime rules :=
  ⟨picksFirstDue, fun _ free => free.sleepsOnTime⟩

theorem sleep_rules_are_due_on_monday :
    let last : SleepRule := sleepRule "last" ⟨23, 3⟩ (.ofDays [.monday])
    let noon : SleepRule := sleepRule "noon" ⟨12, 0⟩ .everyDay
    let monday : Date := ⟨2026, 1, 5, by decide⟩
    let ticks : List Moment := [⟨monday, ⟨11, 59, 59⟩⟩, ⟨monday, ⟨23, 49, 59⟩⟩]
    ConflictFree [noon, last] ∧ (monday, last) ∈ sleepsOf [noon, last] ticks ∧
      (monday, noon) ∉ sleepsOf [noon, last] ticks := by
  intro last noon monday ticks
  have free : ConflictFree [noon, last] := by
    refine List.pairwise_pair.mpr ?_
    intro clash
    exact absurd clash.1 (by decide)
  have run := (sleep_rules_are_due_in_their_windows.2 _ free).run ticks monday
  refine ⟨free, (run last).mpr ⟨⟨by simp, by decide⟩, ⟨monday, ⟨23, 49, 59⟩⟩, by simp [ticks], ?_⟩, ?_⟩
  · exact (SleepRule.inWindow_iff _ _ _).mpr ⟨rfl, by decide, by decide⟩
  · intro slept
    obtain ⟨_, tick, member, hit⟩ := (run noon).mp slept
    obtain ⟨_, begun, running⟩ := (SleepRule.inWindow_iff _ _ _).mp hit
    simp only [ticks, List.mem_cons, List.not_mem_nil, or_false] at member
    rcases member with rfl | rfl
    · exact absurd begun (by decide)
    · exact absurd running (by decide)

end WakeSchedule
