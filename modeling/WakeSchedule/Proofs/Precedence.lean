import Mathlib.Data.Prod.Lex
import WakeSchedule.Proofs.Agenda
import WakeSchedule.Proofs.Conflict

namespace WakeSchedule

variable {τ α : Type} [RuleTime τ]

def UpcomingAt (today : Weekday) (now : Nat) (rules : List (Rule τ α)) (days place : Nat)
    (rule : Rule τ α) : Prop :=
  rules[place]? = some rule ∧ rule.firesOn (today.offset days) = true ∧
    (0 < days ∨ now < rule.timeCode)

def precedence (days code place : Nat) : ℕ ×ₗ ℕ ×ₗ ℕ := toLex (days, toLex (code, place))

theorem precedence_le_iff (days code place otherDays otherCode otherPlace : Nat) :
    precedence days code place ≤ precedence otherDays otherCode otherPlace ↔
      days < otherDays ∨ days = otherDays ∧
        (code < otherCode ∨ code = otherCode ∧ place ≤ otherPlace) := by
  simp only [precedence, Prod.Lex.toLex_le_toLex]

/-- The rule at the place comes before all others that are upcoming. -/
structure LeastUpcoming (today : Weekday) (now : Nat) (rules : List (Rule τ α)) (days place : Nat)
    (rule : Rule τ α) : Prop where
  upcoming : UpcomingAt today now rules days place rule
  least : ∀ otherDays otherPlace other, UpcomingAt today now rules otherDays otherPlace other →
    precedence days rule.timeCode place ≤ precedence otherDays other.timeCode otherPlace

variable {today : Weekday} {now days place : Nat} {rules : List (Rule τ α)} {rule : Rule τ α}

theorem UpcomingAt.upcoming (upcoming : UpcomingAt today now rules days place rule) :
    Upcoming today now rules days rule :=
  ⟨List.mem_of_getElem? upcoming.1, upcoming.2⟩

theorem Upcoming.exists_place (upcoming : Upcoming today now rules days rule) :
    ∃ place, UpcomingAt today now rules days place rule := by
  rcases upcoming with ⟨listed, fires, late⟩
  rcases List.mem_iff_getElem?.mp listed with ⟨place, found⟩
  exact ⟨place, found, fires, late⟩

theorem LeastUpcoming.unique {otherDays otherPlace : Nat} {other : Rule τ α}
    (one : LeastUpcoming today now rules days place rule)
    (second : LeastUpcoming today now rules otherDays otherPlace other) :
    days = otherDays ∧ rule = other := by
  have before := (precedence_le_iff _ _ _ _ _ _).mp (one.least _ _ _ second.upcoming)
  have after := (precedence_le_iff _ _ _ _ _ _).mp (second.least _ _ _ one.upcoming)
  have place : place = otherPlace := by omega
  subst place
  exact ⟨by omega, Option.some.inj (one.upcoming.1.symm.trans second.upcoming.1)⟩

theorem NextUp.leastUpcoming (next : NextUp today now rules days rule) :
    ∃ place, LeastUpcoming today now rules days place rule := by
  obtain ⟨_, place, bound, found, missed⟩ := List.find?_eq_some_iff_getElem.mp next.first
  refine ⟨place, ⟨List.getElem?_eq_some_iff.mpr ⟨bound, found⟩, next.upcoming.2⟩, ?_⟩
  intro otherDays otherPlace other upcoming
  rw [precedence_le_iff]
  rcases next.least otherDays other upcoming.upcoming with sooner | ⟨rfl, notLater⟩
  · exact Or.inl sooner
  · refine Or.inr ⟨rfl, ?_⟩
    rcases Nat.lt_or_eq_of_le notLater with earlier | level
    · exact Or.inl earlier
    · -- A place before this one would have been found first.
      refine Or.inr ⟨level, Nat.le_of_not_lt ?_⟩
      intro before
      obtain ⟨_, there⟩ := List.getElem?_eq_some_iff.mp upcoming.1
      have passed := missed otherPlace before
      rw [there] at passed
      simp [upcoming.2.1, level] at passed

theorem nextOccurrence?_eq_none_iff : nextOccurrence? today now rules = none ↔
    ∀ days place rule, ¬UpcomingAt today now rules days place rule := by
  simp only [nextOccurrence?_none, ← Rule.never_fires_iff]
  constructor
  · intro idle days place rule upcoming
    rcases upcoming.upcoming with ⟨listed, fires, _⟩
    rw [idle rule listed] at fires
    cases fires
  · intro nothing rule listed day
    rcases Weekday.exists_offset today day with ⟨days, positive, _, rfl⟩
    rcases List.mem_iff_getElem?.mp listed with ⟨place, found⟩
    apply Bool.eq_false_iff.mpr
    intro fires
    exact nothing days place rule ⟨found, fires, Or.inl positive⟩

theorem nextOccurrence?_eq_some_iff : nextOccurrence? today now rules = some ⟨days, rule⟩ ↔
    ∃ place, LeastUpcoming today now rules days place rule := by
  constructor
  · intro found
    exact (nextOccurrence?_spec found).leastUpcoming
  · intro first
    rcases first with ⟨place, least⟩
    cases found : nextOccurrence? today now rules with
    | none => exact absurd least.upcoming (nextOccurrence?_eq_none_iff.mp found days place rule)
    | some occurrence =>
        rcases occurrence with ⟨otherDays, other⟩
        obtain ⟨otherPlace, otherLeast⟩ := (nextOccurrence?_spec found).leastUpcoming
        obtain ⟨rfl, rfl⟩ := least.unique otherLeast
        rfl

/-- Only rules of today alone that have gone by leave nothing to come within six days. -/
theorem NextUp.today_alone (next : NextUp today now rules 7 rule) {other : Rule τ α}
    (listed : other ∈ rules) (enabled : other.enabled = true)
    (active : Mask.isEmpty other.days = false) :
    (∀ day, other.days.get day = true ↔ day = today) ∧ other.timeCode ≤ now := by
  have alone : ∀ day, other.days.get day = true → day = today := by
    intro day onDay
    rcases Weekday.exists_offset today day with ⟨days, positive, soon, rfl⟩
    have fires : other.firesOn (today.offset days) = true := by simp [Rule.firesOn, enabled, onDay]
    have order := next.least days other ⟨listed, fires, Or.inl positive⟩
    have week : days = 7 := by omega
    rw [week, Weekday.offset_seven]
  have onToday : other.days.get today = true := by
    by_contra never
    apply Bool.eq_false_iff.mp active
    rw [Mask.isEmpty_iff]
    intro day
    apply Bool.eq_false_iff.mpr
    intro onDay
    exact never (alone day onDay ▸ onDay)
  refine ⟨fun day => ⟨alone day, fun same => same ▸ onToday⟩, Nat.le_of_not_lt ?_⟩
  intro late
  have fires : other.firesOn (today.offset 0) = true := by
    rw [Weekday.offset_zero]
    simp [Rule.firesOn, enabled, onToday]
  have order := next.least 0 other ⟨listed, fires, Or.inr late⟩
  omega

section Shuffle

def Occurrence.slot (occurrence : Occurrence (Rule τ α)) : Nat × Nat :=
  (occurrence.daysAhead, occurrence.rule.timeCode)

variable {shuffled : List (Rule τ α)} {otherDays : Nat} {other : Rule τ α}

theorem Upcoming.perm (shuffle : rules.Perm shuffled)
    (upcoming : Upcoming today now rules days rule) : Upcoming today now shuffled days rule :=
  ⟨shuffle.mem_iff.mp upcoming.1, upcoming.2⟩

theorem NextUp.same_slot (shuffle : rules.Perm shuffled)
    (next : NextUp today now rules days rule)
    (second : NextUp today now shuffled otherDays other) :
    otherDays = days ∧ other.timeCode = rule.timeCode := by
  have before := next.least _ _ (second.upcoming.perm shuffle.symm)
  have after := second.least _ _ (next.upcoming.perm shuffle)
  omega

theorem nextOccurrence?_slot_perm (shuffle : rules.Perm shuffled) :
    (nextOccurrence? today now shuffled).map Occurrence.slot =
      (nextOccurrence? today now rules).map Occurrence.slot := by
  cases found : nextOccurrence? today now rules with
  | none =>
      have idle : nextOccurrence? today now shuffled = none := by
        rw [nextOccurrence?_none] at found ⊢
        intro rule listed
        exact found rule (shuffle.mem_iff.mpr listed)
      rw [idle]
  | some occurrence =>
      have next := nextOccurrence?_spec found
      cases refound : nextOccurrence? today now shuffled with
      | none =>
          obtain ⟨place, upcoming⟩ := (next.upcoming.perm shuffle).exists_place
          exact absurd upcoming (nextOccurrence?_eq_none_iff.mp refound _ _ _)
      | some other =>
          obtain ⟨sameDay, sameTime⟩ := next.same_slot shuffle (nextOccurrence?_spec refound)
          simp only [Option.map_some, Occurrence.slot, sameDay, sameTime]

/-- Rules that fire in one slot clash, so only one can be named where none do. -/
theorem nextOccurrence?_perm (free : ConflictFree rules) (shuffle : rules.Perm shuffled) :
    nextOccurrence? today now shuffled = nextOccurrence? today now rules := by
  have slots : (nextOccurrence? today now shuffled).map Occurrence.slot =
      (nextOccurrence? today now rules).map Occurrence.slot := nextOccurrence?_slot_perm shuffle
  cases found : nextOccurrence? today now rules with
  | none =>
      rw [found] at slots
      exact Option.map_eq_none_iff.mp slots
  | some occurrence =>
      rw [found] at slots
      obtain ⟨other, refound, slot⟩ := Option.map_eq_some_iff.mp slots
      rcases occurrence with ⟨days, rule⟩
      rcases other with ⟨otherDays, other⟩
      obtain ⟨rfl, level⟩ := Prod.mk.inj slot
      change other.timeCode = rule.timeCode at level
      have first := (nextOccurrence?_spec found).first
      have second := (nextOccurrence?_spec refound).first
      rw [level, free.find?_perm shuffle, first] at second
      · rw [refound, Option.some.inj second]
      · intro one two pickedOne pickedTwo
        simp only [Bool.and_eq_true, decide_eq_true_eq] at pickedOne pickedTwo
        exact ⟨pickedOne.2.trans pickedTwo.2.symm, _, pickedOne.1, pickedTwo.1⟩

end Shuffle

/-- The agenda names the least of all occurrences to come, and nothing exactly where there is none.
It never looks further than a week, and that far only for rules of today alone that have gone by.
The slot it names does not depend on the order of the list, and neither does the rule where no two
rules share a slot. -/
theorem nextOccurrence?_is_least (today : Weekday) (now : Nat) (rules : List (Rule τ α)) :
    (nextOccurrence? today now rules = none ↔
      ∀ days place rule, ¬UpcomingAt today now rules days place rule) ∧
    (∀ days rule, nextOccurrence? today now rules = some ⟨days, rule⟩ ↔
      ∃ place, LeastUpcoming today now rules days place rule) ∧
    (∀ days rule, nextOccurrence? today now rules = some ⟨days, rule⟩ → days ≤ 7 ∧
      (days = 7 → ∀ other ∈ rules, other.enabled = true → Mask.isEmpty other.days = false →
        (∀ day, other.days.get day = true ↔ day = today) ∧ other.timeCode ≤ now)) ∧
    ∀ shuffled, rules.Perm shuffled →
      (nextOccurrence? today now shuffled).map Occurrence.slot =
          (nextOccurrence? today now rules).map Occurrence.slot ∧
        (ConflictFree rules →
          nextOccurrence? today now shuffled = nextOccurrence? today now rules) := by
  refine ⟨nextOccurrence?_eq_none_iff, fun _ _ => nextOccurrence?_eq_some_iff, ?_, ?_⟩
  · intro days rule found
    have next := nextOccurrence?_spec found
    refine ⟨next.soon, ?_⟩
    intro sameDay other listed enabled active
    subst sameDay
    exact next.today_alone listed enabled active
  · intro shuffled shuffle
    exact ⟨nextOccurrence?_slot_perm shuffle, fun free => nextOccurrence?_perm free shuffle⟩

theorem nextOccurrence?_is_least_on_monday :
    let night : SleepRule := sleepRule "night" ⟨22, 2⟩ (.ofDays [.monday])
    let noon : SleepRule := sleepRule "noon" ⟨12, 0⟩ (.ofDays [.monday])
    [night, noon].Perm [noon, night] ∧ ConflictFree [night, noon] ∧
      (∃ place, LeastUpcoming .monday 2302 [night, noon] 7 place noon) ∧
      nextOccurrence? .monday 2302 [noon, night] = some ⟨7, noon⟩ ∧ night.timeCode ≤ 2302 := by
  intro night noon
  have shuffle : [night, noon].Perm [noon, night] := List.Perm.swap _ _ _
  have free : ConflictFree [night, noon] := by
    refine List.pairwise_pair.mpr ?_
    intro clash
    exact absurd clash.1 (by decide)
  have found : nextOccurrence? .monday 2302 [night, noon] = some ⟨7, noon⟩ := by decide
  obtain ⟨_, least, week, order⟩ := nextOccurrence?_is_least .monday 2302 [night, noon]
  have passed := (week 7 noon found).2 rfl night (by simp) rfl (by decide)
  exact ⟨shuffle, free, (least 7 noon).mp found, ((order _ shuffle).2 free).trans found, passed.2⟩

end WakeSchedule
