import Mathlib.Data.List.Find
import WakeSchedule.Decision
import WakeSchedule.Proofs.Calendar.Week
/-! What the agenda picks. The rule that is found comes first in the order of days, times and places
in the list among all that fire later, and nothing is found only where no rule ever fires. -/

namespace WakeSchedule

variable {τ α : Type}

theorem Rule.never_fires_iff (rule : Rule τ α) :
    (∀ day, rule.firesOn day = false) ↔ (rule.enabled = true → Mask.isEmpty rule.days = true) := by
  rw [Mask.isEmpty_iff]
  cases enabled : rule.enabled <;> simp [Rule.firesOn, enabled]

variable [RuleTime τ]

theorem earliest?_eq_none (rules : List (Rule τ α)) : earliest? rules = none ↔ rules = [] := by
  cases rules with
  | nil => simp [earliest?]
  | cons rule rules =>
      simp only [earliest?]
      split
      · simp
      · split <;> simp

/-- An earlier rule of the list stays ahead of later ones with the same time. -/
theorem earliest?_spec {rules : List (Rule τ α)} {best : Rule τ α}
    (found : earliest? rules = some best) :
    (∀ rule ∈ rules, best.timeCode ≤ rule.timeCode) ∧
      rules.find? (·.timeCode = best.timeCode) = some best := by
  induction rules generalizing best with
  | nil => cases found
  | cons rule rules ih =>
      simp only [earliest?] at found
      cases later : earliest? rules with
      | none =>
          rw [later] at found
          cases found
          rw [(earliest?_eq_none rules).mp later]
          simp
      | some other =>
          rw [later] at found
          rcases ih later with ⟨least, first⟩
          by_cases before : other.timeCode < rule.timeCode
          · simp only [before, if_true, Option.some.injEq] at found
            subst found
            refine ⟨List.forall_mem_cons.mpr ⟨Nat.le_of_lt before, least⟩, ?_⟩
            rw [List.find?_cons_of_neg (by simpa using Nat.ne_of_gt before)]
            exact first
          · simp only [before, if_false, Option.some.injEq] at found
            subst found
            refine ⟨List.forall_mem_cons.mpr ⟨Nat.le_refl _, ?_⟩, by simp⟩
            intro next member
            exact Nat.le_trans (Nat.le_of_not_lt before) (least next member)

theorem mem_of_earliest? {rules : List (Rule τ α)} {best : Rule τ α}
    (found : earliest? rules = some best) : best ∈ rules :=
  List.mem_of_find?_eq_some (earliest?_spec found).2

/-- A rule fires so many days after today and later than now. -/
def Upcoming (today : Weekday) (now : Nat) (rules : List (Rule τ α)) (days : Nat)
    (rule : Rule τ α) : Prop :=
  rule ∈ rules ∧ rule.firesOn (today.offset days) = true ∧ (0 < days ∨ now < rule.timeCode)

/-- A rule of the list is the next to fire: no other comes before it by day or, within the day, by
time, and it is the first in the list of those that fire with it. -/
structure NextUp (today : Weekday) (now : Nat) (rules : List (Rule τ α)) (days : Nat)
    (rule : Rule τ α) : Prop where
  upcoming : Upcoming today now rules days rule
  soon : days ≤ 7
  least : ∀ otherDays other, Upcoming today now rules otherDays other →
    days < otherDays ∨ days = otherDays ∧ rule.timeCode ≤ other.timeCode
  first : rules.find? (fun other => other.firesOn (today.offset days) &&
    other.timeCode = rule.timeCode) = some rule

theorem NextUp.code_le_of_week {today : Weekday} {now : Nat} {rules : List (Rule τ α)}
    {rule : Rule τ α} (next : NextUp today now rules 7 rule) : rule.timeCode ≤ now := by
  rcases next.upcoming with ⟨listed, fires, _⟩
  rw [Weekday.offset_seven, ← Weekday.offset_zero today] at fires
  apply Nat.le_of_not_lt
  intro late
  have order := next.least 0 rule ⟨listed, fires, Or.inr late⟩
  omega

theorem laterToday?_spec {today : Weekday} {now : Nat} {rules : List (Rule τ α)} {rule : Rule τ α}
    (found : laterToday? today now rules = some rule) : NextUp today now rules 0 rule := by
  rcases earliest?_spec found with ⟨least, first⟩
  have member := List.mem_filter.mp (mem_of_earliest? found)
  simp only [Bool.and_eq_true, decide_eq_true_eq] at member
  rcases member with ⟨listed, fires, later⟩
  refine ⟨⟨listed, by rwa [Weekday.offset_zero], Or.inr later⟩, by omega, ?_, ?_⟩
  · intro days other upcoming
    rcases upcoming with ⟨otherListed, otherFires, late⟩
    rcases Nat.eq_zero_or_pos days with rfl | ahead
    · rw [Weekday.offset_zero] at otherFires
      refine Or.inr ⟨rfl, least other (List.mem_filter.mpr ⟨otherListed, ?_⟩)⟩
      simp only [otherFires, Bool.true_and, decide_eq_true_eq]
      omega
    · exact Or.inl ahead
  · rw [List.find?_filter] at first
    rw [← first, Weekday.offset_zero]
    apply List.find?_congr
    intro other _
    by_cases same : other.timeCode = rule.timeCode
    · simp [same, later]
    · simp [same]

theorem laterToday?_none {today : Weekday} {now : Nat} {rules : List (Rule τ α)}
    (missing : laterToday? today now rules = none) (rule : Rule τ α) :
    ¬Upcoming today now rules 0 rule := by
  intro upcoming
  rcases upcoming with ⟨listed, fires, late⟩
  rw [Weekday.offset_zero] at fires
  have idle := List.filter_eq_nil_iff.mp ((earliest?_eq_none _).mp missing) rule listed
  simp only [fires, Bool.true_and, decide_eq_true_eq] at idle
  omega

theorem firstOn?_none {day : Weekday} {rules : List (Rule τ α)}
    (missing : firstOn? day rules = none) {rule : Rule τ α} (listed : rule ∈ rules) :
    rule.firesOn day = false := by
  have idle := List.filter_eq_nil_iff.mp ((earliest?_eq_none _).mp missing) rule listed
  simpa using idle

theorem nextOccurrence?_spec {today : Weekday} {now : Nat} {rules : List (Rule τ α)} {days : Nat}
    {rule : Rule τ α} (found : nextOccurrence? today now rules = some ⟨days, rule⟩) :
    NextUp today now rules days rule := by
  unfold nextOccurrence? at found
  cases today? : laterToday? today now rules with
  | some first =>
      rw [today?] at found
      cases found
      exact laterToday?_spec today?
  | none =>
      rw [today?] at found
      rcases List.findSome?_eq_some_iff.mp found with ⟨before, ahead, after, week, hit, missed⟩
      rcases Option.map_eq_some_iff.mp hit with ⟨first, onDay, shape⟩
      cases shape
      have ahead : 1 ≤ days ∧ days ≤ 7 := by
        have member : days ∈ [1, 2, 3, 4, 5, 6, 7] := by rw [week]; simp
        simp only [List.mem_cons, List.not_mem_nil, or_false] at member
        omega
      -- the search goes through the days in order, so the earlier ones were all missed
      have passed : ∀ earlier, 1 ≤ earlier → earlier < days → earlier ∈ before := by
        intro earlier positive order
        have member : earlier ∈ before ++ days :: after := by
          rw [← week]
          simp only [List.mem_cons, List.not_mem_nil, or_false]
          omega
        have ascending : (before ++ days :: after).Pairwise (· < ·) := by
          rw [← week]
          decide
        rcases List.mem_append.mp member with inside | rest
        · exact inside
        · rcases List.mem_cons.mp rest with same | inside
          · omega
          · have bound := (List.pairwise_cons.mp (List.pairwise_append.mp ascending).2.1).1 _ inside
            omega
      rcases earliest?_spec onDay with ⟨least, first⟩
      rcases List.mem_filter.mp (mem_of_earliest? onDay) with ⟨listed, fires⟩
      refine ⟨⟨listed, fires, Or.inl ahead.1⟩, ahead.2, ?_, ?_⟩
      · intro otherDays other upcoming
        rcases id upcoming with ⟨otherListed, otherFires, _⟩
        rcases Nat.lt_trichotomy otherDays days with earlier | same | later
        · rcases Nat.eq_zero_or_pos otherDays with zero | positive
          · subst zero
            exact absurd upcoming (laterToday?_none today? other)
          · have missing := missed otherDays (passed otherDays positive earlier)
            rw [firstOn?_none (Option.map_eq_none_iff.mp missing) otherListed] at otherFires
            cases otherFires
        · subst same
          exact Or.inr ⟨rfl, least other (List.mem_filter.mpr ⟨otherListed, otherFires⟩)⟩
        · exact Or.inl later
      · rw [List.find?_filter] at first
        rw [← first]
        apply List.find?_congr
        intro other _
        simp

theorem nextOccurrence?_none (today : Weekday) (now : Nat) (rules : List (Rule τ α)) :
    nextOccurrence? today now rules = none ↔
      ∀ rule ∈ rules, rule.enabled = true → Mask.isEmpty rule.days = true := by
  simp only [← Rule.never_fires_iff]
  constructor
  · intro missing rule listed day
    unfold nextOccurrence? at missing
    split at missing
    · cases missing
    · rcases Weekday.exists_offset today day with ⟨days, positive, soon, rfl⟩
      have member : days ∈ [1, 2, 3, 4, 5, 6, 7] := by
        simp only [List.mem_cons, List.not_mem_nil, or_false]
        omega
      have idle := List.findSome?_eq_none_iff.mp missing days member
      exact firstOn?_none (Option.map_eq_none_iff.mp idle) listed
  · intro idle
    cases found : nextOccurrence? today now rules with
    | none => rfl
    | some occurrence =>
        rcases (nextOccurrence?_spec found).upcoming with ⟨listed, fires, _⟩
        rw [idle _ listed] at fires
        cases fires

end WakeSchedule
