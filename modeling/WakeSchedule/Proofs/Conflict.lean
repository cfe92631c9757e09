import WakeSchedule.Rule
import WakeSchedule.Proofs.Calendar.Week

namespace WakeSchedule

variable {τ α : Type} [RuleTime τ]

theorem slotTaken_iff (rules : List (Rule τ α)) (day : Weekday) (code : Nat) :
    slotTaken rules day code = true ↔
      ∃ rule ∈ rules, rule.firesOn day = true ∧ rule.timeCode = code := by
  simp only [slotTaken, List.any_eq_true, Bool.and_eq_true, decide_eq_true_eq]

/-- The candidate and one of the rules fire on the day at one time. -/
def SharesSlot (candidate : Rule τ α) (rules : List (Rule τ α)) (day : Weekday) : Prop :=
  candidate.firesOn day = true ∧
    ∃ rule ∈ rules, rule.firesOn day = true ∧ rule.timeCode = candidate.timeCode

theorem exists_sharesSlot_iff (candidate : Rule τ α) (rules : List (Rule τ α)) :
    (∃ day, SharesSlot candidate rules day) ↔ ∃ rule ∈ rules, Clash rule candidate := by
  constructor
  · intro shared
    obtain ⟨day, fires, rule, listed, ruleFires, sameTime⟩ := shared
    exact ⟨rule, listed, sameTime, day, ruleFires, fires⟩
  · intro clash
    obtain ⟨rule, listed, sameTime, day, ruleFires, fires⟩ := clash
    exact ⟨day, fires, rule, listed, ruleFires, sameTime⟩

def firstShared? (candidate : Rule τ α) (rules : List (Rule τ α)) : Option Weekday :=
  Weekday.all.find? fun day => candidate.firesOn day && slotTaken rules day candidate.timeCode

section Shared

variable (candidate : Rule τ α) (rules : List (Rule τ α))

theorem sharesSlot_iff (day : Weekday) : SharesSlot candidate rules day ↔
    (candidate.firesOn day && slotTaken rules day candidate.timeCode) = true := by
  rw [Bool.and_eq_true, slotTaken_iff, SharesSlot]

theorem firstShared?_eq_some_iff (day : Weekday) : firstShared? candidate rules = some day ↔
    SharesSlot candidate rules day ∧
      ∀ earlier, earlier.index < day.index → ¬SharesSlot candidate rules earlier := by
  simp only [sharesSlot_iff, Bool.not_eq_true]
  exact Weekday.find?_all_eq_some_iff _ day

theorem firstShared?_eq_none_iff :
    firstShared? candidate rules = none ↔ ∀ day, ¬SharesSlot candidate rules day := by
  simp only [sharesSlot_iff, firstShared?, List.find?_eq_none]
  exact ⟨fun free day => free day day.mem_all, fun free day _ => free day⟩

theorem checkConflict_eq : checkConflict candidate rules =
    (firstShared? candidate rules).elim (.ok ())
      fun day => .error (.slotTaken day (RuleTime.digits candidate.time)) := by
  unfold checkConflict
  cases enabled : candidate.enabled with
  | true =>
      have search : candidate.days.activeDays.find? (slotTaken rules · candidate.timeCode) =
          firstShared? candidate rules := by
        simp only [firstShared?, Mask.activeDays, List.find?_filter, Rule.firesOn, enabled,
          Bool.true_and, Bool.decide_and, Bool.decide_eq_true]
      rw [if_pos rfl, search]
      cases firstShared? candidate rules <;> rfl
  | false =>
      have free : firstShared? candidate rules = none := by
        simp [firstShared?, Rule.firesOn, enabled]
      rw [free]
      rfl

theorem checkConflict_eq_ok_iff :
    checkConflict candidate rules = .ok () ↔ ∀ rule ∈ rules, ¬Clash rule candidate := by
  calc
    checkConflict candidate rules = .ok () ↔ firstShared? candidate rules = none := by
      rw [checkConflict_eq]
      cases firstShared? candidate rules <;> simp
    _ ↔ ¬∃ day, SharesSlot candidate rules day := by
      rw [firstShared?_eq_none_iff, not_exists]
    _ ↔ ∀ rule ∈ rules, ¬Clash rule candidate := by
      simp only [exists_sharesSlot_iff, not_exists, not_and]

theorem checkConflict_eq_error_iff (violation : Violation) :
    checkConflict candidate rules = .error violation ↔
      ∃ day, violation = .slotTaken day (RuleTime.digits candidate.time) ∧
        SharesSlot candidate rules day ∧
        ∀ earlier, earlier.index < day.index → ¬SharesSlot candidate rules earlier := by
  simp only [← firstShared?_eq_some_iff]
  rw [checkConflict_eq]
  cases firstShared? candidate rules with
  | none => simp
  | some first => simp [eq_comm]

theorem checkConflict_fails_iff :
    (∃ violation, checkConflict candidate rules = .error violation) ↔
      ∃ rule ∈ rules, Clash rule candidate := by
  calc
    (∃ violation, checkConflict candidate rules = .error violation) ↔
        firstShared? candidate rules ≠ none := by
      rw [checkConflict_eq]
      cases firstShared? candidate rules <;> simp
    _ ↔ ∃ day, SharesSlot candidate rules day := by
      simp [firstShared?_eq_none_iff]
    _ ↔ ∃ rule ∈ rules, Clash rule candidate := exists_sharesSlot_iff candidate rules

end Shared

theorem checkConflict_congr (candidate : Rule τ α) {first second : List (Rule τ α)}
    (same : ∀ day code, slotTaken first day code = slotTaken second day code) :
    checkConflict candidate first = checkConflict candidate second := by
  simp only [checkConflict, same]

theorem slotTaken_perm {rules shuffled : List (Rule τ α)} (shuffle : rules.Perm shuffled)
    (day : Weekday) (code : Nat) : slotTaken shuffled day code = slotTaken rules day code :=
  shuffle.symm.any_eq

theorem slotTaken_enabled (rules : List (Rule τ α)) (day : Weekday) (code : Nat) :
    slotTaken (rules.filter (·.enabled)) day code = slotTaken rules day code := by
  rw [slotTaken, slotTaken, List.any_filter]
  congr 1
  funext rule
  cases enabled : rule.enabled <;> simp [Rule.firesOn, enabled]

theorem slotTaken_map {change : Rule τ α → Rule τ α} (rules : List (Rule τ α)) (day : Weekday)
    (code : Nat) (sameDays : ∀ rule, (change rule).firesOn day = rule.firesOn day)
    (sameTime : ∀ rule, (change rule).timeCode = rule.timeCode) :
    slotTaken (rules.map change) day code = slotTaken rules day code := by
  simp only [slotTaken, List.any_map, Function.comp_def, sameDays, sameTime]

theorem checkConflict_enabled_map (candidate : Rule τ α) (rules : List (Rule τ α))
    {change : Rule τ α → Rule τ α}
    (sameDays : ∀ rule day, (change rule).firesOn day = rule.firesOn day)
    (sameTime : ∀ rule, (change rule).timeCode = rule.timeCode) :
    checkConflict candidate ((rules.filter (·.enabled)).map change) =
      checkConflict candidate rules := by
  apply checkConflict_congr
  intro day code
  calc
    slotTaken ((rules.filter (·.enabled)).map change) day code =
        slotTaken (rules.filter (·.enabled)) day code :=
      slotTaken_map _ day code (sameDays · day) sameTime
    _ = slotTaken rules day code := slotTaken_enabled rules day code

theorem ConflictFree.append {rules : List (Rule τ α)} {candidate : Rule τ α}
    (free : ConflictFree rules) (accepted : checkConflict candidate rules = .ok ()) :
    ConflictFree (rules ++ [candidate]) := by
  have apart := (checkConflict_eq_ok_iff candidate rules).mp accepted
  refine List.pairwise_append.mpr ⟨free, List.pairwise_singleton _ _, ?_⟩
  intro rule listed other last
  rw [List.mem_singleton.mp last]
  exact apart rule listed

theorem ConflictFree.sublist {rules fewer : List (Rule τ α)} (free : ConflictFree rules)
    (part : fewer.Sublist rules) : ConflictFree fewer :=
  List.Pairwise.sublist part free

theorem Clash.symm {one other : Rule τ α} (clash : Clash one other) : Clash other one := by
  rcases clash with ⟨sameTime, day, first, second⟩
  exact ⟨sameTime.symm, day, second, first⟩

theorem Clash.enabled {one other : Rule τ α} (clash : Clash one other) : one.enabled = true := by
  obtain ⟨_, day, fires, _⟩ := clash
  exact ((Bool.and_eq_true _ _).mp fires).1

theorem conflictFree_enabled_iff (rules : List (Rule τ α)) :
    ConflictFree (rules.filter (·.enabled)) ↔ ConflictFree rules := by
  rw [ConflictFree, List.pairwise_filter]
  apply List.Pairwise.iff
  intro one other
  constructor
  · intro apart clash
    exact apart clash.enabled clash.symm.enabled clash
  · intro apart _ _
    exact apart

theorem ConflictFree.perm {rules shuffled : List (Rule τ α)} (free : ConflictFree rules)
    (shuffle : rules.Perm shuffled) : ConflictFree shuffled :=
  (shuffle.pairwise_iff fun apart clash => apart clash.symm).mp free

theorem ConflictFree.accepts_removed {before after : List (Rule τ α)} {removed candidate : Rule τ α}
    (free : ConflictFree (before ++ removed :: after))
    (sameDays : ∀ day, candidate.firesOn day = removed.firesOn day)
    (sameTime : candidate.timeCode = removed.timeCode) :
    checkConflict candidate (before ++ after) = .ok () := by
  have apart := (List.pairwise_cons.mp (free.perm List.perm_middle)).1
  refine (checkConflict_eq_ok_iff candidate _).mpr fun rule left clash => apart rule left ?_
  simpa only [Clash, sameDays, sameTime] using clash.symm

/-- Where any two picked rules would clash, conflict free ones have at most one to pick. -/
theorem ConflictFree.filter_eq_find? {rules : List (Rule τ α)} (free : ConflictFree rules)
    {picked : Rule τ α → Bool}
    (clashing : ∀ one other, picked one = true → picked other = true → Clash one other) :
    rules.filter picked = (rules.find? picked).toList := by
  have apart := free.sublist (List.filter_sublist (p := picked))
  have each : ∀ rule ∈ rules.filter picked, picked rule = true :=
    fun rule member => (List.mem_filter.mp member).2
  rw [← List.head?_filter]
  cases chosen : rules.filter picked with
  | nil => rfl
  | cons one others =>
      rw [chosen] at apart each
      cases others with
      | nil => rfl
      | cons other others =>
          have clash := clashing one other (each one (by simp)) (each other (by simp))
          exact absurd clash ((List.pairwise_cons.mp apart).1 other (by simp))

theorem ConflictFree.find?_perm {rules shuffled : List (Rule τ α)} (free : ConflictFree rules)
    (shuffle : rules.Perm shuffled) {picked : Rule τ α → Bool}
    (clashing : ∀ one other, picked one = true → picked other = true → Clash one other) :
    shuffled.find? picked = rules.find? picked := by
  have same := shuffle.filter picked
  rw [free.filter_eq_find? clashing, (free.perm shuffle).filter_eq_find? clashing] at same
  cases first : rules.find? picked with
  | none =>
      rw [first] at same
      exact Option.toList_eq_nil_iff.mp same.symm.eq_nil
  | some rule =>
      rw [first] at same
      exact Option.toList_eq_singleton_iff.mp (List.singleton_perm.mp same).symm

theorem ConflictFree.map {rules : List (Rule τ α)} {change : Rule τ α → Rule τ α}
    (free : ConflictFree rules)
    (sameDays : ∀ rule day, (change rule).firesOn day = rule.firesOn day)
    (sameTime : ∀ rule, (change rule).timeCode = rule.timeCode) :
    ConflictFree (rules.map change) := by
  refine List.Pairwise.map change ?_ free
  intro first second apart clash
  apply apart
  simpa only [Clash, sameDays, sameTime] using clash

end WakeSchedule
