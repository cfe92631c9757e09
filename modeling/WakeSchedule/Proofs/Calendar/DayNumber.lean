import WakeSchedule.Calendar.Moment
import WakeSchedule.Proofs.Calendar.Week

namespace WakeSchedule

theorem isLeap_iff (year : Int) :
    isLeap year = true ↔ year % 4 = 0 ∧ (year % 100 ≠ 0 ∨ year % 400 = 0) := by
  simp [isLeap]

theorem daysBeforeYear_succ (year : Int) :
    daysBeforeYear (year + 1) = daysBeforeYear year + if isLeap year then 366 else 365 := by
  have rule := isLeap_iff year
  by_cases leap : isLeap year = true
  · have shape := rule.mp leap
    simp only [leap, if_true, daysBeforeYear]
    omega
  · have shape := mt rule.mpr leap
    rw [if_neg leap]
    simp only [daysBeforeYear]
    omega

theorem daysBeforeYear_mono {first second : Int} (order : first ≤ second) :
    daysBeforeYear first ≤ daysBeforeYear second := by
  rcases Int.le.dest order with ⟨years, rfl⟩
  induction years with
  | zero => simp
  | succ years ih =>
      have step := daysBeforeYear_succ (first + years)
      rw [Int.natCast_add, Int.natCast_one, ← Int.add_assoc, step]
      split <;> omega

theorem monthLength_le (year : Int) (month : Nat) : monthLength year month ≤ 31 := by
  unfold monthLength
  split
  · split <;> decide
  · split <;> decide

theorem daysBeforeMonth_succ (year : Int) (month : Nat) (begun : 1 ≤ month) :
    daysBeforeMonth year (month + 1) = daysBeforeMonth year month + monthLength year month := by
  obtain ⟨earlier, rfl⟩ : ∃ earlier, month = earlier + 1 := ⟨month - 1, by omega⟩
  rfl

theorem daysBeforeMonth_thirteen (year : Int) :
    daysBeforeMonth year 13 = if isLeap year then 366 else 365 := by
  by_cases leap : isLeap year = true <;> simp [daysBeforeMonth, monthLength, leap]

theorem daysBeforeMonth_mono (year : Int) {first second : Nat} (order : first ≤ second) :
    daysBeforeMonth year first ≤ daysBeforeMonth year second := by
  induction order with
  | refl => exact Nat.le_refl _
  | @step month _ ih =>
      rcases Nat.eq_zero_or_pos month with zero | begun
      · subst zero
        exact ih
      · rw [Nat.succ_eq_add_one, daysBeforeMonth_succ year month begun]
        omega

/-- The guess from the mean length of a year is corrected to the year that holds the day. -/
theorem yearOfDay_bounds (number : Int) :
    daysBeforeYear (yearOfDay number) ≤ number ∧
      number < daysBeforeYear (yearOfDay number + 1) := by
  simp only [yearOfDay]
  split
  · simp only [daysBeforeYear] at *
    omega
  · split <;> simp only [daysBeforeYear] at * <;> omega

theorem le_yearOfDay {number year : Int} (begun : daysBeforeYear year ≤ number) :
    year ≤ yearOfDay number := by
  rcases yearOfDay_bounds number with ⟨_, running⟩
  apply Int.not_lt.mp
  intro later
  have order := daysBeforeYear_mono (show yearOfDay number + 1 ≤ year by omega)
  omega

theorem yearOfDay_le {number year : Int} (running : number < daysBeforeYear (year + 1)) :
    yearOfDay number ≤ year := by
  rcases yearOfDay_bounds number with ⟨begun, _⟩
  apply Int.not_lt.mp
  intro earlier
  have order := daysBeforeYear_mono (show year + 1 ≤ yearOfDay number by omega)
  omega

theorem monthOfDay_eq {year : Int} {dayOfYear month : Nat} (inYear : month ≤ 12)
    (first : daysBeforeMonth year month ≤ dayOfYear)
    (last : dayOfYear < daysBeforeMonth year (month + 1)) : monthOfDay year dayOfYear = month := by
  have split : List.range' 1 12 = List.range' 1 month ++ List.range' (month + 1) (12 - month) := by
    rw [Nat.add_comm month 1, List.range'_append_1, Nat.add_sub_cancel' inYear]
  have kept : (List.range' 1 month).filter (fun m => daysBeforeMonth year m ≤ dayOfYear) =
      List.range' 1 month := by
    apply List.filter_eq_self.mpr
    intro other member
    have bound := List.mem_range'_1.mp member
    have order := daysBeforeMonth_mono year (show other ≤ month by omega)
    simpa using Nat.le_trans order first
  have dropped : (List.range' (month + 1) (12 - month)).filter
      (fun m => daysBeforeMonth year m ≤ dayOfYear) = [] := by
    apply List.filter_eq_nil_iff.mpr
    intro other member
    have bound := List.mem_range'_1.mp member
    have order := daysBeforeMonth_mono year (show month + 1 ≤ other by omega)
    simpa using Nat.lt_of_lt_of_le last order
  rw [monthOfDay, split, List.filter_append, kept, dropped, List.append_nil, List.length_range']

theorem exists_month (year : Int) (dayOfYear : Nat)
    (inYear : dayOfYear < daysBeforeMonth year 13) :
    ∃ month, (1 ≤ month ∧ month ≤ 12) ∧ daysBeforeMonth year month ≤ dayOfYear ∧
      dayOfYear < daysBeforeMonth year (month + 1) := by
  -- Each month begins where the one before ends, so the search may go down from December.
  have search : ∀ last, last ≤ 12 → dayOfYear < daysBeforeMonth year (last + 1) →
      ∃ month, (1 ≤ month ∧ month ≤ 12) ∧ daysBeforeMonth year month ≤ dayOfYear ∧
        dayOfYear < daysBeforeMonth year (month + 1) := by
    intro last
    induction last with
    | zero => intro _ before; exact absurd before (Nat.not_lt_zero _)
    | succ last ih =>
        intro bound before
        by_cases begun : daysBeforeMonth year (last + 1) ≤ dayOfYear
        · exact ⟨last + 1, ⟨by omega, bound⟩, begun, before⟩
        · exact ih (by omega) (by omega)
  exact search 12 (Nat.le_refl _) inYear

namespace Date

theorem dayOfYear_lt (date : Date) :
    daysBeforeMonth date.year date.month + date.day - 1 <
      daysBeforeMonth date.year (date.month + 1) := by
  rcases date.valid with ⟨_, ⟨begun, _⟩, positive, fits⟩
  rw [daysBeforeMonth_succ date.year date.month begun]
  omega

theorem year_bounds (date : Date) :
    daysBeforeYear date.year ≤ date.dayNumber ∧
      date.dayNumber < daysBeforeYear (date.year + 1) := by
  rcases date.valid with ⟨_, ⟨_, inYear⟩, positive, _⟩
  have inMonth := dayOfYear_lt date
  have whole := daysBeforeMonth_mono date.year (show date.month + 1 ≤ 13 by omega)
  rw [daysBeforeMonth_thirteen] at whole
  rw [daysBeforeYear_succ, dayNumber]
  split at whole <;> simp_all <;> omega

theorem ofDayNumber?_dayNumber (date : Date) : ofDayNumber? date.dayNumber = some date := by
  rcases year_bounds date with ⟨begun, running⟩
  rcases date.valid with ⟨_, ⟨_, lastMonth⟩, positive, _⟩
  have year : yearOfDay date.dayNumber = date.year :=
    Int.le_antisymm (yearOfDay_le running) (le_yearOfDay begun)
  have dayOfYear : (date.dayNumber - daysBeforeYear date.year).toNat =
      daysBeforeMonth date.year date.month + date.day - 1 := by
    rw [dayNumber]
    omega
  have month : monthOfDay date.year (daysBeforeMonth date.year date.month + date.day - 1) =
      date.month := by
    apply monthOfDay_eq lastMonth (by omega)
    exact dayOfYear_lt date
  have day : daysBeforeMonth date.year date.month + date.day - 1 -
      daysBeforeMonth date.year date.month + 1 = date.day := by omega
  simp only [ofDayNumber?, year, dayOfYear, month, day]
  exact dif_pos date.valid

def firstNumber : Int := daysBeforeYear (-9999)

def lastNumber : Int := daysBeforeYear 10000 - 1

theorem exists_of_number (number : Int) (first : firstNumber ≤ number)
    (last : number ≤ lastNumber) : ∃ date, dayNumber date = number := by
  rcases yearOfDay_bounds number with ⟨begun, running⟩
  have years : InYears (yearOfDay number) :=
    ⟨le_yearOfDay first, yearOfDay_le (Int.lt_of_le_sub_one last)⟩
  have inYear : (number - daysBeforeYear (yearOfDay number)).toNat <
      daysBeforeMonth (yearOfDay number) 13 := by
    rw [daysBeforeYear_succ] at running
    rw [daysBeforeMonth_thirteen]
    split at running <;> simp_all <;> omega
  rcases exists_month _ _ inYear with ⟨month, months, firstDay, lastDay⟩
  have length := daysBeforeMonth_succ (yearOfDay number) month months.1
  refine ⟨⟨yearOfDay number, month, (number - daysBeforeYear (yearOfDay number)).toNat -
    daysBeforeMonth (yearOfDay number) month + 1, years, months, by omega, by omega⟩, ?_⟩
  simp only [dayNumber]
  omega

theorem dayNumber_bounds (date : Date) :
    firstNumber ≤ date.dayNumber ∧ date.dayNumber ≤ lastNumber := by
  rcases year_bounds date with ⟨begun, running⟩
  rcases date.valid with ⟨⟨first, last⟩, _⟩
  have before := daysBeforeYear_mono first
  have after := daysBeforeYear_mono (show date.year + 1 ≤ 10000 by omega)
  unfold firstNumber lastNumber
  omega

theorem ofDayNumber?_eq_some (number : Int) (date : Date) :
    ofDayNumber? number = some date ↔ date.dayNumber = number := by
  constructor
  · intro found
    by_cases inside : firstNumber ≤ number ∧ number ≤ lastNumber
    · rcases exists_of_number number inside.1 inside.2 with ⟨other, rfl⟩
      rw [ofDayNumber?_dayNumber] at found
      rw [Option.some.inj found]
    · -- outside the calendar the year is out of range, so no date is found
      have years : InYears (yearOfDay number) := by
        simp only [ofDayNumber?, ofFields?] at found
        split at found
        · exact (‹IsDate _ _ _› : IsDate _ _ _).1
        · cases found
      rcases yearOfDay_bounds number with ⟨begun, running⟩
      have before := daysBeforeYear_mono years.1
      have after := daysBeforeYear_mono (show yearOfDay number + 1 ≤ 10000 by
        have last := years.2
        omega)
      unfold firstNumber lastNumber at inside
      omega
  · rintro rfl
    exact ofDayNumber?_dayNumber date

theorem dayNumber_injective {a b : Date} (same : a.dayNumber = b.dayNumber) : a = b := by
  have found := ofDayNumber?_dayNumber a
  rw [same, ofDayNumber?_dayNumber] at found
  exact (Option.some.inj found).symm

theorem addDays_eq_ok (date later : Date) (days : Nat) :
    date.addDays days = .ok later ↔ later.dayNumber = date.dayNumber + days := by
  rw [← ofDayNumber?_eq_some]
  unfold addDays
  generalize ofDayNumber? (date.dayNumber + days) = found
  cases found <;> simp

theorem addDays_eq_error (date : Date) (days : Nat) (past : lastNumber < date.dayNumber + days) :
    date.addDays days = .error (.dateOverflow days date) := by
  have missing : ofDayNumber? (date.dayNumber + days) = none := by
    apply Option.eq_none_iff_forall_ne_some.mpr
    intro later found
    have number := (ofDayNumber?_eq_some _ _).mp found
    have bounds := dayNumber_bounds later
    omega
  unfold addDays
  rw [missing]

theorem addDays_ok_of_le (date : Date) (days : Nat) (within : date.dayNumber + days ≤ lastNumber) :
    ∃ later, date.addDays days = .ok later := by
  have bounds := dayNumber_bounds date
  rcases exists_of_number (date.dayNumber + days) (by omega) within with ⟨later, number⟩
  exact ⟨later, (addDays_eq_ok date later days).mpr number⟩

theorem weekday_of_dayNumber {date later : Date} {days : Nat}
    (number : later.dayNumber = date.dayNumber + days) :
    later.weekday = date.weekday.offset days := by
  rw [weekday, weekday, Weekday.offset, Weekday.index_ofIndex, number]
  apply Weekday.ofIndex_congr
  omega

end Date

end WakeSchedule
