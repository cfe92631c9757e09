import WakeSchedule.Proofs.Calendar.DayNumber

namespace WakeSchedule

namespace TimeOfDay

theorem seconds_lt (time : TimeOfDay) : time.seconds < 86400 := by
  have hour := time.hour.isLt
  have minute := time.minute.isLt
  have second := time.second.isLt
  simp only [seconds, minutes]
  omega

theorem exists_seconds {count : Nat} (within : count < 86400) :
    ∃ time : TimeOfDay, time.seconds = count := by
  refine ⟨⟨⟨count / 3600, by omega⟩, ⟨count / 60 % 60, by omega⟩, ⟨count % 60, by omega⟩⟩, ?_⟩
  simp only [seconds, minutes]
  omega

theorem code_lt_iff (a b : TimeOfDay) : a.code < b.code ↔ a.seconds < b.seconds := by
  have minutes := And.intro a.minute.isLt b.minute.isLt
  have seconds := And.intro a.second.isLt b.second.isLt
  simp only [code, TimeOfDay.seconds, TimeOfDay.minutes]
  omega

theorem code_le_iff (a b : TimeOfDay) : a.code ≤ b.code ↔ a.seconds ≤ b.seconds := by
  have reverse := code_lt_iff b a
  omega

theorem code_injective {a b : TimeOfDay} (same : a.code = b.code) : a = b := by
  rcases a with ⟨⟨hour, _⟩, ⟨minute, _⟩, ⟨second, _⟩⟩
  rcases b with ⟨⟨hour', _⟩, ⟨minute', _⟩, ⟨second', _⟩⟩
  simp only [code] at same
  simp only [mk.injEq, Fin.mk.injEq]
  omega

theorem ofFields_eq_ok_iff {hour minute second : Nat} {time : TimeOfDay} :
    ofFields hour minute second = .ok time ↔
      time.hour = hour ∧ time.minute = minute ∧ time.second = second := by
  rcases time with ⟨⟨hour', _⟩, ⟨minute', _⟩, ⟨second', _⟩⟩
  unfold ofFields
  constructor
  · intro built
    split at built <;> try cases built
    split at built <;> try cases built
    split at built <;> cases built
    exact ⟨rfl, rfl, rfl⟩
  · rintro ⟨rfl, rfl, rfl⟩
    rw [dif_pos ‹_›, dif_pos ‹_›, dif_pos ‹_›]

section Fields

variable (time : TimeOfDay)

theorem hour_of_code : time.code / 10000 = time.hour := by
  rw [code]
  omega

theorem minute_of_code : time.code / 100 % 100 = time.minute := by
  rw [code]
  omega

theorem second_of_code : time.code % 100 = time.second := by
  rw [code]
  omega

/-- The fields that the number tells are within their bounds, so the check on them never fails. -/
theorem clockTime_eq : time.clockTime = .ok time :=
  ofFields_eq_ok_iff.mpr
    ⟨time.hour_of_code.symm, time.minute_of_code.symm, time.second_of_code.symm⟩

end Fields

end TimeOfDay

theorem Date.ofFields?_eq_some_iff {year : Int} {month day : Nat} {date : Date} :
    ofFields? year month day = some date ↔
      date.year = year ∧ date.month = month ∧ date.day = day := by
  rcases date with ⟨year', month', day', valid⟩
  rw [ofFields?]
  constructor
  · intro built
    split at built <;> cases built
    exact ⟨rfl, rfl, rfl⟩
  · rintro ⟨rfl, rfl, rfl⟩
    rw [dif_pos valid]

namespace Moment

theorem ofFields_eq_ok_iff {year : Int} {month day hour minute second : Nat} {moment : Moment} :
    ofFields year month day hour minute second = .ok moment ↔
      (moment.date.year = year ∧ moment.date.month = month ∧ moment.date.day = day) ∧
        moment.time.hour = hour ∧ moment.time.minute = minute ∧ moment.time.second = second := by
  rcases moment with ⟨date, ⟨⟨hour', _⟩, ⟨minute', _⟩, ⟨second', _⟩⟩⟩
  rw [← Date.ofFields?_eq_some_iff]
  unfold ofFields
  constructor
  · intro built
    split at built <;> try cases built
    split at built <;> try cases built
    split at built <;> try cases built
    next found =>
      split at built <;> try cases built
      split at built <;> try cases built
      split at built <;> cases built
      exact ⟨found, rfl, rfl, rfl⟩
  · rintro ⟨found, rfl, rfl, rfl⟩
    obtain ⟨rfl, rfl, rfl⟩ := Date.ofFields?_eq_some_iff.mp found
    rw [if_pos date.valid.2.1, if_pos date.valid.1, found]
    simp only
    rw [dif_pos ‹_›, dif_pos ‹_›, dif_pos ‹_›]

theorem instant_lt_iff (a b : Moment) :
    a.instant < b.instant ↔ a.date.dayNumber < b.date.dayNumber ∨
      a.date.dayNumber = b.date.dayNumber ∧ a.time.code < b.time.code := by
  have first := a.time.seconds_lt
  have second := b.time.seconds_lt
  rw [TimeOfDay.code_lt_iff]
  simp only [instant]
  omega

theorem instant_le_iff (a b : Moment) :
    a.instant ≤ b.instant ↔ a.date.dayNumber < b.date.dayNumber ∨
      a.date.dayNumber = b.date.dayNumber ∧ a.time.code ≤ b.time.code := by
  have reverse := instant_lt_iff b a
  omega

theorem instant_injective {a b : Moment} (same : a.instant = b.instant) : a = b := by
  have forward := (instant_le_iff a b).mp (Int.le_of_eq same)
  have backward := (instant_le_iff b a).mp (Int.le_of_eq same.symm)
  have date : a.date = b.date := Date.dayNumber_injective (by omega)
  have time : a.time = b.time := TimeOfDay.code_injective (by omega)
  cases a
  cases b
  simp_all

end Moment

end WakeSchedule
