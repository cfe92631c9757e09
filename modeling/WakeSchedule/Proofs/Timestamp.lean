import WakeSchedule.Proofs.Calendar.TimeDigits
import WakeSchedule.Proofs.Decision

namespace WakeSchedule

structure NamesMoment (text : String) : Prop where
  digits : IsDigits 14 text
  month : 1 ≤ fieldOf text 4 2 ∧ fieldOf text 4 2 ≤ 12
  day : 1 ≤ fieldOf text 6 2 ∧ fieldOf text 6 2 ≤ monthLength (fieldOf text 0 4) (fieldOf text 4 2)
  hour : fieldOf text 8 2 ≤ 23
  minute : fieldOf text 10 2 ≤ 59
  second : fieldOf text 12 2 ≤ 59

namespace Moment

variable {text : String} {moment : Moment}

theorem numberAt_of_digits {size start width limit : Nat} (run : IsDigits size text)
    (within : start + width ≤ size) (fits : 10 ^ width ≤ limit) :
    numberAt text.toList start width limit = .ok (fieldOf text start width) := by
  have below := run.fieldOf_lt within
  have read : readUpTo limit .tooLarge (slice text.toList start width) 0 =
      .ok (fieldOf text start width) :=
    readUpTo_digits (run.slice within).2 0 (Nat.le_of_lt (Nat.lt_of_lt_of_le below fits))
  rw [slice] at read
  rw [numberAt, run.length, if_pos within, read]
  rfl

def ofText (text : String) : Except MomentField Moment :=
  ofFields (fieldOf text 0 4) (fieldOf text 4 2) (fieldOf text 6 2) (fieldOf text 8 2)
    (fieldOf text 10 2) (fieldOf text 12 2)

theorem parse_of_digits (run : IsDigits 14 text) :
    parse text = (ofText text).mapError fun field => .timestamp text (.outOfRange field) := by
  have fields : ofDigits text.toList = (ofText text).mapError .outOfRange := by
    rw [ofDigits, numberAt_of_digits run (by decide) (by decide),
      numberAt_of_digits run (by decide) (by decide),
      numberAt_of_digits run (by decide) (by decide),
      numberAt_of_digits run (by decide) (by decide),
      numberAt_of_digits run (by decide) (by decide),
      numberAt_of_digits run (by decide) (by decide)]
    rfl
  rw [parse, if_pos ⟨run.size, List.all_eq_true.mpr run.digits⟩, fields]
  cases ofText text <;> rfl

theorem parse_of_not (other : ¬IsDigits 14 text) :
    parse text = .error (.timestamp text .notDigits) := by
  apply if_neg
  rintro ⟨size, digits⟩
  exact other ⟨size, List.all_eq_true.mp digits⟩

theorem ofText_eq_ok_iff : ofText text = .ok moment ↔
    (moment.date.year = fieldOf text 0 4 ∧ moment.date.month = fieldOf text 4 2 ∧
      moment.date.day = fieldOf text 6 2) ∧
    moment.time.hour = fieldOf text 8 2 ∧ moment.time.minute = fieldOf text 10 2 ∧
      moment.time.second = fieldOf text 12 2 :=
  ofFields_eq_ok_iff

theorem parse_eq_ok_iff :
    parse text = .ok moment ↔ IsDigits 14 text ∧ ofText text = .ok moment := by
  by_cases run : IsDigits 14 text
  · rw [parse_of_digits run, mapError_eq_ok, and_iff_right run]
  · rw [parse_of_not run]
    exact ⟨nofun, fun read => absurd read.1 run⟩

theorem namesMoment_iff (text : String) :
    NamesMoment text ↔ IsDigits 14 text ∧ ∃ moment, ofText text = .ok moment := by
  constructor
  · rintro ⟨run, month, day, hour, minute, second⟩
    have years : InYears (fieldOf text 0 4) := by
      have below := run.fieldOf_lt (show 0 + 4 ≤ 14 by decide)
      constructor <;> omega
    refine ⟨run, ⟨⟨fieldOf text 0 4, fieldOf text 4 2, fieldOf text 6 2, years, month, day⟩,
      ⟨fieldOf text 8 2, by omega⟩, ⟨fieldOf text 10 2, by omega⟩, ⟨fieldOf text 12 2, by omega⟩⟩,
      ofText_eq_ok_iff.mpr ⟨⟨rfl, rfl, rfl⟩, rfl, rfl, rfl⟩⟩
  · rintro ⟨run, moment, read⟩
    obtain ⟨⟨year, month, day⟩, hour, minute, second⟩ := ofText_eq_ok_iff.mp read
    obtain ⟨_, months, days⟩ := moment.date.valid
    rw [year, month, day] at days
    exact ⟨run, month ▸ months, days, by omega, by omega, by omega⟩

theorem timestamp_of_parse (read : parse text = .ok moment) : moment.timestamp = text := by
  obtain ⟨run, read⟩ := parse_eq_ok_iff.mp read
  obtain ⟨⟨year, month, day⟩, hour, minute, second⟩ := ofText_eq_ok_iff.mp read
  apply String.toList_inj.mp
  rw [timestamp, padInt, year, if_neg (by omega), Int.natAbs_natCast, TimeOfDay.digits, month, day,
    hour, minute, second]
  simp only [String.toList_append]
  rw [run.padNat_fieldOf (by decide) (by decide), run.padNat_fieldOf (by decide) (by decide),
    run.padNat_fieldOf (by decide) (by decide), run.padNat_fieldOf (by decide) (by decide),
    run.padNat_fieldOf (by decide) (by decide), run.padNat_fieldOf (by decide) (by decide),
    slice_append text.toList 0 4 2, slice_append text.toList 0 6 2, slice_append text.toList 8 2 2,
    slice_append text.toList 8 4 2, slice_append text.toList 0 8 6]
  exact run.slice_whole

/-- From year 0 on a timestamp has no sign, so its fields are those of the moment. -/
theorem ofText_timestamp (moment : Moment) (unsigned : 0 ≤ moment.date.year) :
    IsDigits 14 moment.timestamp ∧ ofText moment.timestamp = .ok moment := by
  obtain ⟨⟨_, lastYear⟩, ⟨_, lastMonth⟩, _, lastDay⟩ := moment.date.valid
  have short := monthLength_le moment.date.year moment.date.month
  have fits : moment.date.year.natAbs < 10 ^ 4 ∧ moment.date.month < 10 ^ 2 ∧
      moment.date.day < 10 ^ 2 := by omega
  have year : IsDigits 4 (padInt 4 moment.date.year) := by
    rw [padInt, if_neg (by omega)]
    exact isDigits_padNat (by decide) fits.1
  have month := isDigits_padNat (show 0 < 2 by decide) fits.2.1
  have day := isDigits_padNat (show 0 < 2 by decide) fits.2.2
  have yearMonth := year.append month
  have date := yearMonth.append day
  obtain ⟨hourRead, minuteRead, secondRead⟩ := moment.time.fieldOf_digits
  refine ⟨date.append moment.time.isDigits_digits, ofText_eq_ok_iff.mpr ⟨⟨?_, ?_, ?_⟩, ?_, ?_, ?_⟩⟩
  · rw [timestamp, date.fieldOf_append (by decide), yearMonth.fieldOf_append (by decide),
      year.fieldOf_append (by decide), year.fieldOf_whole, padInt, if_neg (by omega),
      numeral_padNat]
    omega
  · rw [timestamp, date.fieldOf_append (by decide), yearMonth.fieldOf_append (by decide),
      year.fieldOf_append_right (by decide)]
    exact (month.fieldOf_whole.trans (numeral_padNat _ _)).symm
  · rw [timestamp, date.fieldOf_append (by decide), yearMonth.fieldOf_append_right (by decide)]
    exact (day.fieldOf_whole.trans (numeral_padNat _ _)).symm
  · rw [timestamp, date.fieldOf_append_right (by decide)]
    exact hourRead
  · rw [timestamp, date.fieldOf_append_right (by decide)]
    exact minuteRead
  · rw [timestamp, date.fieldOf_append_right (by decide)]
    exact secondRead

theorem not_isDigits_timestamp (moment : Moment) (signed : moment.date.year < 0) (width : Nat) :
    ¬IsDigits width moment.timestamp := by
  intro run
  have sign : '-' ∈ moment.timestamp.toList := by
    rw [timestamp, padInt, if_pos signed]
    simp [String.toList_append]
  exact absurd (run.digits _ sign) (by decide)

theorem parse_timestamp_eq_ok_iff (moment : Moment) :
    parse moment.timestamp = .ok moment ↔ 0 ≤ moment.date.year := by
  rw [parse_eq_ok_iff]
  constructor
  · rintro ⟨run, _⟩
    exact Int.not_lt.mp fun signed => moment.not_isDigits_timestamp signed 14 run
  · exact moment.ofText_timestamp

theorem parse_ok_iff_namesMoment (text : String) :
    (∃ moment, parse text = .ok moment) ↔ NamesMoment text := by
  simp only [parse_eq_ok_iff, namesMoment_iff, exists_and_left]

/-- Where all characters are digits every field is read, so no field is malformed. -/
theorem parse_fault (unnamed : ¬NamesMoment text) :
    ∃ fault, fault ≠ .malformed ∧ parse text = .error (.timestamp text fault) := by
  by_cases run : IsDigits 14 text
  · cases read : ofText text with
    | ok moment => exact absurd ((namesMoment_iff text).mpr ⟨run, moment, read⟩) unnamed
    | error field =>
        refine ⟨.outOfRange field, nofun, ?_⟩
        rw [parse_of_digits run, read]
        rfl
  · exact ⟨.notDigits, nofun, parse_of_not run⟩

end Moment

theorem Invocation.manual_eq_ok_iff {text : String} {mode : PowerMode} {options : String}
    {order : Invocation} : manual text mode options = .ok order ↔
      ∃ moment, Moment.parse (trim text) = .ok moment ∧ ⟨moment, mode, none, options⟩ = order := by
  rw [manual, bind_eq_ok]
  simp only [mapError_eq_ok, pure, Except.pure, Except.ok.injEq]

theorem Invocation.arguments_of_manual {text : String} {mode : PowerMode} {options : String}
    {order : Invocation} (made : manual text mode options = .ok order) :
    order.arguments = ["--date", trim text] ++ words options ++ ["-m", mode.tag] ∧
      order.preCommand = none := by
  obtain ⟨moment, read, rfl⟩ := manual_eq_ok_iff.mp made
  rw [arguments, Moment.timestamp_of_parse read]
  exact ⟨rfl, rfl⟩

/-- Timestamps are read where they name a moment. Others are refused, for not being of digits or for
a field, but never for a malformed one. What is read is written as it was given, and all but the
moments before year 0 read back. Orders by hand are made from just the texts that name a moment,
and pass them on as they are. -/
theorem timestamps_name_moments :
    (∀ text, (∃ moment, Moment.parse text = .ok moment) ↔ NamesMoment text) ∧
    (∀ text, ¬NamesMoment text →
      ∃ fault, fault ≠ .malformed ∧ Moment.parse text = .error (.timestamp text fault)) ∧
    (∀ text moment, Moment.parse text = .ok moment → moment.timestamp = text) ∧
    (∀ moment : Moment, Moment.parse moment.timestamp = .ok moment ↔ 0 ≤ moment.date.year) ∧
    ∀ text mode options,
      ((∃ order, Invocation.manual text mode options = .ok order) ↔ NamesMoment (trim text)) ∧
      ∀ order, Invocation.manual text mode options = .ok order →
        order.arguments = ["--date", trim text] ++ words options ++ ["-m", mode.tag] ∧
          order.preCommand = none := by
  refine ⟨Moment.parse_ok_iff_namesMoment, fun _ => Moment.parse_fault,
    fun _ _ => Moment.timestamp_of_parse, Moment.parse_timestamp_eq_ok_iff,
    fun text mode options => ⟨?_, fun _ => Invocation.arguments_of_manual⟩⟩
  rw [← Moment.parse_ok_iff_namesMoment]
  constructor
  · rintro ⟨order, made⟩
    obtain ⟨moment, read, _⟩ := Invocation.manual_eq_ok_iff.mp made
    exact ⟨moment, read⟩
  · rintro ⟨moment, read⟩
    exact ⟨_, Invocation.manual_eq_ok_iff.mpr ⟨moment, read, rfl⟩⟩

end WakeSchedule
