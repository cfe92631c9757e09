import WakeSchedule.Text
import WakeSchedule.Weekday
/-! Dates of the proleptic Gregorian calendar in the years -9999 to 9999, and their day numbers. -/

namespace WakeSchedule

def isLeap (year : Int) : Bool := year % 4 = 0 && (year % 100 ≠ 0 || year % 400 = 0)

def monthLength (year : Int) (month : Nat) : Nat :=
  if month = 2 then if isLeap year then 29 else 28
  else if month = 4 ∨ month = 6 ∨ month = 9 ∨ month = 11 then 30
  else 31

def InYears (year : Int) : Prop := -9999 ≤ year ∧ year ≤ 9999

instance (year : Int) : Decidable (InYears year) := inferInstanceAs (Decidable (_ ∧ _))

def IsDate (year : Int) (month day : Nat) : Prop :=
  InYears year ∧ (1 ≤ month ∧ month ≤ 12) ∧ 1 ≤ day ∧ day ≤ monthLength year month

instance (year : Int) (month day : Nat) : Decidable (IsDate year month day) :=
  inferInstanceAs (Decidable (_ ∧ _))

structure Date where
  year : Int
  month : Nat
  day : Nat
  valid : IsDate year month day
  deriving DecidableEq, Repr

namespace Date

def ofFields? (year : Int) (month day : Nat) : Option Date :=
  if valid : IsDate year month day then some ⟨year, month, day, valid⟩ else none

def next? (date : Date) : Option Date :=
  if date.day < monthLength date.year date.month then ofFields? date.year date.month (date.day + 1)
  else if date.month < 12 then ofFields? date.year (date.month + 1) 1
  else ofFields? (date.year + 1) 1 1

def text (date : Date) : String :=
  (if date.year < 0 then "-" else "") ++ padNat 4 date.year.natAbs ++ "-" ++ padNat 2 date.month
    ++ "-" ++ padNat 2 date.day

end Date

/-- Days from the first of January of year 1 to the first of January of a year. -/
def daysBeforeYear (year : Int) : Int :=
  365 * (year - 1) + (year - 1) / 4 - (year - 1) / 100 + (year - 1) / 400

def daysBeforeMonth (year : Int) : Nat → Nat
  | 0 | 1 => 0
  | month + 2 => daysBeforeMonth year (month + 1) + monthLength year (month + 1)

/-- The year that holds a day number: the mean year length of a 400 year cycle is off by at most
one year. -/
def yearOfDay (number : Int) : Int :=
  let guess := number * 400 / 146097 + 1
  if number < daysBeforeYear guess then guess - 1
  else if daysBeforeYear (guess + 1) ≤ number then guess + 1
  else guess

def monthOfDay (year : Int) (dayOfYear : Nat) : Nat :=
  ((List.range' 1 12).filter fun month => daysBeforeMonth year month ≤ dayOfYear).length

namespace Date

/-- Days since the first of January of year 1. -/
def dayNumber (date : Date) : Int :=
  daysBeforeYear date.year + daysBeforeMonth date.year date.month + date.day - 1

def ofDayNumber? (number : Int) : Option Date :=
  let year := yearOfDay number
  let dayOfYear := (number - daysBeforeYear year).toNat
  let month := monthOfDay year dayOfYear
  ofFields? year month (dayOfYear - daysBeforeMonth year month + 1)

/-- The first of January of year 1 was a Monday. -/
def weekday (date : Date) : Weekday := .ofIndex ((date.dayNumber + 1) % 7).toNat

end Date

end WakeSchedule
