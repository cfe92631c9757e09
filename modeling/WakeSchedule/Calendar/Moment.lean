import WakeSchedule.Calendar.TimeOfDay
/-! Moments (a date and a time of day), their timestamps of fourteen digits, adding days to a date,
raw clock readings, and the clock that a decision is taken at. -/

namespace WakeSchedule

structure Moment where
  date : Date
  time : TimeOfDay
  deriving DecidableEq, Repr

namespace Moment

def instant (moment : Moment) : Int := moment.date.dayNumber * 86400 + moment.time.seconds

/-- The field to blame is the first bad one of month, year, day, hour, minute and second. -/
def ofFields (year : Int) (month day hour minute second : Nat) : Except MomentField Moment :=
  if 1 ≤ month ∧ month ≤ 12 then
    if InYears year then
      match Date.ofFields? year month day with
      | some date =>
          if hourBound : hour < 24 then
            if minuteBound : minute < 60 then
              if secondBound : second < 60 then
                .ok ⟨date, ⟨hour, hourBound⟩, ⟨minute, minuteBound⟩, ⟨second, secondBound⟩⟩
              else .error .second
            else .error .minute
          else .error .hour
      | none => .error .day
    else .error .year
  else .error .month

/-- The sign of a negative year takes the place of one of its four digits. -/
def timestamp (moment : Moment) : String :=
  padInt 4 moment.date.year ++ padNat 2 moment.date.month ++ padNat 2 moment.date.day
    ++ moment.time.digits

def timestampLength : Nat := 14

def numberAt (text : List Char) (start width limit : Nat) : Except TimestampFault Nat :=
  if start + width ≤ text.length then
    (readUpTo limit .tooLarge ((text.drop start).take width) 0).mapError fun _ => .malformed
  else .error .malformed

def ofDigits (text : List Char) : Except TimestampFault Moment := do
  let year ← numberAt text 0 4 0x7fffffff
  let month ← numberAt text 4 2 0xff
  let day ← numberAt text 6 2 0xff
  let hour ← numberAt text 8 2 0xff
  let minute ← numberAt text 10 2 0xff
  let second ← numberAt text 12 2 0xff
  (ofFields year month day hour minute second).mapError .outOfRange

def parse (text : String) : Except Violation Moment :=
  if text.utf8ByteSize = timestampLength ∧ text.toList.all Char.isDigit then
    (ofDigits text.toList).mapError (.timestamp text)
  else .error (.timestamp text .notDigits)

end Moment

def Date.addDays (date : Date) (days : Nat) : Except Violation Date :=
  match Date.ofDayNumber? (date.dayNumber + days) with
  | some later => .ok later
  | none => .error (.dateOverflow days date)

/-- What a system clock shows. A count of nanoseconds from 10^9 on stands for a leap second, which
follows second 59. -/
structure Reading where
  year : Int
  month : Nat
  day : Nat
  hour : Nat
  minute : Nat
  second : Nat
  nanoseconds : Nat
  deriving DecidableEq, Repr

namespace Reading

def leapSecond (reading : Reading) : Bool := 1000000000 ≤ reading.nanoseconds

def yearText (year : Int) : String :=
  if year < 0 then "-" ++ padNat 4 year.natAbs
  else if year < 10000 then padNat 4 year.natAbs
  else "+" ++ padNat 4 year.natAbs

/-- Three, six or nine digits, the fewest that are exact, and nothing for a whole second. -/
def fractionText (nanoseconds : Nat) : String :=
  if nanoseconds = 0 then ""
  else if nanoseconds % 1000000 = 0 then "." ++ padNat 3 (nanoseconds / 1000000)
  else if nanoseconds % 1000 = 0 then "." ++ padNat 6 (nanoseconds / 1000)
  else "." ++ padNat 9 nanoseconds

def text (reading : Reading) : String :=
  yearText reading.year ++ "-" ++ padNat 2 reading.month ++ "-" ++ padNat 2 reading.day ++ " "
    ++ padNat 2 reading.hour ++ ":" ++ padNat 2 reading.minute ++ ":"
    ++ padNat 2 (if reading.leapSecond then reading.second + 1 else reading.second)
    ++ fractionText (reading.nanoseconds % 1000000000)

/-- A leap second is read as the second before it. -/
def moment (reading : Reading) : Except Violation Moment :=
  (Moment.ofFields reading.year reading.month reading.day reading.hour reading.minute
    reading.second).mapError fun field => .timestamp reading.text (.outOfRange field)

end Reading

structure Clock where
  weekday : Weekday
  time : TimeOfDay
  date : Date
  addDays : Date → Nat → Except Violation Date := Date.addDays

namespace Clock

def ofMoment (now : Moment) : Clock := ⟨now.date.weekday, now.time, now.date, Date.addDays⟩

def shiftedTo (clock : Clock) (date : Date) : Clock := { clock with addDays := fun _ _ => .ok date }

end Clock

end WakeSchedule
