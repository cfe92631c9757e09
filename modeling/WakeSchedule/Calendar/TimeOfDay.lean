import WakeSchedule.Violation

namespace WakeSchedule

/-! Hours, minutes and seconds are written as numerals by way of these. -/

instance hoursInDay : @NeZero Nat Zero.ofOfNat0 24 := ⟨by decide⟩

instance minutesInHour : @NeZero Nat Zero.ofOfNat0 60 := ⟨by decide⟩

structure TimeOfDay where
  hour : Fin 24
  minute : Fin 60
  second : Fin 60
  deriving DecidableEq, Repr

def twoDigits (tens ones : Char) : Nat := numeral [tens, ones]

namespace TimeOfDay

def ofFields (hour minute second : Nat) : Except Violation TimeOfDay :=
  let digits := padNat 2 hour ++ padNat 2 minute ++ padNat 2 second
  if hourBound : hour < 24 then
    if minuteBound : minute < 60 then
      if secondBound : second < 60 then
        .ok ⟨⟨hour, hourBound⟩, ⟨minute, minuteBound⟩, ⟨second, secondBound⟩⟩
      else .error (.time (.outOfRange digits .seconds second))
    else .error (.time (.outOfRange digits .minutes minute))
  else .error (.time (.outOfRange digits .hour hour))

def parse (text : String) : Except Violation TimeOfDay :=
  match text.toList with
  | [a, b, c, d, e, f] =>
      if [a, b, c, d, e, f].all Char.isDigit then
        ofFields (twoDigits a b) (twoDigits c d) (twoDigits e f)
      else .error (.time (.notDigits text 6))
  | _ => .error (.time (.notDigits text 6))

def digits (time : TimeOfDay) : String :=
  padNat 2 time.hour ++ padNat 2 time.minute ++ padNat 2 time.second

/-- The number that the six digits denote. -/
def code (time : TimeOfDay) : Nat := time.hour * 10000 + time.minute * 100 + time.second

def minutes (time : TimeOfDay) : Nat := time.hour * 60 + time.minute

def seconds (time : TimeOfDay) : Nat := time.minutes * 60 + time.second

def text (time : TimeOfDay) : String :=
  padNat 2 time.hour ++ ":" ++ padNat 2 time.minute ++ ":" ++ padNat 2 time.second

/-- The time that a clock shows, made of the fields in the number and checked once more. -/
def clockTime (time : TimeOfDay) : Except Violation TimeOfDay :=
  ofFields (time.code / 10000) (time.code / 100 % 100) (time.code % 100)

def compare (a b : TimeOfDay) : Ordering :=
  (Ord.compare a.hour b.hour).then
    ((Ord.compare a.minute b.minute).then (Ord.compare a.second b.second))

end TimeOfDay

structure SleepTime where
  hour : Fin 24
  quarter : Fin 4
  deriving DecidableEq, Repr

namespace SleepTime

def minute (time : SleepTime) : Nat := 15 * time.quarter

def ofFields (hour minute : Nat) : Except Violation SleepTime :=
  let digits := padNat 2 hour ++ padNat 2 minute
  if hourBound : hour < 24 then
    if onGrid : minute < 60 ∧ minute % 15 = 0 then
      .ok ⟨⟨hour, hourBound⟩, ⟨minute / 15, by omega⟩⟩
    else .error (.time (.offGrid digits minute))
  else .error (.time (.outOfRange digits .hour hour))

def parse (text : String) : Except Violation SleepTime :=
  match text.toList with
  | [a, b, c, d] =>
      if [a, b, c, d].all Char.isDigit then ofFields (twoDigits a b) (twoDigits c d)
      else .error (.time (.notDigits text 4))
  | _ => .error (.time (.notDigits text 4))

def digits (time : SleepTime) : String := padNat 2 time.hour ++ padNat 2 time.minute

def code (time : SleepTime) : Nat := time.hour * 100 + time.minute

def minutes (time : SleepTime) : Nat := time.hour * 60 + time.minute

def text (time : SleepTime) : String := padNat 2 time.hour ++ ":" ++ padNat 2 time.minute

end SleepTime

end WakeSchedule
