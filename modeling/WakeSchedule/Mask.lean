import WakeSchedule.Violation
/-! Weekday masks: the days of the week on which a rule fires. A mask is written as seven digits
from Sunday to Saturday, and read from such digits or from a list of day names. -/

namespace WakeSchedule

abbrev Mask := Week Bool

namespace Mask

def empty : Mask := .ofFn fun _ => false

def everyDay : Mask := .ofFn fun _ => true

def add (mask : Mask) (day : Weekday) : Mask := mask.set day true

def ofDays (days : List Weekday) : Mask := days.foldl add empty

def activeDays (mask : Mask) : List Weekday := Weekday.all.filter mask.get

def isEmpty (mask : Mask) : Bool := mask.activeDays.isEmpty

def digit (active : Bool) : Char := if active then '1' else '0'

def digits (mask : Mask) : String := .ofList (mask.toList.map digit)

def ofDigit? (mark : Char) : Option Bool :=
  if mark = '1' then some true else if mark = '0' then some false else none

/-- Reads digits into the days from a place of the week on, counting from Sunday at 0. -/
def readDigits (text : String) : Nat → Mask → List Char → Except MaskFault Mask
  | _, mask, [] => .ok mask
  | place, mask, mark :: marks =>
      match ofDigit? mark, Weekday.all[place]? with
      | none, _ => .error (.badDigit text mark)
      | some _, none => .error (.noDay place)
      | some active, some day => readDigits text (place + 1) (mask.set day active) marks

/-- Reads seven digits, each 0 or 1. -/
def ofDigits (text : String) : Except MaskFault Mask :=
  if text.utf8ByteSize = 7 then readDigits text 0 empty text.toList
  else .error (.digitCount text)

def ofNames : List (List Char) → Mask → Except MaskFault Mask
  | [], mask => .ok mask
  | piece :: pieces, mask =>
      match Weekday.ofName? (.ofList piece) with
      | some day => ofNames pieces (mask.add day)
      | none => .error (.unknownDay (trim (.ofList piece)))

def read (text : String) : Except MaskFault Mask :=
  if text.toList = [] then .error .empty
  else if text.toList.all Char.isDigit then ofDigits text
  else ofNames (piecesBy (· = ',') text.toList) empty

def parse (text : String) : Except Violation Mask := (read (trim text)).mapError .mask

end Mask

end WakeSchedule
