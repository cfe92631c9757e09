import WakeSchedule.Text

namespace WakeSchedule

inductive Weekday
  | sunday
  | monday
  | tuesday
  | wednesday
  | thursday
  | friday
  | saturday
  deriving DecidableEq, Repr

namespace Weekday

def all : List Weekday := [sunday, monday, tuesday, wednesday, thursday, friday, saturday]

def index : Weekday → Nat
  | sunday => 0
  | monday => 1
  | tuesday => 2
  | wednesday => 3
  | thursday => 4
  | friday => 5
  | saturday => 6

/-- The weekday with an index, counting on past Saturday. -/
def ofIndex (index : Nat) : Weekday :=
  match index % 7 with
  | 0 => sunday
  | 1 => monday
  | 2 => tuesday
  | 3 => wednesday
  | 4 => thursday
  | 5 => friday
  | _ => saturday

def offset (day : Weekday) (days : Nat) : Weekday := ofIndex (day.index + days)

def name : Weekday → String
  | sunday => "Sunday"
  | monday => "Monday"
  | tuesday => "Tuesday"
  | wednesday => "Wednesday"
  | thursday => "Thursday"
  | friday => "Friday"
  | saturday => "Saturday"

def abbreviation : Weekday → String
  | sunday => "sun"
  | monday => "mon"
  | tuesday => "tue"
  | wednesday => "wed"
  | thursday => "thu"
  | friday => "fri"
  | saturday => "sat"

def tag (day : Weekday) : String := lowered day.name

/-- Reads an abbreviation or a full name in any letter case, with blanks around it. -/
def ofName? (text : String) : Option Weekday :=
  all.find? fun day => lowered (trim text) = day.abbreviation || lowered (trim text) = day.tag

theorem index_lt (day : Weekday) : day.index < 7 := by
  cases day <;> decide

theorem ofIndex_index (day : Weekday) : ofIndex day.index = day := by
  cases day <;> rfl

theorem index_ofIndex (index : Nat) : (ofIndex index).index = index % 7 := by
  have cases : index % 7 = 0 ∨ index % 7 = 1 ∨ index % 7 = 2 ∨ index % 7 = 3 ∨ index % 7 = 4 ∨
      index % 7 = 5 ∨ index % 7 = 6 := by omega
  rcases cases with h | h | h | h | h | h | h <;> simp [ofIndex, h, Weekday.index]

end Weekday

structure Week (α : Type) where
  sunday : α
  monday : α
  tuesday : α
  wednesday : α
  thursday : α
  friday : α
  saturday : α
  deriving DecidableEq, Repr

namespace Week

variable {α β : Type}

def get (week : Week α) : Weekday → α
  | .sunday => week.sunday
  | .monday => week.monday
  | .tuesday => week.tuesday
  | .wednesday => week.wednesday
  | .thursday => week.thursday
  | .friday => week.friday
  | .saturday => week.saturday

def ofFn (entry : Weekday → α) : Week α :=
  ⟨entry .sunday, entry .monday, entry .tuesday, entry .wednesday, entry .thursday, entry .friday,
    entry .saturday⟩

def set (week : Week α) (day : Weekday) (value : α) : Week α :=
  ofFn fun other => if other = day then value else week.get other

def map (f : α → β) (week : Week α) : Week β := ofFn fun day => f (week.get day)

def toList (week : Week α) : List α := Weekday.all.map week.get

def ofList? : List α → Option (Week α)
  | [a, b, c, d, e, f, g] => some ⟨a, b, c, d, e, f, g⟩
  | _ => none

theorem get_ofFn (entry : Weekday → α) (day : Weekday) : (ofFn entry).get day = entry day := by
  cases day <;> rfl

theorem get_set (week : Week α) (day other : Weekday) (value : α) :
    (week.set day value).get other = if other = day then value else week.get other :=
  get_ofFn _ _

end Week

end WakeSchedule
