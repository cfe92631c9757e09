import WakeSchedule.Json.Record
import WakeSchedule.Proofs.Calendar.TimeDigits
import WakeSchedule.Proofs.Text.Digits

namespace WakeSchedule

namespace Json

section ReadsBack

variable {α : Type}

/-- Values that fit are read back from what is written for them, and no others are read. -/
structure ReadsBack (fits : α → Prop) (write : α → Json) (read? : Json → Option α) : Prop where
  back : ∀ value, fits value → read? (write value) = some value
  fits : ∀ json value, read? json = some value → fits value

variable {fits : α → Prop} {write : α → Json} {read? : Json → Option α}

theorem ReadsBack.again (reads : ReadsBack fits write read?) {json : Json} {value : α}
    (read : read? json = some value) : read? (write value) = some value :=
  reads.back value (reads.fits json value read)

theorem ReadsBack.of_back (back : ∀ value, read? (write value) = some value) :
    ReadsBack (fun _ => True) write read? where
  back value _ := back value
  fits _ _ _ := trivial

end ReadsBack

theorem readsBack_text : ReadsBack (fun _ => True) text text? := .of_back fun _ => rfl

theorem readsBack_bool : ReadsBack (fun _ => True) bool bool? := .of_back fun _ => rfl

theorem readsBack_intIn (low high : Int) :
    ReadsBack (fun value => low ≤ value ∧ value ≤ high) int (intIn? low high) where
  back value within := if_pos within
  fits json value read := by
    cases json with
    | int number =>
        rw [intIn?, Option.ite_none_right_eq_some] at read
        cases read.2
        exact read.1
    | _ => cases read

end Json

open Json

theorem RuleId.readsBack : ReadsBack IsInt64 .int RuleId.ofJson? := readsBack_intIn _ _

theorem readsBack_bootTime :
    ReadsBack (fun _ => True) (fun seconds : UInt16 => .int seconds.toNat) bootTimeOfJson? := by
  apply ReadsBack.of_back
  intro seconds
  have within : (0 : Int) ≤ seconds.toNat ∧ (seconds.toNat : Int) ≤ 65535 := by
    have below := seconds.toNat_lt
    omega
  rw [bootTimeOfJson?, (readsBack_intIn 0 65535).back _ within, Option.map_some, Int.toNat_natCast,
    UInt16.ofNat_toNat]

theorem PowerMode.readsBack : ReadsBack (fun _ => True) PowerMode.toJson PowerMode.ofJson? := by
  apply ReadsBack.of_back
  intro mode
  cases mode <;> decide

theorem TimeOfDay.readsBack : ReadsBack (fun _ => True) TimeOfDay.toJson TimeOfDay.ofJson? := by
  apply ReadsBack.of_back
  intro time
  simp only [toJson, ofJson?, text?, Option.bind_some, parse_digits]
  rfl

theorem SleepTime.readsBack : ReadsBack (fun _ => True) SleepTime.toJson SleepTime.ofJson? := by
  apply ReadsBack.of_back
  intro time
  simp only [toJson, ofJson?, text?, Option.bind_some, parse_digits]
  rfl

theorem Mask.readsBack : ReadsBack (fun _ => True) Mask.toJson Mask.ofJson? :=
  .of_back fun _ => rfl

namespace Json

def member (members : List (String × Json)) (key : String) : Json := (members.lookup key).getD null

section Members

variable {α : Type} {members others : List (String × Json)} {key : String}
  {read? : Json → Option α}

theorem required_eq (nothing : read? null = none) :
    required members key read? = read? (member members key) := by
  rw [required, member]
  cases members.lookup key with
  | none => exact nothing.symm
  | some value => rfl

theorem required_congr (read? : Json → Option α) (nothing : read? null = none)
    (same : member members key = member others key) :
    required members key read? = required others key read? := by
  rw [required_eq nothing, required_eq nothing, same]

theorem optional_eq : optional members key read? =
    match member members key with
    | null => some none
    | value => (read? value).map some := by
  rw [optional, member]
  cases members.lookup key with
  | none => rfl
  | some value => cases value <;> rfl

theorem optional_congr (read? : Json → Option α)
    (same : member members key = member others key) :
    optional members key read? = optional others key read? := by
  rw [optional_eq, optional_eq, same]

variable {fits : α → Prop} {write : α → Json}

theorem required_back (reads : ReadsBack fits write read?) {value : α}
    (present : members.lookup key = some (write value)) (within : fits value) :
    required members key read? = some value := by
  rw [required, present, Option.bind_some, reads.back value within]

variable {value : Option α}

theorem optional_back (reads : ReadsBack fits write read?) (nothing : read? null = none)
    (present : members.lookup key = some (ofOption write value))
    (within : ∀ given ∈ value, fits given) : optional members key read? = some value := by
  rw [optional_eq, member, present, Option.getD_some]
  cases value with
  | none => rfl
  | some given =>
      have back := reads.back given (within given rfl)
      rw [ofOption]
      split
      next empty =>
        rw [empty, nothing] at back
        cases back
      next => rw [back, Option.map_some]

theorem optional_fits (reads : ReadsBack fits write read?)
    (read : optional members key read? = some value) : ∀ given ∈ value, fits given := by
  rintro given rfl
  rw [optional_eq] at read
  split at read
  · cases read
  next json _ =>
    rcases Option.map_eq_some_iff.mp read with ⟨_, found, same⟩
    cases same
    exact reads.fits _ _ found

end Members

end Json

end WakeSchedule
