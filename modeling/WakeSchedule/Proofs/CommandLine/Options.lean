import WakeSchedule.CommandLine.Write
import WakeSchedule.Proofs.Mask
import WakeSchedule.Proofs.Text.Digits

namespace WakeSchedule

theorem Mask.parse_digits (mask : Mask) : parse mask.digits = .ok mask := by
  have written : WrittenInDigits (trim mask.digits) mask := by
    rw [trim_digits]
    exact writtenInDigits_digits mask
  rw [parse, read_eq_ok_iff.mpr (.inl written)]
  rfl

namespace Shape

def Admits : (shape : Shape) → shape.Value → Prop
  | number, value => IsInt64 value
  | path, value => value.toList ≠ []
  | switch, _ | text, _ | kind, _ | mode, _ | mask, _ | seconds, _ | boolean, _ => True

theorem readNumber_intText {number : Int} (fits : IsInt64 number) :
    readNumber (intText number) = .ok number := by
  rw [readNumber, readInt64_intText fits]
  rfl

theorem readSeconds_repr (value : UInt16) : readSeconds value.toNat.repr = .ok value := by
  have within := value.toNat_lt
  have fits : IsInt64 value.toNat := ⟨by omega, by omega⟩
  have inside : (0 : Int) ≤ value.toNat ∧ (value.toNat : Int) < 65536 := by omega
  simp only [readSeconds, ← intText_natCast, readNumber_intText fits, bind, Except.bind]
  rw [if_pos inside, Int.toNat_natCast, UInt16.ofNat_toNat]
  rfl

theorem marked_or_written (shape : Shape) (value : shape.Value) :
    (shape.mark? = some value ∧ shape.write? value = none) ∨
      (shape.mark? = none ∧ ∃ text, shape.write? value = some text ∧
        (shape.Admits value → shape.read text = .ok value)) := by
  cases shape with
  | switch => exact .inl ⟨rfl, rfl⟩
  | text => exact .inr ⟨rfl, value, rfl, fun _ => rfl⟩
  | path => exact .inr ⟨rfl, value, rfl, fun present => if_neg present⟩
  | kind => exact .inr ⟨rfl, _, rfl, fun _ => by rw [read, RuleKind.parse_tag]; rfl⟩
  | mode => exact .inr ⟨rfl, _, rfl, fun _ => by rw [read, PowerMode.parse_tag]; rfl⟩
  | mask => exact .inr ⟨rfl, _, rfl, fun _ => by rw [read, Mask.parse_digits]; rfl⟩
  | number => exact .inr ⟨rfl, _, rfl, readNumber_intText⟩
  | seconds => exact .inr ⟨rfl, _, rfl, fun _ => readSeconds_repr value⟩
  | boolean => exact .inr ⟨rfl, _, rfl, fun _ => by cases value <;> decide⟩

end Shape

namespace Given

variable {given first second : List Given} {option : Given} {field other : Field}

theorem find?_cons_self : find? (option :: given) option.field = some option.value := by
  simp [find?]

theorem find?_cons_of_ne (apart : option.field ≠ field) :
    find? (option :: given) field = find? given field := by
  simp [find?, apart]

theorem find?_append :
    find? (first ++ second) field = (find? first field).or (find? second field) := by
  induction first with
  | nil => rfl
  | cons option first ih =>
      by_cases same : option.field = field
      · subst same
        simp [find?_cons_self]
      · simp [find?_cons_of_ne same, ih]

theorem has_append : has (first ++ second) field = (has first field || has second field) :=
  List.any_append

theorem has_iff : has given field = true ↔ field ∈ given.map Given.field := by
  simp [has]

theorem find?_eq_none (missing : field ∉ given.map Given.field) : find? given field = none := by
  induction given with
  | nil => rfl
  | cons option given ih =>
      simp only [List.map_cons, List.mem_cons, not_or] at missing
      rw [find?_cons_of_ne (Ne.symm missing.1), ih missing.2]

theorem find?_of_mem (apart : (given.map Given.field).Nodup) (member : option ∈ given) :
    find? given option.field = some option.value := by
  induction given with
  | nil => cases member
  | cons first given ih =>
      simp only [List.map_cons, List.nodup_cons] at apart
      rcases List.mem_cons.mp member with rfl | member
      · exact find?_cons_self
      · have differs : first.field ≠ option.field := by
          intro same
          exact apart.1 (same ▸ List.mem_map_of_mem member)
        rw [find?_cons_of_ne differs, ih apart.2 member]

theorem find?_perm (apart : (first.map Given.field).Nodup) (order : first.Perm second) :
    find? second field = find? first field := by
  have fields := order.map Given.field
  by_cases present : field ∈ first.map Given.field
  · rcases List.mem_map.mp present with ⟨option, member, rfl⟩
    rw [find?_of_mem apart member, find?_of_mem (fields.nodup apart) (order.mem_iff.mp member)]
  · rw [find?_eq_none present, find?_eq_none (fun there => present (fields.mem_iff.mpr there))]

theorem has_perm (order : first.Perm second) : has second field = has first field :=
  order.symm.any_eq

/-- The value is one that the form of the option can have. -/
def Admitted (option : Given) : Prop := option.field.shape.Admits option.value

theorem admitted_of_field (noNumber : option.field ≠ .id) (noPath : option.field ≠ .database) :
    option.Admitted := by
  rcases option with ⟨field, value⟩
  cases field <;> trivial

end Given

open Given

theorem Verb.command_perm (verb : Verb) {first second : List Given}
    (apart : (first.map Given.field).Nodup) (order : first.Perm second) :
    verb.command second = verb.command first := by
  cases verb <;> simp only [Verb.command, find?_perm apart order, has_perm order]

theorem Verb.number_mem_fields_iff (verb : Verb) : .id ∈ verb.fields ↔ verb = .deleteRule := by
  cases verb <;> decide

theorem Verb.path_not_mem_fields (verb : Verb) : .database ∉ verb.fields := by
  cases verb <;> decide

namespace Command

section Parts

variable {field other : Field} {value : Option field.shape.Value} {on : Bool}

theorem find?_valued : find? (valued field value) field = value := by
  cases value with
  | none => rfl
  | some value => exact find?_cons_self

theorem find?_valued_of_ne (apart : field ≠ other) : find? (valued field value) other = none := by
  cases value with
  | none => rfl
  | some value => exact find?_cons_of_ne apart

theorem has_valued_of_ne (apart : field ≠ other) : has (valued field value) other = false := by
  cases value <;> simp [valued, has, apart]

theorem field_of_mem_marked {option : Given} (member : option ∈ marked field on) :
    option.field = field := by
  rw [marked] at member
  split at member
  · simp only [Option.mem_toList, Option.map_eq_some_iff] at member
    rcases member with ⟨mark, _, rfl⟩
    rfl
  · cases member

theorem find?_marked_of_ne (apart : field ≠ other) : find? (marked field on) other = none := by
  apply find?_eq_none
  intro present
  rcases List.mem_map.mp present with ⟨option, member, same⟩
  exact apart ((field_of_mem_marked member).symm.trans same)

theorem has_marked (switch : field.shape.mark?.isSome = true) :
    has (marked field on) field = on := by
  rcases Option.isSome_iff_exists.mp switch with ⟨mark, marks⟩
  cases on <;> simp [marked, has, marks]

end Parts

theorem command_options (command : Command) : command.verb.command command.options = .ok command := by
  cases command with
  | schedule target dryRun =>
      cases target <;>
        simp (disch := decide) [verb, options, Verb.command, find?_append, has_append,
          find?_valued, find?_valued_of_ne, has_valued_of_ne, find?_marked_of_ne, has_marked]
  | _ =>
      simp (disch := decide) [verb, options, Verb.command, find?_append, has_append, find?_valued,
        find?_valued_of_ne, has_valued_of_ne, find?_marked_of_ne, has_marked]

section Fields

theorem fields_valued (field : Field) (value : Option field.shape.Value) :
    ((valued field value).map Given.field).Sublist [field] := by
  cases value with
  | none => exact List.nil_sublist _
  | some value => exact List.Sublist.refl _

theorem fields_marked (field : Field) (on : Bool) :
    ((marked field on).map Given.field).Sublist [field] := by
  cases on with
  | false => exact List.nil_sublist _
  | true => cases field <;> first | exact List.nil_sublist _ | exact List.Sublist.refl _

theorem fields_options (command : Command) :
    (command.options.map Given.field).Sublist command.verb.fields := by
  cases command with
  | schedule target dryRun =>
      cases target with
      | nextRule => exact ((fields_marked _ _).cons _).cons _
      | timestamp text mode =>
          simp only [options, List.map_append]
          exact ((fields_valued _ _).append (fields_valued _ _)).append (fields_marked _ _)
  | listRules kind json =>
      simp only [options, List.map_append]
      exact (fields_valued _ _).append (fields_marked _ _)
  | addWakeRule rule =>
      simp only [options, List.map_append]
      exact (((((fields_valued _ _).append (fields_valued _ _)).append (fields_valued _ _)).append
        (fields_valued _ _)).append (fields_valued _ _)).append (fields_marked _ _)
  | addSleepRule rule =>
      simp only [options, List.map_append]
      exact (((fields_valued _ _).append (fields_valued _ _)).append (fields_valued _ _)).append
        (fields_marked _ _)
  | deleteRule kind id => exact List.Sublist.refl _
  | changeSettings change =>
      simp only [options, List.map_append]
      exact ((((((fields_valued _ _).append (fields_valued _ _)).append (fields_valued _ _)).append
        (fields_valued _ _)).append (fields_valued _ _)).append (fields_valued _ _)).append
          (fields_valued _ _)
  | tick dryRun => exact fields_marked _ _
  | boot dryRun => exact fields_marked _ _
  | showSettings json => exact fields_marked _ _
  | reset confirmed => exact fields_marked _ _

/-- The number of a rule to delete has 64 bits. -/
def Fits (command : Command) : Prop := ∀ kind id, command = .deleteRule kind id → IsInt64 id

theorem admitted_of_fits {command : Command} (fits : command.Fits) {option : Given}
    (member : option ∈ command.options) : option.Admitted := by
  have listed := (fields_options command).subset (List.mem_map_of_mem member)
  cases command with
  | deleteRule kind id =>
      rcases List.mem_cons.mp member with rfl | member
      · trivial
      · rw [List.mem_singleton.mp member]
        exact fits kind id rfl
  | _ =>
      apply Given.admitted_of_field
      · intro same
        cases (Verb.number_mem_fields_iff _).mp (same ▸ listed)
      · intro same
        exact Verb.path_not_mem_fields _ (same ▸ listed)

end Fields

end Command

end WakeSchedule
