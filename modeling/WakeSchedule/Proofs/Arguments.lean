import WakeSchedule.Invocation
import WakeSchedule.Proofs.Text.Decimal
import WakeSchedule.Settings
/-! The arguments of an alarm order. The order sets its date and its mode itself, and with options
that pass their check no other argument can be taken for either. -/

namespace WakeSchedule

/-- A word that stands for no reserved flag, alone or with a value after an equals sign. -/
def Unreserved (word : String) : Prop := word ∉ reservedFlags ∧ flagOf word ∉ reservedFlags

instance (word : String) : Decidable (Unreserved word) := inferInstanceAs (Decidable (_ ∧ _))

theorem unreserved_iff (word : String) : Unreserved word ↔ flagOf word ∉ reservedFlags := by
  have bare : ∀ flag ∈ reservedFlags, flagOf flag = flag := by decide
  constructor
  · exact And.right
  · intro free
    refine ⟨?_, free⟩
    intro reserved
    rw [bare word reserved] at free
    exact free reserved

theorem checkOptions_eq_ok_iff (options : String) :
    checkOptions options = .ok () ↔ ∀ word ∈ words options, Unreserved word := by
  simp only [unreserved_iff]
  unfold checkOptions
  cases found : ((words options).map flagOf).find? reservedFlags.contains with
  | some flag =>
      have reserved : reservedFlags.contains flag = true := List.find?_some found
      obtain ⟨word, present, rfl⟩ := List.mem_map.mp (List.mem_of_find?_eq_some found)
      simp only [reduceCtorEq, false_iff, not_forall, not_not]
      exact ⟨word, present, List.contains_iff_mem.mp reserved⟩
  | none =>
      simp only [true_iff]
      intro word present reserved
      exact List.find?_eq_none.mp found _ (List.mem_map_of_mem present)
        (List.contains_iff_mem.mpr reserved)

theorem prefix_cutAt_fst (mark : Char) (text : List Char) : (cutAt mark text).1 <+: text := by
  induction text with
  | nil => exact List.prefix_rfl
  | cons first rest ih =>
      rw [cutAt]
      split
      · exact List.nil_prefix
      · exact (List.prefix_cons_inj first).mpr ih

theorem not_subset_of_no_letter {flag text : List Char} (lettered : flag.any Char.isLower = true)
    (plain : ∀ c ∈ text, c.isLower = false) : ¬flag ⊆ text := by
  intro inside
  obtain ⟨c, member, lower⟩ := List.any_eq_true.mp lettered
  rw [plain c (inside member)] at lower
  cases lower

theorem unreserved_of_no_letter {word : String} (plain : ∀ c ∈ word.toList, c.isLower = false) :
    Unreserved word := by
  have letters : ∀ flag ∈ reservedFlags, flag.toList.any Char.isLower = true := by decide
  rw [unreserved_iff]
  intro reserved
  have lettered := letters _ reserved
  rw [flagOf, String.toList_ofList] at lettered
  exact not_subset_of_no_letter lettered plain (prefix_cutAt_fst _ _).subset

theorem isLower_of_isDigit {c : Char} (digit : c.isDigit = true) : c.isLower = false := by
  have bounds := (Bool.and_eq_true _ _).mp digit
  have upper : c.val.toNat ≤ 57 := of_decide_eq_true bounds.2
  refine Bool.and_eq_false_iff.mpr (Or.inl (decide_eq_false ?_))
  intro lower
  change 97 ≤ c.val.toNat at lower
  omega

theorem Moment.of_mem_timestamp (moment : Moment) {c : Char}
    (member : c ∈ moment.timestamp.toList) : c = '-' ∨ c.isDigit = true := by
  simp only [timestamp, TimeOfDay.digits, String.toList_append, List.mem_append] at member
  rcases member with ((year | month) | day) | (hour | minute) | second
  · rw [padInt] at year
    split at year
    · rw [String.toList_append, List.mem_append] at year
      rcases year with sign | digits
      · exact .inl (List.mem_singleton.mp sign)
      · exact .inr (isDigit_of_mem_padNat digits)
    · exact .inr (isDigit_of_mem_padNat year)
  · exact .inr (isDigit_of_mem_padNat month)
  · exact .inr (isDigit_of_mem_padNat day)
  · exact .inr (isDigit_of_mem_padNat hour)
  · exact .inr (isDigit_of_mem_padNat minute)
  · exact .inr (isDigit_of_mem_padNat second)

theorem Moment.isLower_of_mem_timestamp (moment : Moment) {c : Char}
    (member : c ∈ moment.timestamp.toList) : c.isLower = false := by
  rcases moment.of_mem_timestamp member with rfl | digit
  · rfl
  · exact isLower_of_isDigit digit

/-- A timestamp holds no letter, even where a minus sign makes it look like an option. -/
theorem Moment.unreserved_timestamp (moment : Moment) : Unreserved moment.timestamp :=
  unreserved_of_no_letter fun _ => moment.isLower_of_mem_timestamp

theorem PowerMode.unreserved_tag (mode : PowerMode) : Unreserved mode.tag := by
  cases mode <;> decide

structure FlagsOnce (arguments : List String) : Prop where
  date : arguments[0]? = some "--date"
  mode : arguments[arguments.length - 2]? = some "-m"
  other : ∀ place word, arguments[place]? = some word → place ≠ 0 →
    place ≠ arguments.length - 2 → Unreserved word

theorem FlagsOnce.around {between : List String} {last : String}
    (free : ∀ word ∈ between, Unreserved word) (freeLast : Unreserved last) :
    FlagsOnce ("--date" :: (between ++ ["-m", last])) := by
  have length : ("--date" :: (between ++ ["-m", last])).length - 2 = between.length + 1 := by simp
  refine ⟨rfl, ?_, ?_⟩
  · rw [length]
    simp
  · intro place word found notFirst notMode
    rw [length] at notMode
    cases place with
    | zero => exact absurd rfl notFirst
    | succ place =>
        rw [List.getElem?_cons_succ] at found
        by_cases inside : place < between.length
        · rw [List.getElem?_append_left inside] at found
          exact free word (List.mem_of_getElem? found)
        · rw [List.getElem?_append_right (by omega)] at found
          obtain ⟨beyond, offset⟩ : ∃ beyond, place - between.length = beyond + 1 :=
            ⟨place - between.length - 1, by omega⟩
          rw [offset, List.getElem?_cons_succ] at found
          rw [List.mem_singleton.mp (List.mem_of_getElem? found)]
          exact freeLast

theorem Invocation.flagsOnce {order : Invocation} (checked : checkOptions order.options = .ok ()) :
    FlagsOnce order.arguments := by
  have options := (checkOptions_eq_ok_iff order.options).mp checked
  have free : ∀ word ∈ order.wakeAt.timestamp :: words order.options, Unreserved word := by
    intro word member
    rcases List.mem_cons.mp member with rfl | option
    · exact order.wakeAt.unreserved_timestamp
    · exact options word option
  exact .around free order.mode.unreserved_tag

end WakeSchedule
