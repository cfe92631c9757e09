import WakeSchedule.Proofs.Arguments
/-! Reserved flags among the option words of an alarm order. The forms meant are a long flag, alone
or with a value after an equals sign, and a short flag, alone or with anything attached. Options are
refused for each of these forms but one: a short flag whose value is attached directly passes, and
stands among the arguments beside the order's own flags. -/

namespace WakeSchedule

def Begins (flag word : String) : Prop := flag.toList <+: word.toList

instance (flag word : String) : Decidable (Begins flag word) :=
  inferInstanceAs (Decidable (_ <+: _))

/-- The word is the flag, alone or with a value after an equals sign. -/
def StandsFor (flag word : String) : Prop := word = flag ∨ Begins (flag ++ "=") word

instance (flag word : String) : Decidable (StandsFor flag word) :=
  inferInstanceAs (Decidable (_ ∨ _))

def longFlags : List String := ["--date", "--mode"]

def shortFlags : List String := ["-m", "-t"]

/-- The word has one of the forms of a reserved flag. Long flags that are cut short, and short flags
behind others in one word, are not looked at. -/
def ReservedForm (word : String) : Prop :=
  (∃ flag ∈ longFlags, StandsFor flag word) ∨ ∃ flag ∈ shortFlags, Begins flag word

instance : DecidablePred ReservedForm := fun _ => inferInstanceAs (Decidable (_ ∨ _))

/-- The word is a short flag with its value attached directly. -/
def AttachesValue (word : String) : Prop :=
  ∃ flag ∈ shortFlags, Begins flag word ∧ ¬StandsFor flag word

instance : DecidablePred AttachesValue := fun word =>
  inferInstanceAs (Decidable (∃ flag ∈ shortFlags, Begins flag word ∧ ¬StandsFor flag word))

theorem StandsFor.begins {flag word : String} (stands : StandsFor flag word) :
    Begins flag word := by
  rcases stands with rfl | given
  · exact List.prefix_rfl
  · rw [Begins, String.toList_append] at given
    exact (List.prefix_append _ _).trans given

theorem cutAt_fst_eq_iff {mark : Char} {front text : List Char} (plain : mark ∉ front) :
    (cutAt mark text).1 = front ↔ text = front ∨ front ++ [mark] <+: text := by
  induction text generalizing front with
  | nil =>
      simp only [cutAt, List.prefix_nil, List.append_eq_nil_iff, reduceCtorEq, and_false, or_false]
  | cons c rest ih =>
      rw [cutAt]
      by_cases marks : c = mark
      · subst marks
        rw [if_pos rfl]
        cases front with
        | nil => simp
        | cons d front =>
            simp only [List.mem_cons, not_or] at plain
            simp [plain.1, Ne.symm plain.1]
      · rw [if_neg marks]
        cases front with
        | nil => simp [Ne.symm marks]
        | cons d front =>
            have later := ih fun member => plain (List.mem_cons_of_mem d member)
            rw [List.cons.injEq, List.cons.injEq, later, List.cons_append, List.cons_prefix_cons,
              @eq_comm _ d c, and_or_left]

theorem flagOf_eq_iff {flag : String} (plain : '=' ∉ flag.toList) (word : String) :
    flagOf word = flag ↔ StandsFor flag word := by
  rw [← String.toList_inj, flagOf, String.toList_ofList, cutAt_fst_eq_iff plain, StandsFor, Begins,
    String.toList_append, String.toList_inj]
  rfl

theorem unreserved_iff_stands (word : String) :
    Unreserved word ↔ ∀ flag ∈ reservedFlags, ¬StandsFor flag word := by
  have plain : ∀ flag ∈ reservedFlags, '=' ∉ flag.toList := by decide
  rw [unreserved_iff]
  constructor
  · intro free flag reserved stands
    rw [← flagOf_eq_iff (plain flag reserved)] at stands
    exact free (stands ▸ reserved)
  · intro free reserved
    exact free _ reserved ((flagOf_eq_iff (plain _ reserved) word).mp rfl)

theorem AttachesValue.unreserved {word : String} (attaches : AttachesValue word) :
    Unreserved word := by
  have apart : ∀ short ∈ shortFlags, ∀ flag ∈ reservedFlags,
      short.toList <+: flag.toList ∨ flag.toList <+: short.toList → short = flag := by decide
  rcases attaches with ⟨short, listed, begins, not⟩
  rw [unreserved_iff_stands]
  intro flag reserved stands
  -- Two flags that one word begins with would begin with each other, and no two of them do.
  have both := List.prefix_or_prefix_of_prefix begins stands.begins
  rw [apart short listed flag reserved both] at not
  exact not stands

theorem reservedForm_iff (word : String) :
    ReservedForm word ↔ ¬Unreserved word ∨ AttachesValue word := by
  have known : ∀ flag ∈ reservedFlags, flag ∈ longFlags ∨ flag ∈ shortFlags := by decide
  have long : ∀ flag ∈ longFlags, flag ∈ reservedFlags := by decide
  have short : ∀ flag ∈ shortFlags, flag ∈ reservedFlags := by decide
  rw [unreserved_iff_stands]
  simp only [not_forall, not_not, exists_prop]
  constructor
  · rintro (⟨flag, listed, stands⟩ | ⟨flag, listed, begins⟩)
    · exact .inl ⟨flag, long flag listed, stands⟩
    · by_cases stands : StandsFor flag word
      · exact .inl ⟨flag, short flag listed, stands⟩
      · exact .inr ⟨flag, listed, begins, stands⟩
  · rintro (⟨flag, reserved, stands⟩ | ⟨flag, listed, begins, _⟩)
    · rcases known flag reserved with listed | listed
      · exact .inl ⟨flag, listed, stands⟩
      · exact .inr ⟨flag, listed, stands.begins⟩
    · exact .inr ⟨flag, listed, begins⟩

theorem unreserved_iff_attaches {word : String} :
    Unreserved word ↔ (ReservedForm word → AttachesValue word) := by
  rw [reservedForm_iff]
  constructor
  · rintro free (reserved | attaches)
    · exact absurd free reserved
    · exact attaches
  · intro attaches
    by_contra reserved
    exact reserved (attaches (.inl reserved)).unreserved

theorem checkOptions_eq_ok_iff_attaches (options : String) : checkOptions options = .ok () ↔
    ∀ word ∈ words options, ReservedForm word → AttachesValue word := by
  simp only [checkOptions_eq_ok_iff, unreserved_iff_attaches]

theorem not_reservedForm_of_no_letter {word : String}
    (plain : ∀ c ∈ word.toList, c.isLower = false) : ¬ReservedForm word := by
  have letters : ∀ flag ∈ longFlags ++ shortFlags, flag.toList.any Char.isLower = true := by decide
  have begun : ∀ flag ∈ longFlags ++ shortFlags, ¬Begins flag word := fun flag listed begins =>
    not_subset_of_no_letter (letters flag listed) plain begins.subset
  rintro (⟨flag, listed, stands⟩ | ⟨flag, listed, begins⟩)
  · exact begun flag (List.mem_append_left _ listed) stands.begins
  · exact begun flag (List.mem_append_right _ listed) begins

namespace Invocation

variable {order : Invocation}

theorem filter_reservedForm_arguments (checked : checkOptions order.options = .ok ()) :
    order.arguments.filter (ReservedForm ·) =
      "--date" :: ((words order.options).filter (AttachesValue ·) ++ ["-m"]) := by
  have timestamp : ¬ReservedForm order.wakeAt.timestamp :=
    not_reservedForm_of_no_letter fun _ => order.wakeAt.isLower_of_mem_timestamp
  have tag : ¬ReservedForm order.mode.tag := by cases order.mode <;> decide
  have date : ReservedForm "--date" := by decide
  have mode : ReservedForm "-m" := by decide
  have options : (words order.options).filter (ReservedForm ·) =
      (words order.options).filter (AttachesValue ·) := by
    apply List.filter_congr
    intro word member
    have passed := (checkOptions_eq_ok_iff_attaches order.options).mp checked word member
    exact decide_eq_decide.mpr ⟨passed, fun attaches => (reservedForm_iff word).mpr (.inr attaches)⟩
  simp only [arguments, List.filter_append, options, List.filter_cons, date, timestamp, mode, tag,
    decide_true, decide_false, if_true, Bool.false_eq_true, if_false, List.filter_nil,
    List.cons_append, List.nil_append]

end Invocation

/-- Options pass their check exactly where each of their words that has a form of a reserved flag is
a short flag with its value attached. Options that pass are therefore free of these forms just where
no value is attached, and in an order with them such words stand after the date and before the mode
that the order sets itself. -/
theorem accepted_options_attach_their_values (options : String) :
    (checkOptions options = .ok () ↔
      ∀ word ∈ words options, ReservedForm word → AttachesValue word) ∧
    (checkOptions options = .ok () →
      ((∀ word ∈ words options, ¬ReservedForm word) ↔ ∀ word ∈ words options, ¬AttachesValue word) ∧
        ∀ order : Invocation, order.options = options →
          order.arguments.filter (ReservedForm ·) =
            "--date" :: ((words options).filter (AttachesValue ·) ++ ["-m"])) := by
  refine ⟨checkOptions_eq_ok_iff_attaches options, fun checked => ⟨?_, ?_⟩⟩
  · have passed := (checkOptions_eq_ok_iff_attaches options).mp checked
    constructor
    · intro none word member attaches
      exact none word member ((reservedForm_iff word).mpr (.inr attaches))
    · intro none word member reserved
      exact none word member (passed word member reserved)
  · rintro order rfl
    exact Invocation.filter_reservedForm_arguments checked

theorem accepted_options_attach_both_values :
    let order : Invocation :=
      ⟨⟨⟨2026, 1, 6, by decide⟩, ⟨6, 30, 0⟩⟩, .off, none, "-a -t1700000000 -mmem"⟩
    checkOptions order.options = .ok () ∧
      order.arguments.filter (ReservedForm ·) = ["--date", "-t1700000000", "-mmem", "-m"] := by
  intro order
  have checked : checkOptions order.options = .ok () := by decide
  refine ⟨checked, ?_⟩
  rw [((accepted_options_attach_their_values order.options).2 checked).2 order rfl]
  decide

/-- One word that passes, with a mode attached to its flag, is enough. -/
theorem accepted_options_may_set_a_mode :
    ¬∀ options, checkOptions options = .ok () → ∀ word ∈ words options, ¬ReservedForm word := by
  intro safe
  exact safe "-mmem" (by decide) "-mmem" (by decide) (by decide)

end WakeSchedule
