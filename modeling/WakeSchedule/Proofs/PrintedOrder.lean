import WakeSchedule.Proofs.Arguments
import WakeSchedule.Proofs.Text.Words

namespace WakeSchedule

theorem Moment.isWord_timestamp (moment : Moment) : IsWord moment.timestamp.toList where
  nonempty := by
    have hour := length_padNat (show 0 < 2 by decide)
      (Nat.lt_trans moment.time.hour.isLt (by decide))
    intro empty
    simp only [timestamp, TimeOfDay.digits, String.toList_append, List.append_eq_nil_iff] at empty
    rw [empty.2.1.1] at hour
    cases hour
  solid := by
    intro c member
    rcases moment.of_mem_timestamp member with rfl | digit
    · rfl
    · exact isBlank_of_isDigit digit

theorem PowerMode.isWord_tag (mode : PowerMode) : IsWord mode.tag.toList := by
  cases mode <;> decide

namespace Invocation

theorem isWord_of_mem_arguments {order : Invocation} {argument : String}
    (member : argument ∈ order.arguments) : IsWord argument.toList := by
  simp only [arguments, List.mem_append, List.mem_cons, List.not_mem_nil, or_false] at member
  rcases member with ((rfl | rfl) | option) | rfl | rfl
  · decide
  · exact order.wakeAt.isWord_timestamp
  · exact isWord_of_mem_words option
  · decide
  · exact order.mode.isWord_tag

theorem commandLine_eq_intercalate (order : Invocation) :
    order.commandLine = " ".intercalate ("rtcwake" :: order.arguments) := by
  have nonempty : order.arguments ≠ [] := List.cons_ne_nil _ _
  have program : "rtcwake " = "rtcwake" ++ " " := by decide
  rw [commandLine, String.intercalate_cons_of_ne_nil nonempty, program]

theorem words_commandLine (order : Invocation) :
    words order.commandLine = "rtcwake" :: order.arguments := by
  rw [commandLine_eq_intercalate]
  apply words_intercalate
  intro word member
  rcases List.mem_cons.mp member with rfl | argument
  · decide
  · exact isWord_of_mem_arguments argument

theorem arguments_congr (order : Invocation) {options : String}
    (same : words options = words order.options) :
    { order with options }.arguments = order.arguments := by
  simp only [arguments, same]

end Invocation

/-- A text spells one list of words. The arguments of an order are its date, the words of its
options and its mode, all of them words themselves, so the printed line spells the program and the
arguments and nothing else. Lines therefore differ just where arguments do, and options of the same
words make the same arguments and the same line. -/
theorem printed_orders_read_back :
    (∀ text given, words text = given ↔ Spells (given.map String.toList) text.toList) ∧
    (∀ order : Invocation,
      (∀ argument ∈ order.arguments, argument ≠ "" ∧ ∀ c ∈ argument.toList, isBlank c = false) ∧
      order.arguments =
        "--date" :: order.wakeAt.timestamp :: (words order.options ++ ["-m", order.mode.tag]) ∧
      words order.commandLine = "rtcwake" :: order.arguments) ∧
    (∀ first second : Invocation,
      first.commandLine = second.commandLine ↔ first.arguments = second.arguments) ∧
    ∀ (order : Invocation) (options : String), words options = words order.options →
      { order with options }.arguments = order.arguments ∧
        { order with options }.commandLine = order.commandLine := by
  refine ⟨fun _ _ => words_eq_iff, ?_, ?_, ?_⟩
  · intro order
    refine ⟨?_, by simp [Invocation.arguments], order.words_commandLine⟩
    intro argument member
    have isWord := Invocation.isWord_of_mem_arguments member
    exact ⟨fun empty => isWord.nonempty (String.toList_eq_nil_iff.mpr empty), isWord.solid⟩
  · intro first second
    constructor
    · intro same
      have spelled := first.words_commandLine
      rw [same, second.words_commandLine] at spelled
      exact (List.cons.inj spelled).2.symm
    · intro same
      rw [Invocation.commandLine, Invocation.commandLine, same]
  · intro order options same
    have arguments := order.arguments_congr same
    exact ⟨arguments, by rw [Invocation.commandLine, arguments, Invocation.commandLine]⟩

/-- Tabs, line breaks and blanks of other scripts part the options as single spaces do. -/
theorem printed_order_with_odd_blanks :
    let order : Invocation := ⟨⟨⟨-5, 2, 28, by decide⟩, ⟨6, 30, 0⟩⟩, .showAlarm, none, "-a --device rtc1"⟩
    let options := "\t-a\u2003\u00A0--device\n\nrtc1\u3000"
    words options = words order.options ∧
      { order with options }.commandLine = order.commandLine ∧
      order.commandLine = "rtcwake --date -0050228063000 -a --device rtc1 -m show" := by
  intro order options
  have same : words options = words order.options := by decide
  exact ⟨same, (printed_orders_read_back.2.2.2 order options same).2, by decide⟩

end WakeSchedule
