import WakeSchedule.Proofs.Calendar.Week
import WakeSchedule.Proofs.Text.Digits
import WakeSchedule.Proofs.Text.Trim

namespace WakeSchedule

theorem lowerChar_of_isDigit {c : Char} (digit : c.isDigit = true) : lowerChar c = c := by
  have codes : 48 ≤ c.toNat ∧ c.toNat ≤ 57 := Char.isDigit_iff_toNat.mp digit
  have other : c ≠ '\u212A' := by
    intro same
    rw [same] at codes
    exact absurd codes (by decide)
  rw [lowerChar, if_neg other]
  apply dif_neg
  intro upper
  have first : 65 ≤ c.toNat := UInt32.le_iff_toNat_le.mp upper.1
  omega

namespace Weekday

/-- A text names a day by its abbreviation or by its full name, in any letter case and with blanks
around it. -/
def NamedBy (day : Weekday) (text : String) : Prop :=
  lowered (trim text) = day.abbreviation ∨ lowered (trim text) = lowered day.name

theorem ofName?_eq_some_iff (text : String) (day : Weekday) :
    ofName? text = some day ↔ day.NamedBy text := by
  constructor
  · intro found
    have named := List.find?_some found
    rwa [Bool.or_eq_true, decide_eq_true_eq, decide_eq_true_eq] at named
  · intro named
    unfold ofName?
    rcases named with short | full
    · rw [short]
      cases day <;> decide
    · rw [full]
      cases day <;> decide

theorem exists_letter (day : Weekday) :
    (∃ c rest, day.abbreviation.toList = c :: rest ∧ c.isDigit = false) ∧
      ∃ c rest, (lowered day.name).toList = c :: rest ∧ c.isDigit = false := by
  cases day <;> exact ⟨⟨_, _, rfl, rfl⟩, ⟨_, _, rfl, rfl⟩⟩

end Weekday

namespace Mask

theorem ofDigit?_eq_some_iff (mark : Char) (active : Bool) :
    ofDigit? mark = some active ↔ mark = digit active := by
  unfold ofDigit?
  cases active <;> split <;> simp_all [digit]

section Digits

variable {text : String} {place : Nat} {mask read : Mask} {marks : List Char}

theorem get_readDigits (done : readDigits text place mask marks = .ok read) (day : Weekday) :
    read.get day = if place ≤ day.index then
        (marks[day.index - place]?.map (· == '1')).getD (mask.get day)
      else mask.get day := by
  induction marks generalizing place mask with
  | nil =>
      cases done
      simp
  | cons mark marks ih =>
      unfold readDigits at done
      split at done
      · cases done
      · cases done
      next active first said placed =>
        have rest := ih done
        have index := (Weekday.all_getElem?_eq_some_iff place first).mp placed
        have value : (mark == '1') = active := by
          rw [(ofDigit?_eq_some_iff mark active).mp said]
          cases active <;> rfl
        rw [rest, Week.get_set]
        -- The days before the place are left, its own is set now, and later ones are read after it.
        rcases Nat.lt_trichotomy day.index place with before | here | after
        · have other : day ≠ first := fun same => by rw [same] at before; omega
          rw [if_neg (show ¬place + 1 ≤ day.index by omega), if_neg other,
            if_neg (show ¬place ≤ day.index by omega)]
        · have same : day = first := Weekday.index_injective (here.trans index.symm)
          rw [if_neg (show ¬place + 1 ≤ day.index by omega), if_pos same, if_pos (by omega), here,
            Nat.sub_self]
          simp [value]
        · have other : day ≠ first := fun same => by rw [same] at after; omega
          obtain ⟨steps, ahead⟩ : ∃ steps, day.index = place + 1 + steps :=
            ⟨day.index - (place + 1), by omega⟩
          rw [if_pos (by omega), if_neg other, if_pos (by omega), ahead, Nat.add_sub_cancel_left,
            Nat.add_assoc, Nat.add_sub_cancel_left, Nat.add_comm 1 steps, List.getElem?_cons_succ]

theorem readDigits_cases (text : String) (mask : Mask) (within : place + marks.length ≤ 7) :
    (∃ read, readDigits text place mask marks = .ok read ∧
        ∀ mark ∈ marks, mark = '0' ∨ mark = '1') ∨
      ∃ mark ∈ marks, ¬(mark = '0' ∨ mark = '1') ∧
        readDigits text place mask marks = .error (.badDigit text mark) := by
  induction marks generalizing place mask with
  | nil => exact .inl ⟨mask, rfl, fun _ member => nomatch member⟩
  | cons mark marks ih =>
      rw [List.length_cons] at within
      obtain ⟨day, placed⟩ := Weekday.exists_all_getElem? (show place < 7 by omega)
      cases said : ofDigit? mark with
      | none =>
          right
          refine ⟨mark, List.mem_cons_self, ?_, by rw [readDigits, said]⟩
          unfold ofDigit? at said
          split at said
          · cases said
          · split at said
            · cases said
            · simp_all
      | some active =>
          have step : readDigits text place mask (mark :: marks) =
              readDigits text (place + 1) (mask.set day active) marks := by
            rw [readDigits, said, placed]
          have good : mark = '0' ∨ mark = '1' := by
            rw [(ofDigit?_eq_some_iff mark active).mp said]
            cases active <;> simp [digit]
          rw [step]
          rcases ih (mask.set day active) (show place + 1 + marks.length ≤ 7 by omega) with
            ⟨read, done, bits⟩ | ⟨other, member, bad, refused⟩
          · exact .inl ⟨read, done, List.forall_mem_cons.mpr ⟨good, bits⟩⟩
          · exact .inr ⟨other, List.mem_cons_of_mem mark member, bad, refused⟩

/-- Seven marks, each 0 or 1: one for each day from Sunday to Saturday, 1 where it is active. -/
structure WrittenInDigits (text : String) (mask : Mask) : Prop where
  length : text.toList.length = 7
  marks : ∀ mark ∈ text.toList, mark = '0' ∨ mark = '1'
  days : ∀ day, mask.get day = true ↔ text.toList[day.index]? = some '1'

theorem isDigit_of_bit {mark : Char} (bit : mark = '0' ∨ mark = '1') : mark.isDigit = true := by
  rcases bit with rfl | rfl <;> decide

theorem get_of_readDigits (done : readDigits text 0 empty text.toList = .ok read)
    (day : Weekday) : read.get day = true ↔ text.toList[day.index]? = some '1' := by
  rw [get_readDigits done day, if_pos (Nat.zero_le _), Nat.sub_zero, empty, Week.get_ofFn]
  cases text.toList[day.index]? <;> simp

theorem ofDigits_eq_ok_iff (run : ∀ mark ∈ text.toList, mark.isDigit = true) :
    ofDigits text = .ok read ↔ WrittenInDigits text read := by
  have size := utf8ByteSize_of_digits run
  unfold ofDigits
  by_cases seven : text.toList.length = 7
  · rw [if_pos (size.trans seven)]
    rcases readDigits_cases text empty (show 0 + text.toList.length ≤ 7 by omega) with
      ⟨other, done, bits⟩ | ⟨mark, member, bad, refused⟩
    · rw [done, Except.ok.injEq]
      constructor
      · intro same
        subst same
        exact ⟨seven, bits, get_of_readDigits done⟩
      · intro written
        apply Week.ext_get
        intro day
        rw [Bool.eq_iff_iff, get_of_readDigits done day, written.days day]
    · rw [refused]
      exact ⟨nofun, fun written => absurd (written.marks mark member) bad⟩
  · rw [if_neg (size ▸ seven)]
    exact ⟨nofun, fun written => absurd written.length seven⟩

theorem ofDigits_fault {fault : MaskFault} (run : ∀ mark ∈ text.toList, mark.isDigit = true)
    (refused : ofDigits text = .error fault) (place : Nat) : fault ≠ .noDay place := by
  have size := utf8ByteSize_of_digits run
  unfold ofDigits at refused
  split at refused
  next seven =>
    rcases readDigits_cases text empty (show 0 + text.toList.length ≤ 7 by omega) with
      ⟨other, done, _⟩ | ⟨mark, _, _, bad⟩
    · rw [done] at refused
      cases refused
    · rw [bad] at refused
      cases refused
      exact nofun
  · cases refused
    exact nofun

end Digits

section Names

variable {pieces : List (List Char)} {mask read : Mask} {text : String}

theorem ofNames_eq_ok_iff : ofNames pieces mask = .ok read ↔
    (∀ piece ∈ pieces, ∃ day : Weekday, day.NamedBy (.ofList piece)) ∧
      ∀ day : Weekday, read.get day = true ↔
        mask.get day = true ∨ ∃ piece ∈ pieces, day.NamedBy (.ofList piece) := by
  induction pieces generalizing mask with
  | nil =>
      have done : ofNames [] mask = .ok mask := rfl
      simp only [done, Except.ok.injEq, List.not_mem_nil, false_and, exists_false, or_false]
      constructor
      · intro same
        subst same
        exact ⟨nofun, fun _ => Iff.rfl⟩
      · intro written
        apply Week.ext_get
        intro day
        rw [Bool.eq_iff_iff, written.2 day]
  | cons piece pieces ih =>
      unfold ofNames
      split
      next first found =>
        have named := (Weekday.ofName?_eq_some_iff _ first).mp found
        have only : ∀ day : Weekday, day.NamedBy (.ofList piece) ↔ day = first := by
          intro day
          rw [← Weekday.ofName?_eq_some_iff, found, Option.some.injEq]
          exact eq_comm
        have added : ∀ day : Weekday, (mask.add first).get day = true ↔
            mask.get day = true ∨ day.NamedBy (.ofList piece) := by
          intro day
          rw [add, Week.get_set, only]
          by_cases same : day = first <;> simp [same]
        have others : ∀ day : Weekday, (∃ other ∈ piece :: pieces, day.NamedBy (.ofList other)) ↔
            day.NamedBy (.ofList piece) ∨ ∃ other ∈ pieces, day.NamedBy (.ofList other) := by
          intro day
          simp only [List.mem_cons, or_and_right, exists_or, exists_eq_left]
        rw [ih, List.forall_mem_cons, and_iff_right (⟨first, named⟩ :
          ∃ day : Weekday, day.NamedBy (.ofList piece))]
        simp only [added, others, or_assoc]
      next missing =>
        refine ⟨nofun, fun written => ?_⟩
        obtain ⟨day, named⟩ := written.1 piece List.mem_cons_self
        rw [(Weekday.ofName?_eq_some_iff _ day).mpr named] at missing
        cases missing

theorem ofNames_fault {fault : MaskFault} (refused : ofNames pieces mask = .error fault)
    (place : Nat) : fault ≠ .noDay place := by
  induction pieces generalizing mask with
  | nil => cases refused
  | cons piece pieces ih =>
      unfold ofNames at refused
      split at refused
      · exact ih refused
      · cases refused
        exact nofun

theorem piecesBy_eq_splitOn (mark : Char) (text : List Char) :
    piecesBy (· = mark) text = text.splitOn mark := by
  induction text with
  | nil => rfl
  | cons c rest ih =>
      rw [piecesBy, ih, List.splitOn, List.splitOn, List.splitOnP_cons_eq_if_modifyHead]
      by_cases separates : c = mark
      · simp [separates]
      · simp only [separates, decide_false, Bool.false_eq_true, if_false, beq_iff_eq]
        cases pieces : rest.splitOnP (· == mark) with
        | nil => exact absurd pieces (List.splitOnP_ne_nil _ _)
        | cons piece pieces => rfl

structure WrittenInNames (text : String) (mask : Mask) : Prop where
  named : ∀ piece ∈ text.toList.splitOn ',', ∃ day : Weekday, day.NamedBy (.ofList piece)
  days : ∀ day : Weekday, mask.get day = true ↔
    ∃ piece ∈ text.toList.splitOn ',', day.NamedBy (.ofList piece)

end Names

section Reading

variable {text : String} {mask : Mask}

theorem not_writtenInNames_of_digits (run : ∀ mark ∈ text.toList, mark.isDigit = true) :
    ¬WrittenInNames text mask := by
  intro written
  have whole : text.toList.splitOn ',' = [text.toList] := by
    apply List.splitOnP_eq_singleton
    intro mark member
    have digit := run mark member
    simp only [beq_eq_false_iff_ne]
    intro comma
    rw [comma] at digit
    exact absurd digit (by decide)
  obtain ⟨day, named⟩ := written.named text.toList (by rw [whole]; exact List.mem_singleton_self _)
  have same : lowered (trim (.ofList text.toList)) = text := by
    rw [String.ofList_toList, trim_of_no_blank fun c member => isBlank_of_isDigit (run c member)]
    apply String.toList_inj.mp
    rw [lowered, String.toList_ofList]
    calc
      text.toList.map lowerChar = text.toList.map id :=
        List.map_congr_left fun c member => lowerChar_of_isDigit (run c member)
      _ = text.toList := List.map_id _
  rw [Weekday.NamedBy, same] at named
  obtain ⟨⟨c, rest, short, letter⟩, d, others, full, letter'⟩ := day.exists_letter
  rcases named with abbreviated | inFull
  · have digit := run c (by rw [abbreviated, short]; exact List.mem_cons_self)
    rw [letter] at digit
    cases digit
  · have digit := run d (by rw [inFull, full]; exact List.mem_cons_self)
    rw [letter'] at digit
    cases digit

theorem WrittenInDigits.isDigit (written : WrittenInDigits text mask) :
    ∀ mark ∈ text.toList, mark.isDigit = true :=
  fun mark member => isDigit_of_bit (written.marks mark member)

/-- The two ways of writing a mask exclude each other, and a text of digits decides between them. -/
theorem read_eq_ok_iff :
    read text = .ok mask ↔ WrittenInDigits text mask ∨ WrittenInNames text mask := by
  unfold read
  split
  next nothing =>
    refine ⟨nofun, fun written => ?_⟩
    rcases written with digits | names
    · have length := digits.length
      rw [nothing] at length
      cases length
    · exact absurd names (not_writtenInNames_of_digits (by rw [nothing]; exact nofun))
  · split
    next run =>
      have digits := List.all_eq_true.mp run
      rw [ofDigits_eq_ok_iff digits, or_iff_left (not_writtenInNames_of_digits digits)]
    next other =>
      have noDigits : ¬WrittenInDigits text mask :=
        fun written => other (List.all_eq_true.mpr written.isDigit)
      rw [or_iff_right noDigits, piecesBy_eq_splitOn, ofNames_eq_ok_iff]
      constructor
      · intro names
        exact ⟨names.1, fun day => by simpa [empty, Week.get_ofFn] using names.2 day⟩
      · intro names
        exact ⟨names.named, fun day => by simpa [empty, Week.get_ofFn] using names.days day⟩

theorem read_fault {fault : MaskFault} (refused : read text = .error fault) (place : Nat) :
    fault ≠ .noDay place := by
  unfold read at refused
  split at refused
  · cases refused
    exact nofun
  · split at refused
    next run => exact ofDigits_fault (List.all_eq_true.mp run) refused place
    · exact ofNames_fault refused place

theorem writtenInDigits_digits (mask : Mask) : WrittenInDigits mask.digits mask where
  length := by rw [digits, String.toList_ofList]; rfl
  marks := by
    intro mark member
    rw [digits, String.toList_ofList] at member
    obtain ⟨active, _, rfl⟩ := List.mem_map.mp member
    cases active <;> simp [digit]
  days := by
    intro day
    have marked : mask.digits.toList[day.index]? = some (digit (mask.get day)) := by
      rw [digits, String.toList_ofList]
      cases day <;> rfl
    rw [marked]
    cases mask.get day <;> decide

theorem trim_digits (mask : Mask) : trim mask.digits = mask.digits :=
  trim_of_no_blank fun mark member =>
    isBlank_of_isDigit ((writtenInDigits_digits mask).isDigit mark member)

end Reading

/-- A text is read as a mask exactly where, without the blanks around it, it is seven digits or a
list of day names, and then as the mask that it writes. Any other text is refused, and no text makes
the reading look for a day past Saturday. The digits of a mask read back, whatever blanks stand
around them. -/
theorem masks_are_read_exactly :
    (∀ text mask, parse text = .ok mask ↔
      WrittenInDigits (trim text) mask ∨ WrittenInNames (trim text) mask) ∧
    (∀ text, (∃ fault, parse text = .error (.mask fault) ∧ ∀ place, fault ≠ .noDay place) ↔
      ¬∃ mask, WrittenInDigits (trim text) mask ∨ WrittenInNames (trim text) mask) ∧
    ∀ (mask : Mask) (front back : String), AllBlank front.toList → AllBlank back.toList →
      parse (front ++ mask.digits ++ back) = .ok mask := by
  have reads : ∀ text mask, parse text = .ok mask ↔
      WrittenInDigits (trim text) mask ∨ WrittenInNames (trim text) mask := by
    intro text mask
    rw [parse, ← read_eq_ok_iff]
    cases read (trim text) <;> simp [Except.mapError]
  refine ⟨reads, ?_, ?_⟩
  · intro text
    simp only [← reads]
    cases answer : read (trim text) with
    | ok mask => simp [parse, answer, Except.mapError]
    | error fault =>
        have refused : parse text = .error (.mask fault) := by rw [parse, answer]; rfl
        simp only [refused, Except.error.injEq, Violation.mask.injEq, reduceCtorEq, exists_false,
          not_false_eq_true, iff_true]
        exact ⟨fault, rfl, read_fault answer⟩
  · intro mask front back blankFront blankBack
    rw [reads, trim_surrounded mask.digits blankFront blankBack, trim_digits]
    exact .inl (writtenInDigits_digits mask)

theorem masks_are_read_between_blanks :
    AllBlank "\u3000".toList ∧ AllBlank "\t\n".toList ∧
      parse ("\u3000" ++ (ofDays [.monday, .friday]).digits ++ "\t\n") =
        .ok (ofDays [.monday, .friday]) := by
  have front : AllBlank "\u3000".toList := List.all_eq_true.mp (by decide)
  have back : AllBlank "\t\n".toList := List.all_eq_true.mp (by decide)
  exact ⟨front, back, masks_are_read_exactly.2.2 _ _ _ front back⟩

/-- Neither order nor repetition nor letter case matters in a list of days, but every piece must
name one. -/
example : parse " fri,MON,\tFriday " = .ok (ofDays [.monday, .friday]) ∧
    parse "mon,,fri" = .error (.mask (.unknownDay "")) ∧
    parse "0111112" = .error (.mask (.badDigit "0111112" '2')) := by decide

end Mask

end WakeSchedule
