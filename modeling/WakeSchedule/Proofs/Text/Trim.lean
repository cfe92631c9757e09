import WakeSchedule.Rule

namespace WakeSchedule

theorem isBlank_of_isDigit {c : Char} (digit : c.isDigit = true) : isBlank c = false := by
  have codes : 48 ≤ c.toNat ∧ c.toNat ≤ 57 := Char.isDigit_iff_toNat.mp digit
  have apart : ∀ range ∈ blankRanges, range.2 < 48 ∨ 57 < range.1 := by decide
  apply List.any_eq_false.mpr
  intro range listed inside
  simp only [Bool.and_eq_true, decide_eq_true_eq] at inside
  have outside := apart range listed
  omega

theorem trimStart_cons (c : Char) (rest : List Char) :
    trimStart (c :: rest) = if isBlank c then trimStart rest else c :: rest := by
  simp only [trimStart, List.dropWhile_cons]

theorem trimEnd_cons (c : Char) (rest : List Char) :
    trimEnd (c :: rest) =
      if trimEnd rest = [] ∧ isBlank c = true then [] else c :: trimEnd rest := by
  simp only [trimEnd, List.reverse_cons, List.dropWhile_append, List.reverse_eq_nil_iff,
    List.isEmpty_iff]
  by_cases empty : rest.reverse.dropWhile isBlank = []
  · by_cases blank : isBlank c = true <;> simp [empty, blank]
  · simp [empty]

theorem trimStart_idem (text : List Char) : trimStart (trimStart text) = trimStart text := by
  induction text with
  | nil => rfl
  | cons c rest ih =>
      rw [trimStart_cons]
      by_cases blank : isBlank c = true
      · rw [if_pos blank]
        exact ih
      · rw [if_neg blank, trimStart_cons, if_neg blank]

theorem trimEnd_idem (text : List Char) : trimEnd (trimEnd text) = trimEnd text := by
  simp only [trimEnd, List.reverse_reverse]
  exact congrArg List.reverse (trimStart_idem text.reverse)

theorem trimStart_trimEnd (text : List Char) :
    trimStart (trimEnd text) = trimEnd (trimStart text) := by
  induction text with
  | nil => rfl
  | cons c rest ih =>
      rw [trimStart_cons, trimEnd_cons]
      by_cases blank : isBlank c = true
      · rw [if_pos blank, ← ih]
        by_cases empty : trimEnd rest = []
        · rw [if_pos ⟨empty, blank⟩, empty]
        · rw [if_neg (fun both => empty both.1), trimStart_cons, if_pos blank]
      · rw [if_neg blank, if_neg (fun both => blank both.2), trimStart_cons, if_neg blank,
          trimEnd_cons, if_neg (fun both => blank both.2)]

theorem toList_trim (text : String) : (trim text).toList = trimEnd (trimStart text.toList) := by
  rw [trim, String.toList_ofList]

theorem trim_idem (text : String) : trim (trim text) = trim text := by
  apply String.toList_inj.mp
  rw [toList_trim, toList_trim, trimStart_trimEnd, trimEnd_idem, trimStart_idem]

def AllBlank (text : List Char) : Prop := ∀ c ∈ text, isBlank c = true

theorem trimStart_append {front : List Char} (blank : AllBlank front) (text : List Char) :
    trimStart (front ++ text) = trimStart text := by
  induction front with
  | nil => rfl
  | cons c rest ih =>
      rw [List.cons_append, trimStart_cons, if_pos (blank c List.mem_cons_self)]
      exact ih fun other member => blank other (List.mem_cons_of_mem c member)

theorem trimEnd_append (text : List Char) {back : List Char} (blank : AllBlank back) :
    trimEnd (text ++ back) = trimEnd text := by
  have reversed : AllBlank back.reverse := fun c member => blank c (List.mem_reverse.mp member)
  rw [trimEnd, List.reverse_append]
  exact congrArg List.reverse (trimStart_append reversed text.reverse)

theorem trim_surrounded {front back : String} (text : String) (blankFront : AllBlank front.toList)
    (blankBack : AllBlank back.toList) : trim (front ++ text ++ back) = trim text := by
  apply String.toList_inj.mp
  calc
    (trim (front ++ text ++ back)).toList =
        trimEnd (trimStart (front.toList ++ (text.toList ++ back.toList))) := by
      rw [toList_trim, String.toList_append, String.toList_append, List.append_assoc]
    _ = trimStart (trimEnd (text.toList ++ back.toList)) := by
      rw [trimStart_append blankFront, trimStart_trimEnd]
    _ = trimEnd (trimStart text.toList) := by
      rw [trimEnd_append _ blankBack, trimStart_trimEnd]
    _ = (trim text).toList := (toList_trim text).symm

theorem isBlank_of_mem_head_trimStart {c : Char} (text : List Char)
    (first : c ∈ (trimStart text).head?) : isBlank c = false := by
  induction text with
  | nil => cases first
  | cons d rest ih =>
      rw [trimStart_cons] at first
      split at first
      · exact ih first
      next solid => exact Option.some.inj first ▸ Bool.eq_false_iff.mpr solid

theorem trimStart_eq_self_iff {text : List Char} :
    trimStart text = text ↔ ∀ c ∈ text.head?, isBlank c = false := by
  constructor
  · intro same c first
    rw [← same] at first
    exact isBlank_of_mem_head_trimStart text first
  · intro solid
    cases text with
    | nil => rfl
    | cons c rest => rw [trimStart_cons, solid c rfl, if_neg Bool.false_ne_true]

theorem trimEnd_eq_self_iff {text : List Char} :
    trimEnd text = text ↔ ∀ c ∈ text.getLast?, isBlank c = false := by
  rw [trimEnd, List.reverse_eq_iff, List.getLast?_eq_head?_reverse]
  exact trimStart_eq_self_iff

structure Bare (text : String) : Prop where
  first : ∀ c ∈ text.toList.head?, isBlank c = false
  last : ∀ c ∈ text.toList.getLast?, isBlank c = false

theorem trim_eq_self_iff {text : String} : trim text = text ↔ Bare text := by
  rw [← String.toList_inj, toList_trim]
  constructor
  · intro same
    have start : trimStart text.toList = text.toList := by
      rw [← same, trimStart_trimEnd, trimStart_idem]
    rw [start] at same
    exact ⟨trimStart_eq_self_iff.mp start, trimEnd_eq_self_iff.mp same⟩
  · rintro ⟨first, last⟩
    rw [trimStart_eq_self_iff.mpr first, trimEnd_eq_self_iff.mpr last]

theorem trim_of_no_blank {text : String} (none : ∀ c ∈ text.toList, isBlank c = false) :
    trim text = text :=
  trim_eq_self_iff.mpr
    ⟨fun c first => none c (List.mem_of_mem_head? first),
      fun c last => none c (List.mem_of_mem_getLast? last)⟩

theorem exists_trimStart (text : List Char) :
    ∃ front, AllBlank front ∧ text = front ++ trimStart text :=
  ⟨text.takeWhile isBlank, List.all_eq_true.mp List.all_takeWhile,
    List.takeWhile_append_dropWhile.symm⟩

def TrimsTo (text trimmed : String) : Prop :=
  Bare trimmed ∧ ∃ front back : String, AllBlank front.toList ∧ AllBlank back.toList ∧
    text = front ++ trimmed ++ back

theorem trimsTo_iff {text trimmed : String} : TrimsTo text trimmed ↔ trimmed = trim text := by
  constructor
  · rintro ⟨bare, front, back, blankFront, blankBack, rfl⟩
    rw [trim_surrounded trimmed blankFront blankBack, trim_eq_self_iff.mpr bare]
  · rintro rfl
    obtain ⟨front, blankFront, split⟩ := exists_trimStart text.toList
    obtain ⟨back, blankBack, splitBack⟩ := exists_trimStart (trimStart text.toList).reverse
    refine ⟨trim_eq_self_iff.mp (trim_idem text), .ofList front, .ofList back.reverse, ?_, ?_, ?_⟩
    · rwa [String.toList_ofList]
    · rw [String.toList_ofList]
      exact fun c member => blankBack c (List.mem_reverse.mp member)
    · apply String.toList_inj.mp
      have whole : trimStart text.toList = trimEnd (trimStart text.toList) ++ back.reverse := by
        rw [trimEnd, ← List.reverse_append]
        exact List.reverse_eq_iff.mp splitBack
      rw [String.toList_append, String.toList_append, String.toList_ofList, String.toList_ofList,
        toList_trim, List.append_assoc, ← whole, ← split]

theorem length_trimStart_le (text : List Char) : (trimStart text).length ≤ text.length :=
  (List.dropWhile_suffix isBlank).length_le

theorem length_trimEnd_le (text : List Char) : (trimEnd text).length ≤ text.length := by
  rw [trimEnd, List.length_reverse]
  exact Nat.le_trans (length_trimStart_le text.reverse) (Nat.le_of_eq List.length_reverse)

theorem length_trim_le (text : String) : (trim text).length ≤ text.length := by
  rw [← String.length_toList, ← String.length_toList, toList_trim]
  exact Nat.le_trans (length_trimEnd_le _) (length_trimStart_le _)

theorem tidyCommand_idem (command : String) :
    (tidyCommand command).bind tidyCommand = tidyCommand command := by
  by_cases blank : (trim command).toList = []
  · simp only [tidyCommand, blank, if_true, Option.bind_none]
  · simp only [tidyCommand, blank, if_false, Option.bind_some, trim_idem]

theorem bind_tidyCommand_idem (command : Option String) :
    (command.bind tidyCommand).bind tidyCommand = command.bind tidyCommand := by
  cases command with
  | none => rfl
  | some command =>
      rw [Option.bind_some]
      exact tidyCommand_idem command

end WakeSchedule
