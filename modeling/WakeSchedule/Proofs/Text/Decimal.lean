import Mathlib.Algebra.Group.Nat.Defs
import Mathlib.Data.List.Basic
import WakeSchedule.Calendar.TimeOfDay

namespace WakeSchedule

theorem toList_padNat (width number : Nat) : (padNat width number).toList =
    List.replicate (width - (Nat.toDigits 10 number).length) '0' ++ Nat.toDigits 10 number := by
  rw [padNat, zeroPad, String.toList_append, String.toList_ofList, ← String.length_toList,
    Nat.toList_repr]

theorem isDigit_of_mem_padNat {width number : Nat} {c : Char}
    (member : c ∈ (padNat width number).toList) : c.isDigit = true := by
  rw [toList_padNat] at member
  rcases List.mem_append.mp member with zero | digit
  · rw [List.eq_of_mem_replicate zero]
    decide
  · exact Nat.isDigit_of_mem_toDigits (by decide) (by decide) digit

theorem length_padNat {width number : Nat} (positive : 0 < width) (fits : number < 10 ^ width) :
    (padNat width number).toList.length = width := by
  have short := (Nat.length_toDigits_le_iff (by decide) positive).mpr fits
  rw [toList_padNat, List.length_append, List.length_replicate]
  omega

theorem numeral_padNat (width number : Nat) : numeral (padNat width number).toList = number := by
  rw [toList_padNat, numeral, Nat.ofDigitChars_append, Nat.ofDigitChars_replicate_zero,
    Nat.mul_zero, Nat.ofDigitChars_ten_toDigits]

theorem padNat_two {number : Nat} (small : number < 100) : ∃ tens ones,
    (padNat 2 number).toList = [tens, ones] ∧ tens.isDigit = true ∧ ones.isDigit = true ∧
      twoDigits tens ones = number := by
  rcases List.length_eq_two.mp (length_padNat (by decide) small) with ⟨tens, ones, shape⟩
  have digits : ∀ c ∈ [tens, ones], c.isDigit = true := by
    intro c member
    rw [← shape] at member
    exact isDigit_of_mem_padNat member
  refine ⟨tens, ones, shape, digits tens (by simp), digits ones (by simp), ?_⟩
  rw [twoDigits, ← shape, numeral_padNat]

theorem TimeOfDay.parse_digits (time : TimeOfDay) : parse time.digits = .ok time := by
  rcases time with ⟨⟨hour, hourBound⟩, ⟨minute, minuteBound⟩, ⟨second, secondBound⟩⟩
  obtain ⟨a, b, hourShape, aDigit, bDigit, hourValue⟩ :=
    padNat_two (show hour < 100 by omega)
  obtain ⟨c, d, minuteShape, cDigit, dDigit, minuteValue⟩ :=
    padNat_two (show minute < 100 by omega)
  obtain ⟨e, f, secondShape, eDigit, fDigit, secondValue⟩ :=
    padNat_two (show second < 100 by omega)
  have shape : (digits ⟨⟨hour, hourBound⟩, ⟨minute, minuteBound⟩, ⟨second, secondBound⟩⟩).toList =
      [a, b, c, d, e, f] := by
    simp only [digits, String.toList_append, hourShape, minuteShape, secondShape]
    rfl
  unfold parse
  rw [shape]
  simp only [List.all_cons, List.all_nil, aDigit, bDigit, cDigit, dDigit, eDigit, fDigit,
    Bool.and_true, if_true, hourValue, minuteValue, secondValue, ofFields, hourBound, minuteBound,
    secondBound, dif_pos]

theorem SleepTime.parse_digits (time : SleepTime) : parse time.digits = .ok time := by
  rcases time with ⟨⟨hour, hourBound⟩, ⟨quarter, quarterBound⟩⟩
  obtain ⟨a, b, hourShape, aDigit, bDigit, hourValue⟩ :=
    padNat_two (show hour < 100 by omega)
  obtain ⟨c, d, minuteShape, cDigit, dDigit, minuteValue⟩ :=
    padNat_two (show 15 * quarter < 100 by omega)
  have shape : (digits ⟨⟨hour, hourBound⟩, ⟨quarter, quarterBound⟩⟩).toList = [a, b, c, d] := by
    simp only [digits, minute, String.toList_append, hourShape, minuteShape]
    rfl
  have onGrid : 15 * quarter < 60 ∧ 15 * quarter % 15 = 0 := by omega
  have back : 15 * quarter / 15 = quarter := by omega
  unfold parse
  rw [shape]
  simp only [List.all_cons, List.all_nil, aDigit, bDigit, cDigit, dDigit, Bool.and_true, if_true,
    hourValue, minuteValue, ofFields, hourBound, onGrid, dif_pos, back, and_self]

end WakeSchedule
