import WakeSchedule.Proofs.Text.Decimal

namespace WakeSchedule

theorem digitValue_lt {c : Char} (digit : c.isDigit = true) : digitValue c < 10 := by
  obtain ⟨zero, nine⟩ := Char.isDigit_iff_toNat.mp digit
  have nineCode : '9'.toNat = '0'.toNat + 9 := rfl
  rw [digitValue]
  omega

theorem code_of_isDigit {c : Char} (digit : c.isDigit = true) : c.toNat = 48 + digitValue c := by
  obtain ⟨zero, _⟩ := Char.isDigit_iff_toNat.mp digit
  exact (Nat.add_sub_cancel' zero).symm

theorem numeral_cons (c : Char) (rest : List Char) :
    numeral (c :: rest) = digitValue c * 10 ^ rest.length + numeral rest := by
  rw [numeral, Nat.ofDigitChars_cons, Nat.ofDigitChars_eq_ofDigitChars_zero, Nat.mul_zero,
    Nat.zero_add, Nat.mul_comm]
  rfl

theorem numeral_append (front back : List Char) :
    numeral (front ++ back) = numeral front * 10 ^ back.length + numeral back := by
  rw [numeral, Nat.ofDigitChars_append, Nat.ofDigitChars_eq_ofDigitChars_zero, Nat.mul_comm]
  rfl

theorem numeral_lt {digits : List Char} (run : ∀ c ∈ digits, c.isDigit = true) :
    numeral digits < 10 ^ digits.length := by
  induction digits with
  | nil => exact Nat.one_pos
  | cons c rest ih =>
      have leading := digitValue_lt (run c List.mem_cons_self)
      have below := ih fun other member => run other (List.mem_cons_of_mem c member)
      rw [numeral_cons, List.length_cons, Nat.pow_succ']
      calc
        digitValue c * 10 ^ rest.length + numeral rest <
            (digitValue c + 1) * 10 ^ rest.length := by
          rw [Nat.succ_mul]
          exact Nat.add_lt_add_left below _
        _ ≤ 10 * 10 ^ rest.length := Nat.mul_le_mul_right _ leading

theorem radix_lt_iff {radix low low' : Nat} (high high' : Nat) (below : low < radix)
    (below' : low' < radix) :
    high * radix + low < high' * radix + low' ↔ high < high' ∨ high = high' ∧ low < low' := by
  rcases Nat.lt_trichotomy high high' with less | rfl | more
  · have step := Nat.mul_le_mul_right radix less
    rw [Nat.succ_mul] at step
    omega
  · omega
  · have step := Nat.mul_le_mul_right radix more
    rw [Nat.succ_mul] at step
    omega

theorem digitValue_lt_iff {c d : Char} (digit : c.isDigit = true) (digit' : d.isDigit = true) :
    digitValue c < digitValue d ↔ c < d := by
  have order : c < d ↔ c.toNat < d.toNat := UInt32.lt_iff_toNat_lt
  rw [order, code_of_isDigit digit, code_of_isDigit digit']
  omega

theorem digitValue_inj {c d : Char} (digit : c.isDigit = true) (digit' : d.isDigit = true) :
    digitValue c = digitValue d ↔ c = d := by
  rw [← Char.toNat_inj, code_of_isDigit digit, code_of_isDigit digit']
  omega

theorem numeral_lt_iff {first second : List Char} (run : ∀ c ∈ first, c.isDigit = true)
    (run' : ∀ c ∈ second, c.isDigit = true) (level : first.length = second.length) :
    numeral first < numeral second ↔ first < second := by
  induction first generalizing second with
  | nil =>
      rw [List.eq_nil_of_length_eq_zero level.symm]
      simp
  | cons c first ih =>
      cases second with
      | nil => cases level
      | cons d second =>
          simp only [List.length_cons, Nat.add_right_cancel_iff] at level
          simp only [List.forall_mem_cons] at run run'
          have below := numeral_lt run.2
          have below' := numeral_lt run'.2
          rw [← level] at below'
          rw [numeral_cons, numeral_cons, ← level, radix_lt_iff _ _ below below',
            digitValue_lt_iff run.1 run'.1, digitValue_inj run.1 run'.1, ih run.2 run'.2 level,
            List.cons_lt_cons_iff]

theorem numeral_inj {first second : List Char} (run : ∀ c ∈ first, c.isDigit = true)
    (run' : ∀ c ∈ second, c.isDigit = true) (level : first.length = second.length) :
    numeral first = numeral second ↔ first = second := by
  constructor
  · intro same
    apply List.le_antisymm <;> intro order
    · exact Nat.lt_irrefl _ (same ▸ (numeral_lt_iff run' run level.symm).mpr order)
    · exact Nat.lt_irrefl _ (same ▸ (numeral_lt_iff run run' level).mpr order)
  · rintro rfl
    rfl

theorem padNat_numeral {digits : List Char} (run : ∀ c ∈ digits, c.isDigit = true)
    (some : 0 < digits.length) : (padNat digits.length (numeral digits)).toList = digits := by
  apply (numeral_inj _ run _).mp (numeral_padNat _ _)
  · intro c
    exact isDigit_of_mem_padNat
  · exact length_padNat some (numeral_lt run)

theorem readUpTo_digits {limit : Nat} {overflow : NumberFault} {digits : List Char}
    (run : ∀ c ∈ digits, c.isDigit = true) (total : Nat)
    (fits : Nat.ofDigitChars 10 digits total ≤ limit) :
    readUpTo limit overflow digits total = .ok (Nat.ofDigitChars 10 digits total) := by
  induction digits generalizing total with
  | nil => rfl
  | cons c rest ih =>
      rw [List.forall_mem_cons] at run
      rw [Nat.ofDigitChars_cons] at fits ⊢
      -- No prefix of a number within the limit passes the limit.
      have within : 10 * total + digitValue c ≤ limit := by
        rw [Nat.ofDigitChars_eq_ofDigitChars_zero] at fits
        have scale := Nat.le_mul_of_pos_left (10 * total + digitValue c)
          (Nat.pow_pos (show 0 < 10 by decide) : 0 < 10 ^ rest.length)
        simp only [digitValue] at scale ⊢
        omega
      rw [readUpTo, run.1, if_neg (by simp), if_neg (Nat.not_lt.mpr within)]
      exact ih run.2 _ fits

/-- A text of so many bytes, all of which are decimal digits. -/
structure IsDigits (width : Nat) (text : String) : Prop where
  size : text.utf8ByteSize = width
  digits : ∀ c ∈ text.toList, c.isDigit = true

theorem bytes_of_digits {text : String} (run : ∀ c ∈ text.toList, c.isDigit = true) :
    text.toByteArray.data.toList = text.toList.map fun c => c.toNat.toUInt8 := by
  have single : ∀ c ∈ text.toList, String.utf8EncodeChar c = [c.toNat.toUInt8] := by
    intro c member
    obtain ⟨_, nine⟩ := Char.isDigit_iff_toNat.mp (run c member)
    apply String.utf8EncodeChar_eq_singleton
    apply Char.utf8Size_eq_one_iff.mpr
    exact UInt32.le_iff_toNat_le.mpr (Nat.le_trans nine (by decide))
  rw [← String.utf8Encode_toList, List.utf8Encode, List.toList_data_toByteArray,
    List.map_eq_flatMap]
  exact List.flatMap_congr single

theorem utf8ByteSize_of_digits {text : String} (run : ∀ c ∈ text.toList, c.isDigit = true) :
    text.utf8ByteSize = text.toList.length := by
  rw [← String.size_toByteArray, ← ByteArray.size_data, ← Array.length_toList,
    bytes_of_digits run, List.length_map]

theorem isDigits_iff {width : Nat} {text : String} :
    IsDigits width text ↔ text.toList.length = width ∧ ∀ c ∈ text.toList, c.isDigit = true := by
  constructor
  · rintro ⟨size, run⟩
    exact ⟨utf8ByteSize_of_digits run ▸ size, run⟩
  · rintro ⟨length, run⟩
    exact ⟨(utf8ByteSize_of_digits run).trans length, run⟩

theorem isDigits_padNat {width number : Nat} (positive : 0 < width) (fits : number < 10 ^ width) :
    IsDigits width (padNat width number) :=
  isDigits_iff.mpr ⟨length_padNat positive fits, fun _ => isDigit_of_mem_padNat⟩

section Fields

variable {text front back : String} {size start width : Nat}

theorem IsDigits.length (run : IsDigits size text) : text.toList.length = size :=
  (isDigits_iff.mp run).1

theorem IsDigits.append {size' : Nat} (first : IsDigits size front) (second : IsDigits size' back) :
    IsDigits (size + size') (front ++ back) := by
  apply isDigits_iff.mpr
  rw [String.toList_append, List.length_append, first.length, second.length]
  refine ⟨rfl, fun c member => ?_⟩
  rcases List.mem_append.mp member with inFront | inBack
  · exact first.digits c inFront
  · exact second.digits c inBack

theorem IsDigits.numeral_inj (first : IsDigits size front) (second : IsDigits size back) :
    numeral front.toList = numeral back.toList ↔ front = back := by
  rw [WakeSchedule.numeral_inj first.digits second.digits
    (first.length.trans second.length.symm), String.toList_inj]

def slice (text : List Char) (start width : Nat) : List Char := (text.drop start).take width

def fieldOf (text : String) (start width : Nat) : Nat := numeral (slice text.toList start width)

theorem slice_append (text : List Char) (start width width' : Nat) :
    slice text start width ++ slice text (start + width) width' =
      slice text start (width + width') := by
  rw [slice, slice, slice, List.take_add, List.drop_drop]

theorem IsDigits.slice_whole (run : IsDigits size text) :
    slice text.toList 0 size = text.toList := by
  rw [slice, List.drop_zero, ← run.length, List.take_length]

theorem IsDigits.slice (run : IsDigits size text) (within : start + width ≤ size) :
    (slice text.toList start width).length = width ∧
      ∀ c ∈ slice text.toList start width, c.isDigit = true := by
  constructor
  · rw [WakeSchedule.slice, List.length_take, List.length_drop, run.length]
    omega
  · intro c member
    exact run.digits c (List.mem_of_mem_drop (List.mem_of_mem_take member))

theorem IsDigits.pair (run : IsDigits size text) (within : start + 2 ≤ size) :
    ∃ tens ones, WakeSchedule.slice text.toList start 2 = [tens, ones] :=
  List.length_eq_two.mp (run.slice within).1

theorem IsDigits.fieldOf_lt (run : IsDigits size text) (within : start + width ≤ size) :
    fieldOf text start width < 10 ^ width := by
  obtain ⟨length, digits⟩ := run.slice within
  have below := numeral_lt digits
  rwa [length] at below

theorem IsDigits.padNat_fieldOf (run : IsDigits size text) (within : start + width ≤ size)
    (positive : 0 < width) :
    (padNat width (fieldOf text start width)).toList =
      WakeSchedule.slice text.toList start width := by
  obtain ⟨length, digits⟩ := run.slice within
  have written := padNat_numeral digits (length.symm ▸ positive)
  rwa [length] at written

theorem IsDigits.fieldOf_whole (run : IsDigits size text) :
    fieldOf text 0 size = numeral text.toList := by
  rw [fieldOf, run.slice_whole]

theorem IsDigits.fieldOf_append (first : IsDigits size front) (within : start + width ≤ size) :
    fieldOf (front ++ back) start width = fieldOf front start width := by
  have inFront : start + width ≤ front.toList.length := first.length ▸ within
  rw [fieldOf, fieldOf, WakeSchedule.slice, WakeSchedule.slice, String.toList_append,
    List.drop_append_of_le_length (by omega), List.take_append_of_le_length]
  rw [List.length_drop]
  omega

theorem IsDigits.fieldOf_append_right (first : IsDigits size front) (past : size ≤ start) :
    fieldOf (front ++ back) start width = fieldOf back (start - size) width := by
  have pastFront : front.toList.length ≤ start := first.length ▸ past
  rw [fieldOf, fieldOf, WakeSchedule.slice, WakeSchedule.slice, String.toList_append,
    List.drop_append, List.drop_of_length_le pastFront, List.nil_append, first.length]

end Fields

section Signed

def IsInt64 (number : Int) : Prop := -0x8000000000000000 ≤ number ∧ number ≤ 0x7fffffffffffffff

theorem padNat_zero (number : Nat) : padNat 0 number = number.repr := by
  apply String.toList_inj.mp
  rw [toList_padNat, Nat.zero_sub, List.replicate_zero, List.nil_append, Nat.toList_repr]

theorem intText_natCast (number : Nat) : intText number = number.repr := by
  rw [intText, padInt, if_neg (Int.not_lt.mpr (Int.natCast_nonneg number)), Int.natAbs_natCast,
    padNat_zero]

theorem toList_padNat_ne_nil (number : Nat) : (padNat 0 number).toList ≠ [] := by
  rw [padNat_zero, Nat.toList_repr]
  exact Nat.toDigits_ne_nil

variable {text : String} {digits : List Char}

theorem readInt64_of_digits (run : ∀ c ∈ text.toList, c.isDigit = true) (some : text.toList ≠ [])
    (fits : numeral text.toList ≤ 0x7fffffffffffffff) :
    readInt64 text = .ok (numeral text.toList) := by
  unfold readInt64
  split
  next empty => exact absurd empty some
  next plus => exact absurd (run '+' (by simp [plus])) (by decide)
  next minus => exact absurd (run '-' (by simp [minus])) (by decide)
  next minus => exact absurd (run '-' (by simp [minus])) (by decide)
  next plus => exact absurd (run '+' (by simp [plus])) (by decide)
  next =>
    rw [readUpTo_digits run 0 fits]
    rfl

theorem readInt64_of_minus (shape : text.toList = '-' :: digits)
    (run : ∀ c ∈ digits, c.isDigit = true) (some : digits ≠ [])
    (fits : numeral digits ≤ 0x8000000000000000) : readInt64 text = .ok (-numeral digits) := by
  unfold readInt64
  rw [shape]
  split
  next empty => cases empty
  next plus => cases plus
  next minus => exact absurd (List.cons.inj minus).2 some
  next own =>
    cases own
    rw [readUpTo_digits run 0 fits]
    rfl
  next plus => cases plus
  next minus _ => exact (minus digits rfl).elim

theorem readInt64_intText {number : Int} (fits : IsInt64 number) :
    readInt64 (intText number) = .ok number := by
  rcases fits with ⟨low, high⟩
  have run : ∀ c ∈ (padNat 0 number.natAbs).toList, c.isDigit = true :=
    fun c member => isDigit_of_mem_padNat member
  have some := toList_padNat_ne_nil number.natAbs
  have value := numeral_padNat 0 number.natAbs
  by_cases negative : number < 0
  · have shape : (intText number).toList = '-' :: (padNat 0 number.natAbs).toList := by
      rw [intText, padInt, if_pos negative, String.toList_append]
      rfl
    have within : number.natAbs ≤ 0x8000000000000000 := by omega
    rw [readInt64_of_minus shape run some (value.symm ▸ within), value,
      Int.ofNat_natAbs_of_nonpos (Int.le_of_lt negative), Int.neg_neg]
  · have shape : intText number = padNat 0 number.natAbs := by
      rw [intText, padInt, if_neg negative]
    have within : number.natAbs ≤ 0x7fffffffffffffff := by omega
    rw [shape, readInt64_of_digits run some (value.symm ▸ within), value,
      Int.natAbs_of_nonneg (Int.not_lt.mp negative)]

end Signed

end WakeSchedule
