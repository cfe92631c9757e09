import WakeSchedule.Proofs.Calendar.Instant
import WakeSchedule.Proofs.Text.Digits

namespace WakeSchedule

section Bytes

/-! Byte arithmetic has no result where the exact one does not fit a byte. -/

def byteSub? (first second : UInt8) : Option UInt8 :=
  if second.toNat ≤ first.toNat then some (first - second) else none

def byteMul? (first second : UInt8) : Option UInt8 :=
  if first.toNat * second.toNat < 256 then some (first * second) else none

def byteAdd? (first second : UInt8) : Option UInt8 :=
  if first.toNat + second.toNat < 256 then some (first + second) else none

def pairNumber? (tens ones : UInt8) : Option UInt8 := do
  let high ← byteMul? (← byteSub? tens 48) 10
  byteAdd? high (← byteSub? ones 48)

def pairNumbers? : List UInt8 → Option (List UInt8)
  | [] => some []
  | [_] => none
  | tens :: ones :: rest => do return (← pairNumber? tens ones) :: (← pairNumbers? rest)

def byteFields? (width : Nat) (text : String) : Option (Except Violation (List UInt8)) :=
  if text.utf8ByteSize = width ∧ text.toList.all Char.isDigit then
    (pairNumbers? text.toByteArray.data.toList).map .ok
  else some (.error (.time (.notDigits text width)))

/-- Reads a time from the bytes of a text, with no result where a byte overflows or is missing. -/
def TimeOfDay.parseBytes? (text : String) : Option (Except Violation TimeOfDay) := do
  match ← byteFields? 6 text with
  | .error violation => return .error violation
  | .ok fields =>
      return ofFields (← fields[0]?).toNat (← fields[1]?).toNat (← fields[2]?).toNat

def SleepTime.parseBytes? (text : String) : Option (Except Violation SleepTime) := do
  match ← byteFields? 4 text with
  | .error violation => return .error violation
  | .ok fields => return ofFields (← fields[0]?).toNat (← fields[1]?).toNat

theorem pairNumber?_codes : ∀ tens < 10, ∀ ones < 10,
    pairNumber? (48 + tens).toUInt8 (48 + ones).toUInt8 = some (tens * 10 + ones).toUInt8 := by
  decide

theorem pairNumber?_digits {tens ones : Char} (digit : tens.isDigit = true)
    (digit' : ones.isDigit = true) :
    pairNumber? tens.toNat.toUInt8 ones.toNat.toUInt8 = some (numeral [tens, ones]).toUInt8 := by
  have value : numeral [tens, ones] = digitValue tens * 10 + digitValue ones := by
    rw [numeral_cons, numeral_cons]
    simp [numeral]
  rw [value, code_of_isDigit digit, code_of_isDigit digit']
  exact pairNumber?_codes _ (digitValue_lt digit) _ (digitValue_lt digit')

theorem pairNumbers?_digits {digits : List Char} (run : ∀ c ∈ digits, c.isDigit = true)
    {pairs : Nat} (length : digits.length = 2 * pairs) :
    pairNumbers? (digits.map fun c => c.toNat.toUInt8) =
      some ((List.range pairs).map fun place =>
        (numeral (slice digits (2 * place) 2)).toUInt8) := by
  induction pairs generalizing digits with
  | zero =>
      rw [List.eq_nil_of_length_eq_zero length]
      rfl
  | succ pairs ih =>
      match digits, length with
      | tens :: ones :: rest, length =>
          simp only [List.forall_mem_cons] at run
          have shorter : rest.length = 2 * pairs := by
            simp only [List.length_cons] at length
            omega
          simp only [List.map_cons, pairNumbers?, pairNumber?_digits run.1 run.2.1,
            ih run.2.2 shorter, List.range_succ_eq_map, List.map_map]
          rfl

theorem byteFields?_digits {text : String} {pairs : Nat} (run : IsDigits (2 * pairs) text) :
    byteFields? (2 * pairs) text =
      some (.ok ((List.range pairs).map fun place => (fieldOf text (2 * place) 2).toUInt8)) := by
  rw [byteFields?, if_pos ⟨run.size, List.all_eq_true.mpr run.digits⟩, bytes_of_digits run.digits,
    pairNumbers?_digits run.digits run.length]
  rfl

theorem toNat_byte_fieldOf {text : String} {size start : Nat} (run : IsDigits size text)
    (within : start + 2 ≤ size) : (fieldOf text start 2).toUInt8.toNat = fieldOf text start 2 := by
  have fits := run.fieldOf_lt within
  exact Nat.mod_eq_of_lt (Nat.lt_trans fits (by decide))

theorem byteFields?_of_not {text : String} {width : Nat} (other : ¬IsDigits width text) :
    byteFields? width text = some (.error (.time (.notDigits text width))) := by
  apply if_neg
  rintro ⟨size, digits⟩
  exact other ⟨size, List.all_eq_true.mp digits⟩

end Bytes

/-- The text is six digits of an hour, a minute and a second. -/
structure NamesTime (text : String) : Prop where
  digits : IsDigits 6 text
  hour : fieldOf text 0 2 ≤ 23
  minute : fieldOf text 2 2 ≤ 59
  second : fieldOf text 4 2 ≤ 59

/-- The text is four digits of an hour and a minute on the quarter-hour grid. -/
structure NamesSleepTime (text : String) : Prop where
  digits : IsDigits 4 text
  hour : fieldOf text 0 2 ≤ 23
  minute : fieldOf text 2 2 ∈ [0, 15, 30, 45]

/-- A reader of times accepts the texts that name one and refuses any other as no time. It reads
back just what is written, and reading byte by byte it overflows nowhere. -/
structure ReadsExactly {α : Type} (read : String → Except Violation α)
    (readBytes? : String → Option (Except Violation α)) (names : String → Prop)
    (write : α → String) : Prop where
  accepts : ∀ text, (∃ time, read text = .ok time) ↔ names text
  refuses : ∀ text, ¬names text → ∃ fault, read text = .error (.time fault)
  bytes : ∀ text, readBytes? text = some (read text)
  written : ∀ text time, read text = .ok time ↔ write time = text

theorem readsExactly_of_fields {α : Type} {width : Nat} {read : String → Except Violation α}
    {readBytes? : String → Option (Except Violation α)} {names : String → Prop}
    {write : α → String} {fields : String → Except Violation α}
    (byFields : ∀ {text}, IsDigits width text →
      read text = fields text ∧ readBytes? text = some (fields text))
    (noFields : ∀ {text}, ¬IsDigits width text →
      read text = .error (.time (.notDigits text width)) ∧
        readBytes? text = some (.error (.time (.notDigits text width))))
    (named : ∀ text, names text ↔ IsDigits width text ∧ ∃ time, fields text = .ok time)
    (faults : ∀ {text violation}, fields text = .error violation →
      ∃ fault, violation = .time fault)
    (writes : ∀ {text time}, IsDigits width text → fields text = .ok time → write time = text)
    (readsBack : ∀ time, read (write time) = .ok time) :
    ReadsExactly read readBytes? names write := by
  refine { accepts := ?accepts, refuses := ?refuses, bytes := ?bytes, written := ?written }
  case accepts =>
    intro text
    rw [named]
    by_cases run : IsDigits width text
    · rw [(byFields run).1, and_iff_right run]
    · rw [(noFields run).1]
      simp [run]
  case refuses =>
    intro text unnamed
    by_cases run : IsDigits width text
    · rw [(byFields run).1]
      cases built : fields text with
      | ok time => exact absurd ((named text).mpr ⟨run, time, built⟩) unnamed
      | error violation =>
          obtain ⟨fault, rfl⟩ := faults built
          exact ⟨fault, rfl⟩
    · exact ⟨_, (noFields run).1⟩
  case bytes =>
    intro text
    by_cases run : IsDigits width text
    · rw [(byFields run).1, (byFields run).2]
    · rw [(noFields run).1, (noFields run).2]
  case written =>
    intro text time
    constructor
    · intro accepted
      by_cases run : IsDigits width text
      · rw [(byFields run).1] at accepted
        exact writes run accepted
      · rw [(noFields run).1] at accepted
        cases accepted
    · rintro rfl
      exact readsBack time

namespace TimeOfDay

theorem isDigits_digits (time : TimeOfDay) : IsDigits 6 time.digits := by
  have hour : IsDigits 2 (padNat 2 time.hour) := isDigits_padNat (by decide) (by omega)
  have minute : IsDigits 2 (padNat 2 time.minute) := isDigits_padNat (by decide) (by omega)
  have second : IsDigits 2 (padNat 2 time.second) := isDigits_padNat (by decide) (by omega)
  exact (hour.append minute).append second

theorem numeral_digits (time : TimeOfDay) : numeral time.digits.toList = time.code := by
  have minute : (padNat 2 time.minute).toList.length = 2 := length_padNat (by decide) (by omega)
  have second : (padNat 2 time.second).toList.length = 2 := length_padNat (by decide) (by omega)
  simp only [digits, String.toList_append, numeral_append, numeral_padNat, minute, second, code]
  omega

theorem parse_of_digits {text : String} (run : IsDigits 6 text) :
    parse text = ofFields (fieldOf text 0 2) (fieldOf text 2 2) (fieldOf text 4 2) := by
  obtain ⟨a, b, hour⟩ := run.pair (show 0 + 2 ≤ 6 by decide)
  obtain ⟨c, d, minute⟩ := run.pair (show 2 + 2 ≤ 6 by decide)
  obtain ⟨e, f, second⟩ := run.pair (show 4 + 2 ≤ 6 by decide)
  have shape : text.toList = [a, b, c, d, e, f] := by
    rw [← run.slice_whole, ← slice_append text.toList 0 4 2, ← slice_append text.toList 0 2 2,
      hour, minute, second]
    rfl
  rw [parse, shape, fieldOf, hour, fieldOf, minute, fieldOf, second]
  exact if_pos (shape ▸ List.all_eq_true.mpr run.digits)

theorem parse_of_not {text : String} (other : ¬IsDigits 6 text) :
    parse text = .error (.time (.notDigits text 6)) := by
  unfold parse
  split
  next shape =>
    apply if_neg
    intro digits
    rw [← shape] at digits
    exact other (isDigits_iff.mpr ⟨congrArg List.length shape, List.all_eq_true.mp digits⟩)
  next => rfl

theorem fieldOf_digits (time : TimeOfDay) : time.hour = fieldOf time.digits 0 2 ∧
    time.minute = fieldOf time.digits 2 2 ∧ time.second = fieldOf time.digits 4 2 := by
  have read := parse_digits time
  rwa [parse_of_digits time.isDigits_digits, ofFields_eq_ok_iff] at read

theorem ofFields_fault {hour minute second : Nat} {violation : Violation}
    (refused : ofFields hour minute second = .error violation) :
    ∃ fault, violation = .time fault := by
  unfold ofFields at refused
  split at refused
  · split at refused
    · split at refused <;> cases refused
      exact ⟨_, rfl⟩
    · cases refused
      exact ⟨_, rfl⟩
  · cases refused
    exact ⟨_, rfl⟩

theorem parseBytes?_of_digits {text : String} (run : IsDigits 6 text) :
    parseBytes? text =
      some (ofFields (fieldOf text 0 2) (fieldOf text 2 2) (fieldOf text 4 2)) := by
  rw [parseBytes?, @byteFields?_digits text 3 run]
  change some (ofFields (fieldOf text 0 2).toUInt8.toNat (fieldOf text 2 2).toUInt8.toNat
    (fieldOf text 4 2).toUInt8.toNat) = _
  rw [toNat_byte_fieldOf run (by decide), toNat_byte_fieldOf run (by decide),
    toNat_byte_fieldOf run (by decide)]

theorem parseBytes?_of_not {text : String} (other : ¬IsDigits 6 text) :
    parseBytes? text = some (.error (.time (.notDigits text 6))) := by
  rw [parseBytes?, byteFields?_of_not other]
  rfl

theorem namesTime_iff (text : String) : NamesTime text ↔ IsDigits 6 text ∧
    ∃ time, ofFields (fieldOf text 0 2) (fieldOf text 2 2) (fieldOf text 4 2) = .ok time := by
  constructor
  · rintro ⟨run, hour, minute, second⟩
    refine ⟨run, ⟨⟨fieldOf text 0 2, by omega⟩, ⟨fieldOf text 2 2, by omega⟩,
      ⟨fieldOf text 4 2, by omega⟩⟩, ofFields_eq_ok_iff.mpr ⟨rfl, rfl, rfl⟩⟩
  · rintro ⟨run, time, built⟩
    obtain ⟨hour, minute, second⟩ := ofFields_eq_ok_iff.mp built
    exact ⟨run, by omega, by omega, by omega⟩

theorem digits_of_fields {text : String} {time : TimeOfDay} (run : IsDigits 6 text)
    (built : ofFields (fieldOf text 0 2) (fieldOf text 2 2) (fieldOf text 4 2) = .ok time) :
    time.digits = text := by
  obtain ⟨hour, minute, second⟩ := ofFields_eq_ok_iff.mp built
  apply String.toList_inj.mp
  rw [digits, String.toList_append, String.toList_append, hour, minute, second,
    run.padNat_fieldOf (by decide) (by decide), run.padNat_fieldOf (by decide) (by decide),
    run.padNat_fieldOf (by decide) (by decide), slice_append text.toList 0 2 2,
    slice_append text.toList 0 4 2]
  exact run.slice_whole

theorem readsExactly : ReadsExactly parse parseBytes? NamesTime digits :=
  readsExactly_of_fields (fun run => ⟨parse_of_digits run, parseBytes?_of_digits run⟩)
    (fun other => ⟨parse_of_not other, parseBytes?_of_not other⟩) namesTime_iff ofFields_fault
    digits_of_fields parse_digits

end TimeOfDay

namespace SleepTime

theorem isDigits_digits (time : SleepTime) : IsDigits 4 time.digits := by
  have hour : IsDigits 2 (padNat 2 time.hour) := isDigits_padNat (by decide) (by omega)
  have minute : IsDigits 2 (padNat 2 time.minute) :=
    isDigits_padNat (by decide) (by rw [SleepTime.minute]; omega)
  exact hour.append minute

theorem numeral_digits (time : SleepTime) : numeral time.digits.toList = time.code := by
  have minute : (padNat 2 time.minute).toList.length = 2 :=
    length_padNat (by decide) (by rw [SleepTime.minute]; omega)
  simp only [digits, String.toList_append, numeral_append, numeral_padNat, minute, code]
  omega

theorem parse_of_digits {text : String} (run : IsDigits 4 text) :
    parse text = ofFields (fieldOf text 0 2) (fieldOf text 2 2) := by
  obtain ⟨a, b, hour⟩ := run.pair (show 0 + 2 ≤ 4 by decide)
  obtain ⟨c, d, minute⟩ := run.pair (show 2 + 2 ≤ 4 by decide)
  have shape : text.toList = [a, b, c, d] := by
    rw [← run.slice_whole, ← slice_append text.toList 0 2 2, hour, minute]
    rfl
  rw [parse, shape, fieldOf, hour, fieldOf, minute]
  exact if_pos (shape ▸ List.all_eq_true.mpr run.digits)

theorem parse_of_not {text : String} (other : ¬IsDigits 4 text) :
    parse text = .error (.time (.notDigits text 4)) := by
  unfold parse
  split
  next shape =>
    apply if_neg
    intro digits
    rw [← shape] at digits
    exact other (isDigits_iff.mpr ⟨congrArg List.length shape, List.all_eq_true.mp digits⟩)
  next => rfl

theorem ofFields_eq_ok_iff {hour minute : Nat} {time : SleepTime} :
    ofFields hour minute = .ok time ↔ time.hour = hour ∧ time.minute = minute := by
  rcases time with ⟨⟨hour', _⟩, ⟨quarter, _⟩⟩
  unfold ofFields
  constructor
  · intro built
    split at built <;> try cases built
    split at built <;> cases built
    exact ⟨rfl, by simp only [SleepTime.minute]; omega⟩
  · rintro ⟨rfl, minute⟩
    simp only [SleepTime.minute] at minute
    subst minute
    rw [dif_pos ‹_›, dif_pos ⟨by omega, by omega⟩]
    simp

theorem ofFields_fault {hour minute : Nat} {violation : Violation}
    (refused : ofFields hour minute = .error violation) : ∃ fault, violation = .time fault := by
  unfold ofFields at refused
  split at refused
  · split at refused <;> cases refused
    exact ⟨_, rfl⟩
  · cases refused
    exact ⟨_, rfl⟩

theorem parseBytes?_of_digits {text : String} (run : IsDigits 4 text) :
    parseBytes? text = some (ofFields (fieldOf text 0 2) (fieldOf text 2 2)) := by
  rw [parseBytes?, @byteFields?_digits text 2 run]
  change some (ofFields (fieldOf text 0 2).toUInt8.toNat (fieldOf text 2 2).toUInt8.toNat) = _
  rw [toNat_byte_fieldOf run (by decide), toNat_byte_fieldOf run (by decide)]

theorem parseBytes?_of_not {text : String} (other : ¬IsDigits 4 text) :
    parseBytes? text = some (.error (.time (.notDigits text 4))) := by
  rw [parseBytes?, byteFields?_of_not other]
  rfl

theorem namesSleepTime_iff (text : String) : NamesSleepTime text ↔ IsDigits 4 text ∧
    ∃ time, ofFields (fieldOf text 0 2) (fieldOf text 2 2) = .ok time := by
  constructor
  · rintro ⟨run, hour, minute⟩
    simp only [List.mem_cons, List.not_mem_nil, or_false] at minute
    refine ⟨run, ⟨⟨fieldOf text 0 2, by omega⟩, ⟨fieldOf text 2 2 / 15, by omega⟩⟩,
      ofFields_eq_ok_iff.mpr ⟨rfl, ?_⟩⟩
    simp only [SleepTime.minute]
    omega
  · rintro ⟨run, time, built⟩
    obtain ⟨hour, minute⟩ := ofFields_eq_ok_iff.mp built
    simp only [SleepTime.minute] at minute
    refine ⟨run, by omega, ?_⟩
    simp only [List.mem_cons, List.not_mem_nil, or_false]
    omega

theorem digits_of_fields {text : String} {time : SleepTime} (run : IsDigits 4 text)
    (built : ofFields (fieldOf text 0 2) (fieldOf text 2 2) = .ok time) : time.digits = text := by
  obtain ⟨hour, minute⟩ := ofFields_eq_ok_iff.mp built
  apply String.toList_inj.mp
  rw [digits, String.toList_append, hour, minute, run.padNat_fieldOf (by decide) (by decide),
    run.padNat_fieldOf (by decide) (by decide), slice_append text.toList 0 2 2]
  exact run.slice_whole

theorem readsExactly : ReadsExactly parse parseBytes? NamesSleepTime digits :=
  readsExactly_of_fields (fun run => ⟨parse_of_digits run, parseBytes?_of_digits run⟩)
    (fun other => ⟨parse_of_not other, parseBytes?_of_not other⟩) namesSleepTime_iff ofFields_fault
    digits_of_fields parse_digits

end SleepTime

section Order

/-- Values compare as their keys do, and two of them have one key only if they are the same. -/
def OrdersBy {α κ : Type} [Ord κ] (key : α → κ) (order : α → α → Ordering) : Prop :=
  ∀ a b, compare (key a) (key b) = order a b ∧ (key a = key b ↔ a = b)

theorem compareOfLessAndEq_congr {α β : Type} [LT α] [DecidableLT α] [DecidableEq α] [LT β]
    [DecidableLT β] [DecidableEq β] {a b : α} {c d : β} (less : a < b ↔ c < d)
    (same : a = b ↔ c = d) : compareOfLessAndEq a b = compareOfLessAndEq c d := by
  simp only [compareOfLessAndEq, less, same]

theorem compare_radix {radix low low' : Nat} (high high' : Nat) (below : low < radix)
    (below' : low' < radix) : (compare high high').then (compare low low') =
      compare (high * radix + low) (high' * radix + low') := by
  have order := radix_lt_iff high high' below below'
  have reverse := radix_lt_iff high' high below' below
  simp only [Nat.compare_eq_ite_lt, order, reverse]
  rcases Nat.lt_trichotomy high high' with less | rfl | more
  · simp [less]
  · simp
  · simp [more, Nat.not_lt_of_gt more, Nat.ne_of_gt more]

variable {α : Type} {key : α → Nat} {order : α → α → Ordering}

theorem OrdersBy.of_lt_iff (ordered : OrdersBy key order) {other : α → Nat}
    (less : ∀ a b, other a < other b ↔ key a < key b) : OrdersBy other order := by
  intro a b
  have forward := less a b
  have backward := less b a
  have same : other a = other b ↔ key a = key b := by omega
  rw [← (ordered a b).1, ← (ordered a b).2, same]
  exact ⟨compareOfLessAndEq_congr forward same, Iff.rfl⟩

theorem OrdersBy.of_digits (ordered : OrdersBy key order) {write : α → String} {width : Nat}
    (run : ∀ a, IsDigits width (write a)) (value : ∀ a, numeral (write a).toList = key a) :
    OrdersBy write order := by
  intro a b
  have same : write a = write b ↔ key a = key b := by
    rw [← (run a).numeral_inj (run b), value, value]
  have less : write a < write b ↔ key a < key b := by
    rw [String.lt_iff, ← numeral_lt_iff (run a).digits (run b).digits
      ((run a).length.trans (run b).length.symm), value, value]
  rw [← (ordered a b).1, ← (ordered a b).2, same]
  exact ⟨compareOfLessAndEq_congr less same, Iff.rfl⟩

namespace TimeOfDay

theorem ordersBy_code : OrdersBy code compare := by
  intro a b
  have withinHour : (Ord.compare a.minute b.minute).then (Ord.compare a.second b.second) =
      Ord.compare (a.minute * 100 + a.second : Nat) (b.minute * 100 + b.second) :=
    compare_radix _ _ (by omega) (by omega)
  have whole : compare a b = Ord.compare a.code b.code := by
    rw [compare, withinHour, code, code, Nat.add_assoc, Nat.add_assoc]
    exact compare_radix _ _ (by omega) (by omega)
  exact ⟨whole.symm, code_injective, congrArg code⟩

theorem ordersBy_seconds : OrdersBy seconds compare :=
  ordersBy_code.of_lt_iff fun a b => (code_lt_iff a b).symm

theorem ordersBy_digits : OrdersBy digits compare :=
  ordersBy_code.of_digits isDigits_digits numeral_digits

end TimeOfDay

namespace SleepTime

theorem ordersBy_code : OrdersBy code fun a b => compare a.code b.code := by
  intro a b
  refine ⟨rfl, fun same => ?_, congrArg code⟩
  rcases a with ⟨⟨hour, _⟩, ⟨quarter, _⟩⟩
  rcases b with ⟨⟨hour', _⟩, ⟨quarter', _⟩⟩
  simp only [code, minute] at same
  simp only [mk.injEq, Fin.mk.injEq]
  omega

theorem ordersBy_minutes : OrdersBy minutes fun a b => compare a.code b.code := by
  apply ordersBy_code.of_lt_iff
  intro a b
  simp only [minutes, code, minute]
  omega

theorem ordersBy_digits : OrdersBy digits fun a b => compare a.code b.code :=
  ordersBy_code.of_digits isDigits_digits numeral_digits

end SleepTime

end Order

/-- What the number and the digits of a time tell of it: its fields, which make up the same time
again, also as the time of a clock, and are those of a moment on any date. -/
structure TimeOfDay.Recovered (time : TimeOfDay) : Prop where
  number : numeral time.digits.toList = time.code
  hour : time.code / 10000 = time.hour
  minute : time.code / 100 % 100 = time.minute
  second : time.code % 100 = time.second
  rebuilt : ofFields time.hour time.minute time.second = .ok time
  shown : time.clockTime = .ok time
  onDate : ∀ date : Date, Moment.ofFields date.year date.month date.day time.hour time.minute
    time.second = .ok ⟨date, time⟩

theorem TimeOfDay.recovered (time : TimeOfDay) : TimeOfDay.Recovered time where
  number := time.numeral_digits
  hour := time.hour_of_code
  minute := time.minute_of_code
  second := time.second_of_code
  rebuilt := ofFields_eq_ok_iff.mpr ⟨rfl, rfl, rfl⟩
  shown := time.clockTime_eq
  onDate _ := Moment.ofFields_eq_ok_iff.mpr ⟨⟨rfl, rfl, rfl⟩, rfl, rfl, rfl⟩

structure SleepTime.Recovered (time : SleepTime) : Prop where
  number : numeral time.digits.toList = time.code
  hour : time.code / 100 = time.hour
  minute : time.code % 100 = time.minute
  rebuilt : ofFields time.hour time.minute = .ok time

theorem SleepTime.recovered (time : SleepTime) : SleepTime.Recovered time where
  number := time.numeral_digits
  hour := by simp only [code, SleepTime.minute]; omega
  minute := by simp only [code, SleepTime.minute]; omega
  rebuilt := ofFields_eq_ok_iff.mpr ⟨rfl, rfl⟩

/-- Readers accept the digits of times and nothing else. The digits, the number and the time elapsed
since midnight say the same of a time, and put the times in the one order. -/
theorem digits_encode_times :
    (ReadsExactly TimeOfDay.parse TimeOfDay.parseBytes? NamesTime TimeOfDay.digits ∧
      ReadsExactly SleepTime.parse SleepTime.parseBytes? NamesSleepTime SleepTime.digits) ∧
    ((∀ time, TimeOfDay.Recovered time) ∧ ∀ time, SleepTime.Recovered time) ∧
    (OrdersBy TimeOfDay.digits TimeOfDay.compare ∧ OrdersBy TimeOfDay.code TimeOfDay.compare ∧
      OrdersBy TimeOfDay.seconds TimeOfDay.compare) ∧
    OrdersBy SleepTime.digits (fun a b => compare a.code b.code) ∧
      OrdersBy SleepTime.code (fun a b => compare a.code b.code) ∧
      OrdersBy SleepTime.minutes fun a b => compare a.code b.code :=
  ⟨⟨TimeOfDay.readsExactly, SleepTime.readsExactly⟩, ⟨TimeOfDay.recovered, SleepTime.recovered⟩,
    ⟨TimeOfDay.ordersBy_digits, TimeOfDay.ordersBy_code, TimeOfDay.ordersBy_seconds⟩,
    SleepTime.ordersBy_digits, SleepTime.ordersBy_code, SleepTime.ordersBy_minutes⟩

/-- Three digits of two bytes each are as wide as a time, but are none of the digits that count. -/
example : TimeOfDay.parse "٠٧٣" = .error (.time (.notDigits "٠٧٣" 6)) := by decide

end WakeSchedule
