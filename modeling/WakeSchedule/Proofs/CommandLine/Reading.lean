import WakeSchedule.Proofs.CommandLine.Words
/-! What one word does to the options of a command. It keeps those that were mentioned, or the words
are wrong. The option for pass-through words takes the next word for its value even if that looks
like an option, so it is traced which words it takes. -/

namespace WakeSchedule

/-- The words are wrong, as those that ask for help or for the version are not. -/
def UsageError.IsMisuse : UsageError → Prop
  | .helpWanted | .versionWanted => False
  | _ => True

section Ends

variable {α β : Type} {result wider : α → Prop} {result' : β → Prop} {fault : UsageError → Prop}

inductive Ends (result : α → Prop) (fault : UsageError → Prop) : Except UsageError α → Prop
  | ok {value : α} (holds : result value) : Ends result fault (.ok value)
  | error {failure : UsageError} (holds : fault failure) : Ends result fault (.error failure)

theorem Ends.bind {answer : Except UsageError α} {step : α → Except UsageError β}
    (first : Ends result fault answer)
    (rest : ∀ value, result value → Ends result' fault (step value)) :
    Ends result' fault (answer >>= step) := by
  cases first with
  | ok holds => exact rest _ holds
  | error holds => exact .error holds

theorem Ends.failure {answer : Except UsageError α} (ends : Ends (fun _ => False) fault answer) :
    ∃ failure, answer = .error failure ∧ fault failure := by
  cases ends with
  | ok impossible => exact impossible.elim
  | error holds => exact ⟨_, rfl, holds⟩

theorem Ends.imp {answer : Except UsageError α} (ends : Ends result fault answer)
    (results : ∀ value, result value → wider value) : Ends wider fault answer := by
  cases ends with
  | ok holds => exact .ok (results _ holds)
  | error holds => exact .error holds

theorem Ends.of_never {answer : Except UsageError α} (ends : Ends (fun _ => False) fault answer) :
    Ends wider fault answer :=
  ends.imp fun _ impossible => impossible.elim

theorem Ends.never_bind {answer : Except UsageError α} {step : α → Except UsageError β}
    (first : Ends (fun _ => False) fault answer) : Ends result' fault (answer >>= step) :=
  first.bind fun _ impossible => impossible.elim

theorem Ends.imp_fault {answer : Except UsageError α} {fault' : UsageError → Prop}
    (ends : Ends result fault answer) (faults : ∀ failure, fault failure → fault' failure) :
    Ends result fault' answer := by
  cases ends with
  | ok holds => exact .ok holds
  | error holds => exact .error (faults _ holds)

theorem Ends.whenever {answer : Except UsageError α} {condition : Prop}
    (ends : Ends result fault answer) :
    Ends result (fun failure => condition → fault failure) answer :=
  ends.imp_fault fun _ holds _ => holds

end Ends

namespace Shape

theorem refuse_ends {α : Type} (answer : Except Violation α) :
    Ends (fun _ => True) UsageError.IsMisuse (refuse answer) := by
  cases answer with
  | error violation => exact .error trivial
  | ok value => exact .ok trivial

theorem readNumber_ends (text : String) :
    Ends (fun _ => True) UsageError.IsMisuse (readNumber text) := by
  rw [readNumber]
  cases readInt64 text with
  | error fault => exact .error trivial
  | ok value => exact .ok trivial

theorem readSeconds_ends (text : String) :
    Ends (fun _ => True) UsageError.IsMisuse (readSeconds text) := by
  apply (readNumber_ends text).bind
  intro value _
  split
  · exact .ok trivial
  · exact .error trivial

theorem readBoolean_ends (text : String) :
    Ends (fun _ => True) UsageError.IsMisuse (readBoolean text) := by
  rw [readBoolean]
  split
  · exact .ok trivial
  · split
    · exact .ok trivial
    · exact .error trivial

theorem read_ends (shape : Shape) (text : String) :
    Ends (fun _ => True) UsageError.IsMisuse (shape.read text) := by
  cases shape with
  | switch => exact .error trivial
  | text => exact .ok trivial
  | path =>
      rw [read]
      split
      · exact .error trivial
      · exact .ok trivial
  | kind | mode | mask => exact refuse_ends _
  | number => exact readNumber_ends text
  | seconds => exact readSeconds_ends text
  | boolean => exact readBoolean_ends text

end Shape

namespace Token

def AsksHelp : Token → Prop
  | .long label value => label = "help" ∧ value = none
  | .short letters => 'h' ∈ letters
  | .dashes | .plain => False

instance : DecidablePred AsksHelp
  | .long label value => inferInstanceAs (Decidable (label = "help" ∧ value = none))
  | .short letters => inferInstanceAs (Decidable ('h' ∈ letters))
  | .dashes | .plain => inferInstanceAs (Decidable False)

theorem word_of_ofWord {word label : String} (read : ofWord word = .long label none) :
    word = "--" ++ label := by
  unfold ofWord at read
  split at read
  · cases read
  next rest _ letters =>
    simp only [Token.long.injEq, Option.map_eq_none_iff] at read
    rw [← read.1, cutAt_fst_of_snd read.2, ← String.toList_inj, letters]
    simp
  · cases read
  · cases read
  · cases read

theorem ofWord_eq_options_iff {word : String} :
    ofWord word = .long "options" none ↔ word = "--options" := by
  constructor
  · exact word_of_ofWord
  · rintro rfl
    exact ofWord_worded .options none

end Token

def Request.Counts (request : Request) : Prop := request = .louder ∨ request = .quieter

namespace Level

variable {verb : Verb}

theorem stray_isMisuse (level : Level) : level.stray.IsMisuse := by
  unfold stray
  split <;> exact trivial

theorem strayAfterDashes_isMisuse (level : Level) (word : String) :
    (level.strayAfterDashes word).IsMisuse := by
  unfold strayAfterDashes
  split
  · exact trivial
  · exact level.stray_isMisuse

theorem long?_verb {label : String} {request : Request}
    (found : (Level.verb verb).long? label = some request) :
    (label = "help" ∧ request = .help) ∨ (label ≠ "options" ∧ request.Counts) ∨
      ∃ field : Field, field.label = label ∧ request = .field field := by
  simp only [long?, reduceCtorEq, if_false] at found
  split at found
  next help => exact .inl ⟨help, (Option.some.inj found).symm⟩
  split at found
  · cases found
  split at found
  next verbose =>
    subst verbose
    exact .inr (.inl ⟨by decide, .inl (Option.some.inj found).symm⟩)
  split at found
  next quiet =>
    subst quiet
    exact .inr (.inl ⟨by decide, .inr (Option.some.inj found).symm⟩)
  rcases Option.map_eq_some_iff.mp found with ⟨field, first, rfl⟩
  exact .inr (.inr ⟨field, by simpa using List.find?_some first, rfl⟩)

theorem short?_verb {letter : Char} {request : Request}
    (found : (Level.verb verb).short? letter = some request) :
    (letter = 'h' ∧ request = .help) ∨ request.Counts := by
  simp only [short?, reduceCtorEq, if_false, ite_self] at found
  split at found
  next help => exact .inl ⟨help, (Option.some.inj found).symm⟩
  split at found
  · cases found
  split at found
  · exact .inr (.inl (Option.some.inj found).symm)
  split at found
  · exact .inr (.inr (Option.some.inj found).symm)
  · cases found

end Level

namespace Progress

/-- The option was given, or begun with its value still to be looked at. -/
def Mentions (progress : Progress) (field : Field) : Prop :=
  Given.has progress.given field = true ∨ ∃ text, progress.pending = some (field, text)

def Keeps (before after : Progress) : Prop := ∀ field, before.Mentions field → after.Mentions field

theorem Keeps.trans {first second third : Progress} (keeps : Keeps first second)
    (further : Keeps second third) : Keeps first third :=
  fun field mentioned => further field (keeps field mentioned)

variable {progress : Progress} {field : Field} {verb : Verb}

section Settling

theorem record_ends {value : Except UsageError field.shape.Value}
    (read : Ends (fun _ => True) UsageError.IsMisuse value) :
    Ends (fun next => Given.has next.given field = true ∧ next.pending = progress.pending ∧
      ∀ other, Given.has progress.given other = true → Given.has next.given other = true)
      UsageError.IsMisuse (progress.record field value) := by
  rw [record]
  split
  · exact .error trivial
  · apply read.bind
    intro value _
    refine .ok ⟨?_, rfl, ?_⟩
    · simp [Given.has]
    · intro other present
      simp only [Given.has_append, present, Bool.true_or]

theorem settle_ends (progress : Progress) :
    Ends (fun next => next.pending = none ∧
      ∀ other, progress.Mentions other → Given.has next.given other = true)
      UsageError.IsMisuse progress.settle := by
  rw [settle]
  split
  next settled =>
    refine .ok ⟨settled, ?_⟩
    rintro other (present | ⟨text, begun⟩)
    · exact present
    · cases settled.symm.trans begun
  · exact .error trivial
  next waiting text found =>
    apply (record_ends (waiting.shape.read_ends text)).imp
    rintro next ⟨there, settled, keeps⟩
    refine ⟨settled, ?_⟩
    rintro other (present | ⟨text', begun⟩)
    · exact keeps other present
    · cases found.symm.trans begun
      exact there

theorem awaiting?_of_settled (settled : progress.pending = none) : progress.awaiting? = none := by
  rw [awaiting?, settled]

end Settling

section Fields

theorem takeField_ends (field : Field) (attached : Option String) :
    Ends (fun next => Keeps progress next ∧ next.Mentions field ∧
      next.awaiting? = if field.shape.mark? = none ∧ attached = none then some field else none)
      UsageError.IsMisuse (progress.takeField field attached) := by
  have recorded : ∀ value : Except UsageError field.shape.Value,
      Ends (fun _ => True) UsageError.IsMisuse value →
      Ends (fun next => Keeps progress next ∧ next.Mentions field ∧ next.awaiting? = none)
        UsageError.IsMisuse (do (← progress.settle).record field value) := by
    intro value read
    apply (settle_ends progress).bind
    rintro settled ⟨free, given⟩
    apply (record_ends read).imp
    rintro next ⟨there, same, keeps⟩
    exact ⟨fun other mentioned => .inl (keeps other (given other mentioned)), .inl there,
      awaiting?_of_settled (same.trans free)⟩
  unfold takeField
  cases field.shape.mark? with
  | some mark =>
      simp only [reduceCtorEq, false_and, if_false]
      cases attached with
      | some text => exact .error trivial
      | none => exact recorded (.ok mark) (.ok trivial)
  | none =>
      cases attached with
      | some text =>
          simp only [reduceCtorEq, and_false, if_false]
          exact recorded (field.shape.read text) (field.shape.read_ends text)
      | none =>
          apply (settle_ends progress).bind
          rintro settled ⟨_, given⟩
          exact .ok ⟨fun other mentioned => .inl (given other mentioned), .inr ⟨none, rfl⟩, rfl⟩

end Fields

section Words

theorem take_count_ends {request : Request} (counts : request.Counts) (attached : Option String) :
    Ends (fun next => Keeps progress next ∧ next.awaiting? = none) UsageError.IsMisuse
      (progress.take request attached) := by
  rcases counts with rfl | rfl
  all_goals
    cases attached with
    | some text => exact .error trivial
    | none =>
        apply (settle_ends progress).bind
        rintro settled ⟨free, given⟩
        exact .ok ⟨fun other mentioned => .inl (given other mentioned), awaiting?_of_settled free⟩

theorem take_help_ends (attached : Option String) :
    Ends (fun _ => False) (fun failure => attached ≠ none → failure.IsMisuse)
      (progress.take .help attached) := by
  cases attached with
  | some text => exact .error fun _ => trivial
  | none =>
      apply (settle_ends progress).whenever.bind
      exact fun _ _ => .error fun attached => absurd rfl attached

theorem takeLetters_ends (letters : List Char) :
    Ends (fun next => Keeps progress next ∧
      (progress.awaiting? ≠ some .options → next.awaiting? ≠ some .options))
      (fun failure => 'h' ∉ letters → failure.IsMisuse)
      (progress.takeLetters (.verb verb) letters) := by
  induction letters generalizing progress with
  | nil => exact .ok ⟨fun _ mentioned => mentioned, id⟩
  | cons letter letters ih =>
      rw [takeLetters]
      split
      · exact .error fun _ => trivial
      next found =>
        rcases Level.short?_verb found with ⟨_, other⟩ | other | other <;> cases other
      next request _ found =>
        rcases Level.short?_verb found with ⟨rfl, rfl⟩ | counts
        · apply ((take_help_ends none).imp_fault ?_).never_bind
          intro failure _ free
          exact absurd List.mem_cons_self free
        · apply (take_count_ends counts none).whenever.bind
          rintro counted ⟨keeps, free⟩
          apply (ih.imp_fault fun failure misuse free => misuse fun member =>
            free (List.mem_cons_of_mem _ member)).imp
          rintro next ⟨further, after⟩
          refine ⟨keeps.trans further, fun _ => after ?_⟩
          simp [free]

theorem takeToken_ends (token : Token) :
    Ends (fun next => Keeps progress next ∧ (progress.awaiting? ≠ some .options →
      (next.awaiting? = some .options ↔ token = .long "options" none)))
      (fun failure => ¬token.AsksHelp → failure.IsMisuse)
      (progress.takeToken (.verb verb) token) := by
  cases token with
  | dashes =>
      exact .ok ⟨fun _ mentioned => mentioned, fun free => iff_of_false free (by simp)⟩
  | plain => exact .error fun _ => Level.stray_isMisuse _
  | short letters =>
      apply (takeLetters_ends letters).imp
      rintro next ⟨keeps, after⟩
      exact ⟨keeps, fun free => iff_of_false (after free) (by simp)⟩
  | long label value =>
      rw [takeToken]
      cases found : (Level.verb verb).long? label with
      | none => exact .error fun _ => trivial
      | some request =>
          rcases Level.long?_verb found with ⟨rfl, rfl⟩ | ⟨other, counts⟩ | ⟨field, rfl, rfl⟩
          · exact ((take_help_ends value).imp_fault fun failure misuse free => misuse fun bare =>
              free ⟨rfl, bare⟩).of_never
          · apply (take_count_ends counts value).whenever.imp
            rintro next ⟨keeps, free⟩
            refine ⟨keeps, fun _ => ?_⟩
            rw [free]
            simp [other]
          · apply (takeField_ends field value).whenever.imp
            rintro next ⟨keeps, _, waits⟩
            refine ⟨keeps, fun _ => ?_⟩
            rw [waits]
            cases field <;> simp [Field.label, Shape.mark?]

theorem pending_of_awaiting? (awaits : progress.awaiting? = some field) :
    progress.pending = some (field, none) := by
  unfold awaiting? at awaits
  split at awaits
  next found =>
    cases awaits
    exact found
  · cases awaits

theorem takeValue?_eq (awaits : progress.awaiting? = some field) (word : String) :
    progress.takeValue? word =
      if field.takesAnyWord = true ∨ Token.ofWord word = .plain then
        some { progress with pending := some (field, some word) }
      else none := by
  rw [takeValue?, awaits]
  simp

theorem takeWord_value_ends (awaits : progress.awaiting? = some field) {word : String}
    (value : field.takesAnyWord = true ∨ Token.ofWord word = .plain) :
    Ends (fun next => Keeps progress next ∧ next.awaiting? = none) UsageError.IsMisuse
      (takeWord verb progress word) := by
  rw [takeWord, takeValue?_eq awaits, if_pos value]
  split
  · exact .error (Level.strayAfterDashes_isMisuse _ _)
  · refine .ok ⟨?_, rfl⟩
    rintro other (present | ⟨text, begun⟩)
    · exact .inl present
    · cases (pending_of_awaiting? awaits).symm.trans begun
      exact .inr ⟨some word, rfl⟩

theorem takeWord_token_ends {word : String} (apart : progress.takeValue? word = none) :
    Ends (fun next => Keeps progress next ∧ (progress.awaiting? ≠ some .options →
      (next.awaiting? = some .options ↔ Token.ofWord word = .long "options" none)))
      (fun failure => ¬(Token.ofWord word).AsksHelp → failure.IsMisuse)
      (takeWord verb progress word) := by
  rw [takeWord, apart]
  split
  · exact .error fun _ => Level.strayAfterDashes_isMisuse _ _
  · exact takeToken_ends _

/-- One word keeps what was mentioned, and the option for pass-through words waits after it exactly
if it is that option and not the value of another one of that name. -/
theorem takeWord_ends (word : String) :
    Ends (fun next => Keeps progress next ∧ (next.awaiting? = some .options ↔
      progress.awaiting? ≠ some .options ∧ word = "--options"))
      (fun failure => ¬(Token.ofWord word).AsksHelp → failure.IsMisuse)
      (takeWord verb progress word) := by
  -- A word that is no value leaves the option open only if it is that option's name.
  have separate : progress.takeValue? word = none → progress.awaiting? ≠ some .options →
      Ends (fun next => Keeps progress next ∧ (next.awaiting? = some .options ↔
        progress.awaiting? ≠ some .options ∧ word = "--options"))
        (fun failure => ¬(Token.ofWord word).AsksHelp → failure.IsMisuse)
        (takeWord verb progress word) := by
    intro apart free
    apply (takeWord_token_ends apart).imp
    rintro next ⟨keeps, waits⟩
    rw [waits free, Token.ofWord_eq_options_iff]
    exact ⟨keeps, (and_iff_right free).symm⟩
  cases awaits : progress.awaiting? with
  | none =>
      rw [awaits] at separate
      exact separate (by rw [takeValue?, awaits]) (by simp)
  | some field =>
      rw [awaits] at separate
      by_cases value : field.takesAnyWord = true ∨ Token.ofWord word = .plain
      · apply (takeWord_value_ends awaits value).whenever.imp
        rintro next ⟨keeps, free⟩
        refine ⟨keeps, iff_of_false (by simp [free]) ?_⟩
        rintro ⟨other, rfl⟩
        rcases value with any | plain
        · rw [Field.takesAnyWord, decide_eq_true_iff] at any
          exact other (congrArg some any)
        · cases (Token.ofWord_eq_options_iff.mpr rfl).symm.trans plain
      · apply separate
        · rw [takeValue?_eq awaits, if_neg value]
        · rintro same
          cases same
          exact value (.inl rfl)

end Words

end Progress

end WakeSchedule
