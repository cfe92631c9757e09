import WakeSchedule.Proofs.CommandLine.Reading

namespace WakeSchedule

def waitsAfter (waits : Bool) (word : String) : Bool := !waits && word = "--options"

def EndsInOptions (words : List String) : Prop := words.foldl waitsAfter false = true

instance : DecidablePred EndsInOptions := fun _ => inferInstanceAs (Decidable (_ = true))

inductive Field.Gives (field : Field) : List String → Prop
  | attached (text : String) : Gives field [field.worded (some text)]
  | apart (text : String) (value : field.takesAnyWord = true ∨ Token.ofWord text = .plain) :
      Gives field [field.worded none, text]

namespace Progress

/-- The option was given and then begun another time. No reading comes back from here. -/
structure Torn (progress : Progress) (field : Field) : Prop where
  given : Given.has progress.given field = true
  begun : ∃ text, progress.pending = some (field, text)

variable {progress : Progress} {field : Field} {verb : Verb}

section Torn

theorem settle_torn (torn : progress.Torn field) :
    Ends (fun _ => False) UsageError.IsMisuse progress.settle := by
  rcases torn with ⟨present, text, begun⟩
  cases text with
  | none =>
      simp only [settle, begun]
      exact .error trivial
  | some text =>
      simp only [settle, begun, record, present, if_true]
      exact .error trivial

theorem takeField_again (valued : field.shape.mark? = none) (mentioned : progress.Mentions field)
    (attached : Option String) :
    Ends (fun next => next.Torn field) UsageError.IsMisuse (progress.takeField field attached) := by
  unfold takeField
  rw [valued]
  cases attached with
  | some text =>
      apply (settle_ends progress).bind
      rintro settled ⟨_, given⟩
      rw [record, if_pos (given field mentioned)]
      exact .error trivial
  | none =>
      apply (settle_ends progress).bind
      rintro settled ⟨_, given⟩
      exact .ok ⟨given field mentioned, none, rfl⟩

theorem takeField_torn {other : Field} (torn : progress.Torn field) (attached : Option String) :
    Ends (fun _ => False) UsageError.IsMisuse (progress.takeField other attached) := by
  unfold takeField
  cases other.shape.mark? <;> cases attached
  · exact (settle_torn torn).never_bind
  · exact (settle_torn torn).never_bind
  · exact (settle_torn torn).never_bind
  · exact .error trivial

theorem take_torn (torn : progress.Torn field) (request : Request) (attached : Option String) :
    Ends (fun _ => False) UsageError.IsMisuse (progress.take request attached) := by
  cases request with
  | field other => exact takeField_torn torn attached
  | help | version | louder | quieter =>
      cases attached with
      | some text => exact .error trivial
      | none => exact (settle_torn torn).never_bind

theorem takeLetters_torn (torn : progress.Torn field) (letters : List Char) :
    Ends (fun next => next.Torn field) UsageError.IsMisuse
      (progress.takeLetters (.verb verb) letters) := by
  cases letters with
  | nil => exact .ok torn
  | cons letter letters =>
      rw [takeLetters]
      split
      · exact .error trivial
      · exact (takeField_torn torn _).of_never
      · exact (take_torn torn _ none).never_bind

theorem torn_of_takeValue? {word : String} {next : Progress} (torn : progress.Torn field)
    (taken : progress.takeValue? word = some next) : next.Torn field := by
  rcases torn with ⟨present, text, begun⟩
  unfold takeValue? at taken
  split at taken
  next waiting awaits =>
    cases (pending_of_awaiting? awaits).symm.trans begun
    split at taken
    · cases taken
      exact ⟨present, some word, rfl⟩
    · cases taken
  · cases taken

theorem takeWord_torn (torn : progress.Torn field) (word : String) :
    Ends (fun next => next.Torn field) UsageError.IsMisuse (takeWord verb progress word) := by
  rw [takeWord]
  split
  · exact .error (Level.strayAfterDashes_isMisuse _ _)
  split
  next taken found => exact .ok (torn_of_takeValue? torn found)
  next =>
    cases Token.ofWord word with
    | dashes => exact .ok ⟨torn.given, torn.begun⟩
    | plain => exact .error (Level.stray_isMisuse _)
    | short letters => exact takeLetters_torn torn letters
    | long label value =>
        rw [takeToken]
        split
        · exact .error trivial
        · exact (take_torn torn _ value).of_never

theorem takeWords_torn (torn : progress.Torn field) (words : List String) :
    Ends (fun next => next.Torn field) UsageError.IsMisuse
      (words.foldlM (takeWord verb) progress) := by
  induction words generalizing progress with
  | nil => exact .ok torn
  | cons word words ih =>
      rw [List.foldlM_cons]
      exact (takeWord_torn torn word).bind fun _ still => ih still

end Torn

section Runs

theorem takeWords_ends {words : List String} {waits : Bool}
    (start : progress.awaiting? = some .options ↔ waits = true) :
    Ends (fun next => Keeps progress next ∧
        (next.awaiting? = some .options ↔ words.foldl waitsAfter waits = true))
      (fun failure => (∀ word ∈ words, ¬(Token.ofWord word).AsksHelp) → failure.IsMisuse)
      (words.foldlM (takeWord verb) progress) := by
  induction words generalizing progress waits with
  | nil => exact .ok ⟨fun _ mentioned => mentioned, start⟩
  | cons word words ih =>
      rw [List.foldlM_cons, List.foldl_cons]
      simp only [List.forall_mem_cons]
      apply ((takeWord_ends word).imp_fault fun _ misuse free => misuse free.1).bind
      rintro next ⟨keeps, waiting⟩
      have same : next.awaiting? = some .options ↔ waitsAfter waits word = true := by
        simp [waiting, start, waitsAfter]
      apply ((ih same).imp_fault fun _ misuse free => misuse free.2).imp
      rintro last ⟨further, after⟩
      exact ⟨keeps.trans further, after⟩

variable {given : List String}

theorem takeWords_gives (known : field ∈ verb.fields) (valued : field.shape.mark? = none)
    (gives : field.Gives given) (free : progress.awaiting? ≠ some .options) :
    Ends (fun next => next.Mentions field ∧ next.awaiting? ≠ some .options) UsageError.IsMisuse
      (given.foldlM (takeWord verb) progress) := by
  have begun : ∀ text, Ends (fun next => next.Mentions field ∧
      next.awaiting? = if text = none then some field else none) UsageError.IsMisuse
      (takeWord verb progress (field.worded text)) := by
    intro text
    cases reading : progress.wordsOnly with
    | true =>
        rw [takeWord, if_pos reading]
        exact .error (Level.strayAfterDashes_isMisuse _ _)
    | false =>
        rw [takeWord_worded known text reading free]
        apply (takeField_ends field text).imp
        rintro next ⟨_, mentioned, waits⟩
        refine ⟨mentioned, ?_⟩
        simp only [waits, valued, true_and]
  cases gives with
  | attached text =>
      rw [List.foldlM_cons]
      apply (begun (some text)).bind
      rintro next ⟨mentioned, waits⟩
      exact .ok ⟨mentioned, by simp [waits]⟩
  | apart text value =>
      simp only [List.foldlM_cons, List.foldlM_nil, bind_pure]
      apply (begun none).bind
      rintro next ⟨mentioned, waits⟩
      rw [if_pos rfl] at waits
      apply (takeWord_value_ends waits value).imp
      rintro last ⟨keeps, done⟩
      exact ⟨keeps field mentioned, by simp [done]⟩

theorem takeWords_again (known : field ∈ verb.fields) (valued : field.shape.mark? = none)
    (gives : field.Gives given) (free : progress.awaiting? ≠ some .options)
    (mentioned : progress.Mentions field) :
    Ends (fun next => next.Torn field) UsageError.IsMisuse
      (given.foldlM (takeWord verb) progress) := by
  have again : ∀ text rest, Ends (fun next => next.Torn field) UsageError.IsMisuse
      ((field.worded text :: rest).foldlM (takeWord verb) progress) := by
    intro text rest
    rw [List.foldlM_cons]
    cases reading : progress.wordsOnly with
    | true =>
        rw [takeWord, if_pos reading]
        exact .error (Level.strayAfterDashes_isMisuse _ _)
    | false =>
        rw [takeWord_worded known text reading free]
        exact (takeField_again valued mentioned text).bind fun _ torn => takeWords_torn torn rest
  cases gives with
  | attached text => exact again (some text) []
  | apart text value => exact again none [text]

end Runs

end Progress

open Progress

/-- An option with a value that is given twice is refused. Help is the only other end, when it is
asked for before. -/
theorem readLevel_twice {verb : Verb} {field : Field} {before first between second : List String}
    (after : List String) (known : field ∈ verb.fields) (valued : field.shape.mark? = none)
    (once : field.Gives first) (again : field.Gives second) (whole : ¬EndsInOptions before)
    (between_whole : ¬EndsInOptions between) :
    Ends (fun _ => False)
      (fun failure => (∀ word ∈ before ++ between, ¬(Token.ofWord word).AsksHelp) →
        failure.IsMisuse)
      (readLevel (.verb verb) {} (before ++ first ++ between ++ second ++ after)) := by
  simp only [readLevel_verb, List.foldlM_append, bind_assoc, List.forall_mem_append]
  have fresh : ({} : Progress).awaiting? = some .options ↔ false = true :=
    iff_of_false (by simp [awaiting?]) (by simp)
  -- No option is open that would take the first word of the option for its own value.
  apply ((takeWords_ends fresh).imp_fault fun _ misuse free => misuse free.1).bind
  rintro early ⟨_, free⟩
  have free : early.awaiting? ≠ some .options := fun waits => whole (free.mp waits)
  apply (takeWords_gives known valued once free).whenever.bind
  rintro given ⟨mentioned, free⟩
  have start : given.awaiting? = some .options ↔ false = true :=
    iff_of_false free (by simp)
  apply ((takeWords_ends start).imp_fault fun _ misuse free => misuse free.2).bind
  rintro late ⟨keeps, free⟩
  have free : late.awaiting? ≠ some .options := fun waits => between_whole (free.mp waits)
  apply (takeWords_again known valued again free (keeps field mentioned)).whenever.bind
  -- From here on every word and the end of the words lead to a failure.
  intro torn twice
  apply (takeWords_torn twice after).whenever.bind
  intro last still
  exact (settle_torn still).whenever.never_bind

end WakeSchedule
