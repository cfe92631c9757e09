import WakeSchedule.Proofs.CommandLine.Options
/-! Reading the words of a command, one after another. An option that is written as one word is
recorded with its value, and refused where an option of its name is recorded already. -/

namespace WakeSchedule

section Tokens

def Field.worded (field : Field) (text : Option String) : String :=
  "--" ++ field.label ++ text.elim "" ("=" ++ ·)

theorem Given.word_eq (option : Given) :
    option.word = option.field.worded (option.field.shape.write? option.value) := by
  rw [Given.word, Field.worded]
  cases option.field.shape.write? option.value <;> rfl

theorem cutAt_of_not_mem {mark : Char} {text : List Char} (plain : mark ∉ text) :
    cutAt mark text = (text, none) := by
  induction text with
  | nil => rfl
  | cons c text ih =>
      simp only [List.mem_cons, not_or] at plain
      simp [cutAt, Ne.symm plain.1, ih plain.2]

theorem cutAt_append {mark : Char} {front : List Char} (plain : mark ∉ front) (rest : List Char) :
    cutAt mark (front ++ mark :: rest) = (front, some rest) := by
  induction front with
  | nil => simp [cutAt]
  | cons c front ih =>
      simp only [List.mem_cons, not_or] at plain
      simp [cutAt, Ne.symm plain.1, ih plain.2]

theorem cutAt_fst_of_snd {mark : Char} {text : List Char} (whole : (cutAt mark text).2 = none) :
    (cutAt mark text).1 = text := by
  induction text with
  | nil => rfl
  | cons c rest ih =>
      rw [cutAt] at whole ⊢
      split at whole
      · cases whole
      next other =>
        rw [if_neg other]
        exact congrArg (c :: ·) (ih whole)

theorem Field.label_plain (field : Field) :
    field.label.toList ≠ [] ∧ '=' ∉ field.label.toList := by
  cases field <;> decide

theorem Field.cutAt_label (field : Field) (text : Option String) :
    cutAt '=' (field.label.toList ++ (text.elim "" ("=" ++ ·)).toList) =
      (field.label.toList, text.map String.toList) := by
  cases text with
  | none =>
      rw [Option.elim_none, String.toList_empty, List.append_nil]
      exact cutAt_of_not_mem field.label_plain.2
  | some text =>
      rw [Option.elim_some, String.toList_append]
      exact cutAt_append field.label_plain.2 text.toList

theorem Token.ofWord_worded (field : Field) (text : Option String) :
    Token.ofWord (field.worded text) = .long field.label text := by
  have shape : (field.worded text).toList =
      '-' :: '-' :: (field.label.toList ++ (text.elim "" ("=" ++ ·)).toList) := by
    rw [Field.worded, String.toList_append, String.toList_append]
    rfl
  have cut := field.cutAt_label text
  unfold Token.ofWord
  rw [shape]
  split
  next alone =>
    simp only [List.cons.injEq, true_and, List.append_eq_nil_iff] at alone
    exact absurd alone.1 field.label_plain.1
  next rest _ same =>
    simp only [List.cons.injEq, true_and] at same
    rw [← same, cut, String.ofList_toList]
    cases text <;> simp
  next single => cases single
  next long _ same =>
    simp only [List.cons.injEq, true_and] at same
    exact (long _ same.symm).elim
  next other => exact (other _ rfl).elim

theorem Level.long?_label (verb : Verb) {field : Field} (known : field ∈ verb.fields) :
    (Level.verb verb).long? field.label = some (.field field) := by
  revert field
  cases verb <;> decide

end Tokens

namespace Progress

def takeWord (verb : Verb) (progress : Progress) (word : String) : Except UsageError Progress :=
  if progress.wordsOnly then .error ((Level.verb verb).strayAfterDashes word)
  else match progress.takeValue? word with
    | some next => .ok next
    | none => progress.takeToken (.verb verb) (.ofWord word)

end Progress

open Progress

/-- Below a command there are no levels, so its words are taken one by one. -/
theorem readLevel_verb (verb : Verb) (progress : Progress) (words : List String) :
    readLevel (.verb verb) progress words =
      words.foldlM (takeWord verb) progress >>= Progress.close (.verb verb) := by
  induction words generalizing progress with
  | nil => rfl
  | cons word words ih =>
      have noHelp : (Level.verb verb).asksHelp word = false := rfl
      have noChild : (Level.verb verb).child? word = none := rfl
      rw [List.foldlM_cons, readLevel, takeWord]
      cases progress.wordsOnly with
      | true => rfl
      | false =>
          cases progress.takeValue? word with
          | some next => exact ih next
          | none =>
              simp only [noHelp, noChild, Bool.and_false, ite_self, Bool.false_eq_true, if_false]
              cases progress.takeToken (.verb verb) (.ofWord word) with
              | error failure => rfl
              | ok next => exact ih next

theorem closeOver_bare (inner : Gathered) : closeOver {} inner = .ok inner := by
  rcases inner with ⟨command, database, louder, quieter⟩
  cases database <;> cases louder <;> cases quieter <;> rfl

theorem readLevel_child {level child : Level} {word : String} (words : List String)
    (noHelp : level.asksHelp word = false) (leads : level.child? word = some child) :
    readLevel level {} (word :: words) = readLevel child {} words := by
  rw [readLevel]
  simp only [noHelp, leads, takeValue?, awaiting?, Option.isNone_none, Bool.and_false,
    Bool.false_eq_true, if_false, if_true]
  cases readLevel child {} words with
  | error failure => rfl
  | ok inner => exact closeOver_bare inner

theorem readLevel_words (verb : Verb) (words : List String) :
    readLevel .top {} (verb.words ++ words) = readLevel (.verb verb) {} words := by
  have rules : ∀ words, readLevel .top {} ("rules" :: words) = readLevel .rules {} words :=
    fun words => readLevel_child words (by decide) (by decide)
  have settings : ∀ words, readLevel .top {} ("config" :: words) = readLevel .settings {} words :=
    fun words => readLevel_child words (by decide) (by decide)
  cases verb with
  | listRules | addWakeRule | addSleepRule | deleteRule =>
      exact (rules _).trans (readLevel_child words (by decide) (by decide))
  | showSettings | changeSettings =>
      exact (settings _).trans (readLevel_child words (by decide) (by decide))
  | schedule | tick | boot | reset => exact readLevel_child words (by decide) (by decide)

section Written

variable {verb : Verb} {progress : Progress} {field : Field}

theorem takeWord_worded (known : field ∈ verb.fields) (text : Option String)
    (reading : progress.wordsOnly = false) (free : progress.awaiting? ≠ some .options) :
    takeWord verb progress (field.worded text) = progress.takeField field text := by
  have separate : progress.takeValue? (field.worded text) = none := by
    unfold takeValue?
    split
    next waiting found =>
      have other : waiting ≠ .options := fun same => free (same ▸ found)
      simp [Field.takesAnyWord, other, Token.ofWord_worded]
    next => rfl
  rw [takeWord, reading, separate, Token.ofWord_worded]
  simp only [takeToken, Level.long?_label verb known]
  rfl

theorem takeField_given {option : Given} (admitted : option.Admitted)
    (settled : progress.pending = none) :
    progress.takeField option.field (option.field.shape.write? option.value) =
      progress.record option.field (.ok option.value) := by
  have settles : progress.settle = .ok progress := by rw [settle, settled]
  rcases option.field.shape.marked_or_written option.value with
    ⟨marks, unwritten⟩ | ⟨unmarked, text, written, reads⟩
  · unfold takeField
    rw [marks, unwritten]
    simp only [settles]
    rfl
  · unfold takeField
    rw [unmarked, written]
    simp only [settles, reads admitted]
    rfl

/-- Options that are written as words are recorded in turn, up to the first whose name comes a
second time. -/
theorem takeWords_given {given : List Given}
    (known : ∀ option ∈ given, option.field ∈ verb.fields ∧ option.Admitted)
    (reading : progress.wordsOnly = false) (settled : progress.pending = none)
    (apart : (progress.given.map Given.field).Nodup) :
    (given.map Given.word).foldlM (takeWord verb) progress =
      if ((progress.given ++ given).map Given.field).Nodup then
        .ok { progress with given := progress.given ++ given }
      else .error .conflict := by
  induction given generalizing progress with
  | nil =>
      rw [List.append_nil, if_pos apart]
      rfl
  | cons option given ih =>
      rw [List.forall_mem_cons] at known
      have free : progress.awaiting? ≠ some .options := by simp [awaiting?, settled]
      rw [List.map_cons, List.foldlM_cons, Given.word_eq,
        takeWord_worded known.1.1 _ reading free, takeField_given known.1.2 settled, record]
      by_cases present : Given.has progress.given option.field = true
      · have twice : ¬((progress.given ++ option :: given).map Given.field).Nodup := by
          intro nodup
          rw [List.map_append, List.map_cons] at nodup
          exact (List.nodup_append.mp nodup).2.2 _ (Given.has_iff.mp present) _
            List.mem_cons_self rfl
        rw [if_pos present, if_neg twice]
        rfl
      · have fresh : ((progress.given ++ [option]).map Given.field).Nodup := by
          rw [List.map_append, List.map_singleton]
          refine List.nodup_append.mpr ⟨apart, List.pairwise_singleton _ _, ?_⟩
          intro first listed second last same
          rw [List.mem_singleton.mp last] at same
          exact present (Given.has_iff.mpr (same ▸ listed))
        rw [if_neg present]
        have rest := @ih { progress with given := progress.given ++ [option] } known.2 reading
          settled fresh
        rw [List.append_assoc, List.singleton_append] at rest
        exact rest

end Written

end WakeSchedule
