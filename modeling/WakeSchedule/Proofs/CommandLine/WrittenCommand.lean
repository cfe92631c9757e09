import WakeSchedule.Proofs.CommandLine.Repetition

namespace WakeSchedule

open Progress

theorem Progress.close_given (verb : Verb) (given : List Given) :
    Progress.close (.verb verb) { given } =
      (verb.command given).map fun command => ⟨command, none, none, none⟩ := by
  have agrees : ({ given } : Progress).agreed = .ok { given } := rfl
  simp only [close, settle, agrees, bind, Except.bind]
  cases verb.command given <;> rfl

/-- What the words of options make of a command. Neither the database nor the loudness of the log is
an option of a command. -/
theorem parseArguments_given {verb : Verb} {given : List Given}
    (known : ∀ option ∈ given, option.field ∈ verb.fields ∧ option.Admitted) :
    parseArguments (verb.words ++ given.map Given.word) =
      if (given.map Given.field).Nodup then
        (verb.command given).map fun command => ⟨defaultDatabase, .info, command⟩
      else .error .conflict := by
  have read := @takeWords_given verb {} given known rfl rfl List.nodup_nil
  rw [List.nil_append] at read
  rw [parseArguments, readLevel_words, readLevel_verb, read]
  split
  · show Progress.close (.verb verb) { given } >>= _ = _
    rw [close_given]
    cases verb.command given <;> rfl
  · rfl

theorem parseArguments_options {command : Command} (fits : command.Fits) {given : List Given}
    (order : command.options.Perm given) :
    parseArguments (command.verb.words ++ given.map Given.word) =
      .ok ⟨defaultDatabase, .info, command⟩ := by
  have apart : (command.options.map Given.field).Nodup := by
    apply command.fields_options.nodup
    cases command.verb <;> decide
  have known : ∀ option ∈ given, option.field ∈ command.verb.fields ∧ option.Admitted := by
    intro option member
    have listed := order.mem_iff.mpr member
    exact ⟨command.fields_options.subset (List.mem_map_of_mem listed),
      Command.admitted_of_fits fits listed⟩
  rw [parseArguments_given known, if_pos ((order.map Given.field).nodup apart),
    Verb.command_perm command.verb apart order, command.command_options]
  rfl

theorem parseArguments_twice {verb : Verb} {field : Field}
    {before first between second : List String} (after : List String) (known : field ∈ verb.fields)
    (valued : field.shape.mark? = none) (once : field.Gives first) (again : field.Gives second)
    (whole : ¬EndsInOptions before) (whole' : ¬EndsInOptions between) :
    ∃ failure, parseArguments (verb.words ++ (before ++ first ++ between ++ second ++ after)) =
        .error failure ∧
      ((∀ word ∈ before ++ between, ¬(Token.ofWord word).AsksHelp) → failure.IsMisuse) := by
  rcases (readLevel_twice after known valued once again whole whole').failure with
    ⟨failure, refused, misuse⟩
  refine ⟨failure, ?_, misuse⟩
  rw [parseArguments, readLevel_words, refused]
  rfl

/-- Every command is read back from its words, whatever order its options stand in. Options of which
two have one name are refused, and an option with a value is refused the second time among any
words. -/
theorem commands_read_back :
    (∀ command : Command, command.Fits → ∀ given, command.options.Perm given →
      parseArguments (command.verb.words ++ given.map Given.word) =
        .ok ⟨defaultDatabase, .info, command⟩) ∧
    (∀ (verb : Verb) (given : List Given),
      (∀ option ∈ given, option.field ∈ verb.fields ∧ option.Admitted) →
      ¬(given.map Given.field).Nodup →
      parseArguments (verb.words ++ given.map Given.word) = .error .conflict) ∧
    (∀ (verb : Verb), ∀ field ∈ verb.fields, field.shape.mark? = none →
      ∀ first second, field.Gives first → field.Gives second →
      ∀ before between after, ¬EndsInOptions before → ¬EndsInOptions between →
      ∃ failure, parseArguments (verb.words ++ (before ++ first ++ between ++ second ++ after)) =
          .error failure ∧
        ((∀ word ∈ before ++ between, ¬(Token.ofWord word).AsksHelp) → failure.IsMisuse)) := by
  refine ⟨?_, ?_, ?_⟩
  · intro command fits given order
    exact parseArguments_options fits order
  · intro verb given known twice
    rw [parseArguments_given known, if_neg twice]
  · intro verb field known valued first second once again before between after whole whole'
    exact parseArguments_twice after known valued once again whole whole'

theorem commands_read_back_from_settings :
    parseArguments ["config", "set", "--boot-time=65535", "--options=-x a=b", "--localtime=false"] =
      .ok ⟨defaultDatabase, .info, .changeSettings
        { enabled := none, commands := none, localTime := some false, options := some "-x a=b",
          defaultMode := none, bootTime := some 65535, shutdownOnFailure := none }⟩ ∧
    parseArguments ["config", "set", "--options=", "--options=-v"] = .error .conflict ∧
    ∃ failure, parseArguments ["config", "set", "--localtime", "yes", "-v", "--localtime=no"] =
      .error failure ∧ failure.IsMisuse := by
  refine ⟨?_, ?_, ?_⟩
  · refine commands_read_back.1 (.changeSettings
      { enabled := none, commands := none, localTime := some false, options := some "-x a=b",
        defaultMode := none, bootTime := some 65535, shutdownOnFailure := none }) ?_
      [⟨.bootTime, (65535 : UInt16)⟩, ⟨.options, "-x a=b"⟩, ⟨.localTime, false⟩]
      (List.reverse_perm _).symm
    intro kind id same
    cases same
  · exact commands_read_back.2.1 .changeSettings [⟨.options, ""⟩, ⟨.options, "-v"⟩]
      (by simp [Verb.fields, Given.Admitted, Shape.Admits]) (by decide)
  · rcases commands_read_back.2.2 .changeSettings .localTime (by decide) rfl _ _
      (.apart "yes" (.inr (by decide))) (.attached "no") [] ["-v"] [] (by decide) (by decide) with
      ⟨failure, refused, misuse⟩
    refine ⟨failure, refused, misuse ?_⟩
    decide

end WakeSchedule
