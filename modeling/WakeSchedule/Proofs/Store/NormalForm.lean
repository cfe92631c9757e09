import WakeSchedule.Proofs.Store.Row

namespace WakeSchedule

section Texts

theorem allBlank_iff {text : String} : AllBlank text.toList ↔ trim text = "" := by
  rw [@eq_comm _ (trim text), ← trimsTo_iff]
  constructor
  · intro blank
    exact ⟨⟨nofun, nofun⟩, text, "", blank, nofun, by simp⟩
  · rintro ⟨_, front, back, blankFront, blankBack, rfl⟩ c member
    simp only [String.append_empty, String.toList_append, List.mem_append] at member
    exact member.elim (blankFront c) (blankBack c)

/-- A command as it is read back: without the blanks around it, and absent where there is nothing
else in it. -/
inductive CommandReadsAs : Option String → Option String → Prop
  | absent : CommandReadsAs none none
  | blank {text : String} (blank : AllBlank text.toList) : CommandReadsAs (some text) none
  | trimmed {text command : String} (trims : TrimsTo text command) (nonempty : command ≠ "") :
      CommandReadsAs (some text) (some command)

theorem tidyCommand_of_blank {text : String} (blank : trim text = "") : tidyCommand text = none := by
  rw [tidyCommand, blank]
  rfl

theorem tidyCommand_of_not_blank {text : String} (nonempty : trim text ≠ "") :
    tidyCommand text = some (trim text) :=
  if_neg fun empty => nonempty (String.toList_eq_nil_iff.mp empty)

theorem commandReadsAs_tidied (command : Option String) :
    CommandReadsAs command (command.bind tidyCommand) := by
  cases command with
  | none => exact .absent
  | some text =>
      rw [Option.bind_some]
      by_cases blank : trim text = ""
      · rw [tidyCommand_of_blank blank]
        exact .blank (allBlank_iff.mpr blank)
      · rw [tidyCommand_of_not_blank blank]
        exact .trimmed (trimsTo_iff.mpr rfl) blank

theorem bind_tidyCommand_eq_self_iff (command : Option String) :
    command.bind tidyCommand = command ↔
      ∀ text, command = some text → Bare text ∧ text ≠ "" := by
  cases command with
  | none => exact iff_of_true rfl nofun
  | some text =>
      simp only [Option.bind_some, Option.some.injEq, forall_eq']
      by_cases blank : trim text = ""
      · rw [tidyCommand_of_blank blank, ← trim_eq_self_iff, blank]
        exact iff_of_false nofun fun both => both.2 both.1.symm
      · rw [tidyCommand_of_not_blank blank, Option.some.injEq, trim_eq_self_iff]
        refine ⟨fun bare => ⟨bare, ?_⟩, And.left⟩
        rwa [← trim_eq_self_iff.mpr bare]

end Texts

section Rows

variable {τ α ρ : Type}

structure Rule.ReadsAs (keeps : α → α → Prop) (id : RuleId) (rule read : Rule τ α) : Prop where
  id : read.id = some id
  name : TrimsTo rule.name read.name
  time : read.time = rule.time
  days : read.days = rule.days
  action : keeps rule.action read.action
  enabled : read.enabled = rule.enabled

/-- Every rule that is written reads back. It is read as it was just where it is in normal form
already, and what is read is written and read once more without any change. -/
def Normalises (write : Rule τ α → ρ) (read : RuleId → ρ → Except Violation (Rule τ α))
    (keeps : α → α → Prop) (isNormal : α → Prop) : Prop :=
  ∀ id rule, ∃ shown, read id (write rule) = .ok shown ∧ rule.ReadsAs keeps id shown ∧
    (shown = rule.withId id ↔ Bare rule.name ∧ isNormal rule.action) ∧
    read id (write shown) = .ok shown

theorem normalises_of_tidies {write : Rule τ α → ρ}
    {read : RuleId → ρ → Except Violation (Rule τ α)} {keeps : α → α → Prop} {isNormal : α → Prop}
    (tidy : α → α) (idem : ∀ action, tidy (tidy action) = tidy action)
    (kept : ∀ action, keeps action (tidy action))
    (normal : ∀ action, tidy action = action ↔ isNormal action)
    (reads : ∀ id rule, read id (write rule) =
      .ok { rule with id := some id, name := trim rule.name, action := tidy rule.action }) :
    Normalises write read keeps isNormal := by
  intro id rule
  refine ⟨_, reads id rule, ⟨rfl, trimsTo_iff.mpr rfl, rfl, rfl, kept rule.action, rfl⟩, ?_, ?_⟩
  · simp only [Rule.withId, Rule.mk.injEq, true_and, and_true, trim_eq_self_iff, normal]
  · simp only [reads, trim_idem, idem]

end Rows

structure WakeAction.ReadsAs (action read : WakeAction) : Prop where
  mode : read.mode = action.mode
  command : CommandReadsAs action.command read.command

def WakeAction.IsNormal (action : WakeAction) : Prop :=
  ∀ text, action.command = some text → Bare text ∧ text ≠ ""

def WakeAction.tidied (action : WakeAction) : WakeAction :=
  { action with command := action.command.bind tidyCommand }

theorem WakeAction.tidied_eq_self_iff (action : WakeAction) :
    action.tidied = action ↔ action.IsNormal := by
  cases action
  simp only [tidied, mk.injEq, and_true, bind_tidyCommand_eq_self_iff, IsNormal]

/-- Rules of both kinds always read back from their rows: the name trimmed, the command of a wake
rule trimmed or, where it is blank, absent, and all else as it was. -/
theorem rows_keep_rules_in_normal_form :
    Normalises WakeRow.ofRule WakeRow.toRule WakeAction.ReadsAs WakeAction.IsNormal ∧
      Normalises SleepRow.ofRule SleepRow.toRule (· = ·) (fun _ => True) := by
  constructor
  · apply normalises_of_tidies WakeAction.tidied
    · intro action
      simp only [WakeAction.tidied, bind_tidyCommand_idem]
    · exact fun action => ⟨rfl, commandReadsAs_tidied action.command⟩
    · exact WakeAction.tidied_eq_self_iff
    · exact WakeRow.toRule_ofRule
  · apply normalises_of_tidies id
    · exact fun _ => rfl
    · exact fun _ => rfl
    · exact fun _ => iff_of_true rfl trivial
    · exact SleepRow.toRule_ofRule

end WakeSchedule
