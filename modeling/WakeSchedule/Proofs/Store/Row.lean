import WakeSchedule.Proofs.Decision
import WakeSchedule.Proofs.Text.Decimal
import WakeSchedule.Proofs.Text.Trim
import WakeSchedule.Store.Database

namespace WakeSchedule

def WakeRule.tidied (rule : WakeRule) : WakeRule :=
  { rule with
    name := trim rule.name
    action := { rule.action with command := rule.action.command.bind tidyCommand } }

def SleepRule.tidied (rule : SleepRule) : SleepRule := { rule with name := trim rule.name }

theorem WakeRule.tidied_idem (rule : WakeRule) :
    WakeRule.tidied (WakeRule.tidied rule) = WakeRule.tidied rule := by
  simp only [WakeRule.tidied, trim_idem, bind_tidyCommand_idem]

theorem SleepRule.tidied_idem (rule : SleepRule) :
    SleepRule.tidied (SleepRule.tidied rule) = SleepRule.tidied rule := by
  simp only [SleepRule.tidied, trim_idem]

theorem WakeRule.firesOn_tidied (rule : WakeRule) (day : Weekday) :
    (WakeRule.tidied rule).firesOn day = rule.firesOn day := by
  simp only [Rule.firesOn, WakeRule.tidied]

theorem WakeRule.timeCode_tidied (rule : WakeRule) :
    (WakeRule.tidied rule).timeCode = rule.timeCode := by
  simp only [Rule.timeCode, WakeRule.tidied]

theorem SleepRule.firesOn_tidied (rule : SleepRule) (day : Weekday) :
    (SleepRule.tidied rule).firesOn day = rule.firesOn day := by
  simp only [Rule.firesOn, SleepRule.tidied]

theorem SleepRule.timeCode_tidied (rule : SleepRule) :
    (SleepRule.tidied rule).timeCode = rule.timeCode := by
  simp only [Rule.timeCode, SleepRule.tidied]

theorem isSet_flag (value : Bool) : isSet (flag value) = value := by
  cases value <;> rfl

theorem decide_flag (value : Bool) : decide (flag value = 1) = value := by
  cases value <;> rfl

theorem map_isSet_flag (days : Mask) : (days.map flag).map isSet = days := by
  simp only [Week.map, Week.ofFn, Week.get, isSet_flag]

theorem WakeRow.toRule_ofRule (id : RuleId) (rule : WakeRule) :
    toRule id (ofRule rule) = .ok ((WakeRule.tidied rule).withId id) := by
  simp only [toRule, ofRule, TimeOfDay.parse_digits, PowerMode.parse_tag, map_isSet_flag,
    isSet_flag]
  rfl

theorem SleepRow.toRule_ofRule (id : RuleId) (rule : SleepRule) :
    toRule id (ofRule rule) = .ok ((SleepRule.tidied rule).withId id) := by
  simp only [toRule, ofRule, SleepTime.parse_digits, map_isSet_flag, isSet_flag]
  rfl

theorem tidyCommand_ne_empty {command text : String} (tidied : tidyCommand command = some text) :
    text ≠ "" := by
  unfold tidyCommand at tidied
  split at tidied
  · cases tidied
  next left =>
    cases tidied
    intro empty
    rw [empty] at left
    exact left rfl

theorem wakeRule_command_ne_empty (name : String) (time : TimeOfDay) (days : Mask)
    (command : Option String) (mode : PowerMode) :
    (wakeRule name time days command mode).action.command ≠ some "" := by
  intro empty
  obtain ⟨given, _, tidied⟩ := Option.bind_eq_some_iff.mp empty
  exact tidyCommand_ne_empty tidied rfl

theorem WakeRow.command_ne_empty {id : RuleId} {row : WakeRow} {rule : WakeRule}
    (read : toRule id row = .ok rule) : rule.action.command ≠ some "" := by
  obtain ⟨time, _, read⟩ := bind_eq_ok.mp read
  obtain ⟨mode, _, read⟩ := bind_eq_ok.mp read
  cases read
  exact wakeRule_command_ne_empty row.name time (row.days.map isSet) row.command mode

theorem Database.forall_readEntries {ρ β : Type} {toRule : RuleId → ρ → Except Violation β}
    {holds : β → Prop} (each : ∀ id row rule, toRule id row = .ok rule → holds rule)
    {entries : List (Entry ρ)} {rules : List β} (read : readEntries toRule entries = .ok rules) :
    ∀ rule ∈ rules, holds rule := by
  induction entries generalizing rules with
  | nil =>
      cases read
      intro _ member
      cases member
  | cons entry entries ih =>
      rw [readEntries] at read
      cases first : toRule entry.id entry.row with
      | error violation =>
          rw [first] at read
          cases read
      | ok rule =>
          rw [first] at read
          cases rest : readEntries toRule entries with
          | error failure =>
              rw [rest] at read
              cases read
          | ok others =>
              rw [rest] at read
              cases read
              intro other member
              rcases List.mem_cons.mp member with rfl | later
              · exact each entry.id entry.row other first
              · exact ih rest other later

theorem Database.readEntries_command_ne_empty {entries : List (Entry WakeRow)}
    {rules : List WakeRule} (read : readEntries WakeRow.toRule entries = .ok rules) :
    ∀ rule ∈ rules, rule.action.command ≠ some "" :=
  forall_readEntries (fun _ _ _ => WakeRow.command_ne_empty) read

end WakeSchedule
