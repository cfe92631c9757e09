import WakeSchedule.Proofs.Console.Occasion

namespace WakeSchedule

/-- The forms that the calls of a command can take under the settings. A command that is run before
an alarm is set is that of the order, and there is no command without a text. -/
inductive Conduct (settings : Settings) : Command → List Call → Prop
  | silent (command : Command) : Conduct settings command []
  | arm (target : WakeTarget) (order : Invocation) :
      Conduct settings (.schedule target false) [.arm order]
  | commandAndArm (order : Invocation) (text : String) (own : order.preCommand = some text)
      (something : text ≠ "") (commands : settings.commandsEnabled = true) :
      Conduct settings (.schedule .nextRule false) [.command text, .arm order]
  | suspend (order : Invocation) (on : settings.enabled = true) :
      Conduct settings (.tick false) [.arm order]
  | commandAndSuspend (order : Invocation) (text : String)
      (own : order.preCommand = some text) (something : text ≠ "")
      (on : settings.enabled = true) (commands : settings.commandsEnabled = true) :
      Conduct settings (.tick false) [.command text, .arm order]
  | powerOff (on : settings.enabled = true) : Conduct settings (.tick false) [.powerOff]
  | command (text : String) (something : text ≠ "") (on : settings.enabled = true)
      (commands : settings.commandsEnabled = true) :
      Conduct settings (.boot false) [.command text]

section Conduct

variable {db : Database} {clock : Clock} {settings : Settings}

theorem Decided.conduct {occasion : Occasion} {deed : Deed}
    (decided : Decided db clock settings occasion deed) :
    Conduct settings (occasion.command false) deed.calls := by
  cases decided with
  | next order scheduled =>
      rw [Deed.calls]
      cases first : order.preCommand with
      | none => exact .arm .nextRule order
      | some text =>
          rcases Invocation.preCommand_eq_some first with ⟨carries, something⟩
          exact .commandAndArm order text first something (commands_of_scheduled scheduled carries)
  | noNext line => exact .silent _
  | manual text mode order bare =>
      have first : order.preCommand = none := by rw [Invocation.preCommand, bare]; rfl
      rw [Deed.calls, first]
      exact .arm (.timestamp text mode) order
  | stayOn => exact .silent _
  | suspend order on scheduled =>
      rw [Deed.calls]
      cases first : order.preCommand with
      | none => exact .suspend order on
      | some text =>
          rcases Invocation.preCommand_eq_some first with ⟨carries, something⟩
          exact .commandAndSuspend order text first something on
            (commands_of_scheduled scheduled carries)
  | powerOff on => exact .powerOff on
  | noCommand => exact .silent _
  | runCommand text something on commands => exact .command text something on commands

variable (read : db.readSettings = .ok settings)

include read

theorem Command.run_conduct (command : Command) (runner : Runner) :
    Conduct settings command (command.run clock runner db).calls := by
  rcases command.silent_or_done clock runner db with silent | ⟨occasion, deed, rfl, decides, run⟩
  · rw [silent]
    exact .silent command
  · rw [run]
    exact (Occasion.decided read decides).conduct

theorem schedule_calls_of_scheduled (runner : Runner) {order : Invocation}
    (scheduled : scheduleNextWake db clock settings = .ok order) :
    ((Command.schedule .nextRule false).run clock runner db).calls =
      (order.preCommand.map .command).toList ++ [.arm order] := by
  change (Outcome.ofDeed false runner db ((Occasion.schedule .nextRule).deed clock db)).calls = _
  rw [Occasion.deed_of_scheduled read scheduled, Outcome.ofDeed_done]
  rfl

theorem tick_calls_eq_schedule_calls (runner : Runner) {order : Invocation}
    (armed : .arm order ∈ ((Command.tick false).run clock runner db).calls) :
    ((Command.tick false).run clock runner db).calls =
      ((Command.schedule .nextRule false).run clock runner db).calls := by
  change .arm order ∈ (Outcome.ofDeed false runner db (Occasion.tick.deed clock db)).calls at armed
  change (Outcome.ofDeed false runner db (Occasion.tick.deed clock db)).calls =
    (Outcome.ofDeed false runner db ((Occasion.schedule .nextRule).deed clock db)).calls
  cases decides : Occasion.tick.deed clock db with
  | error failure =>
      rw [decides] at armed
      cases armed
  | ok deed =>
      rw [decides, Outcome.ofDeed_done] at armed
      cases Occasion.decided read decides with
      | stayOn => cases armed
      | powerOff => simp [Deed.calls] at armed
      | suspend later _ scheduled => rw [Occasion.deed_of_scheduled read scheduled]

end Conduct

section Result

variable (clock : Clock) (db : Database)

/-- How a rule's command ends, or whether it starts, makes no difference. -/
theorem Command.run_congr (command : Command) {first second : Runner}
    (same : ∀ call, call.mustSucceed = true → first call = second call) :
    command.run clock first db = command.run clock second db := by
  rcases command.occasion_or_step with ⟨occasion, dryRun, rfl⟩ | ⟨step, run⟩
  · rw [occasion.run_command, occasion.run_command]
    cases occasion.deed clock db with
    | error failure => rfl
    | ok deed =>
        cases dryRun with
        | true => rfl
        | false => rw [Outcome.ofDeed_done, Outcome.ofDeed_done, deed.result_congr same]
  · rw [run, run]

theorem Command.result_error_iff (command : Command) (runner : Runner)
    (called : (command.run clock runner db).calls ≠ []) :
    (∃ failure, (command.run clock runner db).result = .error failure) ↔
      ∃ call, (command.run clock runner db).calls.getLast? = some call ∧
        call.mustSucceed = true ∧ ¬Succeeds (runner call) := by
  rcases command.silent_or_done clock runner db with silent | ⟨occasion, deed, _, _, run⟩
  · exact absurd silent called
  · rw [run]
    have failed : (∃ failure, deed.result runner = .error failure) ↔
        ¬deed.result runner = .ok () := by
      cases deed.result runner <;> simp
    rw [failed, Deed.result_eq_ok_iff]
    simp only [not_forall, exists_prop]

end Result

/-- What a command may do to the machine. Its calls have one of a few forms, under the settings that
allow it; scheduling sets the alarm that is due, and a tick that sets one does what scheduling does;
rule commands that fail change nothing; and after any call the command fails exactly where the last
call had to succeed and did not. -/
theorem commands_call_in_order {db : Database} {settings : Settings}
    (read : db.readSettings = .ok settings) (clock : Clock) :
    (∀ (command : Command) (runner : Runner),
      Conduct settings command (command.run clock runner db).calls) ∧
    (∀ (command : Command) (first second : Runner),
      (∀ call, call.mustSucceed = true → first call = second call) →
        command.run clock first db = command.run clock second db) ∧
    (∀ (runner : Runner) (order : Invocation), scheduleNextWake db clock settings = .ok order →
      ((Command.schedule .nextRule false).run clock runner db).calls =
        (order.preCommand.map .command).toList ++ [.arm order]) ∧
    (∀ (runner : Runner) (order : Invocation),
      .arm order ∈ ((Command.tick false).run clock runner db).calls →
        ((Command.tick false).run clock runner db).calls =
          ((Command.schedule .nextRule false).run clock runner db).calls) ∧
    ∀ (command : Command) (runner : Runner), (command.run clock runner db).calls ≠ [] →
      ((∃ failure, (command.run clock runner db).result = .error failure) ↔
        ∃ call, (command.run clock runner db).calls.getLast? = some call ∧
          call.mustSucceed = true ∧ ¬Succeeds (runner call)) := by
  refine ⟨?_, ?_, ?_, ?_, ?_⟩
  · intro command runner
    exact command.run_conduct read runner
  · intro command first second same
    exact command.run_congr clock db same
  · intro runner order scheduled
    exact schedule_calls_of_scheduled read runner scheduled
  · intro runner order armed
    exact tick_calls_eq_schedule_calls read runner armed
  · intro command runner called
    exact command.result_error_iff clock db runner called

def mondayDatabase : Database :=
  let wake : WakeRule := wakeRule "early" ⟨6, 30, 0⟩ (.ofDays [.tuesday]) (some "mount") .mem
  let sleep : SleepRule := sleepRule "night" ⟨23, 0⟩ (.ofDays [.monday])
  { wake := ⟨[⟨1, .ofRule wake⟩], 1⟩, sleep := ⟨[⟨1, .ofRule sleep⟩], 1⟩,
    settings := some (.ofSettings { defaultSettings with commandsEnabled := true }) }

def mondayNight : Clock := .ofMoment ⟨⟨2026, 1, 5, by decide⟩, ⟨23, 2, 0⟩⟩

theorem commands_call_in_order_on_monday :
    let settings := { defaultSettings with commandsEnabled := true }
    let runner : Runner := fun call =>
      match call with
      | .command _ => .error "not found"
      | .arm _ | .powerOff => .ok ⟨"rtcwake", some 0⟩
    let order : Invocation := ⟨⟨⟨2026, 1, 6, by decide⟩, ⟨6, 30, 0⟩⟩, .mem, some "mount", "-a"⟩
    mondayDatabase.readSettings = .ok settings ∧
      ((Command.tick false).run mondayNight runner mondayDatabase).calls =
        [.command "mount", .arm order] ∧
      ((Command.tick false).run mondayNight runner mondayDatabase).result = .ok () ∧
      Conduct settings (.tick false) [.command "mount", .arm order] := by
  intro settings runner order
  have read : mondayDatabase.readSettings = .ok settings := by decide
  have calls : ((Command.tick false).run mondayNight runner mondayDatabase).calls =
      [.command "mount", .arm order] := by decide
  have result : ((Command.tick false).run mondayNight runner mondayDatabase).result = .ok () := by
    decide
  have conduct := (commands_call_in_order read mondayNight).1 (.tick false) runner
  rw [calls] at conduct
  exact ⟨read, calls, result, conduct⟩

end WakeSchedule
