import WakeSchedule.Console.Run
/-! Doing a deed. Which programs are started does not depend on how they end, and what comes of a
deed depends on the end of the last one alone, if that is one that must succeed. -/

namespace WakeSchedule

def Call.mustSucceed : Call → Bool
  | command _ => false
  | arm _ | powerOff => true

def Succeeds (answer : Except String ExitReport) : Prop :=
  ∃ report, answer = .ok report ∧ report.succeeded = true

namespace Deed

def calls : Deed → List Call
  | nothing | say _ => []
  | runCommand command => [.command command]
  | arm invocation => (invocation.preCommand.map .command).toList ++ [.arm invocation]
  | powerOff => [.powerOff]

def result (runner : Runner) : Deed → Except CommandError Unit
  | nothing | say _ | runCommand _ => .ok ()
  | arm invocation => checkExit "rtcwake" (runner (.arm invocation))
  | powerOff => checkExit "shutdown" (runner .powerOff)

theorem perform_run (runner : Runner) (deed : Deed) (started : List Call) :
    (deed.perform runner).run started = (deed.result runner, started ++ deed.calls) := by
  cases deed with
  | nothing | say line =>
      change (_, started) = (_, started ++ [])
      rw [List.append_nil]
      rfl
  | runCommand command => rfl
  | arm invocation =>
      rw [perform, calls]
      cases invocation.preCommand with
      | none => rfl
      | some command =>
          change (_, started ++ [Call.command command] ++ [Call.arm invocation]) =
            (_, started ++ ([Call.command command] ++ [Call.arm invocation]))
          rw [List.append_assoc]
          rfl
  | powerOff => rfl

theorem checkExit_eq_ok_iff (program : String) (answer : Except String ExitReport) :
    checkExit program answer = .ok () ↔ Succeeds answer := by
  cases answer with
  | error reason => simp [checkExit, Succeeds]
  | ok report => cases ended : report.succeeded <;> simp [checkExit, Succeeds, ended]

theorem result_congr {first second : Runner} (deed : Deed)
    (same : ∀ call, call.mustSucceed = true → first call = second call) :
    deed.result first = deed.result second := by
  cases deed with
  | nothing | say _ | runCommand _ => rfl
  | arm invocation => rw [result, result, same (.arm invocation) rfl]
  | powerOff => rw [result, result, same .powerOff rfl]

/-- The call that decides what comes of a deed is the last, where it must succeed. -/
theorem result_eq_ok_iff (runner : Runner) (deed : Deed) : deed.result runner = .ok () ↔
    ∀ call, deed.calls.getLast? = some call → call.mustSucceed = true →
      Succeeds (runner call) := by
  cases deed with
  | nothing | say _ => simp [result, calls]
  | runCommand command => simp [result, calls, Call.mustSucceed]
  | arm invocation => simp [result, calls, Call.mustSucceed, checkExit_eq_ok_iff]
  | powerOff => simp [result, calls, Call.mustSucceed, checkExit_eq_ok_iff]

end Deed

namespace Outcome

section Step

/-! A step starts no program, and its outcome is that of the step. -/

variable (step : Except CommandError (List String) × Database)

theorem ofStep_calls : (ofStep step).calls = [] := by
  rcases step with ⟨answer, db⟩
  cases answer <;> rfl

theorem ofStep_db : (ofStep step).db = step.2 := by
  rcases step with ⟨answer, db⟩
  cases answer <;> rfl

theorem ofStep_isOk : (ofStep step).result.isOk = step.1.isOk := by
  rcases step with ⟨answer, db⟩
  cases answer <;> rfl

end Step

section Decided

variable (dryRun : Bool) (runner : Runner) (db : Database) (deed : Deed)

theorem ofDeed_failed (failure : CommandError) :
    ofDeed dryRun runner db (.error failure) = ⟨.error failure, db, [], []⟩ :=
  rfl

theorem ofDeed_done :
    ofDeed false runner db (.ok deed) = ⟨deed.result runner, db, deed.told, deed.calls⟩ := by
  simp only [ofDeed, Bool.false_eq_true, if_false, Deed.perform_run, List.nil_append]

theorem ofDeed_announced : ofDeed true runner db (.ok deed) = ⟨.ok (), db, deed.announced, []⟩ :=
  rfl

theorem ofDeed_db (decision : Except CommandError Deed) :
    (ofDeed dryRun runner db decision).db = db := by
  cases decision with
  | error failure => rfl
  | ok deed => cases dryRun <;> rfl

end Decided

end Outcome

end WakeSchedule
