import WakeSchedule.Proofs.Console.Calls

namespace WakeSchedule

/-- The text by which a program is announced. A command that an alarm is set after is marked. -/
def Occasion.announces : Occasion → Call → String
  | boot, .command text => text
  | schedule _, .command text | tick, .command text => "pre-command: " ++ text
  | _, .arm order => order.commandLine
  | _, .powerOff => "shutdown --poweroff now"

namespace Deed

theorem told_of_calls {deed : Deed} (called : deed.calls ≠ []) : deed.told = [] := by
  cases deed with
  | nothing | say line => exact absurd rfl called
  | runCommand command | arm invocation | powerOff => rfl

theorem arm_announced (order : Invocation) {announces : Call → String}
    (marks : ∀ text, announces (.command text) = "pre-command: " ++ text)
    (arms : announces (.arm order) = order.commandLine) :
    (arm order).announced = (arm order).calls.map announces := by
  rw [announced, preCommandLine, calls, List.map_append, List.map_singleton, arms]
  cases order.preCommand with
  | none => rfl
  | some text =>
      change ["pre-command: " ++ text] ++ _ = [announces (.command text)] ++ _
      rw [marks text]

theorem result_of_succeeds {runner : Runner} (succeeds : ∀ call, Succeeds (runner call))
    (deed : Deed) : deed.result runner = .ok () := by
  rw [result_eq_ok_iff]
  intro call _ _
  exact succeeds call

end Deed

section Announce

variable {db : Database} {clock : Clock} {settings : Settings} {occasion : Occasion} {deed : Deed}

theorem Decided.announced_eq (decided : Decided db clock settings occasion deed) :
    deed.announced = deed.told ++ deed.calls.map occasion.announces := by
  cases decided with
  | next order | manual text mode order | suspend order =>
      exact Deed.arm_announced order (fun _ => rfl) rfl
  | noNext line | stayOn | powerOff | noCommand | runCommand text => rfl

theorem Occasion.settings_read (decides : occasion.deed clock db = .ok deed) :
    ∃ settings, db.readSettings = .ok settings := by
  cases occasion with
  | schedule target | tick | boot =>
      obtain ⟨settings, read, _⟩ := bind_eq_ok.mp decides
      exact ⟨settings, mapError_eq_ok.mp read⟩

theorem Occasion.announced_eq (decides : occasion.deed clock db = .ok deed) :
    deed.announced = deed.told ++ deed.calls.map occasion.announces := by
  obtain ⟨settings, read⟩ := Occasion.settings_read decides
  exact (Occasion.decided read decides).announced_eq

end Announce

/-- A dry run is true to the run in which every program succeeds: both leave the database as it is
and come to the same result; either both start nothing and write the same, or the run writes nothing
and the dry run writes a text for each program that the run starts, in order. -/
theorem dry_run_is_true_to_the_run (occasion : Occasion) (clock : Clock) (db : Database)
    (idle : Runner) {runner : Runner} (succeeds : ∀ call, Succeeds (runner call)) :
    let dry := (occasion.command true).run clock idle db
    let done := (occasion.command false).run clock runner db
    (dry.db = db ∧ done.db = db) ∧ dry.result = done.result ∧ dry.calls = [] ∧
      (done.calls = [] → dry.output = done.output) ∧
      (done.calls ≠ [] → done.output = "" ∧
        dry.output = String.join (done.calls.map fun call => occasion.announces call ++ "\n")) := by
  intro dry done
  cases decides : occasion.deed clock db with
  | error failure =>
      have dryFails : dry = ⟨.error failure, db, [], []⟩ := by
        simp only [dry, occasion.run_command, decides, Outcome.ofDeed_failed]
      have fails : done = ⟨.error failure, db, [], []⟩ := by
        simp only [done, occasion.run_command, decides, Outcome.ofDeed_failed]
      rw [dryFails, fails]
      exact ⟨⟨rfl, rfl⟩, rfl, rfl, fun _ => rfl, fun called => absurd rfl called⟩
  | ok deed =>
      have announces : dry = ⟨.ok (), db, deed.announced, []⟩ := by
        simp only [dry, occasion.run_command, decides, Outcome.ofDeed_announced]
      have does : done = ⟨.ok (), db, deed.told, deed.calls⟩ := by
        simp only [done, occasion.run_command, decides, Outcome.ofDeed_done,
          Deed.result_of_succeeds succeeds]
      rw [announces, does]
      have written := Occasion.announced_eq decides
      refine ⟨⟨rfl, rfl⟩, rfl, rfl, ?_, ?_⟩
      · intro (silent : deed.calls = [])
        rw [silent, List.map_nil, List.append_nil] at written
        simp only [Outcome.output, written]
      · intro (called : deed.calls ≠ [])
        have untold := Deed.told_of_calls called
        rw [untold, List.nil_append] at written
        simp only [Outcome.output, untold, written, List.map_map]
        exact ⟨rfl, rfl⟩

theorem dry_run_is_true_on_monday :
    let runner : Runner := fun _ => .ok ⟨"rtcwake", some 0⟩
    let dry := (Command.tick true).run mondayNight runner mondayDatabase
    let done := (Command.tick false).run mondayNight runner mondayDatabase
    (∀ call, Succeeds (runner call)) ∧ done.calls.length = 2 ∧ done.output = "" ∧
      dry.output = String.join (done.calls.map fun call => Occasion.tick.announces call ++ "\n") ∧
      dry.output = "pre-command: mount\nrtcwake --date 20260106063000 -a -m mem\n" := by
  intro runner dry done
  have succeeds : ∀ call, Succeeds (runner call) := fun call => ⟨_, rfl, rfl⟩
  have two : done.calls.length = 2 := by decide
  have called : done.calls ≠ [] := List.ne_nil_of_length_eq_add_one two
  rcases dry_run_is_true_to_the_run .tick mondayNight mondayDatabase runner succeeds with
    ⟨_, _, _, _, announced⟩
  exact ⟨succeeds, two, (announced called).1, (announced called).2, by decide⟩

end WakeSchedule
