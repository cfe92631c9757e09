import WakeSchedule.Proofs.Console.Change
/-! Two processes that change the settings of one database. Each reads them in one step and writes
them back, changed, in another. Where the steps of both are mixed, the later write puts back what
its process has read, and the change of the other is lost in every field that the later one does not
give. -/

namespace WakeSchedule

inductive ChangePhase
  | started
  | holding (settings : Settings)
  | finished (answer : Except CommandError (List String))

def ChangePhase.succeeded : ChangePhase → Bool
  | started | holding _ => false
  | finished answer => answer.isOk

namespace SettingsChange

variable (change : SettingsChange)

def write (held : Settings) (db : Database) : Except CommandError (List String) × Database :=
  Console.answering .store (fun _ => (change.apply held).lines false)
    (db.changeSettings (change.apply held))

def advance (db : Database) : ChangePhase → ChangePhase × Database
  | .started =>
      match db.readSettings with
      | .error failure => (.finished (.error (.store failure)), db)
      | .ok settings => (.holding settings, db)
  | .holding held => (.finished (change.write held db).1, (change.write held db).2)
  | .finished answer => (.finished answer, db)

/-- The steps of a process, one right after the other, are the whole command. -/
theorem advance_advance (db : Database) :
    change.advance (change.advance db .started).2 (change.advance db .started).1 =
      (.finished (Console.changeSettings change db).1,
        (Console.changeSettings change db).2) := by
  rw [advance, Console.changeSettings]
  cases db.readSettings <;> rfl

variable {change} {held current : Settings} {db : Database}

theorem write_of_invalid {violation : Violation}
    (invalid : (change.apply held).check = .error violation) :
    change.write held db = (.error (.store (.violation violation)), db) := by
  rw [write, db.changeSettings_of_invalid _ invalid]
  rfl

theorem check_of_written (written : (change.write held db).1.isOk = true) :
    (change.apply held).check = .ok () := by
  cases check : (change.apply held).check with
  | ok => rfl
  | error violation =>
      rw [write_of_invalid check] at written
      cases written

theorem write_of_valid (valid : (change.apply held).check = .ok ()) :
    (change.write held db).2 = db.withSettings (change.apply held) := by
  rw [write, db.changeSettings_of_valid _ valid]
  rfl

theorem settled_of_admissible (admissible : change.Admissible) (settled : db.Settled current) :
    (Console.changeSettings change db).2 = db.withSettings (change.apply current) ∧
      (Console.changeSettings change db).2.Settled (change.apply current) := by
  rw [Console.changeSettings_of_admissible settled admissible]
  exact ⟨rfl, settled.withSettings_apply admissible⟩

end SettingsChange

inductive Process
  | first
  | second
  deriving DecidableEq, Repr

namespace Process

def other : Process → Process
  | first => second
  | second => first

theorem other_other (process : Process) : process.other.other = process := by
  cases process <;> rfl

theorem eq_or_eq_other (process last : Process) : process = last ∨ process = last.other := by
  cases process <;> cases last <;> decide

theorem ne_other (process : Process) : process ≠ process.other := by
  cases process <;> decide

theorem count_add_count (turns : List Process) :
    turns.count first + turns.count second = turns.length := by
  induction turns with
  | nil => rfl
  | cons process turns ih => cases process <;> simp <;> omega

/-- One process has finished before the other starts. -/
def Apart (turns : List Process) : Prop :=
  ∃ early : Process, turns = [early, early, early.other, early.other]

def Overlapping (turns : List Process) : Prop :=
  ∃ early last : Process, turns = [early, early.other, last.other, last]

theorem Apart.not_overlapping {turns : List Process} (apart : Apart turns) :
    ¬Overlapping turns := by
  rcases apart with ⟨early, rfl⟩
  intro overlapping
  rcases overlapping with ⟨start, last, same⟩
  rw [List.cons.injEq, List.cons.injEq] at same
  exact start.ne_other (same.1.symm.trans same.2.1)

theorem apart_or_overlapping {turns : List Process}
    (complete : ∀ process, turns.count process = 2) : Apart turns ∨ Overlapping turns := by
  have length := count_add_count turns
  rw [complete, complete] at length
  match turns, length with
  | [early, next, third, last], _ =>
      have shape : (next = early ∧ third = early.other ∧ last = early.other) ∨
          (next = early.other ∧ third = last.other) := by
        -- Of the sixteen lists of four turns, six give two to each process.
        have firsts := complete first
        revert firsts
        cases early <;> cases next <;> cases third <;> cases last <;> decide
      rcases shape with ⟨rfl, rfl, rfl⟩ | ⟨rfl, rfl⟩
      · exact .inl ⟨_, rfl⟩
      · exact .inr ⟨_, _, rfl⟩

end Process

structure Race where
  db : Database
  phase : Process → ChangePhase

namespace Race

variable (changes : Process → SettingsChange)

def start (db : Database) : Race := ⟨db, fun _ => .started⟩

def turn (race : Race) (process : Process) : Race :=
  let step := (changes process).advance race.db (race.phase process)
  { db := step.2, phase := fun other => if other = process then step.1 else race.phase other }

def run (db : Database) (turns : List Process) : Race := turns.foldl (turn changes) (start db)

def Succeeds (race : Race) : Prop := ∀ process, (race.phase process).succeeded = true

def inOrder (early : Process) (db : Database) : Database :=
  (Console.changeSettings (changes early.other)
    (Console.changeSettings (changes early) db).2).2

variable {changes} {db : Database} {current : Settings}

def Keeps (race : Race) (db : Database) : Prop :=
  ∃ settings, race.db = db.withSettings settings ∧ settings.check = .ok ()

theorem Keeps.turn {race : Race} (keeps : race.Keeps db) (process : Process) :
    (race.turn changes process).Keeps db := by
  rcases keeps with ⟨settings, kept, valid⟩
  rw [Keeps, Race.turn]
  cases race.phase process with
  | started =>
      refine ⟨settings, ?_, valid⟩
      rw [SettingsChange.advance]
      cases race.db.readSettings <;> exact kept
  | holding held =>
      cases check : ((changes process).apply held).check with
      | error violation =>
          rw [SettingsChange.advance, SettingsChange.write_of_invalid check]
          exact ⟨settings, kept, valid⟩
      | ok =>
          rw [SettingsChange.advance, SettingsChange.write_of_valid check, kept]
          exact ⟨_, rfl, check⟩
  | finished answer => exact ⟨settings, kept, valid⟩

/-- However the turns fall, and however many there are, the settings stay valid and the rules stay as
they are. -/
theorem run_keeps (settled : db.Settled current) (turns : List Process) :
    (run changes db turns).Keeps db := by
  have onward : ∀ race : Race, race.Keeps db → (turns.foldl (turn changes) race).Keeps db := by
    induction turns with
    | nil => exact fun _ keeps => keeps
    | cons process turns ih => exact fun race keeps => ih _ (keeps.turn process)
  exact onward (start db) ⟨current, settled.withSettings_eq.symm, settled.valid⟩

theorem run_apart (early : Process) :
    (run changes db [early, early, early.other, early.other]).db = inOrder changes early db := by
  have first := (changes early).advance_advance db
  have second := (changes early.other).advance_advance (Console.changeSettings (changes early) db).2
  simp [run, turn, start, first, second, early.ne_other.symm, inOrder]

theorem run_overlapping (settled : db.Settled current) (early last : Process) :
    (run changes db [early, early.other, last.other, last]).db =
        ((changes last).write current ((changes last.other).write current db).2).2 ∧
      (run changes db [early, early.other, last.other, last]).phase last =
        .finished ((changes last).write current ((changes last.other).write current db).2).1 ∧
      (run changes db [early, early.other, last.other, last]).phase last.other =
        .finished ((changes last.other).write current db).1 := by
  cases early <;> cases last <;>
    simp [run, turn, start, SettingsChange.advance, settled.read, Process.other]

/-- The last to write puts back what was there before both, but for its own change. -/
theorem db_of_overlapping (settled : db.Settled current) {early last : Process}
    (succeeds : (run changes db [early, early.other, last.other, last]).Succeeds) :
    (run changes db [early, early.other, last.other, last]).db =
        db.withSettings ((changes last).apply current) ∧
      ∀ process, (changes process).Admissible := by
  rcases run_overlapping settled early last with ⟨left, lastPhase, otherPhase⟩
  have lastDone := succeeds last
  have otherDone := succeeds last.other
  rw [lastPhase] at lastDone
  rw [otherPhase] at otherDone
  have lastValid := SettingsChange.check_of_written lastDone
  have otherValid := SettingsChange.check_of_written otherDone
  constructor
  · rw [left, SettingsChange.write_of_valid lastValid, SettingsChange.write_of_valid otherValid]
    rfl
  · intro process
    rcases process.eq_or_eq_other last with rfl | rfl
    · exact (SettingsChange.check_apply_iff _ settled.valid).mp lastValid
    · exact (SettingsChange.check_apply_iff _ settled.valid).mp otherValid

theorem inOrder_eq (settled : db.Settled current)
    (admissible : ∀ process, (changes process).Admissible) (early : Process) :
    inOrder changes early db =
      db.withSettings ((changes early.other).apply ((changes early).apply current)) := by
  rcases SettingsChange.settled_of_admissible (admissible early) settled with ⟨first, between⟩
  have second := (SettingsChange.settled_of_admissible (admissible early.other) between).1
  rw [inOrder, second, first]
  rfl

theorem exists_inOrder_iff (settled : db.Settled current)
    (admissible : ∀ process, (changes process).Admissible) (last : Process) :
    (∃ early, db.withSettings ((changes last).apply current) = inOrder changes early db) ↔
      ((changes last.other).without (changes last)).apply current = current := by
  constructor
  · intro ordered
    rcases ordered with ⟨early, same⟩
    rw [inOrder_eq settled admissible, Database.withSettings_inj] at same
    rcases early.eq_or_eq_other last with rfl | rfl
    · exact SettingsChange.without_apply_of_apply_apply _ _ same.symm
    · rw [last.other_other] at same
      exact (SettingsChange.apply_apply_eq_iff _ _).mp same.symm
  · intro hidden
    have same := (SettingsChange.apply_apply_eq_iff _ _).mpr hidden
    refine ⟨last.other, ?_⟩
    rw [inOrder_eq settled admissible, last.other_other, same]

end Race

/-- Two commands change valid settings at once, and both succeed. What they leave is what they leave
in one of the two orders just where one was done before the other began, or where the change that
was written first gives nothing new beyond what the last one gives too. Where they overlap, the last
to write puts back every field that it does not give as it was before both. -/
theorem racing_changes_end_in_order_iff {db : Database} {current : Settings}
    (settled : db.Settled current) (changes : Process → SettingsChange) {turns : List Process}
    (complete : ∀ process, turns.count process = 2)
    (succeeds : (Race.run changes db turns).Succeeds) :
    ((∃ early, (Race.run changes db turns).db = Race.inOrder changes early db) ↔
        Process.Apart turns ∨ ∃ last ∈ turns.getLast?,
          ((changes last.other).without (changes last)).apply current = current) ∧
      (Process.Overlapping turns → ∀ last ∈ turns.getLast?,
        (Race.run changes db turns).db = db.withSettings ((changes last).apply current)) := by
  rcases Process.apart_or_overlapping complete with ⟨early, rfl⟩ | ⟨early, last, rfl⟩
  · have apart : Process.Apart [early, early, early.other, early.other] := ⟨early, rfl⟩
    refine ⟨iff_of_true ⟨early, Race.run_apart early⟩ (.inl apart), ?_⟩
    intro overlapping
    exact absurd overlapping apart.not_overlapping
  · have overlapping : Process.Overlapping [early, early.other, last.other, last] :=
      ⟨early, last, rfl⟩
    rcases Race.db_of_overlapping settled succeeds with ⟨left, admissible⟩
    have ends : [early, early.other, last.other, last].getLast? = some last := rfl
    rw [left, ends, Race.exists_inOrder_iff settled admissible last]
    constructor
    · constructor
      · intro hidden
        exact .inr ⟨last, rfl, hidden⟩
      · intro cause
        rcases cause with apart | ⟨_, ⟨rfl⟩, hidden⟩
        · exact absurd overlapping apart.not_overlapping
        · exact hidden
    · intro _ _ same
      cases same
      rfl

theorem racing_changes_end_in_order_when_set_already :
    let changes : Process → SettingsChange
      | .first => ⟨none, some false, none, none, none, none, none⟩
      | .second => ⟨none, none, none, none, none, some 600, none⟩
    let race := Race.run changes {} [.first, .second, .first, .second]
    race.Succeeds ∧ ∃ early, race.db = Race.inOrder changes early {} := by
  intro changes race
  have succeeds : race.Succeeds := fun process => by cases process <;> decide
  have complete : ∀ process : Process,
      [Process.first, .second, .first, .second].count process = 2 := by
    intro process
    cases process <;> decide
  have ends := (racing_changes_end_in_order_iff .fresh changes complete succeeds).1
  exact ⟨succeeds, ends.mpr (.inr ⟨.second, rfl, by decide⟩)⟩

/-- The first process turns commands on, and the second one turns them off again without a word of
them. -/
theorem overlapping_changes_lose_one :
    let changes : Process → SettingsChange
      | .first => ⟨none, some true, none, none, none, none, none⟩
      | .second => ⟨none, none, none, none, none, some 600, none⟩
    let turns : List Process := [.first, .second, .first, .second]
    let race := Race.run changes {} turns
    ({} : Database).Settled defaultSettings ∧ (∀ process, turns.count process = 2) ∧
      race.Succeeds ∧ race.db.readSettings = .ok { defaultSettings with bootTime := 600 } ∧
      (∀ early, (Race.inOrder changes early {}).readSettings =
        .ok { defaultSettings with commandsEnabled := true, bootTime := 600 }) ∧
      ∀ early, race.db ≠ Race.inOrder changes early {} := by
  intro changes turns race
  refine ⟨.fresh, ?_, ?_, by decide, ?_, ?_⟩
  · intro process
    cases process <;> decide
  · intro process
    cases process <;> decide
  · intro early
    cases early <;> decide
  · intro early
    cases early <;> decide

end WakeSchedule
