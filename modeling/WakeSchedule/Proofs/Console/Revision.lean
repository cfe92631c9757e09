import WakeSchedule.Proofs.Console.Change
import WakeSchedule.Proofs.OptionFlags

namespace WakeSchedule

structure Takes {α : Type} (given : Option α) (before after : α) : Prop where
  replaced : ∀ value, given = some value → after = value
  kept : given = none → after = before

theorem takes_iff {α : Type} {given : Option α} {before after : α} :
    Takes given before after ↔ after = given.getD before := by
  cases given with
  | none => exact ⟨fun takes => takes.kept rfl, fun same => ⟨nofun, fun _ => same⟩⟩
  | some value =>
      constructor
      · exact fun takes => takes.replaced value rfl
      · exact fun same => ⟨fun _ given => same.trans (Option.some.inj given), nofun⟩

namespace SettingsChange

/-- The settings after a change are those before it but for what the change gives. Options are given
with blanks around them that do not count. -/
structure LiesOver (change : SettingsChange) (before after : Settings) : Prop where
  enabled : Takes change.enabled before.enabled after.enabled
  commands : Takes change.commands before.commandsEnabled after.commandsEnabled
  localTime : Takes change.localTime before.useLocalTime after.useLocalTime
  options : Takes (change.options.map trim) before.options after.options
  defaultMode : Takes change.defaultMode before.defaultMode after.defaultMode
  bootTime : Takes change.bootTime before.bootTime after.bootTime
  shutdownOnFailure :
    Takes change.shutdownOnFailure before.shutdownOnFailure after.shutdownOnFailure

/-- No word of the options that are given stands for a reserved flag, and a boot time that is given
is at most an hour. -/
structure Allowed (change : SettingsChange) : Prop where
  options : ∀ options, change.options = some options →
    ∀ word ∈ words (trim options), ∀ flag ∈ reservedFlags, ¬StandsFor flag word
  bootTime : ∀ seconds, change.bootTime = some seconds → seconds.toNat ≤ 3600

def nothing : SettingsChange := ⟨none, none, none, none, none, none, none⟩

/-- Both changes in one, where the second decides what both give. -/
def overriddenBy (first second : SettingsChange) : SettingsChange :=
  { enabled := second.enabled.or first.enabled
    commands := second.commands.or first.commands
    localTime := second.localTime.or first.localTime
    options := second.options.or first.options
    defaultMode := second.defaultMode.or first.defaultMode
    bootTime := second.bootTime.or first.bootTime
    shutdownOnFailure := second.shutdownOnFailure.or first.shutdownOnFailure }

variable (change first second : SettingsChange) (settings : Settings)

theorem liesOver_apply : change.LiesOver settings (change.apply settings) where
  enabled := takes_iff.mpr rfl
  commands := takes_iff.mpr rfl
  localTime := takes_iff.mpr rfl
  options := takes_iff.mpr rfl
  defaultMode := takes_iff.mpr rfl
  bootTime := takes_iff.mpr rfl
  shutdownOnFailure := takes_iff.mpr rfl

theorem admissible_iff_allowed : change.Admissible ↔ change.Allowed := by
  have options (given : String) : checkOptions given = .ok () ↔
      ∀ word ∈ words given, ∀ flag ∈ reservedFlags, ¬StandsFor flag word := by
    simp only [checkOptions_eq_ok_iff, unreserved_iff_stands]
  constructor
  · rintro ⟨checked, bounded⟩
    exact ⟨fun given some => (options _).mp (checked given some),
      fun seconds some => (checkBootTime_eq_ok_iff seconds).mp (bounded seconds some)⟩
  · rintro ⟨free, bounded⟩
    exact ⟨fun given some => (options _).mpr (free given some),
      fun seconds some => (checkBootTime_eq_ok_iff seconds).mpr (bounded seconds some)⟩

theorem nothing_admissible : nothing.Admissible := ⟨nofun, nofun⟩

theorem nothing_apply : nothing.apply settings = settings := rfl

theorem overriddenBy_self : change.overriddenBy change = change := by
  simp only [overriddenBy, Option.or_self]

theorem overriddenBy_apply :
    (first.overriddenBy second).apply settings = second.apply (first.apply settings) := by
  simp only [overriddenBy, apply, Option.map_or, Option.getD_or]

variable {change first second}

theorem Admissible.overriddenBy (one : first.Admissible) (other : second.Admissible) :
    (first.overriddenBy second).Admissible := by
  constructor
  · intro options given
    rcases Option.or_eq_some_iff.mp given with later | ⟨_, earlier⟩
    · exact other.options options later
    · exact one.options options earlier
  · intro seconds given
    rcases Option.or_eq_some_iff.mp given with later | ⟨_, earlier⟩
    · exact other.bootTime seconds later
    · exact one.bootTime seconds earlier

end SettingsChange

section Runs

variable {db : Database} {current : Settings} {change first second : SettingsChange}
  {clock : Clock} {runner : Runner}

theorem Command.change_of_admissible (settled : db.Settled current)
    (admissible : change.Admissible) (clock : Clock) (runner : Runner) :
    ((changeSettings change).run clock runner db).result = .ok () ∧
      ((changeSettings change).run clock runner db).db =
        db.withSettings (change.apply current) := by
  rw [run, Console.changeSettings_of_admissible settled admissible]
  exact ⟨rfl, rfl⟩

theorem Command.change_of_inadmissible (settled : db.Settled current)
    (inadmissible : ¬change.Admissible) (clock : Clock) (runner : Runner) :
    ((changeSettings change).run clock runner db).result ≠ .ok () ∧
      ((changeSettings change).run clock runner db).db = db := by
  obtain ⟨violation, failed⟩ := Console.changeSettings_of_inadmissible settled inadmissible
  rw [run, failed]
  refine ⟨?_, rfl⟩
  intro succeeded
  cases succeeded

theorem Command.change_succeeds_iff (settled : db.Settled current) :
    ((changeSettings change).run clock runner db).result = .ok () ↔ change.Admissible := by
  by_cases admissible : change.Admissible
  · exact iff_of_true (change_of_admissible settled admissible clock runner).1 admissible
  · exact iff_of_false (change_of_inadmissible settled admissible clock runner).1 admissible

/-- The second change finds the settings of the first one, so both have come to the one of both. -/
theorem Command.change_change (settled : db.Settled current) (one : first.Admissible)
    (other : second.Admissible) (clock clock' : Clock) (runner runner' : Runner) :
    let between := ((changeSettings first).run clock runner db).db
    ((changeSettings second).run clock' runner' between).result = .ok () ∧
      ((changeSettings second).run clock' runner' between).db =
        db.withSettings ((first.overriddenBy second).apply current) := by
  intro between
  have left : between = db.withSettings (first.apply current) :=
    (change_of_admissible settled one clock runner).2
  have again := change_of_admissible (settled.withSettings_apply one) other clock' runner'
  rw [left, first.overriddenBy_apply second current]
  exact again

end Runs

/-- After any run on a fresh database a command that changes its settings succeeds just where what
it gives is allowed, whatever the settings are. It then lays what it gives over them, and otherwise
it leaves the database as it is. A change of nothing leaves everything, a change that has succeeded
changes nothing when it is repeated, and two that succeed leave what the one of both leaves. -/
theorem changes_lie_over_the_settings (actions : List Action) (clock : Nat → Clock)
    (runner : Nat → Runner) :
    let db := (serveAll Action.perform ({} : Database) actions).2
    let run (turn : Nat) (change : SettingsChange) (db : Database) :=
      (Command.changeSettings change).run (clock turn) (runner turn) db
    ∃ current, db.readSettings = .ok current ∧
      (∀ change, ((run 1 change db).result = .ok () ↔ change.Allowed) ∧
        (change.Allowed → ∃ next, change.LiesOver current next ∧
          (run 1 change db).db = db.withSettings next ∧
          (run 1 change db).db.readSettings = .ok next) ∧
        (¬change.Allowed → (run 1 change db).db = db)) ∧
      ((run 1 .nothing db).result = .ok () ∧ (run 1 .nothing db).db = db) ∧
      (∀ change, (run 1 change db).result = .ok () →
        (run 2 change (run 1 change db).db).result = .ok () ∧
          (run 2 change (run 1 change db).db).db = (run 1 change db).db) ∧
      ∀ first second, (run 1 first db).result = .ok () →
        (run 2 second (run 1 first db).db).result = .ok () →
        (run 3 (first.overriddenBy second) db).result = .ok () ∧
          (run 3 (first.overriddenBy second) db).db = (run 2 second (run 1 first db).db).db := by
  intro db run
  have settled : db.Settled _ := Database.run_settled actions
  have succeeds (turn : Nat) (change : SettingsChange) :
      (run turn change db).result = .ok () ↔ change.Admissible :=
    Command.change_succeeds_iff settled
  have done (turn : Nat) {change : SettingsChange} (admissible : change.Admissible) :=
    Command.change_of_admissible settled admissible (clock turn) (runner turn)
  refine ⟨_, settled.read, ?_, ?_, ?_, ?_⟩
  · intro change
    rw [succeeds, ← change.admissible_iff_allowed]
    refine ⟨Iff.rfl, ?_, ?_⟩
    · intro admissible
      have left := (done 1 admissible).2
      refine ⟨_, change.liesOver_apply _, left, ?_⟩
      exact left ▸ (settled.withSettings_apply admissible).read
    · intro inadmissible
      exact (Command.change_of_inadmissible settled inadmissible (clock 1) (runner 1)).2
  · have nothing := done 1 SettingsChange.nothing_admissible
    rw [SettingsChange.nothing_apply, settled.withSettings_eq] at nothing
    exact nothing
  · intro change once
    have admissible := (succeeds 1 change).mp once
    have twice := Command.change_change settled admissible admissible (clock 1) (clock 2) (runner 1)
      (runner 2)
    rw [change.overriddenBy_self, ← (done 1 admissible).2] at twice
    exact twice
  · intro first second once next
    have one := (succeeds 1 first).mp once
    have between := settled.withSettings_apply one
    rw [← (done 1 one).2] at between
    have other := (Command.change_succeeds_iff between).mp next
    have both := Command.change_change settled one other (clock 1) (clock 2) (runner 1) (runner 2)
    have merged := done 3 (one.overriddenBy other)
    rw [← both.2] at merged
    exact merged

theorem later_change_decides_the_boot_time :
    let chosen : Settings := { defaultSettings with commandsEnabled := true, defaultMode := .disk }
    let first : SettingsChange := ⟨none, none, none, some " --device rtc1\t", none, some 900, none⟩
    let second : SettingsChange := ⟨none, none, some false, none, none, some 3600, none⟩
    let db := (serveAll Action.perform ({} : Database) [.serve (.changeSettings chosen)]).2
    let clock : Clock := .ofMoment ⟨⟨2026, 1, 5, by decide⟩, ⟨23, 2, 0⟩⟩
    let run (change : SettingsChange) (db : Database) :=
      (Command.changeSettings change).run clock (fun _ => .error "not found") db
    (run first db).result = .ok () ∧ (run second (run first db).db).result = .ok () ∧
      (run (first.overriddenBy second) db).db = (run second (run first db).db).db ∧
      (run second (run first db).db).db.readSettings = .ok
        { chosen with useLocalTime := false, options := "--device rtc1", bootTime := 3600 } := by
  intro chosen first second db clock run
  have one : (run first db).result = .ok () := by decide
  have next : (run second (run first db).db).result = .ok () := by decide
  obtain ⟨_, _, _, _, _, both⟩ := changes_lie_over_the_settings [.serve (.changeSettings chosen)]
    (fun _ => clock) (fun _ _ => .error "not found")
  exact ⟨one, next, (both first second one next).2, by decide⟩

end WakeSchedule
