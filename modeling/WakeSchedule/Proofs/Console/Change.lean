import WakeSchedule.Proofs.Console.Settings

namespace WakeSchedule

section Fields

variable {α β : Type}

def unlessGiven (other given : Option α) : Option α := if other.isSome then none else given

theorem getD_getD_eq_iff (first second : Option α) (value : α) :
    second.getD (first.getD value) = second.getD value ↔
      (unlessGiven second first).getD value = value := by
  cases second with
  | none => exact Iff.rfl
  | some given => exact iff_of_true rfl rfl

theorem getD_unlessGiven_of_getD {first second : Option α} {value : α}
    (kept : first.getD (second.getD value) = second.getD value) :
    (unlessGiven second first).getD value = value := by
  cases second with
  | none => exact kept
  | some given => rfl

theorem map_unlessGiven (f : α → β) (other given : Option α) :
    (unlessGiven other given).map f = unlessGiven (other.map f) (given.map f) := by
  cases other <;> rfl

end Fields

namespace SettingsChange

def without (change other : SettingsChange) : SettingsChange :=
  { enabled := unlessGiven other.enabled change.enabled
    commands := unlessGiven other.commands change.commands
    localTime := unlessGiven other.localTime change.localTime
    options := unlessGiven other.options change.options
    defaultMode := unlessGiven other.defaultMode change.defaultMode
    bootTime := unlessGiven other.bootTime change.bootTime
    shutdownOnFailure := unlessGiven other.shutdownOnFailure change.shutdownOnFailure }

structure Admissible (change : SettingsChange) : Prop where
  options : ∀ options, change.options = some options → checkOptions (trim options) = .ok ()
  bootTime : ∀ seconds, change.bootTime = some seconds → checkBootTime seconds = .ok ()

variable {settings : Settings} (change first second : SettingsChange)

theorem checkOptions_apply (valid : settings.check = .ok ()) :
    checkOptions (change.apply settings).options = .ok () ↔
      ∀ options, change.options = some options → checkOptions (trim options) = .ok () := by
  rw [apply]
  cases change.options with
  | none => exact iff_of_true ((Settings.check_eq_ok_iff settings).mp valid).1 nofun
  | some given => simp

theorem checkBootTime_apply (valid : settings.check = .ok ()) :
    checkBootTime (change.apply settings).bootTime = .ok () ↔
      ∀ seconds, change.bootTime = some seconds → checkBootTime seconds = .ok () := by
  rw [apply]
  cases change.bootTime with
  | none => exact iff_of_true ((Settings.check_eq_ok_iff settings).mp valid).2 nofun
  | some given => simp

theorem check_apply_iff (valid : settings.check = .ok ()) :
    (change.apply settings).check = .ok () ↔ change.Admissible := by
  rw [Settings.check_eq_ok_iff, change.checkOptions_apply valid, change.checkBootTime_apply valid]
  exact ⟨fun both => ⟨both.1, both.2⟩, fun admissible => ⟨admissible.options, admissible.bootTime⟩⟩

/-- The second change hides the first where the first changes nothing that the second leaves. -/
theorem apply_apply_eq_iff : second.apply (first.apply settings) = second.apply settings ↔
    (first.without second).apply settings = settings := by
  cases settings
  simp only [apply, without, Settings.mk.injEq, map_unlessGiven, getD_getD_eq_iff]

theorem without_apply_of_apply_apply
    (kept : first.apply (second.apply settings) = second.apply settings) :
    (first.without second).apply settings = settings := by
  simp only [apply, Settings.mk.injEq] at kept
  obtain ⟨enabled, commands, localTime, options, defaultMode, bootTime, shutdown⟩ := kept
  simp only [apply, without, map_unlessGiven, getD_unlessGiven_of_getD enabled,
    getD_unlessGiven_of_getD commands, getD_unlessGiven_of_getD localTime,
    getD_unlessGiven_of_getD options, getD_unlessGiven_of_getD defaultMode,
    getD_unlessGiven_of_getD bootTime, getD_unlessGiven_of_getD shutdown]

end SettingsChange

def Database.withSettings (db : Database) (settings : Settings) : Database :=
  { db with settings := some (.ofSettings settings) }

theorem Database.withSettings_inj {db : Database} {first second : Settings} :
    db.withSettings first = db.withSettings second ↔ first = second := by
  constructor
  · intro same
    have rows : SettingsRow.ofSettings first = .ofSettings second :=
      Option.some.inj (congrArg Database.settings same)
    have read := congrArg SettingsRow.toSettings rows
    rw [SettingsRow.toSettings_ofSettings, SettingsRow.toSettings_ofSettings] at read
    exact Except.ok.inj read
  · exact congrArg db.withSettings

section Command

variable {db : Database} {current : Settings} {change : SettingsChange}

theorem Database.Settled.withSettings_eq (settled : db.Settled current) :
    db.withSettings current = db := by
  rw [withSettings, ← settled.stored]

theorem Database.Settled.withSettings_apply (settled : db.Settled current)
    (admissible : change.Admissible) :
    (db.withSettings (change.apply current)).Settled (change.apply current) :=
  ⟨rfl, (change.check_apply_iff settled.valid).mpr admissible⟩

theorem Console.changeSettings_of_admissible (settled : db.Settled current)
    (admissible : change.Admissible) : Console.changeSettings change db =
      (.ok ((change.apply current).lines false), db.withSettings (change.apply current)) := by
  have valid := (change.check_apply_iff settled.valid).mpr admissible
  rw [Console.changeSettings, settled.read]
  simp only [answering, db.changeSettings_of_valid _ valid]
  rfl

theorem Console.changeSettings_of_inadmissible (settled : db.Settled current)
    (inadmissible : ¬change.Admissible) :
    ∃ violation, Console.changeSettings change db = (.error (.store (.violation violation)), db) := by
  cases check : (change.apply current).check with
  | ok => exact absurd ((change.check_apply_iff settled.valid).mp check) inadmissible
  | error violation =>
      refine ⟨violation, ?_⟩
      rw [Console.changeSettings, settled.read]
      simp only [answering, db.changeSettings_of_invalid _ check]
      rfl

end Command

end WakeSchedule
