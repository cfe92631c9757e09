import WakeSchedule.Proofs.Store.Request
import WakeSchedule.Proofs.Store.Row

namespace WakeSchedule

theorem Settings.check_eq_ok_iff (settings : Settings) : settings.check = .ok () ↔
    checkOptions settings.options = .ok () ∧ checkBootTime settings.bootTime = .ok () := by
  constructor
  · intro valid
    rcases bind_eq_ok.mp valid with ⟨_, options, bootTime⟩
    exact ⟨options, bootTime⟩
  · rintro ⟨options, bootTime⟩
    exact bind_eq_ok.mpr ⟨(), options, bootTime⟩

theorem checkBootTime_eq_ok_iff (seconds : UInt16) :
    checkBootTime seconds = .ok () ↔ seconds.toNat ≤ maxBootTime := by
  unfold checkBootTime
  split <;> simp <;> omega

theorem defaultSettings_check : defaultSettings.check = .ok () := by decide

theorem readBootTime_toNat (seconds : UInt16) : readBootTime seconds.toNat = .ok seconds := by
  have bound := seconds.toNat_lt
  rw [readBootTime, if_pos (by omega), Int.toNat_natCast, UInt16.ofNat_toNat]

theorem SettingsRow.toSettings_ofSettings (settings : Settings) :
    (ofSettings settings).toSettings = .ok settings := by
  simp only [toSettings, ofSettings, PowerMode.parse_tag, readBootTime_toNat, isSet_flag]
  rfl

/-- The bounds of the table are no narrower than the limit that the check sets. -/
theorem SettingsRow.admitted_ofSettings {settings : Settings} (valid : settings.check = .ok ()) :
    (ofSettings settings).admitted = true := by
  have limit := (checkBootTime_eq_ok_iff _).mp ((Settings.check_eq_ok_iff settings).mp valid).2
  simp only [admitted, Bool.and_eq_true, decide_eq_true_eq]
  change 0 ≤ (settings.bootTime.toNat : Int) ∧ (settings.bootTime.toNat : Int) ≤ 3600
  unfold maxBootTime at limit
  omega

namespace Database

variable (db : Database) (settings : Settings)

theorem changeSettings_of_valid (valid : settings.check = .ok ()) :
    db.changeSettings settings = (.ok (), { db with settings := some (.ofSettings settings) }) := by
  rw [changeSettings, valid]
  exact if_pos (SettingsRow.admitted_ofSettings valid)

theorem changeSettings_of_invalid {violation : Violation}
    (invalid : settings.check = .error violation) :
    db.changeSettings settings = (.error (.violation violation), db) := by
  rw [changeSettings, invalid]

theorem changeSettings_eq_ok_iff :
    (db.changeSettings settings).1 = .ok () ↔ settings.check = .ok () := by
  cases check : settings.check with
  | error violation => simp [db.changeSettings_of_invalid settings check]
  | ok => simp [db.changeSettings_of_valid settings check]

theorem changeSettings_rules : (db.changeSettings settings).2.wake = db.wake ∧
    (db.changeSettings settings).2.sleep = db.sleep := by
  cases check : settings.check with
  | error violation =>
      rw [db.changeSettings_of_invalid settings check]
      exact ⟨rfl, rfl⟩
  | ok =>
      rw [db.changeSettings_of_valid settings check]
      exact ⟨rfl, rfl⟩

end Database

section Rules

/-! Operations on rules leave the settings. -/

variable (db : Database)

theorem Database.insertWake_settings (rule : WakeRule) :
    (RuleStore.insertWake rule db).2.settings = db.settings := by
  change (failingAs StoreError.toScheduleError (db.insertWake rule)).2.settings = _
  rw [failingAs, insertWake]
  split <;> rfl

theorem Database.insertSleep_settings (rule : SleepRule) :
    (RuleStore.insertSleep rule db).2.settings = db.settings := by
  change (failingAs StoreError.toScheduleError (db.insertSleep rule)).2.settings = _
  rw [failingAs, insertSleep]
  split <;> rfl

theorem Database.delete_settings (kind : RuleKind) (id : RuleId) :
    (RuleStore.delete kind id db).2.settings = db.settings := by
  cases kind <;> rfl

theorem Database.addWakeRule_settings (rule : WakeRule) :
    (addWakeRule rule db).2.settings = db.settings := by
  unfold addWakeRule
  split
  · rfl
  · exact db.insertWake_settings rule

theorem Database.addSleepRule_settings (rule : SleepRule) :
    (addSleepRule rule db).2.settings = db.settings := by
  unfold addSleepRule
  split
  · rfl
  · exact db.insertSleep_settings rule

theorem StoreRequest.serve_settings (request : StoreRequest) :
    (request.serve db).2.settings = db.settings := by
  cases request with
  | insertWake rule => exact db.insertWake_settings rule
  | insertSleep rule => exact db.insertSleep_settings rule
  | addWake rule => simp only [serve, replying, Database.addWakeRule_settings]
  | addSleep rule => simp only [serve, replying, Database.addSleepRule_settings]
  | delete kind id => exact db.delete_settings kind id
  | wakeRules | sleepRules | enabledWakeRules | enabledSleepRules | nextWake | tick | boot => rfl

end Rules

def DatabaseRequest.settingsChange? : DatabaseRequest → Option (Settings → Settings)
  | .changeSettings settings => some fun _ => settings
  | .reset => some fun _ => defaultSettings
  | .rules _ => none

theorem DatabaseRequest.serve_settings {request : DatabaseRequest}
    (other : request.settingsChange? = none) (db : Database) :
    (request.serve db).2.settings = db.settings := by
  cases request with
  | rules request => exact request.serve_settings db
  | changeSettings settings | reset => cases other

end WakeSchedule
