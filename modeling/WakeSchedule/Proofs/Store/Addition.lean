import WakeSchedule.Proofs.Store.Account
/-! Rules that a store has added. The check of a rule counts its texts as they are given and a
listing shows them tidied, so what is listed keeps every limit, passes the check again and is not
changed by being added once more. -/

namespace WakeSchedule

section Texts

structure NameFits (name : String) : Prop where
  trimmed : trim name = name
  positive : 1 ≤ name.length
  bounded : name.length ≤ maxNameLength

structure CommandFits (command : String) : Prop where
  trimmed : trim command = command
  nonempty : command ≠ ""
  bounded : command.length ≤ maxCommandLength

theorem toList_ne_nil {text : String} : text.toList ≠ [] ↔ 1 ≤ text.length := by
  rw [← String.length_toList, Nat.one_le_iff_ne_zero, ne_eq, ne_eq, List.length_eq_zero_iff]

theorem checkName_eq_ok_iff (name : String) :
    checkName name = .ok () ↔ 1 ≤ (trim name).length ∧ name.length ≤ maxNameLength := by
  rw [← toList_ne_nil]
  unfold checkName
  split <;> simp_all

theorem checkCommand_some_eq_ok_iff (command : String) :
    checkCommand (some command) = .ok () ↔ command.length ≤ maxCommandLength := by
  unfold checkCommand
  split <;> simp_all

theorem nameFits_trim {name : String} (valid : checkName name = .ok ()) :
    NameFits (trim name) := by
  rcases (checkName_eq_ok_iff name).mp valid with ⟨positive, bounded⟩
  exact ⟨trim_idem name, positive, Nat.le_trans (length_trim_le name) bounded⟩

theorem NameFits.check {name : String} (fits : NameFits name) : checkName name = .ok () := by
  rw [checkName_eq_ok_iff, fits.trimmed]
  exact ⟨fits.positive, fits.bounded⟩

theorem tidyCommand_eq_some {command text : String} (tidied : tidyCommand command = some text) :
    trim command = text := by
  unfold tidyCommand at tidied
  split at tidied <;> cases tidied
  rfl

theorem commandFits_of_tidied {command : Option String} (valid : checkCommand command = .ok ())
    {text : String} (tidied : command.bind tidyCommand = some text) : CommandFits text := by
  cases command with
  | none => cases tidied
  | some given =>
      rw [Option.bind_some] at tidied
      have bounded := (checkCommand_some_eq_ok_iff given).mp valid
      have nonempty := tidyCommand_ne_empty tidied
      cases tidyCommand_eq_some tidied
      exact ⟨trim_idem given, nonempty, Nat.le_trans (length_trim_le given) bounded⟩

end Texts

section Fresh

variable {σ τ α ρ : Type} [RuleStore σ]

theorem addWakeRule_of_invalid {rule : WakeRule} {violation : Violation}
    (invalid : checkWakeRule rule = .error violation) (store : σ) :
    addWakeRule rule store = (.error (.violation violation), store) := by
  rw [addWakeRule, invalid]

theorem addSleepRule_of_invalid {rule : SleepRule} {violation : Violation}
    (invalid : checkSleepRule rule = .error violation) (store : σ) :
    addSleepRule rule store = (.error (.violation violation), store) := by
  rw [addSleepRule, invalid]

theorem addWakeRule_of_valid {rule : WakeRule} (valid : checkWakeRule rule = .ok ()) (store : σ) :
    addWakeRule rule store = RuleStore.insertWake rule store := by
  rw [addWakeRule, valid]

theorem addSleepRule_of_valid {rule : SleepRule} (valid : checkSleepRule rule = .ok ())
    (store : σ) : addSleepRule rule store = RuleStore.insertSleep rule store := by
  rw [addSleepRule, valid]

/-- On a store without rules the addition succeeds, and the listing then holds the rule alone. -/
structure AddsTo (empty : σ) (add : Rule τ α → σ → Except ScheduleError RuleId × σ)
    (listing : σ → Except ScheduleError (List (Rule τ α))) (rule : Rule τ α) : Prop where
  numbered : (add rule empty).1 = .ok 1
  listed : listing (add rule empty).2 = .ok [rule.withId 1]

structure WakeRule.Fits (rule : WakeRule) : Prop where
  name : NameFits rule.name
  command : ∀ text, rule.action.command = some text → CommandFits text
  checked : checkWakeRule rule = .ok ()
  addsAgain : AddsTo ({} : Database) addWakeRule RuleStore.wakeRules rule
  addsInMemory : AddsTo ({} : MemoryStore) addWakeRule RuleStore.wakeRules rule

structure SleepRule.Fits (rule : SleepRule) : Prop where
  name : NameFits rule.name
  checked : checkSleepRule rule = .ok ()
  addsAgain : AddsTo ({} : Database) addSleepRule RuleStore.sleepRules rule
  addsInMemory : AddsTo ({} : MemoryStore) addSleepRule RuleStore.sleepRules rule

theorem Holds.addsTo {place : Table (Rule τ α) → σ} {kind : RuleKind}
    {listing : σ → Except ScheduleError (List (Rule τ α))} {shown : Rule τ α → Rule τ α}
    (holds : Holds place kind listing shown)
    {add : Rule τ α → σ → Except ScheduleError RuleId × σ} {rule : Rule τ α}
    (same : shown rule = rule)
    (added : add rule (place {}) = (.ok 1, place ⟨[⟨1, rule⟩], 1⟩)) :
    AddsTo (place {}) add listing rule where
  numbered := congrArg (·.1) added
  listed := by
    rw [added, holds.lists]
    change Except.ok [(shown rule).withId 1] = _
    rw [same]

theorem Table.takeIn_fresh [RuleTime τ] (row : ρ) (rule : Rule τ α) :
    ({} : Table ρ).takeIn row rule ([] : List (Rule τ α)) = (.ok 1, ⟨[⟨1, row⟩], 1⟩) := by
  have free : checkConflict rule ([] : List (Rule τ α)) = .ok () :=
    (checkConflict_eq_ok_iff rule []).mpr fun _ member => nomatch member
  rw [takeIn, free]
  rfl

theorem Database.addsTo_wake {rule : WakeRule} (checked : checkWakeRule rule = .ok ())
    (tidy : WakeRule.tidied rule = rule) :
    AddsTo ({} : Database) addWakeRule RuleStore.wakeRules rule := by
  refine (Database.holds_wake {}).addsTo tidy ?_
  rw [addWakeRule_of_valid checked]
  exact congrArg (fun step => ((step.1.mapError StoreError.violation).mapError
    StoreError.toScheduleError, ({ wake := step.2 } : Database)))
      (Table.takeIn_fresh (WakeRow.ofRule rule) rule)

theorem Database.addsTo_sleep {rule : SleepRule} (checked : checkSleepRule rule = .ok ())
    (tidy : SleepRule.tidied rule = rule) :
    AddsTo ({} : Database) addSleepRule RuleStore.sleepRules rule := by
  refine (Database.holds_sleep {}).addsTo tidy ?_
  rw [addSleepRule_of_valid checked]
  exact congrArg (fun step => ((step.1.mapError StoreError.violation).mapError
    StoreError.toScheduleError, ({ sleep := step.2 } : Database)))
      (Table.takeIn_fresh (SleepRow.ofRule rule) rule)

theorem MemoryStore.addsTo_wake {rule : WakeRule} (checked : checkWakeRule rule = .ok ()) :
    AddsTo ({} : MemoryStore) addWakeRule RuleStore.wakeRules rule := by
  refine (MemoryStore.holds_wake {}).addsTo rfl ?_
  rw [addWakeRule_of_valid checked]
  exact congrArg (fun step => (step.1.mapError ScheduleError.violation,
    ({ wake := step.2 } : MemoryStore))) (Table.takeIn_fresh rule rule)

theorem MemoryStore.addsTo_sleep {rule : SleepRule} (checked : checkSleepRule rule = .ok ()) :
    AddsTo ({} : MemoryStore) addSleepRule RuleStore.sleepRules rule := by
  refine (MemoryStore.holds_sleep {}).addsTo rfl ?_
  rw [addSleepRule_of_valid checked]
  exact congrArg (fun step => (step.1.mapError ScheduleError.violation,
    ({ sleep := step.2 } : MemoryStore))) (Table.takeIn_fresh rule rule)

theorem WakeRule.fits_tidied {rule : WakeRule} (valid : checkWakeRule rule = .ok ()) :
    WakeRule.Fits (WakeRule.tidied rule) := by
  rcases bind_eq_ok.mp valid with ⟨_, validName, validCommand⟩
  have name : NameFits (trim rule.name) := nameFits_trim validName
  have command : ∀ text, rule.action.command.bind tidyCommand = some text → CommandFits text :=
    fun _ tidied => commandFits_of_tidied validCommand tidied
  have commandChecked : checkCommand (rule.action.command.bind tidyCommand) = .ok () := by
    cases shown : rule.action.command.bind tidyCommand with
    | none => rfl
    | some text => exact (checkCommand_some_eq_ok_iff text).mpr (command text shown).bounded
  have checked : checkWakeRule (WakeRule.tidied rule) = .ok () :=
    bind_eq_ok.mpr ⟨(), name.check, commandChecked⟩
  exact ⟨name, command, checked, Database.addsTo_wake checked (WakeRule.tidied_idem rule),
    MemoryStore.addsTo_wake checked⟩

theorem SleepRule.fits_tidied {rule : SleepRule} (valid : checkSleepRule rule = .ok ()) :
    SleepRule.Fits (SleepRule.tidied rule) := by
  have name : NameFits (trim rule.name) := nameFits_trim valid
  have checked : checkSleepRule (SleepRule.tidied rule) = .ok () := name.check
  exact ⟨name, checked, Database.addsTo_sleep checked (SleepRule.tidied_idem rule),
    MemoryStore.addsTo_sleep checked⟩

end Fresh

/-- What the schedule itself does to a database. A rule comes in through its check alone. -/
inductive Upkeep
  | addWake (rule : WakeRule)
  | addSleep (rule : SleepRule)
  | delete (kind : RuleKind) (id : RuleId)
  | changeSettings (settings : Settings)
  | reset

namespace Upkeep

def request : Upkeep → DatabaseRequest
  | addWake rule => .rules (.addWake rule)
  | addSleep rule => .rules (.addSleep rule)
  | delete kind id => .rules (.delete kind id)
  | changeSettings settings => .changeSettings settings
  | reset => .reset

def serve (db : Database) (upkeep : Upkeep) : Reply × Database := upkeep.request.serve db

variable {db : Database} {upkeep : Upkeep} {id : RuleId}

theorem checked_of_stored_wake {rule : WakeRule}
    (made : eventOf? DatabaseRequest.wakeChange? (upkeep.request, (upkeep.serve db).1) =
      some (.stored id rule)) : checkWakeRule rule = .ok () := by
  have meant := eventOf?_eq_stored made
  cases upkeep with
  | addWake given =>
      cases meant
      cases check : checkWakeRule rule with
      | ok => rfl
      | error violation =>
          simp only [serve, request, DatabaseRequest.serve, StoreRequest.serve,
            addWakeRule_of_invalid check] at made
          cases made
  | addSleep given | changeSettings settings | reset => cases meant
  | delete kind id => cases kind <;> cases meant

theorem checked_of_stored_sleep {rule : SleepRule}
    (made : eventOf? DatabaseRequest.sleepChange? (upkeep.request, (upkeep.serve db).1) =
      some (.stored id rule)) : checkSleepRule rule = .ok () := by
  have meant := eventOf?_eq_stored made
  cases upkeep with
  | addSleep given =>
      cases meant
      cases check : checkSleepRule rule with
      | ok => rfl
      | error violation =>
          simp only [serve, request, DatabaseRequest.serve, StoreRequest.serve,
            addSleepRule_of_invalid check] at made
          cases made
  | addWake given | changeSettings settings | reset => cases meant
  | delete kind id => cases kind <;> cases meant

end Upkeep

section Listings

structure MemoryStore.Checked (store : MemoryStore) : Prop where
  wake : ∀ entry ∈ store.wake.entries, checkWakeRule entry.row = .ok ()
  sleep : ∀ entry ∈ store.sleep.entries, checkSleepRule entry.row = .ok ()

theorem MemoryStore.Checked.fresh : ({} : MemoryStore).Checked where
  wake := fun _ member => nomatch member
  sleep := fun _ member => nomatch member

theorem Upkeep.run_checked (upkeeps : List Upkeep) :
    ∃ store, Mirrors store (serveAll Upkeep.serve ({} : Database) upkeeps).2 ∧ store.Checked := by
  refine serveAll_invariant (fun _ db => ∃ store, Mirrors store db ∧ store.Checked)
    ⟨{}, .fresh, .fresh⟩ ?_ upkeeps
  intro _ db upkeep mirrored
  rcases mirrored with ⟨store, mirror, checked⟩
  rcases mirror.serve_step upkeep.request with ⟨later, laterMirror, wake, sleep⟩
  refine ⟨later, laterMirror, ?_, ?_⟩
  · exact wake.forall_rows checked.wake fun _ _ made => Upkeep.checked_of_stored_wake made
  · exact sleep.forall_rows checked.sleep fun _ _ made => Upkeep.checked_of_stored_sleep made

/-- All listings of a store succeed, those of the enabled rules as parts of the others. -/
structure Lists {σ : Type} [RuleStore σ] (store : σ) (wake : List WakeRule)
    (sleep : List SleepRule) : Prop where
  wakeRules : RuleStore.wakeRules store = .ok wake
  sleepRules : RuleStore.sleepRules store = .ok sleep
  enabledWakeRules : RuleStore.enabledWakeRules store = .ok (wake.filter (·.enabled))
  enabledSleepRules : RuleStore.enabledSleepRules store = .ok (sleep.filter (·.enabled))

theorem Mirrors.lists {store : MemoryStore} {db : Database} (mirror : Mirrors store db) :
    Lists db ((MemoryStore.rulesOf store.wake).map WakeRule.tidied)
      ((MemoryStore.rulesOf store.sleep).map SleepRule.tidied) where
  wakeRules := congrArg (·.mapError StoreError.toScheduleError) mirror.wakeRules
  sleepRules := congrArg (·.mapError StoreError.toScheduleError) mirror.sleepRules
  enabledWakeRules := by
    rw [List.filter_map]
    exact congrArg (·.mapError StoreError.toScheduleError) mirror.enabledWakeRules
  enabledSleepRules := by
    rw [List.filter_map]
    exact congrArg (·.mapError StoreError.toScheduleError) mirror.enabledSleepRules

theorem MemoryStore.forall_shown {τ α : Type} {table : Table (Rule τ α)}
    {shown : Rule τ α → Rule τ α} {holds : Rule τ α → Prop}
    (each : ∀ entry ∈ table.entries, holds (shown (entry.row.withId entry.id))) :
    ∀ rule ∈ (rulesOf table).map shown, holds rule := by
  intro rule member
  rcases List.mem_map.mp member with ⟨given, stored, rfl⟩
  rcases List.mem_map.mp stored with ⟨entry, present, rfl⟩
  exact each entry present

/-- Whatever rules are offered to a fresh database, all that it takes in reads back. What it lists
is trimmed and within its limits, passes the check again, and is listed as it is when it is added to
a fresh store of either kind. -/
theorem added_rules_stay_fit (upkeeps : List Upkeep) :
    let db := (serveAll Upkeep.serve ({} : Database) upkeeps).2
    ∃ wake sleep, Lists db wake sleep ∧ (∀ rule ∈ wake, WakeRule.Fits rule) ∧
      ∀ rule ∈ sleep, SleepRule.Fits rule := by
  intro db
  rcases Upkeep.run_checked upkeeps with ⟨store, mirror, checked⟩
  refine ⟨_, _, mirror.lists, ?_, ?_⟩
  · apply MemoryStore.forall_shown
    intro entry present
    exact WakeRule.fits_tidied (checked.wake entry present)
  · apply MemoryStore.forall_shown
    intro entry present
    exact SleepRule.fits_tidied (checked.sleep entry present)

/-- A name is counted before it is trimmed, and a command of blanks is none. -/
example :
    let long := String.ofList (List.replicate 32 'n' ++ [' '])
    let upkeeps : List Upkeep :=
      [.addWake ⟨some 7, long, ⟨6, 30, 0⟩, .ofDays [.monday], ⟨none, .mem⟩, true⟩,
        .addWake ⟨some 7, " dawn ", ⟨6, 30, 0⟩, .ofDays [.monday], ⟨some " ", .mem⟩, true⟩]
    let run := serveAll Upkeep.serve ({} : Database) upkeeps
    run.1.map (·.2) = [.error (.violation (.name (.tooLong 33))), .ok (.stored 1)] ∧
      RuleStore.wakeRules run.2 =
        .ok [⟨some 1, "dawn", ⟨6, 30, 0⟩, .ofDays [.monday], ⟨none, .mem⟩, true⟩] := by
  decide

end Listings

end WakeSchedule
