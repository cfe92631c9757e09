import WakeSchedule.Proofs.Boot
import WakeSchedule.Proofs.Console.Occasion
import WakeSchedule.Proofs.Json.Records
import WakeSchedule.Proofs.Store.Slots
/-! Empty commands. Building a rule and reading a row leave no command where a text of blanks is
given, so an empty command can only come from a record that carries one. A store that keeps the
rules themselves lets it through to the boot, which runs it; a database never does. -/

namespace WakeSchedule

def Json.CarriesEmptyCommand (value : Json) : Prop :=
  ∃ members, value.record? WakeRule.keys = some members ∧
    members.lookup "command" = some (.text "")

/-- The wake rules that can come about where only these records are read. -/
inductive WakeRule.Arises (records : Json → Prop) : WakeRule → Prop
  | built (name : String) (time : TimeOfDay) (days : Mask) (command : Option String)
      (mode : PowerMode) : Arises records (wakeRule name time days command mode)
  | read {value : Json} {rule : WakeRule} (given : records value)
      (reads : WakeRule.ofJson? value = some rule) : Arises records rule
  | withId {rule : WakeRule} (arises : Arises records rule) (id : RuleId) :
      Arises records (rule.withId id)
  | withEnabled {rule : WakeRule} (arises : Arises records rule) (enabled : Bool) :
      Arises records (rule.withEnabled enabled)
  /-- Listed by a store of rules after any requests that stored such rules. -/
  | kept {requests : List StoreRequest} {rule : WakeRule}
      (stored : ∀ request ∈ requests, ∀ given, request.wakeChange? = some (.store given) →
        Arises records given)
      (listed : rule ∈
        MemoryStore.rulesOf (serveAll StoreRequest.serve ({} : MemoryStore) requests).2.wake) :
      Arises records rule
  /-- Listed by a database, whatever its rows are. -/
  | written {db : Database} {rules : List WakeRule} {rule : WakeRule}
      (reads : RuleStore.wakeRules db = .ok rules) (listed : rule ∈ rules) : Arises records rule

section Records

theorem Json.optional_text_eq_empty_iff {members : List (String × Json)} {key : String}
    {command : Option String} (read : optional members key text? = some command) :
    command = some "" ↔ members.lookup key = some (.text "") := by
  unfold optional at read
  split at read
  next absent =>
    cases read
    simp [absent]
  next null =>
    cases read
    simp [null]
  next value _ found =>
    rw [found]
    cases value with
    | text given =>
        cases read
        simp
    | _ => cases read

theorem WakeRule.ofJson?_empty_iff {value : Json} {rule : WakeRule}
    (reads : WakeRule.ofJson? value = some rule) :
    rule.action.command = some "" ↔ value.CarriesEmptyCommand := by
  rcases WakeRule.ofJson?_eq_some_iff.mp reads with ⟨members, given, read⟩
  rw [Json.optional_text_eq_empty_iff read.command]
  simp [Json.CarriesEmptyCommand, given]

end Records

section Arises

variable {records : Json → Prop}

def ReadsEmptyCommand (records : Json → Prop) (days : Mask) : Prop :=
  ∃ value rule, records value ∧ WakeRule.ofJson? value = some rule ∧ rule.days = days ∧
    value.CarriesEmptyCommand

/-- Numbers, flags and storing change neither the days of a rule nor its command. -/
theorem WakeRule.Arises.of_empty {rule : WakeRule} (arises : WakeRule.Arises records rule)
    (empty : rule.action.command = some "") : ReadsEmptyCommand records rule.days := by
  induction arises with
  | built name time days command mode =>
      exact absurd empty (wakeRule_command_ne_empty name time days command mode)
  | @read value rule given reads =>
      exact ⟨value, rule, given, reads, rfl, (WakeRule.ofJson?_empty_iff reads).mp empty⟩
  | withId arises id ih => exact ih empty
  | withEnabled arises enabled ih => exact ih empty
  | @kept requests rule stored listed ih =>
      -- Under its number the store lists a rule that one of the requests has stored.
      obtain ⟨entry, present, rfl⟩ := List.mem_map.mp listed
      exact MemoryStore.forall_rows_of_stored {} requests (fun _ absent => nomatch absent) ih entry
        present empty
  | written reads listed =>
      exact absurd empty
        (Database.readEntries_command_ne_empty (mapError_eq_ok.mp reads) _ listed)

def StoresArising (records : Json → Prop) (requests : List StoreRequest) : Prop :=
  ∀ request ∈ requests, ∀ given, request.wakeChange? = some (.store given) →
    WakeRule.Arises records given

end Arises

section Boot

theorem exists_date_on (day : Weekday) : ∃ date : Date, date.weekday = day :=
  ⟨⟨2026, 1, 4 + day.index, by cases day <;> decide⟩, by cases day <;> decide⟩

theorem MemoryStore.handleBoot_of_only {rule : WakeRule} {text : String}
    (carried : rule.action.command = some text) (enabled : rule.enabled = true) {date : Date}
    (active : rule.days.get date.weekday = true) {settings : Settings}
    (on : settings.enabled = true) (commands : settings.commandsEnabled = true) :
    handleBoot (serveAll StoreRequest.serve ({} : MemoryStore) [.insertWake rule]).2
      (.ofMoment ⟨date, rule.time⟩) settings = .ok (.runCommand (rule.withId 1) text) := by
  have accepted : checkConflict rule (rulesOf {}) = .ok () :=
    (checkConflict_eq_ok_iff rule _).mpr fun _ absent => nomatch absent
  have stored : (serveAll StoreRequest.serve ({} : MemoryStore) [.insertWake rule]).2 =
      { wake := ⟨[⟨1, rule⟩], 1⟩ } :=
    congrArg (·.2) ((MemoryStore.takesIn_wake {}).insert_of_accepted accepted)
  have listed : RuleStore.enabledWakeRules ({ wake := ⟨[⟨1, rule⟩], 1⟩ } : MemoryStore) =
      .ok ([rule.withId 1].filter (·.enabled)) := rfl
  have fires : (rule.withId 1).firesOn date.weekday = true :=
    (Bool.and_eq_true _ _).mpr ⟨enabled, active⟩
  have window : WakeRule.inBootWindow (rule.withId 1) rule.time settings.bootTime.toNat = true :=
    (WakeRule.inBootWindow_iff _ _ _).mpr ⟨Nat.le_refl _, Nat.le_add_right _ _⟩
  have booted : bootedRule? date.weekday rule.time [rule.withId 1] settings.bootTime.toNat =
      some (rule.withId 1) := by
    simp only [bootedRule?, List.filter_singleton, fires, window, Bool.and_self, cond_true]
    rfl
  have answer : bootAnswer (rule.withId 1) = .runCommand (rule.withId 1) text :=
    (bootAnswer_eq_runCommand_iff _ _ _).mpr ⟨rfl, carried⟩
  rw [stored, ← answer]
  exact handleBoot_of_booted listed on commands booted

variable {records : Json → Prop}

theorem readsEmptyCommand_of_boot {requests : List StoreRequest}
    (arising : StoresArising records requests) {clock : Clock} {settings : Settings}
    {rule : WakeRule}
    (ran : handleBoot (serveAll StoreRequest.serve ({} : MemoryStore) requests).2 clock settings =
      .ok (.runCommand rule "")) :
    ReadsEmptyCommand records rule.days ∧ rule.days.get clock.weekday = true := by
  obtain ⟨_, empty, rules, listed, found⟩ := handleBoot_eq_runCommand ran
  cases listed
  have chosen := List.mem_filter.mp (mem_of_earliest? found)
  have kept : WakeRule.Arises records rule := .kept arising (List.mem_filter.mp chosen.1).1
  have fires := (Bool.and_eq_true _ _).mp chosen.2
  exact ⟨kept.of_empty empty, ((Bool.and_eq_true _ _).mp fires.1).2⟩

theorem ReadsEmptyCommand.boots {days : Mask} (reads : ReadsEmptyCommand records days)
    {day : Weekday} (active : days.get day = true) :
    ∃ requests, StoresArising records requests ∧ ∃ clock settings rule,
      handleBoot (serveAll StoreRequest.serve ({} : MemoryStore) requests).2 clock settings =
        .ok (.runCommand rule "") := by
  obtain ⟨value, rule, given, reads, rfl, carries⟩ := reads
  obtain ⟨date, rfl⟩ := exists_date_on day
  have arises : WakeRule.Arises records (rule.withEnabled true) :=
    .withEnabled (.read given reads) true
  have empty : (rule.withEnabled true).action.command = some "" :=
    (WakeRule.ofJson?_empty_iff reads).mpr carries
  refine ⟨[.insertWake (rule.withEnabled true)], ?_, .ofMoment ⟨date, rule.time⟩,
    commandSettings, (rule.withEnabled true).withId 1, ?_⟩
  · intro request only given stores
    cases List.mem_singleton.mp only
    cases stores
    exact arises
  · exact MemoryStore.handleBoot_of_only empty rfl active rfl rfl

end Boot

/-- A rule with an empty command comes about exactly where a record with one is read, however often
it is numbered, switched and stored afterwards. A store of rules boots for the empty command exactly
where such a record names a day, and a database never does. -/
theorem empty_commands_come_from_records_alone (records : Json → Prop) :
    (∀ days, (∃ rule, WakeRule.Arises records rule ∧ rule.days = days ∧
        rule.action.command = some "") ↔ ReadsEmptyCommand records days) ∧
    ((∃ requests, StoresArising records requests ∧ ∃ clock settings rule,
        handleBoot (serveAll StoreRequest.serve ({} : MemoryStore) requests).2 clock settings =
          .ok (.runCommand rule "")) ↔
      ∃ days, ReadsEmptyCommand records days ∧ ∃ day, days.get day = true) ∧
    ∀ (db : Database) clock settings rule,
      handleBoot db clock settings ≠ .ok (.runCommand rule "") := by
  refine ⟨?_, ?_, Database.boot_ne_empty⟩
  · intro days
    constructor
    · intro arises
      obtain ⟨rule, arises, rfl, empty⟩ := arises
      exact arises.of_empty empty
    · intro reads
      obtain ⟨value, rule, given, reads, same, carries⟩ := reads
      exact ⟨rule, .read given reads, same, (WakeRule.ofJson?_empty_iff reads).mpr carries⟩
  · constructor
    · intro booted
      obtain ⟨requests, arising, clock, settings, rule, ran⟩ := booted
      have read := readsEmptyCommand_of_boot arising ran
      exact ⟨rule.days, read.1, clock.weekday, read.2⟩
    · intro read
      obtain ⟨days, reads, day, active⟩ := read
      exact reads.boots active

def hollowRule : WakeRule :=
  ⟨none, "hollow", ⟨6, 30, 0⟩, .ofDays [.tuesday], ⟨some "", .mem⟩, true⟩

/-- Its record is read as it is written, and a minute after its time the empty command is run. -/
theorem empty_command_of_a_record_is_run :
    (WakeRule.toJson hollowRule).CarriesEmptyCommand ∧
      WakeRule.Arises (· = WakeRule.toJson hollowRule) hollowRule ∧
      hollowRule.action.command = some "" ∧
      handleBoot (serveAll StoreRequest.serve ({} : MemoryStore) [.insertWake hollowRule]).2
        (.ofMoment ⟨⟨2026, 1, 6, by decide⟩, ⟨6, 31, 0⟩⟩) commandSettings =
          .ok (.runCommand (hollowRule.withId 1) "") := by
  have reads : WakeRule.ofJson? (WakeRule.toJson hollowRule) = some hollowRule := by decide
  exact ⟨(WakeRule.ofJson?_empty_iff reads).mp rfl, .read rfl reads, rfl, by decide⟩

end WakeSchedule
