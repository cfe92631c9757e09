import WakeSchedule.Proofs.Json.Members

namespace WakeSchedule

open Json

structure WakeRule.Members (members : List (String × Json)) (rule : WakeRule) : Prop where
  id : optional members "rule_id" RuleId.ofJson? = some rule.id
  name : required members "name" text? = some rule.name
  time : required members "time" TimeOfDay.ofJson? = some rule.time
  days : required members "weekdays" Mask.ofJson? = some rule.days
  command : optional members "command" text? = some rule.action.command
  mode : required members "mode" PowerMode.ofJson? = some rule.action.mode
  enabled : required members "enabled" bool? = some rule.enabled

structure SleepRule.Members (members : List (String × Json)) (rule : SleepRule) : Prop where
  id : optional members "rule_id" RuleId.ofJson? = some rule.id
  name : required members "name" text? = some rule.name
  time : required members "time" SleepTime.ofJson? = some rule.time
  days : required members "weekdays" Mask.ofJson? = some rule.days
  enabled : required members "enabled" bool? = some rule.enabled

structure Settings.Members (members : List (String × Json)) (settings : Settings) : Prop where
  enabled : required members "enabled" bool? = some settings.enabled
  commandsEnabled : required members "commands_enabled" bool? = some settings.commandsEnabled
  useLocalTime : required members "use_localtime" bool? = some settings.useLocalTime
  options : required members "rtcwake_options" text? = some settings.options
  defaultMode : required members "default_mode" PowerMode.ofJson? = some settings.defaultMode
  bootTime : required members "boot_time_seconds" bootTimeOfJson? = some settings.bootTime
  shutdownOnFailure :
    required members "shutdown_on_failure" bool? = some settings.shutdownOnFailure

theorem WakeRule.ofJson?_eq_some_iff {json : Json} {rule : WakeRule} :
    WakeRule.ofJson? json = some rule ↔
      ∃ members, json.record? WakeRule.keys = some members ∧ WakeRule.Members members rule := by
  constructor
  · intro read
    simp only [WakeRule.ofJson?, bind, Option.bind_eq_some_iff, pure, Option.some.injEq] at read
    rcases read with ⟨members, given, _, id, _, name, _, time, _, days, _, command, _, mode, _,
      enabled, rfl⟩
    exact ⟨members, given, id, name, time, days, command, mode, enabled⟩
  · rintro ⟨members, given, read⟩
    simp only [WakeRule.ofJson?, given, read.id, read.name, read.time, read.days, read.command,
      read.mode, read.enabled, bind, Option.bind_some, pure]

theorem SleepRule.ofJson?_eq_some_iff {json : Json} {rule : SleepRule} :
    SleepRule.ofJson? json = some rule ↔
      ∃ members, json.record? SleepRule.keys = some members ∧ SleepRule.Members members rule := by
  constructor
  · intro read
    simp only [SleepRule.ofJson?, bind, Option.bind_eq_some_iff, pure, Option.some.injEq] at read
    rcases read with ⟨members, given, _, id, _, name, _, time, _, days, _, enabled, rfl⟩
    exact ⟨members, given, id, name, time, days, enabled⟩
  · rintro ⟨members, given, read⟩
    simp only [SleepRule.ofJson?, given, read.id, read.name, read.time, read.days, read.enabled,
      bind, Option.bind_some, pure]

theorem Settings.ofJson?_eq_some_iff {json : Json} {settings : Settings} :
    Settings.ofJson? json = some settings ↔
      ∃ members, json.record? Settings.keys = some members ∧
        Settings.Members members settings := by
  constructor
  · intro read
    simp only [Settings.ofJson?, bind, Option.bind_eq_some_iff, pure, Option.some.injEq] at read
    rcases read with ⟨members, given, _, enabled, _, commands, _, localTime, _, options, _, mode, _,
      bootTime, _, shutdown, rfl⟩
    exact ⟨members, given, enabled, commands, localTime, options, mode, bootTime, shutdown⟩
  · rintro ⟨members, given, read⟩
    simp only [Settings.ofJson?, given, read.enabled, read.commandsEnabled, read.useLocalTime,
      read.options, read.defaultMode, read.bootTime, read.shutdownOnFailure, bind, Option.bind_some,
      pure]

section Kept

variable {α : Type}

def rewritten? (write : α → Json) (read? : Json → Option α) (json : Json) : Option Json :=
  (read? json).map write

/-- What is written is read back, also where it was read from another record before, so writing
again changes a record at most once. A record is read by its known keys alone, of which a missing
one counts as null. -/
structure KeepsRecords (keys : List String) (fits : α → Prop) (write : α → Json)
    (read? : Json → Option α) : Prop where
  back : ∀ value, fits value → read? (write value) = some value
  again : ∀ json value, read? json = some value → read? (write value) = some value
  settles : ∀ json,
    (rewritten? write read? json).bind (rewritten? write read?) = rewritten? write read? json
  keyed : ∀ json other members others, json.record? keys = some members →
    other.record? keys = some others → (∀ key ∈ keys, member members key = member others key) →
    read? json = read? other

variable {keys : List String} {fits : α → Prop} {write : α → Json} {read? : Json → Option α}

theorem KeepsRecords.of_readsBack (reads : ReadsBack fits write read?)
    (keyed : ∀ json other members others, json.record? keys = some members →
      other.record? keys = some others → (∀ key ∈ keys, member members key = member others key) →
      read? json = read? other) : KeepsRecords keys fits write read? where
  back := reads.back
  again _ _ read := reads.again read
  settles json := by
    cases read : read? json with
    | none => simp [rewritten?, read]
    | some value => simp [rewritten?, read, reads.again read]
  keyed := keyed

end Kept

def Rule.Fits {τ α : Type} (rule : Rule τ α) : Prop := ∀ id ∈ rule.id, IsInt64 id

theorem WakeRule.readsBack : ReadsBack Rule.Fits WakeRule.toJson WakeRule.ofJson? where
  back rule fits := WakeRule.ofJson?_eq_some_iff.mpr ⟨_, rfl, {
    id := optional_back RuleId.readsBack rfl rfl fits
    name := required_back readsBack_text rfl trivial
    time := required_back TimeOfDay.readsBack rfl trivial
    days := required_back Mask.readsBack rfl trivial
    command := optional_back readsBack_text rfl rfl fun _ _ => trivial
    mode := required_back PowerMode.readsBack rfl trivial
    enabled := required_back readsBack_bool rfl trivial }⟩
  fits json rule read := by
    rcases WakeRule.ofJson?_eq_some_iff.mp read with ⟨members, _, read⟩
    exact optional_fits RuleId.readsBack read.id

theorem SleepRule.readsBack : ReadsBack Rule.Fits SleepRule.toJson SleepRule.ofJson? where
  back rule fits := SleepRule.ofJson?_eq_some_iff.mpr ⟨_, rfl, {
    id := optional_back RuleId.readsBack rfl rfl fits
    name := required_back readsBack_text rfl trivial
    time := required_back SleepTime.readsBack rfl trivial
    days := required_back Mask.readsBack rfl trivial
    enabled := required_back readsBack_bool rfl trivial }⟩
  fits json rule read := by
    rcases SleepRule.ofJson?_eq_some_iff.mp read with ⟨members, _, read⟩
    exact optional_fits RuleId.readsBack read.id

theorem Settings.readsBack : ReadsBack (fun _ => True) Settings.toJson Settings.ofJson? := by
  apply ReadsBack.of_back
  intro settings
  exact Settings.ofJson?_eq_some_iff.mpr ⟨_, rfl, {
    enabled := required_back readsBack_bool rfl trivial
    commandsEnabled := required_back readsBack_bool rfl trivial
    useLocalTime := required_back readsBack_bool rfl trivial
    options := required_back readsBack_text rfl trivial
    defaultMode := required_back PowerMode.readsBack rfl trivial
    bootTime := required_back readsBack_bootTime rfl trivial
    shutdownOnFailure := required_back readsBack_bool rfl trivial }⟩

theorem WakeRule.keepsRecords :
    KeepsRecords WakeRule.keys Rule.Fits WakeRule.toJson WakeRule.ofJson? := by
  apply KeepsRecords.of_readsBack WakeRule.readsBack
  intro json other members others given given' same
  simp only [WakeRule.ofJson?, given, given', bind, Option.bind_some,
    optional_congr RuleId.ofJson? (same "rule_id" (by decide)),
    required_congr text? rfl (same "name" (by decide)),
    required_congr TimeOfDay.ofJson? rfl (same "time" (by decide)),
    required_congr Mask.ofJson? rfl (same "weekdays" (by decide)),
    optional_congr text? (same "command" (by decide)),
    required_congr PowerMode.ofJson? rfl (same "mode" (by decide)),
    required_congr bool? rfl (same "enabled" (by decide))]

theorem SleepRule.keepsRecords :
    KeepsRecords SleepRule.keys Rule.Fits SleepRule.toJson SleepRule.ofJson? := by
  apply KeepsRecords.of_readsBack SleepRule.readsBack
  intro json other members others given given' same
  simp only [SleepRule.ofJson?, given, given', bind, Option.bind_some,
    optional_congr RuleId.ofJson? (same "rule_id" (by decide)),
    required_congr text? rfl (same "name" (by decide)),
    required_congr SleepTime.ofJson? rfl (same "time" (by decide)),
    required_congr Mask.ofJson? rfl (same "weekdays" (by decide)),
    required_congr bool? rfl (same "enabled" (by decide))]

theorem Settings.keepsRecords :
    KeepsRecords Settings.keys (fun _ => True) Settings.toJson Settings.ofJson? := by
  apply KeepsRecords.of_readsBack Settings.readsBack
  intro json other members others given given' same
  simp only [Settings.ofJson?, given, given', bind, Option.bind_some,
    required_congr bool? rfl (same "enabled" (by decide)),
    required_congr bool? rfl (same "commands_enabled" (by decide)),
    required_congr bool? rfl (same "use_localtime" (by decide)),
    required_congr text? rfl (same "rtcwake_options" (by decide)),
    required_congr PowerMode.ofJson? rfl (same "default_mode" (by decide)),
    required_congr bootTimeOfJson? rfl (same "boot_time_seconds" (by decide)),
    required_congr bool? rfl (same "shutdown_on_failure" (by decide))]

theorem Mask.keepsRecords : KeepsRecords Mask.keys (fun _ => True) Mask.toJson Mask.ofJson? := by
  apply KeepsRecords.of_readsBack Mask.readsBack
  intro json other members others given given' same
  simp only [Mask.ofJson?, given, given', bind, Option.bind_some,
    required_congr list? rfl (same "days" (by decide))]

section Times

variable {τ : Type} [RuleTime τ] {parse : String → Except Violation τ} {names : String → Prop}
  {members : List (String × Json)} {time : τ}

/-- The time of a record stands there as its digits, which name a time and write its number. -/
structure ReadsTime (parse : String → Except Violation τ) (names : String → Prop)
    (members : List (String × Json)) (time : τ) : Prop where
  given : members.lookup "time" = some (.text (RuleTime.digits time))
  accepted : parse (RuleTime.digits time) = .ok time
  named : names (RuleTime.digits time)
  number : numeral (RuleTime.digits time).toList = RuleTime.code time

theorem ReadsTime.of_required {readBytes? : String → Option (Except Violation τ)}
    (exactly : ReadsExactly parse readBytes? names RuleTime.digits)
    (number : ∀ time : τ, numeral (RuleTime.digits time).toList = RuleTime.code time)
    (read : required members "time" (fun json =>
      json.text?.bind fun text => (parse text).toOption) = some time) :
    ReadsTime parse names members time := by
  rcases Option.bind_eq_some_iff.mp read with ⟨json, given, read⟩
  rcases Option.bind_eq_some_iff.mp read with ⟨text, isText, read⟩
  have accepted : parse text = .ok time := by
    cases answer : parse text with
    | error violation =>
        rw [answer] at read
        cases read
    | ok other =>
        rw [answer] at read
        cases read
        rfl
  have isText : json = .text text := by
    cases json <;> cases isText
    rfl
  have written := (exactly.written text time).mp accepted
  subst isText written
  exact ⟨given, accepted, (exactly.accepts _).mp ⟨time, accepted⟩, number time⟩

theorem WakeRule.readsTime {rule : WakeRule} (read : WakeRule.Members members rule) :
    ReadsTime TimeOfDay.parse NamesTime members rule.time :=
  .of_required TimeOfDay.readsExactly TimeOfDay.numeral_digits read.time

theorem SleepRule.readsTime {rule : SleepRule} (read : SleepRule.Members members rule) :
    ReadsTime SleepTime.parse NamesSleepTime members rule.time :=
  .of_required SleepTime.readsExactly SleepTime.numeral_digits read.time

end Times

/-- Rules, settings and masks are read back from the records written for them, and writing a record
again settles it. A rule that is read has a time that its reader accepts, as it stands in the
record. -/
theorem records_read_back :
    (KeepsRecords WakeRule.keys Rule.Fits WakeRule.toJson WakeRule.ofJson? ∧
      KeepsRecords SleepRule.keys Rule.Fits SleepRule.toJson SleepRule.ofJson? ∧
      KeepsRecords Settings.keys (fun _ => True) Settings.toJson Settings.ofJson? ∧
      KeepsRecords Mask.keys (fun _ => True) Mask.toJson Mask.ofJson?) ∧
    (∀ json rule, WakeRule.ofJson? json = some rule →
      ∃ members, json.record? WakeRule.keys = some members ∧
        ReadsTime TimeOfDay.parse NamesTime members rule.time) ∧
    ∀ json rule, SleepRule.ofJson? json = some rule →
      ∃ members, json.record? SleepRule.keys = some members ∧
        ReadsTime SleepTime.parse NamesSleepTime members rule.time := by
  refine ⟨⟨WakeRule.keepsRecords, SleepRule.keepsRecords, Settings.keepsRecords,
    Mask.keepsRecords⟩, ?_, ?_⟩
  · intro json rule read
    rcases WakeRule.ofJson?_eq_some_iff.mp read with ⟨members, given, read⟩
    exact ⟨members, given, WakeRule.readsTime read⟩
  · intro json rule read
    rcases SleepRule.ofJson?_eq_some_iff.mp read with ⟨members, given, read⟩
    exact ⟨members, given, SleepRule.readsTime read⟩

def gymRecord : Json := .object
  [("enabled", .bool true), ("note", .null), ("mode", .text "mem"), ("time", .text "063000"),
    ("weekdays", .object [("note", .text ""), ("days", .list
      [.bool false, .bool true, .bool false, .bool true, .bool false, .bool true, .bool false])]),
    ("name", .text " Gym")]

def gymRule : WakeRule :=
  ⟨none, " Gym", ⟨6, 30, 0⟩, ⟨false, true, false, true, false, true, false⟩, ⟨none, .mem⟩, true⟩

def napRecord : Json := .list
  [.int 7, .text "", .text "2145", .list [.list
    [.bool true, .bool true, .bool true, .bool true, .bool true, .bool true, .bool true]],
    .bool false]

def napRule : SleepRule := ⟨some 7, "", ⟨21, Fin.last 3⟩, .everyDay, (), false⟩

theorem records_read_back_without_keys :
    (WakeRule.ofJson? gymRecord = some gymRule ∧
      WakeRule.ofJson? (WakeRule.toJson gymRule) = some gymRule ∧
      ∃ members, gymRecord.record? WakeRule.keys = some members ∧
        ReadsTime TimeOfDay.parse NamesTime members gymRule.time) ∧
    SleepRule.ofJson? napRecord = some napRule ∧
    SleepRule.ofJson? (SleepRule.toJson napRule) = some napRule ∧
    ∃ members, napRecord.record? SleepRule.keys = some members ∧
      ReadsTime SleepTime.parse NamesSleepTime members napRule.time := by
  have gym : WakeRule.ofJson? gymRecord = some gymRule := by decide
  have nap : SleepRule.ofJson? napRecord = some napRule := by decide
  have fits : napRule.Fits := by
    intro id numbered
    cases numbered
    exact ⟨by decide, by decide⟩
  exact ⟨⟨gym, records_read_back.1.1.again gymRecord gymRule gym,
      records_read_back.2.1 gymRecord gymRule gym⟩,
    nap, records_read_back.1.2.1.back napRule fits,
    records_read_back.2.2 napRecord napRule nap⟩

end WakeSchedule
