import WakeSchedule.Proofs.Boot

namespace WakeSchedule

/-- The rule fires today, and its boot window holds the time of day. -/
def WakeRule.Awaited (rule : WakeRule) (today : Weekday) (now : TimeOfDay) (width : Nat) : Prop :=
  rule.firesOn today = true ∧ rule.time.seconds ≤ now.seconds ∧
    now.seconds ≤ rule.time.seconds + width

def WakeRule.awaited (rule : WakeRule) (today : Weekday) (now : TimeOfDay) (width : Nat) : Bool :=
  rule.firesOn today && WakeRule.inBootWindow rule now width

theorem WakeRule.awaited_iff (rule : WakeRule) (today : Weekday) (now : TimeOfDay) (width : Nat) :
    WakeRule.awaited rule today now width = true ↔ WakeRule.Awaited rule today now width := by
  rw [awaited, Bool.and_eq_true, WakeRule.inBootWindow_iff]
  rfl

/-- The rule that comes first by time, and by place in the list among those of its time, of all
whose boot windows hold the time of day. -/
structure FirstAwaited (rules : List WakeRule) (today : Weekday) (now : TimeOfDay) (width : Nat)
    (first : WakeRule) : Prop where
  awaited : WakeRule.Awaited first today now width
  order : ∃ before after, rules = before ++ first :: after ∧
    (∀ earlier ∈ before, WakeRule.Awaited earlier today now width →
      first.time.seconds < earlier.time.seconds) ∧
    ∀ later ∈ after, WakeRule.Awaited later today now width →
      first.time.seconds ≤ later.time.seconds

section First

variable {rules : List WakeRule} {today : Weekday} {now : TimeOfDay} {width : Nat}
  {first : WakeRule}

theorem FirstAwaited.mem (found : FirstAwaited rules today now width first) : first ∈ rules := by
  rcases found.order with ⟨before, after, split, _⟩
  rw [split]
  exact List.mem_append_right _ List.mem_cons_self

theorem FirstAwaited.least (found : FirstAwaited rules today now width first) {other : WakeRule}
    (listed : other ∈ rules) (awaited : WakeRule.Awaited other today now width) :
    first.time.seconds ≤ other.time.seconds := by
  rcases found.order with ⟨before, after, split, earlier, later⟩
  rw [split] at listed
  rcases List.mem_append.mp listed with inside | rest
  · exact Nat.le_of_lt (earlier other inside awaited)
  · rcases List.mem_cons.mp rest with rfl | inside
    · exact Nat.le_refl _
    · exact later other inside awaited

theorem FirstAwaited.find?_eq_some (found : FirstAwaited rules today now width first) :
    rules.find? (fun rule => WakeRule.awaited rule today now width &&
      rule.time.seconds = first.time.seconds) = some first := by
  rcases found.order with ⟨before, after, split, earlier, _⟩
  refine List.find?_eq_some_iff_append.mpr ⟨?_, before, after, split, ?_⟩
  · rw [(WakeRule.awaited_iff _ _ _ _).mpr found.awaited]
    simp
  · intro other inside
    cases window : WakeRule.awaited other today now width with
    | false => rfl
    | true =>
        have order := earlier other inside ((WakeRule.awaited_iff _ _ _ _).mp window)
        simp [Nat.ne_of_gt order]

theorem FirstAwaited.unique {second : WakeRule} (one : FirstAwaited rules today now width first)
    (other : FirstAwaited rules today now width second) : first = second := by
  have before := one.least other.mem other.awaited
  have after := other.least one.mem one.awaited
  have found := one.find?_eq_some
  rw [Nat.le_antisymm before after, other.find?_eq_some] at found
  exact (Option.some.inj found).symm

theorem firstAwaited_of_bootedRule? (found : bootedRule? today now rules width = some first) :
    FirstAwaited rules today now width first := by
  obtain ⟨least, place⟩ := earliest?_spec found
  have chosen := (List.mem_filter.mp (mem_of_earliest? found)).2
  rw [List.find?_filter] at place
  obtain ⟨_, before, after, split, passed⟩ := List.find?_eq_some_iff_append.mp place
  have notLater : ∀ other ∈ rules, WakeRule.Awaited other today now width →
      first.time.seconds ≤ other.time.seconds := by
    intro other listed awaited
    apply (TimeOfDay.code_le_iff _ _).mp
    exact least other (List.mem_filter.mpr ⟨listed, (WakeRule.awaited_iff _ _ _ _).mpr awaited⟩)
  refine ⟨(WakeRule.awaited_iff _ _ _ _).mp chosen, before, after, split, ?_, ?_⟩
  · intro earlier inside awaited
    have order := notLater earlier (split ▸ List.mem_append_left _ inside) awaited
    refine Nat.lt_of_le_of_ne order ?_
    intro same
    -- A rule of the same time before this one would have been taken.
    have missed := passed earlier inside
    have level : earlier.timeCode = first.timeCode := by
      apply Nat.le_antisymm <;> exact (TimeOfDay.code_le_iff _ _).mpr (by omega)
    have window := (WakeRule.awaited_iff _ _ _ _).mpr awaited
    rw [WakeRule.awaited] at window
    simp [window, level] at missed
  · intro later inside awaited
    exact notLater later (split ▸ List.mem_append_right _ (List.mem_cons_of_mem _ inside)) awaited

theorem bootedRule?_eq_none_iff : bootedRule? today now rules width = none ↔
    ∀ rule ∈ rules, ¬WakeRule.Awaited rule today now width := by
  rw [bootedRule?, earliest?_eq_none, List.filter_eq_nil_iff]
  simp only [← WakeRule.awaited_iff, WakeRule.awaited]

theorem bootedRule?_eq_some_iff : bootedRule? today now rules width = some first ↔
    FirstAwaited rules today now width first := by
  constructor
  · exact firstAwaited_of_bootedRule?
  · intro awaited
    cases found : bootedRule? today now rules width with
    | none => exact absurd awaited.awaited (bootedRule?_eq_none_iff.mp found first awaited.mem)
    | some other => rw [(firstAwaited_of_bootedRule? found).unique awaited]

end First

section Answer

variable {σ : Type} [RuleStore σ] {store : σ} {rules : List WakeRule} {clock : Clock}
  {settings : Settings}

/-- With commands on, a boot is idle exactly where no window holds the moment or the first of the
rules whose windows do has no command. Otherwise it runs the command of that rule. -/
theorem boots_answer_for_the_first_awaited
    (listed : RuleStore.enabledWakeRules store = .ok (rules.filter (·.enabled)))
    (on : settings.enabled = true) (commands : settings.commandsEnabled = true) :
    (handleBoot store clock settings = .ok .idle ↔
      (∀ rule ∈ rules,
        ¬WakeRule.Awaited rule clock.weekday clock.time settings.bootTime.toNat) ∨
      ∃ first, FirstAwaited rules clock.weekday clock.time settings.bootTime.toNat first ∧
        first.action.command = none) ∧
    ∀ rule text, handleBoot store clock settings = .ok (.runCommand rule text) ↔
      FirstAwaited rules clock.weekday clock.time settings.bootTime.toNat rule ∧
        rule.action.command = some text := by
  rw [handleBoot_eq listed on commands, ← bootedRule?_eq_none_iff]
  simp only [← bootedRule?_eq_some_iff]
  cases bootedRule? clock.weekday clock.time rules settings.bootTime.toNat with
  | none => simp
  | some first => simp [bootAnswer_eq_idle_iff, bootAnswer_eq_runCommand_iff]

end Answer

def quietStore : MemoryStore :=
  let quiet : WakeRule := ⟨none, "quiet", ⟨6, 30, 0⟩, .ofDays [.tuesday], ⟨none, .mem⟩, true⟩
  let backup : WakeRule :=
    ⟨none, "backup", ⟨6, 32, 0⟩, .ofDays [.tuesday], ⟨some "backup", .mem⟩, true⟩
  { wake := ⟨[⟨1, quiet⟩, ⟨2, backup⟩], 2⟩ }

theorem boot_answers_after_the_quiet_rule :
    let clock : Clock := .ofMoment ⟨⟨2026, 1, 6, by decide⟩, ⟨6, 35, 1⟩⟩
    let backup : WakeRule :=
      ⟨some 2, "backup", ⟨6, 32, 0⟩, .ofDays [.tuesday], ⟨some "backup", .mem⟩, true⟩
    commandSettings.enabled = true ∧ commandSettings.commandsEnabled = true ∧
      FirstAwaited (MemoryStore.rulesOf quietStore.wake) clock.weekday clock.time
        commandSettings.bootTime.toNat backup ∧
      handleBoot quietStore clock commandSettings ≠ .ok .idle := by
  intro clock backup
  have answers : handleBoot quietStore clock commandSettings =
      .ok (.runCommand backup "backup") := by decide
  have listed : RuleStore.enabledWakeRules quietStore =
      .ok ((MemoryStore.rulesOf quietStore.wake).filter (·.enabled)) := rfl
  have on : commandSettings.enabled = true := rfl
  have commands : commandSettings.commandsEnabled = true := rfl
  have first := ((boots_answer_for_the_first_awaited listed on commands).2 _ _).mp answers
  refine ⟨on, commands, first.1, ?_⟩
  rw [answers]
  simp

/-- Two minutes and a half after the quiet rule, a minute after the other, nothing is run. -/
theorem boot_is_idle_in_the_window_of_a_command :
    let clock : Clock := .ofMoment ⟨⟨2026, 1, 6, by decide⟩, ⟨6, 33, 0⟩⟩
    commandSettings.enabled = true ∧ commandSettings.commandsEnabled = true ∧
      handleBoot quietStore clock commandSettings = .ok .idle ∧
      ∃ rule ∈ MemoryStore.rulesOf quietStore.wake, rule.action.command = some "backup" ∧
        WakeRule.Awaited rule clock.weekday clock.time commandSettings.bootTime.toNat := by
  intro clock
  refine ⟨rfl, rfl, by decide, ?_⟩
  unfold WakeRule.Awaited
  decide

section Midnight

def Date.midnight (date : Date) : Int := (date.dayNumber + 1) * 86400

theorem Moment.instant_lt_midnight_iff {fired now : Moment} (begun : fired.instant ≤ now.instant) :
    now.instant < fired.date.midnight ↔ now.date = fired.date := by
  have first := fired.time.seconds_lt
  have second := now.time.seconds_lt
  simp only [instant] at begun
  simp only [instant, Date.midnight]
  constructor
  · intro before
    apply Date.dayNumber_injective
    omega
  · intro same
    rw [same]
    omega

variable {σ : Type} [RuleStore σ] {store : σ} {settings : Settings} {rule : WakeRule}

/-- Within a day a window has its full length. The part of it that lies past midnight is cut off:
there the rule has the time of its next firing still ahead. -/
theorem WakeRule.awaited_iff_before_midnight {fired now : Moment} {width : Nat}
    (short : width < 86400) (fires : WakeRule.firesAt rule fired = true)
    (begun : fired.instant ≤ now.instant) (running : now.instant ≤ fired.instant + width) :
    WakeRule.Awaited rule now.date.weekday now.time width ↔
      now.instant < fired.date.midnight := by
  simp only [WakeRule.firesAt, Bool.and_eq_true, decide_eq_true_eq] at fires
  obtain ⟨onDay, atTime⟩ := fires
  rw [Moment.instant_lt_midnight_iff begun]
  simp only [Moment.instant] at begun running
  constructor
  · rintro ⟨_, opened, _⟩
    have first := fired.time.seconds_lt
    have second := now.time.seconds_lt
    apply Date.dayNumber_injective
    rw [atTime] at opened
    omega
  · intro same
    rw [same] at begun running ⊢
    refine ⟨onDay, ?_, ?_⟩ <;> rw [atTime] <;> omega

/-- The boot of a store with a single rule runs its command for the whole boot time after a firing,
but not past the midnight that follows. -/
theorem boot_windows_close_at_midnight
    (listed : RuleStore.enabledWakeRules store = .ok [rule]) (on : settings.enabled = true)
    (commands : settings.commandsEnabled = true) {text : String}
    (carries : rule.action.command = some text) {fired now : Moment}
    (fires : WakeRule.firesAt rule fired = true) (begun : fired.instant ≤ now.instant)
    (running : now.instant ≤ fired.instant + settings.bootTime.toNat) :
    handleBoot store (.ofMoment now) settings =
      .ok (if now.instant < fired.date.midnight then .runCommand rule text else .idle) := by
  have short : settings.bootTime.toNat < 86400 :=
    Nat.lt_trans settings.bootTime.toNat_lt (by decide)
  have window := WakeRule.awaited_iff_before_midnight short fires begun running
  have enabled : rule.enabled = true :=
    Rule.enabled_of_firesOn ((Bool.and_eq_true _ _).mp fires).1
  have alone : RuleStore.enabledWakeRules store = .ok ([rule].filter (·.enabled)) := by
    rw [listed, List.filter_cons_of_pos enabled, List.filter_nil]
  split
  next before =>
    have awaited := window.mpr before
    apply ((boots_answer_for_the_first_awaited alone on commands).2 rule text).mpr
    exact ⟨⟨awaited, [], [], rfl, by simp, by simp⟩, carries⟩
  next past =>
    apply (boots_answer_for_the_first_awaited alone on commands).1.mpr
    left
    intro other listed awaited
    rw [List.mem_singleton.mp listed] at awaited
    exact past (window.mp awaited)

def syncStore : MemoryStore :=
  { wake := ⟨[⟨1, ⟨none, "sync", ⟨23, 58, 0⟩, .everyDay, ⟨some "sync", .mem⟩, true⟩⟩], 1⟩ }

theorem boot_window_holds_until_midnight :
    let sync : WakeRule := ⟨some 1, "sync", ⟨23, 58, 0⟩, .everyDay, ⟨some "sync", .mem⟩, true⟩
    let fired : Moment := ⟨⟨2026, 1, 5, by decide⟩, ⟨23, 58, 0⟩⟩
    let now : Moment := ⟨⟨2026, 1, 5, by decide⟩, ⟨23, 59, 59⟩⟩
    WakeRule.firesAt sync fired = true ∧ fired.instant ≤ now.instant ∧
      now.instant ≤ fired.instant + commandSettings.bootTime.toNat ∧
      handleBoot syncStore (.ofMoment now) commandSettings = .ok (.runCommand sync "sync") := by
  intro sync fired now
  have fires : WakeRule.firesAt sync fired = true := by decide
  have begun : fired.instant ≤ now.instant := by decide
  have running : now.instant ≤ fired.instant + commandSettings.bootTime.toNat := by decide
  have listed : RuleStore.enabledWakeRules syncStore = .ok [sync] := rfl
  have answer := boot_windows_close_at_midnight listed rfl rfl rfl fires begun running
  rw [if_pos (by decide)] at answer
  exact ⟨fires, begun, running, answer⟩

/-- Half a minute past midnight, half way through the boot time of a rule that fires every day, the
command of the rule is not run. -/
theorem boot_misses_a_window_past_midnight :
    let sync : WakeRule := ⟨some 1, "sync", ⟨23, 58, 0⟩, .everyDay, ⟨some "sync", .mem⟩, true⟩
    let fired : Moment := ⟨⟨2026, 1, 5, by decide⟩, ⟨23, 58, 0⟩⟩
    let now : Moment := ⟨⟨2026, 1, 6, by decide⟩, ⟨0, 0, 30⟩⟩
    RuleStore.wakeRules syncStore = .ok [sync] ∧ sync.enabled = true ∧
      commandSettings.enabled = true ∧ commandSettings.commandsEnabled = true ∧
      commandSettings.bootTime.toNat ≤ 3600 ∧ WakeRule.firesAt sync fired = true ∧
      fired.instant ≤ now.instant ∧
      now.instant ≤ fired.instant + commandSettings.bootTime.toNat ∧
      handleBoot syncStore (.ofMoment now) commandSettings ≠ .ok (.runCommand sync "sync") := by
  intro sync fired now
  refine ⟨rfl, rfl, rfl, rfl, by decide, by decide, by decide, by decide, by decide⟩

end Midnight

end WakeSchedule
