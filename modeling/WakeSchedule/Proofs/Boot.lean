import WakeSchedule.Proofs.WakeRun

namespace WakeSchedule

theorem bootedRule?_enabled (today : Weekday) (now : TimeOfDay) (rules : List WakeRule)
    (width : Nat) :
    bootedRule? today now (rules.filter (·.enabled)) width =
      bootedRule? today now rules width := by
  rw [bootedRule?, bootedRule?, filter_enabled_filter]
  intro rule booted
  exact Rule.enabled_of_firesOn ((Bool.and_eq_true _ _).mp booted).1

theorem WakeRule.inBootWindow_iff (rule : WakeRule) (now : TimeOfDay) (width : Nat) :
    WakeRule.inBootWindow rule now width = true ↔
      rule.time.seconds ≤ now.seconds ∧ now.seconds ≤ rule.time.seconds + width := by
  simp only [inBootWindow, Bool.and_eq_true, decide_eq_true_eq]

/-- A rule overtakes a moment that lies in its boot window, but after its own firing of that day. -/
def WakeRule.Overtakes (rule : WakeRule) (woken : Moment) (width : Nat) : Prop :=
  rule.firesOn woken.date.weekday = true ∧ rule.time.seconds < woken.time.seconds ∧
    woken.time.seconds ≤ rule.time.seconds + width

structure FirstToOvertake (rules : List WakeRule) (woken : Moment) (width : Nat)
    (first : WakeRule) : Prop where
  listed : first ∈ rules
  overtakes : WakeRule.Overtakes first woken width
  least : ∀ other ∈ rules, WakeRule.Overtakes other woken width →
    first.time.seconds ≤ other.time.seconds

section Window

variable {rules : List WakeRule} {woken : Moment} {width : Nat}

theorem WakeRule.inBootWindow_cases {rule : WakeRule}
    (fires : rule.firesOn woken.date.weekday = true)
    (window : WakeRule.inBootWindow rule woken.time width = true) :
    WakeRule.firesAt rule woken = true ∨ rule.Overtakes woken width := by
  rcases (rule.inBootWindow_iff _ _).mp window with ⟨begun, running⟩
  rcases Nat.lt_or_eq_of_le begun with earlier | same
  · exact Or.inr ⟨fires, earlier, running⟩
  · left
    have level : rule.time = woken.time := by
      apply TimeOfDay.code_injective
      apply Nat.le_antisymm <;> rw [TimeOfDay.code_le_iff] <;> omega
    simp [firesAt, fires, level]

theorem bootedRule?_of_not_overtaken {rule : WakeRule}
    (one : rules.filter (WakeRule.firesAt · woken) = [rule])
    (clear : ∀ other ∈ rules, ¬other.Overtakes woken width) :
    bootedRule? woken.date.weekday woken.time rules width = some rule := by
  have same : (rules.filter fun other => other.firesOn woken.date.weekday &&
      WakeRule.inBootWindow other woken.time width) =
        rules.filter (WakeRule.firesAt · woken) := by
    apply List.filter_congr
    intro other listed
    rw [Bool.eq_iff_iff, Bool.and_eq_true]
    constructor
    · rintro ⟨fires, window⟩
      exact (WakeRule.inBootWindow_cases fires window).resolve_right (clear other listed)
    · intro firesAt
      simp only [WakeRule.firesAt, Bool.and_eq_true, decide_eq_true_eq] at firesAt
      rw [WakeRule.inBootWindow_iff, firesAt.2]
      exact ⟨firesAt.1, Nat.le_refl _, Nat.le_add_right _ _⟩
  rw [bootedRule?, same, one]
  rfl

theorem bootedRule?_of_overtaken {other : WakeRule} (listed : other ∈ rules)
    (overtakes : other.Overtakes woken width) :
    ∃ first, FirstToOvertake rules woken width first ∧
      bootedRule? woken.date.weekday woken.time rules width = some first := by
  have candidate : ∀ third ∈ rules, third.Overtakes woken width →
      third ∈ rules.filter fun rule => rule.firesOn woken.date.weekday &&
        WakeRule.inBootWindow rule woken.time width := by
    intro third member ⟨fires, earlier, running⟩
    refine List.mem_filter.mpr ⟨member, ?_⟩
    rw [Bool.and_eq_true, WakeRule.inBootWindow_iff]
    exact ⟨fires, Nat.le_of_lt earlier, running⟩
  cases found : bootedRule? woken.date.weekday woken.time rules width with
  | none =>
      have empty := (earliest?_eq_none _).mp found
      have member := candidate other listed overtakes
      rw [empty] at member
      cases member
  | some first =>
      have least : ∀ third ∈ rules, third.Overtakes woken width →
          first.time.seconds ≤ third.time.seconds := by
        intro third member earlier
        apply (TimeOfDay.code_le_iff _ _).mp
        exact (earliest?_spec found).1 third (candidate third member earlier)
      have chosen := List.mem_filter.mp (mem_of_earliest? found)
      rw [Bool.and_eq_true, WakeRule.inBootWindow_iff] at chosen
      rcases chosen with ⟨member, fires, _, running⟩
      have earlier : first.time.seconds < woken.time.seconds :=
        Nat.lt_of_le_of_lt (least other listed overtakes) overtakes.2.1
      exact ⟨first, ⟨member, ⟨fires, earlier, running⟩, least⟩, rfl⟩

end Window

def bootAnswer (rule : WakeRule) : BootDecision :=
  match rule.action.command with
  | none => .idle
  | some command => .runCommand rule command

theorem bootAnswer_eq_idle_iff (rule : WakeRule) :
    bootAnswer rule = .idle ↔ rule.action.command = none := by
  unfold bootAnswer
  cases rule.action.command <;> simp

theorem bootAnswer_eq_runCommand_iff (rule other : WakeRule) (text : String) :
    bootAnswer rule = .runCommand other text ↔ rule = other ∧ other.action.command = some text := by
  unfold bootAnswer
  constructor
  · intro answer
    split at answer
    · cases answer
    next carried =>
      cases answer
      exact ⟨rfl, carried⟩
  · rintro ⟨rfl, carried⟩
    rw [carried]

section Boot

variable {σ : Type} [RuleStore σ] {store : σ} {rules : List WakeRule} {settings : Settings}

theorem handleBoot_eq {clock : Clock}
    (listed : RuleStore.enabledWakeRules store = .ok (rules.filter (·.enabled)))
    (on : settings.enabled = true) (commands : settings.commandsEnabled = true) :
    handleBoot store clock settings =
      .ok (((bootedRule? clock.weekday clock.time rules settings.bootTime.toNat).map
        bootAnswer).getD .idle) := by
  simp only [handleBoot, on, commands, listed, Bool.and_self, if_true, bind, Except.bind,
    bootedRule?_enabled]
  cases bootedRule? clock.weekday clock.time rules settings.bootTime.toNat with
  | none => rfl
  | some rule =>
      simp only [Option.map_some, Option.getD_some, bootAnswer]
      cases rule.action.command <;> rfl

theorem handleBoot_of_booted
    (listed : RuleStore.enabledWakeRules store = .ok (rules.filter (·.enabled)))
    (on : settings.enabled = true) (commands : settings.commandsEnabled = true) {now : Moment}
    {rule : WakeRule}
    (booted : bootedRule? now.date.weekday now.time rules settings.bootTime.toNat = some rule) :
    handleBoot store (.ofMoment now) settings = .ok (bootAnswer rule) := by
  rw [handleBoot_eq listed on commands]
  simp only [Clock.ofMoment, booted, Option.map_some, Option.getD_some]

/-- The machine has been woken for a rule with a command. The boot at that moment runs the command
exactly where no rule overtakes, and otherwise answers for the earliest rule that does. -/
theorem boot_answers_for_the_earliest
    (listed : RuleStore.enabledWakeRules store = .ok (rules.filter (·.enabled)))
    (free : ConflictFree (rules.filter (·.enabled))) (on : settings.enabled = true)
    (commands : settings.commandsEnabled = true) {now : Moment} {order : Invocation}
    (scheduled : scheduleNextWake store (.ofMoment now) settings = .ok order) {text : String}
    (carries : order.preCommand = some text) :
    ∃ rule, rules.filter (WakeRule.firesAt · order.wakeAt) = [rule] ∧
      rule.action.command = some text ∧
      (handleBoot store (.ofMoment order.wakeAt) settings = .ok (.runCommand rule text) ↔
        ∀ other ∈ rules, ¬other.Overtakes order.wakeAt settings.bootTime.toNat) ∧
      ∀ other ∈ rules, other.Overtakes order.wakeAt settings.bootTime.toNat →
        ∃ first, FirstToOvertake rules order.wakeAt settings.bootTime.toNat first ∧
          handleBoot store (.ofMoment order.wakeAt) settings = .ok (bootAnswer first) := by
  obtain ⟨_, _, rule, found, _, command⟩ :=
    (scheduleNextWake_eq_ok_iff listed now settings order).mp scheduled
  have one := free.filter_firesAt found
  rw [if_pos commands, (Invocation.preCommand_eq_some carries).1] at command
  have firing : rule.time = order.wakeAt.time := by
    have fires := List.find?_some found
    simp only [WakeRule.firesAt, Bool.and_eq_true, decide_eq_true_eq] at fires
    exact fires.2
  have overtaken : ∀ other ∈ rules, other.Overtakes order.wakeAt settings.bootTime.toNat →
      ∃ first, FirstToOvertake rules order.wakeAt settings.bootTime.toNat first ∧
        handleBoot store (.ofMoment order.wakeAt) settings = .ok (bootAnswer first) := by
    intro other member overtakes
    obtain ⟨first, earliest, booted⟩ := bootedRule?_of_overtaken member overtakes
    exact ⟨first, earliest, handleBoot_of_booted listed on commands booted⟩
  refine ⟨rule, one, command.symm, ⟨?_, ?_⟩, overtaken⟩
  · -- The rule of the wake does not fire before itself, so another one would be answered for.
    intro ran other member overtakes
    obtain ⟨first, earliest, answer⟩ := overtaken other member overtakes
    rw [ran, bootAnswer] at answer
    split at answer
    · cases answer
    · cases answer
      exact absurd earliest.overtakes.2.1 (by rw [firing]; exact Nat.lt_irrefl _)
  · intro clear
    have booted := bootedRule?_of_not_overtaken one clear
    rw [handleBoot_of_booted listed on commands booted, bootAnswer, ← command]

end Boot

def commandSettings : Settings := { defaultSettings with commandsEnabled := true }

def pairStore (first second : TimeOfDay) : MemoryStore :=
  let mount : WakeRule := ⟨none, "mount", first, .ofDays [.tuesday], ⟨some "mount", .mem⟩, true⟩
  let backup : WakeRule := ⟨none, "backup", second, .ofDays [.tuesday], ⟨some "backup", .mem⟩, true⟩
  { wake := ⟨[⟨1, mount⟩, ⟨2, backup⟩], 2⟩ }

theorem pairStore_free (first second : TimeOfDay) (apart : first.code ≠ second.code) :
    ConflictFree ((MemoryStore.rulesOf (pairStore first second).wake).filter (·.enabled)) := by
  refine List.pairwise_pair.mpr ?_
  intro clash
  exact apart clash.1

theorem boot_answers_after_a_window :
    let store := pairStore ⟨6, 30, 0⟩ ⟨6, 35, 1⟩
    let now : Moment := ⟨⟨2026, 1, 6, by decide⟩, ⟨6, 31, 0⟩⟩
    let order : Invocation :=
      ⟨⟨⟨2026, 1, 6, by decide⟩, ⟨6, 35, 1⟩⟩, .mem, some "backup", "-a"⟩
    ConflictFree ((MemoryStore.rulesOf store.wake).filter (·.enabled)) ∧
      scheduleNextWake store (.ofMoment now) commandSettings = .ok order ∧
      order.preCommand = some "backup" ∧
      ∃ rule, handleBoot store (.ofMoment order.wakeAt) commandSettings =
        .ok (.runCommand rule "backup") := by
  intro store now order
  have listed : RuleStore.enabledWakeRules store =
      .ok ((MemoryStore.rulesOf store.wake).filter (·.enabled)) := rfl
  have free := pairStore_free ⟨6, 30, 0⟩ ⟨6, 35, 1⟩ (by decide)
  have scheduled : scheduleNextWake store (.ofMoment now) commandSettings = .ok order := by decide
  have carries : order.preCommand = some "backup" := by decide
  have clear : ∀ other ∈ MemoryStore.rulesOf store.wake,
      ¬WakeRule.Overtakes other order.wakeAt commandSettings.bootTime.toNat := by
    unfold WakeRule.Overtakes
    decide
  obtain ⟨rule, _, _, ran, _⟩ :=
    boot_answers_for_the_earliest listed free rfl rfl scheduled carries
  exact ⟨free, scheduled, carries, rule, ran.mpr clear⟩

/-- Two minutes after the one rule the machine is woken for the other, and boots for the one. -/
theorem boot_misses_the_woken_rule :
    let store := pairStore ⟨6, 30, 0⟩ ⟨6, 32, 0⟩
    let now : Moment := ⟨⟨2026, 1, 6, by decide⟩, ⟨6, 31, 0⟩⟩
    let order : Invocation :=
      ⟨⟨⟨2026, 1, 6, by decide⟩, ⟨6, 32, 0⟩⟩, .mem, some "backup", "-a"⟩
    ConflictFree ((MemoryStore.rulesOf store.wake).filter (·.enabled)) ∧
      commandSettings.enabled = true ∧ commandSettings.commandsEnabled = true ∧
      commandSettings.bootTime.toNat ≤ 3600 ∧
      scheduleNextWake store (.ofMoment now) commandSettings = .ok order ∧
      order.preCommand = some "backup" ∧
      (∃ rule, handleBoot store (.ofMoment order.wakeAt) commandSettings =
        .ok (.runCommand rule "mount")) ∧
      ¬∃ rule, handleBoot store (.ofMoment order.wakeAt) commandSettings =
        .ok (.runCommand rule "backup") := by
  intro store now order
  have free := pairStore_free ⟨6, 30, 0⟩ ⟨6, 32, 0⟩ (by decide)
  let mount : WakeRule :=
    ⟨some 1, "mount", ⟨6, 30, 0⟩, .ofDays [.tuesday], ⟨some "mount", .mem⟩, true⟩
  have booted : handleBoot store (.ofMoment order.wakeAt) commandSettings =
      .ok (.runCommand mount "mount") := by decide
  refine ⟨free, rfl, rfl, by decide, by decide, by decide, ⟨mount, booted⟩, ?_⟩
  rintro ⟨rule, wrong⟩
  rw [booted] at wrong
  injection wrong with wrong
  injection wrong with _ texts
  exact absurd texts (by decide)

end WakeSchedule
