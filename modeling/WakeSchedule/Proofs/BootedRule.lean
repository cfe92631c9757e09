import Mathlib.Data.List.Nodup
import WakeSchedule.Proofs.BootWindow

namespace WakeSchedule

section Choice

variable {rules others : List WakeRule} {today : Weekday} {now : TimeOfDay} {width wider : Nat}
  {rule first second : WakeRule}

theorem WakeRule.Awaited.mono (awaited : WakeRule.Awaited rule today now width)
    (longer : width ≤ wider) : WakeRule.Awaited rule today now wider :=
  ⟨awaited.1, awaited.2.1, Nat.le_trans awaited.2.2 (Nat.add_le_add_left longer _)⟩

theorem bootedRule?_filter_firesOn :
    bootedRule? today now (rules.filter (·.firesOn today)) width =
      bootedRule? today now rules width := by
  simp only [bootedRule?, List.filter_filter]
  congr 2
  funext rule
  cases rule.firesOn today <;> simp

theorem eq_of_level (apart : ((rules.filter (·.firesOn today)).map (·.time)).Nodup)
    (listed : first ∈ rules.filter (·.firesOn today))
    (listed' : second ∈ rules.filter (·.firesOn today))
    (level : first.time.seconds = second.time.seconds) : first = second := by
  have sameCode : first.time.code = second.time.code := by
    apply Nat.le_antisymm <;> exact (TimeOfDay.code_le_iff _ _).mpr (by omega)
  exact List.inj_on_of_nodup_map apart listed listed' (TimeOfDay.code_injective sameCode)

theorem mem_of_perm_firesOn (shuffle : (rules.filter (·.firesOn today)).Perm
    (others.filter (·.firesOn today))) (listed : rule ∈ rules)
    (awaited : WakeRule.Awaited rule today now width) : rule ∈ others :=
  (List.mem_filter.mp (shuffle.mem_iff.mp (List.mem_filter.mpr ⟨listed, awaited.1⟩))).1

theorem bootedRule?_perm (shuffle : (rules.filter (·.firesOn today)).Perm
    (others.filter (·.firesOn today)))
    (apart : ((rules.filter (·.firesOn today)).map (·.time)).Nodup) :
    bootedRule? today now others width = bootedRule? today now rules width := by
  cases found : bootedRule? today now rules width with
  | none =>
      rw [bootedRule?_eq_none_iff] at found ⊢
      intro rule listed awaited
      exact found rule (mem_of_perm_firesOn shuffle.symm listed awaited) awaited
  | some first =>
      have one := bootedRule?_eq_some_iff.mp found
      have there := mem_of_perm_firesOn shuffle one.mem one.awaited
      cases refound : bootedRule? today now others width with
      | none => exact absurd one.awaited (bootedRule?_eq_none_iff.mp refound first there)
      | some second =>
          have other := bootedRule?_eq_some_iff.mp refound
          have here := mem_of_perm_firesOn shuffle.symm other.mem other.awaited
          -- Each choice is in the window of the other list too, so neither comes before the other.
          have level : second.time.seconds = first.time.seconds :=
            Nat.le_antisymm (other.least there one.awaited) (one.least here other.awaited)
          have same : second = first :=
            eq_of_level apart (List.mem_filter.mpr ⟨here, other.awaited.1⟩)
              (List.mem_filter.mpr ⟨one.mem, one.awaited.1⟩) level
          rw [same]

theorem exists_bootedRule?_of_longer (longer : width ≤ wider)
    (found : bootedRule? today now rules width = some first) :
    ∃ second, bootedRule? today now rules wider = some second ∧
      second.time.seconds ≤ first.time.seconds := by
  have one := bootedRule?_eq_some_iff.mp found
  have awaited := one.awaited.mono longer
  cases refound : bootedRule? today now rules wider with
  | none => exact absurd awaited (bootedRule?_eq_none_iff.mp refound first one.mem)
  | some second =>
      exact ⟨second, rfl, (bootedRule?_eq_some_iff.mp refound).least one.mem awaited⟩

end Choice

/-- The end of a window is the same number in 32 bits as it is without a bound. -/
theorem toNat_windowEnd (time : TimeOfDay) (bootTime : UInt16) :
    (UInt32.ofNat time.seconds + bootTime.toUInt32).toNat = time.seconds + bootTime.toNat := by
  have begins := time.seconds_lt
  have lasts := bootTime.toNat_lt
  rw [UInt32.toNat_add, UInt32.toNat_ofNat', UInt16.toNat_toUInt32]
  omega

/-- A boot answers for no rule exactly where no window of today holds the time of day, and else for
the first rule of which it does, by time and then by place in the list. Windows of any boot time end
within 32 bits. Only the rules that fire today count, in any order if their times differ, and a
longer boot time leaves no match behind and moves none to a later time. -/
theorem boots_choose_the_first_awaited (rules : List WakeRule) (today : Weekday) (now : TimeOfDay)
    (bootTime : UInt16) :
    (bootedRule? today now rules bootTime.toNat = none ↔
      ∀ rule ∈ rules, ¬WakeRule.Awaited rule today now bootTime.toNat) ∧
    (∀ first, bootedRule? today now rules bootTime.toNat = some first ↔
      FirstAwaited rules today now bootTime.toNat first) ∧
    (∀ time : TimeOfDay, (UInt32.ofNat time.seconds + bootTime.toUInt32).toNat =
      time.seconds + bootTime.toNat) ∧
    (∀ others : List WakeRule,
      others.filter (·.firesOn today) = rules.filter (·.firesOn today) →
        bootedRule? today now others bootTime.toNat =
          bootedRule? today now rules bootTime.toNat) ∧
    (∀ others : List WakeRule,
      (rules.filter (·.firesOn today)).Perm (others.filter (·.firesOn today)) →
      ((rules.filter (·.firesOn today)).map (·.time)).Nodup →
        bootedRule? today now others bootTime.toNat =
          bootedRule? today now rules bootTime.toNat) ∧
    ∀ longer, bootTime ≤ longer → ∀ first,
      bootedRule? today now rules bootTime.toNat = some first →
        ∃ second, bootedRule? today now rules longer.toNat = some second ∧
          second.time.seconds ≤ first.time.seconds := by
  refine ⟨bootedRule?_eq_none_iff, fun _ => bootedRule?_eq_some_iff,
    fun time => toNat_windowEnd time bootTime, ?_, fun _ => bootedRule?_perm, ?_⟩
  · intro others same
    rw [← bootedRule?_filter_firesOn, same, bootedRule?_filter_firesOn]
  · intro longer order first found
    exact exists_bootedRule?_of_longer (UInt16.le_iff_toNat_le.mp order) found

def tuesdayRule (name : String) (time : TimeOfDay) : WakeRule :=
  ⟨none, name, time, .ofDays [.tuesday], ⟨some name, .mem⟩, true⟩

theorem boots_choose_the_first_awaited_at_noon :
    let early := tuesdayRule "early" ⟨11, 0, 0⟩
    let late := tuesdayRule "late" ⟨11, 58, 0⟩
    let noon : TimeOfDay := ⟨12, 0, 0⟩
    [early, late].Perm [late, early] ∧
      (([early, late].filter (·.firesOn .tuesday)).map (·.time)).Nodup ∧
      bootedRule? .tuesday noon [late, early] 300 = some late ∧
      ∃ second, bootedRule? .tuesday noon [early, late] 65535 = some second ∧
        second.time.seconds ≤ late.time.seconds := by
  intro early late noon
  have shuffle : [early, late].Perm [late, early] := List.Perm.swap _ _ _
  have apart : (([early, late].filter (·.firesOn .tuesday)).map (·.time)).Nodup := by decide
  have found : bootedRule? .tuesday noon [early, late] 300 = some late := by decide
  obtain ⟨_, _, _, _, anyOrder, wider⟩ :=
    boots_choose_the_first_awaited [early, late] .tuesday noon 300
  have refound := (anyOrder [late, early] (shuffle.filter _) apart).trans found
  exact ⟨shuffle, apart, refound, wider 65535 (by decide) late found⟩

end WakeSchedule
