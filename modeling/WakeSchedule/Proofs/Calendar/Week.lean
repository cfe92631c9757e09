import WakeSchedule.Mask

namespace WakeSchedule

namespace Weekday

theorem ofIndex_congr {first second : Nat} (same : first % 7 = second % 7) :
    ofIndex first = ofIndex second := by
  simp only [ofIndex, same]

theorem mem_all (day : Weekday) : day ∈ all := by
  cases day <;> decide

theorem offset_zero (day : Weekday) : day.offset 0 = day := ofIndex_index day

theorem offset_seven (day : Weekday) : day.offset 7 = day := by
  cases day <;> rfl

theorem exists_offset (today day : Weekday) :
    ∃ days, 1 ≤ days ∧ days ≤ 7 ∧ today.offset days = day := by
  have first := index_lt today
  have second := index_lt day
  refine ⟨(day.index + 6 - today.index) % 7 + 1, by omega, by omega, ?_⟩
  calc
    today.offset ((day.index + 6 - today.index) % 7 + 1) = ofIndex day.index := by
      apply ofIndex_congr
      omega
    _ = day := ofIndex_index day

theorem all_getElem?_eq_some_iff (place : Nat) (day : Weekday) :
    all[place]? = some day ↔ day.index = place := by
  constructor
  · intro found
    have within : place < 7 := (List.getElem?_eq_some_iff.mp found).1
    have each : ∀ place < 7, all[place]?.map index = some place := by decide
    have placed := each place within
    rw [found] at placed
    exact Option.some.inj placed
  · intro placed
    subst placed
    cases day <;> rfl

theorem exists_all_getElem? {place : Nat} (within : place < 7) :
    ∃ day, all[place]? = some day :=
  ⟨all[place], List.getElem?_eq_getElem within⟩

theorem index_injective {first second : Weekday} (same : first.index = second.index) :
    first = second := by
  rw [← ofIndex_index first, same, ofIndex_index]

theorem find?_all_eq_some_iff (wanted : Weekday → Bool) (day : Weekday) :
    all.find? wanted = some day ↔
      wanted day = true ∧ ∀ earlier, earlier.index < day.index → wanted earlier = false := by
  rw [List.find?_eq_some_iff_getElem]
  refine and_congr_right fun _ => ?_
  constructor
  · intro found earlier before
    obtain ⟨place, within, found, refused⟩ := found
    have placed := (all_getElem?_eq_some_iff place day).mp
      (List.getElem?_eq_some_iff.mpr ⟨within, found⟩)
    obtain ⟨_, here⟩ := List.getElem?_eq_some_iff.mp
      ((all_getElem?_eq_some_iff earlier.index earlier).mpr rfl)
    simpa [here] using refused earlier.index (by omega)
  · intro refused
    obtain ⟨within, here⟩ := List.getElem?_eq_some_iff.mp
      ((all_getElem?_eq_some_iff day.index day).mpr rfl)
    refine ⟨day.index, within, here, fun place before => ?_⟩
    have placed := (all_getElem?_eq_some_iff place all[place]).mp
      (List.getElem?_eq_getElem (by omega))
    simpa using refused all[place] (by omega)

end Weekday

theorem Week.ext_get {α : Type} {first second : Week α}
    (same : ∀ day, first.get day = second.get day) : first = second := by
  cases first
  cases second
  simp only [mk.injEq]
  exact ⟨same .sunday, same .monday, same .tuesday, same .wednesday, same .thursday, same .friday,
    same .saturday⟩

theorem Mask.isEmpty_iff (mask : Mask) : mask.isEmpty = true ↔ ∀ day, mask.get day = false := by
  simp only [isEmpty, activeDays, List.isEmpty_iff, List.filter_eq_nil_iff, Bool.not_eq_true]
  exact ⟨fun idle day => idle day day.mem_all, fun idle day _ => idle day⟩

end WakeSchedule
