import WakeSchedule.Proofs.Conflict
import WakeSchedule.Store.Memory
/-! The history of a table. What a table holds, and the numbers it has given, follow from the events
that befell it: the entries stored and not removed since, numbered from one without a gap. -/

namespace WakeSchedule

inductive Event (ρ : Type)
  | stored (id : RuleId) (row : ρ)
  | deleted (id : RuleId)
  | cleared
  deriving DecidableEq, Repr

variable {ρ τ α : Type}

def Event.removes (event : Event ρ) (id : RuleId) : Bool :=
  match event with
  | .stored _ _ => false
  | .deleted gone => id = gone
  | .cleared => true

/-- The entries that were stored and that no later event removed, in the order of storing. -/
def surviving : List (Event ρ) → List (Entry ρ)
  | [] => []
  | .stored id row :: later =>
      if later.any (·.removes id) then surviving later else ⟨id, row⟩ :: surviving later
  | .deleted _ :: later | .cleared :: later => surviving later

def Event.storedId? : Event ρ → Option RuleId
  | .stored id _ => some id
  | .deleted _ | .cleared => none

def storedIds (events : List (Event ρ)) : List RuleId := events.filterMap Event.storedId?

def firstIds (count : Nat) : List RuleId := (List.range count).map fun index : Nat => index + 1

theorem firstIds_succ (count : Nat) :
    firstIds (count + 1) = firstIds count ++ [(count : Int) + 1] := by
  simp only [firstIds, List.range_succ, List.map_append, List.map_cons, List.map_nil]

theorem nodup_firstIds (count : Nat) : (firstIds count).Nodup := by
  refine List.Pairwise.map _ ?_ List.nodup_range
  intro first second different same
  exact different (Int.ofNat.inj ((Int.add_left_inj 1).mp same))

theorem surviving_append_event (events : List (Event ρ)) (event : Event ρ) :
    surviving (events ++ [event]) =
      (surviving events).filter (fun entry => !event.removes entry.id) ++ surviving [event] := by
  induction events with
  | nil => rfl
  | cons first events ih =>
      cases first with
      | stored id row =>
          simp only [List.cons_append, surviving, List.any_append, List.any_cons, List.any_nil,
            Bool.or_false, ih]
          -- An entry that is gone already stays gone; only the others meet the new event.
          cases gone : events.any (·.removes id) with
          | true => rfl
          | false => cases removed : event.removes id <;> simp [removed]
      | deleted id => exact ih
      | cleared => exact ih

theorem storedIds_append_event (events : List (Event ρ)) (event : Event ρ) :
    storedIds (events ++ [event]) = storedIds events ++ event.storedId?.toList := by
  rw [storedIds, List.filterMap_append]
  cases event <;> rfl

/-- What one event, or none, makes of a table of rules. A rule is stored only where it has no clash,
and always under the next number. -/
inductive Table.Step [RuleTime τ] (table : Table (Rule τ α)) :
    Option (Event (Rule τ α)) → Table (Rule τ α) → Prop
  | unchanged : Step table none table
  | stored (rule : Rule τ α)
      (accepted : checkConflict rule (MemoryStore.rulesOf table) = .ok ()) :
      Step table (some (.stored (table.lastId + 1) rule)) (table.push rule)
  | deleted (id : RuleId) (present : table.contains id = true) :
      Step table (some (.deleted id)) (table.erase id)
  | cleared : Step table (some .cleared) table.clear

structure Table.Reflects [RuleTime τ] (table : Table (Rule τ α))
    (events : List (Event (Rule τ α))) : Prop where
  count : table.lastId = (storedIds events).length
  numbered : storedIds events = firstIds (storedIds events).length
  entries : table.entries = surviving events
  bounds : ∀ id ∈ table.ids, 1 ≤ id ∧ id ≤ table.lastId
  ascending : table.ids.Pairwise (· < ·)
  free : ConflictFree (MemoryStore.rulesOf table)

namespace Table

section Ids

variable (table : Table ρ)

theorem contains_iff (id : RuleId) : table.contains id = true ↔ id ∈ table.ids := by
  simp only [contains, ids, List.any_eq_true, List.mem_map, decide_eq_true_eq]

theorem delete_of_mem {ε : Type} (missing : ε) {id : RuleId} (present : id ∈ table.ids) :
    table.delete id missing = (.ok (), table.erase id) :=
  if_pos ((table.contains_iff id).mpr present)

theorem delete_of_not_mem {ε : Type} (missing : ε) {id : RuleId} (absent : id ∉ table.ids) :
    table.delete id missing = (.error missing, table) :=
  if_neg fun present => absent ((table.contains_iff id).mp present)

theorem ids_push (row : ρ) : (table.push row).ids = table.ids ++ [table.lastId + 1] := by
  simp only [ids, push, List.map_append, List.map_cons, List.map_nil]

theorem erase_split (ascending : table.ids.Pairwise (· < ·)) {id : RuleId}
    (present : id ∈ table.ids) : ∃ before entry after,
      table.entries = before ++ entry :: after ∧ entry.id = id ∧
        (table.erase id).entries = before ++ after := by
  rcases List.mem_map.mp present with ⟨entry, member, rfl⟩
  rcases List.append_of_mem member with ⟨before, after, split⟩
  have order := List.pairwise_map.mp ascending
  rw [split, List.pairwise_append, List.pairwise_cons] at order
  have earlier : before.filter (·.id ≠ entry.id) = before := by
    apply List.filter_eq_self.mpr
    intro other listed
    have lower := order.2.2 other listed entry List.mem_cons_self
    exact decide_eq_true (Int.ne_of_lt lower)
  have later : after.filter (·.id ≠ entry.id) = after := by
    apply List.filter_eq_self.mpr
    intro other listed
    have higher := order.2.1.1 other listed
    exact decide_eq_true (Int.ne_of_gt higher)
  refine ⟨before, entry, after, split, rfl, ?_⟩
  rw [erase, split, List.filter_append, List.filter_cons, earlier, later]
  simp

end Ids

theorem rulesOf_push (table : Table (Rule τ α)) (rule : Rule τ α) :
    MemoryStore.rulesOf (table.push rule) =
      MemoryStore.rulesOf table ++ [rule.withId (table.lastId + 1)] := by
  simp only [MemoryStore.rulesOf, push, List.map_append, List.map_cons, List.map_nil]

variable [RuleTime τ] {table later : Table (Rule τ α)} {events : List (Event (Rule τ α))}

theorem Reflects.fresh : ({} : Table (Rule τ α)).Reflects [] where
  count := rfl
  numbered := rfl
  entries := rfl
  bounds := fun _ member => nomatch member
  ascending := List.Pairwise.nil
  free := List.Pairwise.nil

theorem Reflects.lastId_nonneg (reflects : table.Reflects events) : 0 ≤ table.lastId := by
  rw [reflects.count]
  exact Int.natCast_nonneg _

theorem Reflects.stored (reflects : table.Reflects events) (rule : Rule τ α)
    (accepted : checkConflict rule (MemoryStore.rulesOf table) = .ok ()) :
    (table.push rule).Reflects (events ++ [.stored (table.lastId + 1) rule]) where
  count := by
    rw [storedIds_append_event, List.length_append]
    exact congrArg (· + 1) reflects.count
  numbered := by
    rw [storedIds_append_event, List.length_append]
    change storedIds events ++ [table.lastId + 1] = firstIds ((storedIds events).length + 1)
    rw [firstIds_succ, ← reflects.numbered, ← reflects.count]
  entries := by
    have kept : (surviving events).filter
        (fun entry => !(Event.stored (table.lastId + 1) rule).removes entry.id) =
          surviving events := List.filter_eq_self.mpr fun _ _ => rfl
    rw [surviving_append_event, kept, ← reflects.entries]
    rfl
  bounds := by
    intro id member
    rw [ids_push] at member
    rcases List.mem_append.mp member with given | next
    · have bounds := reflects.bounds id given
      exact ⟨bounds.1, Int.le_of_lt (Int.lt_add_one_of_le bounds.2)⟩
    · rw [List.mem_singleton.mp next]
      exact ⟨Int.add_le_add_right reflects.lastId_nonneg 1, Int.le_refl _⟩
  ascending := by
    rw [ids_push]
    refine List.pairwise_append.mpr ⟨reflects.ascending, List.pairwise_singleton _ _, ?_⟩
    intro id given next last
    rw [List.mem_singleton.mp last]
    exact Int.lt_add_one_of_le (reflects.bounds id given).2
  free := by
    -- The check does not read the number of the candidate.
    have same : checkConflict (rule.withId (table.lastId + 1)) (MemoryStore.rulesOf table) =
        .ok () := accepted
    rw [rulesOf_push]
    exact reflects.free.append same

theorem Reflects.removed (reflects : table.Reflects events) {event : Event (Rule τ α)}
    (removal : event.storedId? = none) (count : later.lastId = table.lastId)
    (entries : later.entries = table.entries.filter fun entry => !event.removes entry.id) :
    later.Reflects (events ++ [event]) := by
  have ids : storedIds (events ++ [event]) = storedIds events := by
    rw [storedIds_append_event, removal]
    exact List.append_nil _
  have part : later.entries.Sublist table.entries := entries ▸ List.filter_sublist
  have partIds : later.ids.Sublist table.ids := part.map _
  constructor
  case count => rw [count, ids, reflects.count]
  case numbered => rw [ids, ← reflects.numbered]
  case entries =>
    have nothing : surviving [event] = [] := by
      cases event with
      | stored id rule => cases removal
      | deleted id => rfl
      | cleared => rfl
    rw [surviving_append_event, nothing, List.append_nil, entries, reflects.entries]
  case bounds =>
    intro id member
    rw [count]
    exact reflects.bounds id (partIds.subset member)
  case ascending => exact reflects.ascending.sublist partIds
  case free => exact reflects.free.sublist (part.map _)

theorem Reflects.step (reflects : table.Reflects events) {event? : Option (Event (Rule τ α))}
    (step : table.Step event? later) : later.Reflects (events ++ event?.toList) := by
  cases step with
  | unchanged =>
      rw [Option.toList_none, List.append_nil]
      exact reflects
  | stored rule accepted => exact reflects.stored rule accepted
  | deleted id present =>
      refine reflects.removed rfl rfl ?_
      simp only [erase, Event.removes, decide_not]
  | cleared =>
      refine reflects.removed rfl rfl ?_
      simp [clear, Event.removes]

theorem Step.eq_of_no_event (step : table.Step none later) : later = table := by
  cases step
  rfl

theorem Step.forall_rows {holds : Rule τ α → Prop} {event? : Option (Event (Rule τ α))}
    (step : table.Step event? later) (before : ∀ entry ∈ table.entries, holds entry.row)
    (new : ∀ id rule, event? = some (.stored id rule) → holds rule) :
    ∀ entry ∈ later.entries, holds entry.row := by
  cases step with
  | unchanged => exact before
  | stored rule accepted =>
      intro entry member
      rcases List.mem_append.mp member with old | last
      · exact before entry old
      · rw [List.mem_singleton.mp last]
        exact new _ rule rfl
  | deleted id present =>
      intro entry member
      exact before entry (List.filter_sublist.subset member)
  | cleared =>
      intro _ member
      cases member

end Table

end WakeSchedule
