import WakeSchedule.Proofs.Store.Run
/-! The agreement of the two stores. On rules whose texts are tidy, as built rules are, the store of
rows answers each request as the store of rules does, and never fails on its own account. -/

namespace WakeSchedule

section Untroubled

variable {β γ σ : Type}

/-- An answer, or a failure that is not the store's own. -/
def Untroubled (answer : Except ScheduleError β) : Prop := ∀ cause, answer ≠ .error (.store cause)

theorem Untroubled.ok (value : β) : Untroubled (.ok value) := fun _ wrong => nomatch wrong

theorem Untroubled.violation (answer : Except Violation β) :
    Untroubled (answer.mapError ScheduleError.violation) := by
  intro cause wrong
  cases answer <;> cases wrong

theorem Untroubled.bind {answer : Except ScheduleError β}
    {next : β → Except ScheduleError γ} (first : Untroubled answer)
    (rest : ∀ value, Untroubled (next value)) : Untroubled (answer >>= next) := by
  intro cause wrong
  cases answer with
  | error failure =>
      cases wrong
      exact first cause rfl
  | ok value => exact rest value cause wrong

theorem Untroubled.map {answer : Except ScheduleError β} (untroubled : Untroubled answer)
    (change : β → γ) : Untroubled (answer.map change) := by
  intro cause wrong
  cases answer with
  | error failure =>
      cases wrong
      exact untroubled cause rfl
  | ok value => cases wrong

variable [RuleStore σ] {store : σ}

theorem scheduleNextWake_untroubled (listed : Untroubled (RuleStore.enabledWakeRules store))
    (clock : Clock) (settings : Settings) :
    Untroubled (scheduleNextWake store clock settings) := by
  apply Untroubled.bind listed
  intro rules
  split
  · intro _ wrong
    cases wrong
  · refine Untroubled.bind (Untroubled.violation _) fun date => ?_
    rw [Invocation.onDate_eq]
    exact Untroubled.ok _

theorem suspendOrPowerOff_untroubled (rule : SleepRule) (settings : Settings)
    {outcome : Except ScheduleError Invocation} (untroubled : Untroubled outcome) :
    Untroubled (suspendOrPowerOff rule settings outcome) := by
  intro cause wrong
  cases outcome with
  | ok order => cases wrong
  | error failure =>
      cases failure with
      | nothingScheduled =>
          rw [suspendOrPowerOff] at wrong
          split at wrong <;> cases wrong
      | violation | ruleNotFound => cases wrong
      | store other => exact untroubled other rfl

theorem handleTick_untroubled (wake : Untroubled (RuleStore.enabledWakeRules store))
    (sleep : Untroubled (RuleStore.enabledSleepRules store)) (clock : Clock)
    (settings : Settings) : Untroubled (handleTick store clock settings) := by
  have next := scheduleNextWake_untroubled wake clock settings
  unfold handleTick
  split
  · apply Untroubled.bind sleep
    intro rules
    split
    · exact Untroubled.ok _
    · exact suspendOrPowerOff_untroubled _ settings next
  · exact Untroubled.ok _

theorem handleBoot_untroubled (listed : Untroubled (RuleStore.enabledWakeRules store))
    (clock : Clock) (settings : Settings) : Untroubled (handleBoot store clock settings) := by
  unfold handleBoot
  split
  · apply Untroubled.bind listed
    intro rules
    split
    · exact Untroubled.ok _
    · split
      · exact Untroubled.ok _
      · exact Untroubled.ok _
  · exact Untroubled.ok _

theorem MemoryStore.delete_untroubled (store : MemoryStore) (kind : RuleKind) (id : RuleId) :
    Untroubled (store.delete kind id).1 := by
  intro cause wrong
  cases kind with
  | wake | sleep =>
      rw [delete, Table.delete] at wrong
      split at wrong <;> cases wrong

theorem MemoryStore.serve_untroubled (store : MemoryStore) (request : StoreRequest) :
    Untroubled (request.serve store).1 := by
  have wake : Untroubled (RuleStore.enabledWakeRules store) := Untroubled.ok _
  have sleep : Untroubled (RuleStore.enabledSleepRules store) := Untroubled.ok _
  cases request with
  | wakeRules | sleepRules | enabledWakeRules | enabledSleepRules => exact Untroubled.ok _
  | insertWake rule | insertSleep rule => exact (Untroubled.violation _).map _
  | addWake rule =>
      simp only [StoreRequest.serve, addWakeRule]
      cases checkWakeRule rule with
      | error violation =>
          intro _ wrong
          cases wrong
      | ok => exact (Untroubled.violation _).map _
  | addSleep rule =>
      simp only [StoreRequest.serve, addSleepRule]
      cases checkSleepRule rule with
      | error violation =>
          intro _ wrong
          cases wrong
      | ok => exact (Untroubled.violation _).map _
  | delete kind id => exact (store.delete_untroubled kind id).map _
  | nextWake clock settings => exact (scheduleNextWake_untroubled wake clock settings).map _
  | tick clock settings => exact (handleTick_untroubled wake sleep clock settings).map _
  | boot clock settings => exact (handleBoot_untroubled wake clock settings).map _

end Untroubled

section Listings

variable {σ υ : Type} [RuleStore σ] [RuleStore υ] {first : σ} {second : υ}

structure SameListings (first : σ) (second : υ) : Prop where
  wakeRules : RuleStore.wakeRules second = RuleStore.wakeRules first
  sleepRules : RuleStore.sleepRules second = RuleStore.sleepRules first
  enabledWakeRules : RuleStore.enabledWakeRules second = RuleStore.enabledWakeRules first
  enabledSleepRules : RuleStore.enabledSleepRules second = RuleStore.enabledSleepRules first

theorem SameListings.scheduleNextWake (same : SameListings first second) (clock : Clock)
    (settings : Settings) :
    scheduleNextWake second clock settings = scheduleNextWake first clock settings := by
  simp only [WakeSchedule.scheduleNextWake, same.enabledWakeRules]

theorem SameListings.answer (same : SameListings first second) {request : StoreRequest}
    (noWake : request.wakeChange? = none) (noSleep : request.sleepChange? = none) :
    (request.serve second).1 = (request.serve first).1 := by
  cases request with
  | wakeRules => simp only [StoreRequest.serve, same.wakeRules]
  | sleepRules => simp only [StoreRequest.serve, same.sleepRules]
  | enabledWakeRules => simp only [StoreRequest.serve, same.enabledWakeRules]
  | enabledSleepRules => simp only [StoreRequest.serve, same.enabledSleepRules]
  | insertWake | addWake => cases noWake
  | insertSleep | addSleep => cases noSleep
  | delete kind id =>
      cases kind with
      | wake => cases noWake
      | sleep => cases noSleep
  | nextWake clock settings =>
      simp only [StoreRequest.serve, same.scheduleNextWake]
  | tick clock settings =>
      simp only [StoreRequest.serve, handleTick, same.enabledSleepRules, same.scheduleNextWake]
  | boot clock settings =>
      simp only [StoreRequest.serve, handleBoot, same.enabledWakeRules]

end Listings

/-- A rule as it is built, whatever number and flag it is given later. -/
def WakeRule.Built (rule : WakeRule) : Prop :=
  ∃ name time days command mode id enabled,
    rule = { wakeRule name time days command mode with id := id, enabled := enabled }

def SleepRule.Built (rule : SleepRule) : Prop :=
  ∃ name time days id enabled,
    rule = { sleepRule name time days with id := id, enabled := enabled }

theorem WakeRule.Built.tidied_eq {rule : WakeRule} (built : WakeRule.Built rule) :
    WakeRule.tidied rule = rule := by
  rcases built with ⟨name, time, days, command, mode, id, enabled, rfl⟩
  simp only [WakeRule.tidied, wakeRule, trim_idem, bind_tidyCommand_idem]

theorem SleepRule.Built.tidied_eq {rule : SleepRule} (built : SleepRule.Built rule) :
    SleepRule.tidied rule = rule := by
  rcases built with ⟨name, time, days, id, enabled, rfl⟩
  simp only [SleepRule.tidied, sleepRule, trim_idem]

def StoreRequest.Built : StoreRequest → Prop
  | .insertWake rule | .addWake rule => WakeRule.Built rule
  | .insertSleep rule | .addSleep rule => SleepRule.Built rule
  | _ => True

theorem StoreRequest.Built.wake {request : StoreRequest} (built : request.Built)
    {rule : WakeRule} (stores : request.wakeChange? = some (.store rule)) :
    WakeRule.tidied rule = rule := by
  cases request with
  | insertWake | addWake =>
      cases stores
      exact WakeRule.Built.tidied_eq built
  | delete kind id => cases kind <;> cases stores
  | _ => cases stores

theorem StoreRequest.Built.sleep {request : StoreRequest} (built : request.Built)
    {rule : SleepRule} (stores : request.sleepChange? = some (.store rule)) :
    SleepRule.tidied rule = rule := by
  cases request with
  | insertSleep | addSleep =>
      cases stores
      exact SleepRule.Built.tidied_eq built
  | delete kind id => cases kind <;> cases stores
  | _ => cases stores

structure MemoryStore.Tidy (store : MemoryStore) : Prop where
  wake : ∀ entry ∈ store.wake.entries, WakeRule.tidied entry.row = entry.row
  sleep : ∀ entry ∈ store.sleep.entries, SleepRule.tidied entry.row = entry.row

theorem MemoryStore.map_shown {τ α : Type} {table : Table (Rule τ α)}
    {shown : Rule τ α → Rule τ α}
    (numbered : ∀ id rule, shown (rule.withId id) = (shown rule).withId id)
    (kept : ∀ entry ∈ table.entries, shown entry.row = entry.row) {rules : List (Rule τ α)}
    (listed : ∀ rule ∈ rules, rule ∈ rulesOf table) : rules.map shown = rules := by
  have same : ∀ rule ∈ rules, shown rule = id rule := by
    intro rule member
    rcases List.mem_map.mp (listed rule member) with ⟨entry, stored, rfl⟩
    rw [numbered, kept entry stored]
    rfl
  exact (List.map_congr_left same).trans (List.map_id rules)

namespace MemoryStore.Tidy

variable {store : MemoryStore} {db : Database}

theorem fresh : ({} : MemoryStore).Tidy := by
  constructor
  · intro _ member
    cases member
  · intro _ member
    cases member

theorem serve (tidy : store.Tidy) {request : StoreRequest} (built : request.Built) :
    (request.serve store).2.Tidy := by
  rcases store.serve_step request with ⟨wake, sleep⟩
  constructor
  · exact wake.forall_rows tidy.wake fun _ _ made => built.wake (eventOf?_eq_stored made)
  · exact sleep.forall_rows tidy.sleep fun _ _ made => built.sleep (eventOf?_eq_stored made)

theorem sameListings (tidy : store.Tidy) (mirror : Mirrors store db) : SameListings store db where
  wakeRules := by
    change db.wakeRules.mapError StoreError.toScheduleError = _
    rw [mirror.wakeRules, map_shown (fun _ _ => rfl) tidy.wake fun _ member => member]
    rfl
  sleepRules := by
    change db.sleepRules.mapError StoreError.toScheduleError = _
    rw [mirror.sleepRules, map_shown (fun _ _ => rfl) tidy.sleep fun _ member => member]
    rfl
  enabledWakeRules := by
    change db.enabledWakeRules.mapError StoreError.toScheduleError = _
    rw [mirror.enabledWakeRules,
      map_shown (fun _ _ => rfl) tidy.wake fun _ member => List.filter_sublist.subset member]
    rfl
  enabledSleepRules := by
    change db.enabledSleepRules.mapError StoreError.toScheduleError = _
    rw [mirror.enabledSleepRules,
      map_shown (fun _ _ => rfl) tidy.sleep fun _ member => List.filter_sublist.subset member]
    rfl

theorem agree (tidy : store.Tidy) (mirror : Mirrors store db) (request : StoreRequest) :
    Agree (request.serve store) (request.serve db) := by
  rcases mirror.serve request with ⟨noWake, noSleep, kept, keptRows⟩ | agree
  · refine ⟨(tidy.sameListings mirror).answer noWake noSleep, ?_⟩
    rw [kept, keptRows]
    exact mirror
  · exact agree

end MemoryStore.Tidy

theorem Mirrors.serveAll_agree {requests : List StoreRequest}
    (built : ∀ request ∈ requests, request.Built) {store : MemoryStore} {db : Database}
    (mirror : Mirrors store db) (tidy : store.Tidy) :
    (serveAll StoreRequest.serve db requests).1 =
      (serveAll StoreRequest.serve store requests).1 := by
  induction requests generalizing store db with
  | nil => rfl
  | cons request requests ih =>
      have first := built request List.mem_cons_self
      have agree := tidy.agree mirror request
      have rest := ih (fun other member => built other (List.mem_cons_of_mem _ member))
        agree.mirror (tidy.serve first)
      simp only [serveAll, agree.answer, rest]

/-- On runs that store none but built rules the two stores cannot be told apart, and the database
never fails on its own account. -/
theorem stores_answer_alike (requests : List StoreRequest)
    (built : ∀ request ∈ requests, request.Built) :
    (serveAll StoreRequest.serve ({} : Database) requests).1 =
        (serveAll StoreRequest.serve ({} : MemoryStore) requests).1 ∧
      ∀ exchange ∈ (serveAll StoreRequest.serve ({} : Database) requests).1,
        ∀ cause, exchange.2 ≠ .error (.store cause) := by
  have alike := Mirrors.serveAll_agree built .fresh .fresh
  refine ⟨alike, ?_⟩
  rw [alike]
  exact forall_replies MemoryStore.serve_untroubled {} requests

def dawnRule : WakeRule :=
  wakeRule " dawn " ⟨6, 30, 0⟩ (.ofDays [.saturday]) (some " mount ") .mem

def dawnRequests : List StoreRequest :=
  [.insertWake dawnRule, .addWake (dawnRule.withEnabled false), .insertWake dawnRule,
    .delete .wake 1, .insertWake dawnRule, .wakeRules]

theorem stores_answer_alike_at_dawn :
    (∀ request ∈ dawnRequests, request.Built) ∧
      (serveAll StoreRequest.serve ({} : Database) dawnRequests).1.map (·.2) =
        [.ok (.stored 1), .ok (.stored 2), .error (.violation (.slotTaken .saturday "063000")),
          .ok .done, .ok (.stored 3),
          .ok (.wakeRules [(dawnRule.withId 2).withEnabled false, dawnRule.withId 3])] := by
  have enabled : WakeRule.Built dawnRule := ⟨_, _, _, _, _, _, _, rfl⟩
  have disabled : WakeRule.Built (dawnRule.withEnabled false) := ⟨_, _, _, _, _, _, _, rfl⟩
  have built : ∀ request ∈ dawnRequests, request.Built := by
    simp [dawnRequests, StoreRequest.Built, enabled, disabled]
  refine ⟨built, ?_⟩
  rw [(stores_answer_alike dawnRequests built).1]
  decide

end WakeSchedule
