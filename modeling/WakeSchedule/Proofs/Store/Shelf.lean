import WakeSchedule.Proofs.Decision
import WakeSchedule.Proofs.Store.History
import WakeSchedule.Store.Database
/-! The shelves of a database. The rows of a kind may hold any texts. A listing of damaged rows
fails and names the first of them, an insert fails where the enabled rows cannot be listed, and a
deletion never reads a row. What is on the one shelf makes no difference to the other. -/

namespace WakeSchedule

section Fault

def refusal? {β : Type} : Except Violation β → Option Violation
  | .error violation => some violation
  | .ok _ => none

/-- What keeps a row from being read as a rule. Its time is looked at before its mode. -/
def WakeRow.fault? (row : WakeRow) : Option Violation :=
  (refusal? (TimeOfDay.parse row.time)).or (refusal? (PowerMode.parse row.mode))

def SleepRow.fault? (row : SleepRow) : Option Violation := refusal? (SleepTime.parse row.time)

theorem WakeRow.toRule_eq_error_iff (id : RuleId) (row : WakeRow) (violation : Violation) :
    toRule id row = .error violation ↔ row.fault? = some violation := by
  cases time : TimeOfDay.parse row.time with
  | error early => simp [toRule, fault?, refusal?, time, bind, Except.bind]
  | ok read =>
      cases mode : PowerMode.parse row.mode with
      | error late => simp [toRule, fault?, refusal?, time, mode, bind, Except.bind]
      | ok read => simp [toRule, fault?, refusal?, time, mode, bind, Except.bind, pure, Except.pure]

theorem SleepRow.toRule_eq_error_iff (id : RuleId) (row : SleepRow) (violation : Violation) :
    toRule id row = .error violation ↔ row.fault? = some violation := by
  cases time : SleepTime.parse row.time with
  | error early => simp [toRule, fault?, refusal?, time, bind, Except.bind]
  | ok read => simp [toRule, fault?, refusal?, time, bind, Except.bind, pure, Except.pure]

end Fault

section Listing

variable {ρ β : Type} {fault? : ρ → Option Violation} {entry : Entry ρ} {entries : List (Entry ρ)}
  {id : RuleId} {violation : Violation}

/-- The damaged entry with the lowest number, and what is wrong with it. -/
structure FirstDamage (fault? : ρ → Option Violation) (entries : List (Entry ρ)) (id : RuleId)
    (violation : Violation) : Prop where
  found : ∃ entry ∈ entries, entry.id = id ∧ fault? entry.row = some violation
  least : ∀ other ∈ entries, (fault? other.row).isSome = true → id ≤ other.id

theorem firstDamage_cons_of_damaged {own : Violation} (damaged : fault? entry.row = some own)
    (lowest : ∀ other ∈ entries, entry.id < other.id) :
    FirstDamage fault? (entry :: entries) id violation ↔ id = entry.id ∧ violation = own := by
  constructor
  · rintro ⟨⟨other, member, rfl, fault⟩, least⟩
    have bound := least entry List.mem_cons_self (by rw [damaged]; rfl)
    rcases List.mem_cons.mp member with rfl | later
    · exact ⟨rfl, Option.some.inj (fault.symm.trans damaged)⟩
    · exact absurd (lowest other later) (Int.not_lt.mpr bound)
  · rintro ⟨rfl, rfl⟩
    refine ⟨⟨entry, List.mem_cons_self, rfl, damaged⟩, ?_⟩
    intro other member _
    rcases List.mem_cons.mp member with rfl | later
    · exact Int.le_refl _
    · exact Int.le_of_lt (lowest other later)

theorem firstDamage_cons_of_sound (sound : fault? entry.row = none) :
    FirstDamage fault? (entry :: entries) id violation ↔
      FirstDamage fault? entries id violation := by
  constructor
  · rintro ⟨⟨other, member, same, fault⟩, least⟩
    refine ⟨?_, fun other later => least other (List.mem_cons_of_mem _ later)⟩
    rcases List.mem_cons.mp member with rfl | later
    · rw [sound] at fault
      cases fault
    · exact ⟨other, later, same, fault⟩
  · rintro ⟨⟨other, later, same, fault⟩, least⟩
    refine ⟨⟨other, List.mem_cons_of_mem _ later, same, fault⟩, ?_⟩
    intro third member damaged
    rcases List.mem_cons.mp member with rfl | later
    · rw [sound] at damaged
      cases damaged
    · exact least third later damaged

/-- How entries are listed. The listing fails where any of them is damaged, and names the first. -/
structure Reports (fault? : ρ → Option Violation) (entries : List (Entry ρ))
    (listing : Except ScheduleError (List β)) : Prop where
  fails : (∃ failure, listing = .error failure) ↔
    ∃ entry ∈ entries, (fault? entry.row).isSome = true
  names : ∀ failure, listing = .error failure ↔ ∃ id violation,
    failure = .store (.unreadable (.rule id violation)) ∧ FirstDamage fault? entries id violation

variable {toRule : RuleId → ρ → Except Violation β}
  (faults : ∀ id row violation, toRule id row = .error violation ↔ fault? row = some violation)

include faults

theorem readEntries_eq_error_iff (ascending : (entries.map (·.id)).Pairwise (· < ·))
    (failure : StoreError) : Database.readEntries toRule entries = .error failure ↔
      ∃ id violation, failure = .unreadable (.rule id violation) ∧
        FirstDamage fault? entries id violation := by
  induction entries with
  | nil =>
      constructor
      · intro failed
        cases failed
      · rintro ⟨_, _, _, ⟨_, member, _⟩, _⟩
        cases member
  | cons entry entries ih =>
      rcases List.pairwise_cons.mp ascending with ⟨first, rest⟩
      have lowest : ∀ other ∈ entries, entry.id < other.id :=
        fun other later => first other.id (List.mem_map_of_mem later)
      rw [Database.readEntries]
      cases read : toRule entry.id entry.row with
      | error own =>
          simp only [firstDamage_cons_of_damaged ((faults _ _ _).mp read) lowest]
          constructor
          · intro failed
            cases failed
            exact ⟨_, _, rfl, rfl, rfl⟩
          · rintro ⟨_, _, rfl, rfl, rfl⟩
            rfl
      | ok rule =>
          have sound : fault? entry.row = none := by
            cases fault : fault? entry.row with
            | none => rfl
            | some own =>
                rw [(faults _ _ _).mpr fault] at read
                cases read
          simp only [firstDamage_cons_of_sound sound, ← ih rest]
          cases Database.readEntries toRule entries with
          | error later => simp [Except.map]
          | ok rules => simp [Except.map]

theorem sound_of_readEntries {rules : List β}
    (read : Database.readEntries toRule entries = .ok rules) :
    ∀ entry ∈ entries, fault? entry.row = none := by
  induction entries generalizing rules with
  | nil =>
      intro _ member
      cases member
  | cons entry entries ih =>
      rw [Database.readEntries] at read
      cases first : toRule entry.id entry.row with
      | error violation =>
          rw [first] at read
          cases read
      | ok rule =>
          rw [first] at read
          cases rest : Database.readEntries toRule entries with
          | error failure =>
              rw [rest] at read
              cases read
          | ok others =>
              intro other member
              rcases List.mem_cons.mp member with rfl | later
              · cases fault : fault? other.row with
                | none => rfl
                | some own =>
                    rw [(faults _ _ _).mpr fault] at first
                    cases first
              · exact ih rest other later

theorem reports_readEntries (ascending : (entries.map (·.id)).Pairwise (· < ·)) :
    Reports fault? entries
      ((Database.readEntries toRule entries).mapError StoreError.toScheduleError) := by
  have error := readEntries_eq_error_iff faults ascending
  constructor
  · cases read : Database.readEntries toRule entries with
    | ok rules =>
        have sound := sound_of_readEntries faults read
        constructor
        · rintro ⟨_, failed⟩
          cases failed
        · rintro ⟨entry, member, damaged⟩
          rw [sound entry member] at damaged
          cases damaged
    | error failure =>
        obtain ⟨id, violation, _, ⟨entry, member, _, fault⟩, _⟩ := (error failure).mp read
        constructor
        · intro _
          exact ⟨entry, member, by rw [fault]; rfl⟩
        · intro _
          exact ⟨_, rfl⟩
  · intro failure
    constructor
    · intro failed
      cases read : Database.readEntries toRule entries with
      | ok rules =>
          rw [read] at failed
          cases failed
      | error own =>
          obtain ⟨id, violation, rfl, first⟩ := (error own).mp read
          rw [read] at failed
          cases failed
          exact ⟨id, violation, rfl, first⟩
    · rintro ⟨id, violation, rfl, first⟩
      rw [(error _).mpr ⟨id, violation, rfl, first⟩]
      rfl

end Listing

section Shelf

variable {ρ τ α : Type} [RuleTime τ]

/-- The shelf of a kind: its table in a database, how its rows are written and read, and what can be
asked of the rules on it. -/
structure Shelf (ρ τ α : Type) [RuleTime τ] where
  kind : RuleKind
  table : Database → Table ρ
  place : Table ρ → Database → Database
  write : Rule τ α → ρ
  toRule : RuleId → ρ → Except Violation (Rule τ α)
  fault? : ρ → Option Violation
  /-- Whether a row is one of the enabled ones. -/
  selects : ρ → Bool
  rules : Database → Except ScheduleError (List (Rule τ α))
  enabledRules : Database → Except ScheduleError (List (Rule τ α))
  insert : Rule τ α → Database → Except ScheduleError RuleId × Database

def wakeShelf : Shelf WakeRow TimeOfDay WakeAction where
  kind := .wake
  table := Database.wake
  place table db := { db with wake := table }
  write := WakeRow.ofRule
  toRule := WakeRow.toRule
  fault? := WakeRow.fault?
  selects row := row.enabled = 1
  rules := RuleStore.wakeRules
  enabledRules := RuleStore.enabledWakeRules
  insert := RuleStore.insertWake

def sleepShelf : Shelf SleepRow SleepTime Unit where
  kind := .sleep
  table := Database.sleep
  place table db := { db with sleep := table }
  write := SleepRow.ofRule
  toRule := SleepRow.toRule
  fault? := SleepRow.fault?
  selects row := row.enabled = 1
  rules := RuleStore.sleepRules
  enabledRules := RuleStore.enabledSleepRules
  insert := RuleStore.insertSleep

namespace Shelf

variable (shelf : Shelf ρ τ α)

def enabledEntries (db : Database) : List (Entry ρ) :=
  (shelf.table db).entries.filter (shelf.selects ·.row)

/-- What is asked of a shelf is answered from its table alone. An insert reads the enabled rows, and
a deletion reads none. -/
structure Lawful : Prop where
  faults : ∀ id row violation,
    shelf.toRule id row = .error violation ↔ shelf.fault? row = some violation
  table_place : ∀ table db, shelf.table (shelf.place table db) = table
  place_table : ∀ db, shelf.place (shelf.table db) db = db
  rules_eq : ∀ db, shelf.rules db =
    (Database.readEntries shelf.toRule (shelf.table db).entries).mapError
      StoreError.toScheduleError
  enabledRules_eq : ∀ db, shelf.enabledRules db =
    (Database.readEntries shelf.toRule (shelf.enabledEntries db)).mapError
      StoreError.toScheduleError
  insert_of_unlisted : ∀ rule db failure, shelf.enabledRules db = .error failure →
    shelf.insert rule db = (.error failure, db)
  insert_of_listed : ∀ rule db present, shelf.enabledRules db = .ok present →
    let step := (shelf.table db).takeIn (shelf.write rule) rule present
    shelf.insert rule db = (step.1.mapError .violation, shelf.place step.2 db)
  delete_eq : ∀ id db, RuleStore.delete shelf.kind id db =
    let step := (shelf.table db).delete id (ScheduleError.ruleNotFound shelf.kind id)
    (step.1, shelf.place step.2 db)

/-- What damaged rows do to the operations of a shelf. An insert of any rule fails where the enabled
rows cannot be listed, for the same reason, and writes nothing then. A row is deleted whatever its
texts are; every other row stays where it was, and the listing reports on those. -/
structure Contained (db : Database) : Prop where
  listed : Reports shelf.fault? (shelf.table db).entries (shelf.rules db)
  enabledListed : Reports shelf.fault? (shelf.enabledEntries db) (shelf.enabledRules db)
  blocked : ∀ rule, (∃ cause, shelf.insert rule db = (.error (.store cause), db)) ↔
    ∃ entry ∈ shelf.enabledEntries db, (shelf.fault? entry.row).isSome = true
  cause : ∀ rule cause, (shelf.insert rule db).1 = .error (.store cause) ↔
    shelf.enabledRules db = .error (.store cause)
  deletes : ∀ id ∈ (shelf.table db).ids, ∃ later,
    RuleStore.delete shelf.kind id db = (.ok (), later) ∧
      (shelf.table later).entries = (shelf.table db).entries.filter (·.id ≠ id) ∧
      (shelf.table later).lastId = (shelf.table db).lastId ∧
      Reports shelf.fault? (shelf.table later).entries (shelf.rules later)
  refuses : ∀ id ∉ (shelf.table db).ids,
    RuleStore.delete shelf.kind id db = (.error (.ruleNotFound shelf.kind id), db)

/-- The shelf answers, and changes, as if the rows on the other one were not there. -/
structure Apart {ρ' τ' α' : Type} [RuleTime τ'] (other : Shelf ρ' τ' α') : Prop where
  rules : ∀ table db, shelf.rules (other.place table db) = shelf.rules db
  enabledRules : ∀ table db, shelf.enabledRules (other.place table db) = shelf.enabledRules db
  insert : ∀ rule table db, shelf.insert rule (other.place table db) =
    ((shelf.insert rule db).1, other.place table (shelf.insert rule db).2)
  delete : ∀ id table db, RuleStore.delete shelf.kind id (other.place table db) =
    ((RuleStore.delete shelf.kind id db).1,
      other.place table (RuleStore.delete shelf.kind id db).2)

structure SameEnabled (first second : Database) : Prop where
  entries : shelf.enabledEntries second = shelf.enabledEntries first
  count : (shelf.table second).lastId = (shelf.table first).lastId

namespace Lawful

variable {shelf} (lawful : shelf.Lawful)

include lawful

theorem listed (db : Database) (ascending : (shelf.table db).ids.Pairwise (· < ·)) :
    Reports shelf.fault? (shelf.table db).entries (shelf.rules db) := by
  rw [lawful.rules_eq]
  exact reports_readEntries lawful.faults ascending

theorem enabledListed {db : Database} (ascending : (shelf.table db).ids.Pairwise (· < ·)) :
    Reports shelf.fault? (shelf.enabledEntries db) (shelf.enabledRules db) := by
  have part : ((shelf.enabledEntries db).map (·.id)).Sublist (shelf.table db).ids :=
    List.filter_sublist.map _
  rw [lawful.enabledRules_eq]
  exact reports_readEntries lawful.faults (ascending.sublist part)

theorem insert_eq_store_iff (rule : Rule τ α) (db : Database) (cause : StoreError) :
    (shelf.insert rule db).1 = .error (.store cause) ↔
      shelf.enabledRules db = .error (.store cause) := by
  cases listed : shelf.enabledRules db with
  | error failure => rw [lawful.insert_of_unlisted rule db failure listed]; simp
  | ok present =>
      rw [lawful.insert_of_listed rule db present listed]
      cases ((shelf.table db).takeIn (shelf.write rule) rule present).1 with
      | error violation => exact ⟨nofun, nofun⟩
      | ok id => exact ⟨nofun, nofun⟩

theorem contained {db : Database} (ascending : (shelf.table db).ids.Pairwise (· < ·)) :
    shelf.Contained db where
  listed := lawful.listed db ascending
  enabledListed := lawful.enabledListed ascending
  blocked := by
    intro rule
    rw [← (lawful.enabledListed ascending).fails]
    constructor
    · rintro ⟨cause, failed⟩
      exact ⟨_, (lawful.insert_eq_store_iff rule db cause).mp (congrArg (·.1) failed)⟩
    · rintro ⟨failure, unlisted⟩
      obtain ⟨id, violation, rfl, _⟩ := ((lawful.enabledListed ascending).names failure).mp unlisted
      exact ⟨_, lawful.insert_of_unlisted rule db _ unlisted⟩
  cause := by
    intro rule cause
    exact lawful.insert_eq_store_iff rule db cause
  deletes := by
    intro id present
    let later := shelf.place ((shelf.table db).erase id) db
    have left : shelf.table later = (shelf.table db).erase id := lawful.table_place _ db
    have part : (shelf.table later).ids.Sublist (shelf.table db).ids := by
      rw [left]
      exact List.filter_sublist.map _
    refine ⟨later, ?_, ?_, ?_, lawful.listed later (ascending.sublist part)⟩
    · rw [lawful.delete_eq, Table.delete_of_mem _ _ present]
    · rw [left]
      rfl
    · rw [left]
      rfl
  refuses := by
    intro id absent
    rw [lawful.delete_eq, Table.delete_of_not_mem _ _ absent]
    exact congrArg (Prod.mk _) (lawful.place_table db)

theorem apart {ρ' τ' α' : Type} [RuleTime τ'] {other : Shelf ρ' τ' α'}
    (elsewhere : ∀ table db, shelf.table (other.place table db) = shelf.table db)
    (swap : ∀ own table db,
      shelf.place own (other.place table db) = other.place table (shelf.place own db)) :
    shelf.Apart other := by
  have enabled : ∀ table db, shelf.enabledRules (other.place table db) = shelf.enabledRules db := by
    intro table db
    rw [lawful.enabledRules_eq, lawful.enabledRules_eq, enabledEntries, enabledEntries, elsewhere]
  refine ⟨?_, enabled, ?_, ?_⟩
  · intro table db
    rw [lawful.rules_eq, lawful.rules_eq, elsewhere]
  · intro rule table db
    cases listed : shelf.enabledRules db with
    | error failure =>
        rw [lawful.insert_of_unlisted rule db failure listed,
          lawful.insert_of_unlisted rule _ failure ((enabled table db).trans listed)]
    | ok present =>
        rw [lawful.insert_of_listed rule db present listed,
          lawful.insert_of_listed rule _ present ((enabled table db).trans listed), elsewhere, swap]
  · intro id table db
    rw [lawful.delete_eq, lawful.delete_eq, elsewhere]
    exact congrArg (Prod.mk _) (swap _ table db)

theorem enabledRules_congr {first second : Database} (same : shelf.SameEnabled first second) :
    shelf.enabledRules second = shelf.enabledRules first := by
  rw [lawful.enabledRules_eq, lawful.enabledRules_eq, same.entries]

theorem insert_congr {first second : Database} (same : shelf.SameEnabled first second)
    (rule : Rule τ α) : (shelf.insert rule second).1 = (shelf.insert rule first).1 := by
  have enabled := lawful.enabledRules_congr same
  cases listed : shelf.enabledRules first with
  | error failure =>
      rw [lawful.insert_of_unlisted rule first failure listed,
        lawful.insert_of_unlisted rule second failure (enabled.trans listed)]
  | ok present =>
      rw [lawful.insert_of_listed rule first present listed,
        lawful.insert_of_listed rule second present (enabled.trans listed)]
      simp only [Table.takeIn, same.count]
      cases checkConflict rule present <;> rfl

end Lawful

end Shelf

theorem failingAs_delete {ε δ : Type} (table : Table ρ) (id : RuleId) (cause : ε → δ)
    (missing : ε) : failingAs cause (table.delete id missing) = table.delete id (cause missing) := by
  unfold Table.delete
  cases table.contains id <;> rfl

theorem wakeShelf_lawful : wakeShelf.Lawful where
  faults := WakeRow.toRule_eq_error_iff
  table_place _ _ := rfl
  place_table _ := rfl
  rules_eq _ := rfl
  enabledRules_eq _ := rfl
  insert_of_unlisted rule db failure unlisted := by
    change failingAs StoreError.toScheduleError (db.insertWake rule) = _
    change db.enabledWakeRules.mapError StoreError.toScheduleError = _ at unlisted
    cases listed : db.enabledWakeRules with
    | ok rules =>
        rw [listed] at unlisted
        cases unlisted
    | error own =>
        rw [listed] at unlisted
        cases unlisted
        rw [Database.insertWake, listed]
        rfl
  insert_of_listed rule db present listed := by
    have read : db.enabledWakeRules = .ok present := mapError_eq_ok.mp listed
    change failingAs StoreError.toScheduleError (db.insertWake rule) = _
    rw [Database.insertWake, read]
    exact congrArg (Prod.mk · _) (mapError_violation _)
  delete_eq id db := by
    have lost := failingAs_delete db.wake id StoreError.toScheduleError (.ruleNotFound .wake id)
    exact congrArg (fun step => (step.1, { db with wake := step.2 })) lost

theorem sleepShelf_lawful : sleepShelf.Lawful where
  faults := SleepRow.toRule_eq_error_iff
  table_place _ _ := rfl
  place_table _ := rfl
  rules_eq _ := rfl
  enabledRules_eq _ := rfl
  insert_of_unlisted rule db failure unlisted := by
    change failingAs StoreError.toScheduleError (db.insertSleep rule) = _
    change db.enabledSleepRules.mapError StoreError.toScheduleError = _ at unlisted
    cases listed : db.enabledSleepRules with
    | ok rules =>
        rw [listed] at unlisted
        cases unlisted
    | error own =>
        rw [listed] at unlisted
        cases unlisted
        rw [Database.insertSleep, listed]
        rfl
  insert_of_listed rule db present listed := by
    have read : db.enabledSleepRules = .ok present := mapError_eq_ok.mp listed
    change failingAs StoreError.toScheduleError (db.insertSleep rule) = _
    rw [Database.insertSleep, read]
    exact congrArg (Prod.mk · _) (mapError_violation _)
  delete_eq id db := by
    have lost := failingAs_delete db.sleep id StoreError.toScheduleError (.ruleNotFound .sleep id)
    exact congrArg (fun step => (step.1, { db with sleep := step.2 })) lost

end Shelf

end WakeSchedule
