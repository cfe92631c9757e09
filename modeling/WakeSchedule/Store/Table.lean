import WakeSchedule.Rule
/-! Tables of numbered entries. A table numbers what it takes in and never gives a number twice. -/

namespace WakeSchedule

structure Entry (ρ : Type) where
  id : RuleId
  row : ρ
  deriving DecidableEq, Repr

structure Table (ρ : Type) where
  entries : List (Entry ρ) := []
  lastId : RuleId := 0
  deriving DecidableEq, Repr

namespace Table

variable {ρ τ α ε : Type}

def ids (table : Table ρ) : List RuleId := table.entries.map (·.id)

def push (table : Table ρ) (row : ρ) : Table ρ :=
  ⟨table.entries ++ [⟨table.lastId + 1, row⟩], table.lastId + 1⟩

def contains (table : Table ρ) (id : RuleId) : Bool := table.entries.any (·.id = id)

def erase (table : Table ρ) (id : RuleId) : Table ρ :=
  { table with entries := table.entries.filter (·.id ≠ id) }

/-- Removes every entry and keeps the count of numbers given. -/
def clear (table : Table ρ) : Table ρ := { table with entries := [] }

def modify (table : Table ρ) (id : RuleId) (change : ρ → ρ) : Table ρ :=
  { table with entries := table.entries.map fun entry =>
      if entry.id = id then ⟨entry.id, change entry.row⟩ else entry }

def place (moved : Entry ρ) : List (Entry ρ) → List (Entry ρ)
  | [] => [moved]
  | entry :: entries =>
      if moved.id < entry.id then moved :: entry :: entries else entry :: place moved entries

/-- Gives an entry another number, and counts on from there if it is the highest one. Entries stay
in the order of their numbers. -/
def renumber (table : Table ρ) (id newId : RuleId) : Table ρ :=
  match table.entries.find? (·.id = id) with
  | some entry =>
      ⟨place ⟨newId, entry.row⟩ (table.erase id).entries, max table.lastId newId⟩
  | none => table

def takeIn [RuleTime τ] (table : Table ρ) (row : ρ) (rule : Rule τ α)
    (present : List (Rule τ α)) : Except Violation RuleId × Table ρ :=
  match checkConflict rule present with
  | .error violation => (.error violation, table)
  | .ok () => (.ok (table.lastId + 1), table.push row)

def delete (table : Table ρ) (id : RuleId) (missing : ε) : Except ε Unit × Table ρ :=
  if table.contains id then (.ok (), table.erase id) else (.error missing, table)

end Table

end WakeSchedule
