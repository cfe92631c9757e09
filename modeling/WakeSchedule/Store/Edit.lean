import WakeSchedule.Store.Database
/-! Changes made to stored rows from outside, past every check of rules and settings. -/

namespace WakeSchedule

inductive RuleEdit
  | remove
  | renumber (id : RuleId)
  | name (text : String)
  | time (text : String)
  | day (day : Weekday) (flag : Int)
  | command (text : Option String)
  | mode (text : String)
  | enabled (flag : Int)
  deriving DecidableEq, Repr

inductive SettingsEdit
  | remove
  | enabled (flag : Int)
  | commandsEnabled (flag : Int)
  | useLocalTime (flag : Int)
  | options (text : String)
  | defaultMode (text : String)
  | bootTime (seconds : Int)
  | shutdownOnFailure (flag : Int)
  deriving DecidableEq, Repr

def WakeRow.edit (row : WakeRow) : RuleEdit → WakeRow
  | .remove | .renumber _ => row
  | .name text => { row with name := text }
  | .time text => { row with time := text }
  | .day day flag => { row with days := row.days.set day flag }
  | .command text => { row with command := text }
  | .mode text => { row with mode := text }
  | .enabled flag => { row with enabled := flag }

def SleepRow.edit (row : SleepRow) : RuleEdit → SleepRow
  | .remove | .renumber _ | .command _ | .mode _ => row
  | .name text => { row with name := text }
  | .time text => { row with time := text }
  | .day day flag => { row with days := row.days.set day flag }
  | .enabled flag => { row with enabled := flag }

def SettingsRow.edit? (row : SettingsRow) : SettingsEdit → Option SettingsRow
  | .remove => none
  | .enabled flag => some { row with enabled := flag }
  | .commandsEnabled flag => some { row with commandsEnabled := flag }
  | .useLocalTime flag => some { row with useLocalTime := flag }
  | .options text => some { row with options := text }
  | .defaultMode text => some { row with defaultMode := text }
  | .bootTime seconds => some { row with bootTime := seconds }
  | .shutdownOnFailure flag => some { row with shutdownOnFailure := flag }

/-- There must be a row to change, and no other row under the number that it is given. -/
def Table.admits {ρ : Type} (table : Table ρ) (id : RuleId) : RuleEdit → Bool
  | .renumber newId => table.contains id && (newId = id || !table.contains newId)
  | _ => table.contains id

def Table.edit {ρ : Type} (table : Table ρ) (id : RuleId) (change : RuleEdit)
    (editRow : ρ → RuleEdit → ρ) : Table ρ :=
  if table.admits id change then
    match change with
    | .remove => table.erase id
    | .renumber newId => table.renumber id newId
    | change => table.modify id (editRow · change)
  else table

namespace Database

/-- The table of a kind after a change, and whether the change was made. -/
def editRule (kind : RuleKind) (id : RuleId) (change : RuleEdit) (db : Database) :
    Bool × Database :=
  match kind with
  | .wake =>
      (db.wake.admits id change, { db with wake := db.wake.edit id change WakeRow.edit })
  | .sleep =>
      (db.sleep.admits id change, { db with sleep := db.sleep.edit id change SleepRow.edit })

def editSettings (change : SettingsEdit) (db : Database) : Bool × Database :=
  match db.settings with
  | none => (false, db)
  | some row => (true, { db with settings := row.edit? change })

end Database

end WakeSchedule
