import WakeSchedule.Main
import WakeSchedule.Store.Edit
import WakeSchedule.Store.Memory
import WakeSchedule.Proofs.Calendar.DayNumber
import WakeSchedule.Proofs.Calendar.Instant
import WakeSchedule.Proofs.Agenda
import WakeSchedule.Proofs.NextWake
import WakeSchedule.Proofs.Store.Row
import WakeSchedule.Proofs.Conflict
import WakeSchedule.Proofs.Store.History
import WakeSchedule.Proofs.Store.Request
import WakeSchedule.Proofs.Store.Mirror
import WakeSchedule.Proofs.Store.Run
import WakeSchedule.Proofs.Store.Account
import WakeSchedule.Proofs.Store.Agreement
import WakeSchedule.Proofs.Decision
import WakeSchedule.Proofs.WakeRun
import WakeSchedule.Proofs.Store.Settings
import WakeSchedule.Proofs.Console.Deed
import WakeSchedule.Proofs.Console.Occasion
import WakeSchedule.Proofs.Console.Calls
import WakeSchedule.Proofs.Console.DryRun
import WakeSchedule.Proofs.Arguments
import WakeSchedule.Proofs.Console.Settings
import WakeSchedule.Proofs.Tick
import WakeSchedule.Proofs.Boot
import WakeSchedule.Proofs.BootWindow
import WakeSchedule.Proofs.Console.Failure
import WakeSchedule.Proofs.Store.Shelf
import WakeSchedule.Proofs.Damage
import WakeSchedule.Proofs.Precedence
import WakeSchedule.Proofs.SleepWindow
import WakeSchedule.Proofs.Store.Addition
import WakeSchedule.Proofs.Store.Slots
import WakeSchedule.Proofs.Console.Change
import WakeSchedule.Proofs.Console.Race
import WakeSchedule.Proofs.Text.Digits
import WakeSchedule.Proofs.Calendar.TimeDigits
import WakeSchedule.Proofs.Timestamp
import WakeSchedule.Proofs.Mask
import WakeSchedule.Proofs.Calendar.Successor
import WakeSchedule.Proofs.EmptyCommand
import WakeSchedule.Proofs.OptionFlags
import WakeSchedule.Proofs.Text.Words
import WakeSchedule.Proofs.PrintedOrder
import WakeSchedule.Proofs.Store.NormalForm
import WakeSchedule.Proofs.Console.Revision
import WakeSchedule.Proofs.BootedRule
import WakeSchedule.Proofs.CommandLine.Options
import WakeSchedule.Proofs.CommandLine.Words
import WakeSchedule.Proofs.CommandLine.Repetition
import WakeSchedule.Proofs.CommandLine.WrittenCommand
import WakeSchedule.Proofs.Json.Members
import WakeSchedule.Proofs.Json.Records
