import GuestWatch.Access
import GuestWatch.Address.Range
import GuestWatch.Address.Window
import GuestWatch.Callback
import GuestWatch.Command
import GuestWatch.Condition.Basic
import GuestWatch.Condition.Set
import GuestWatch.Encoding.Codec
import GuestWatch.Encoding.Json
import GuestWatch.Fault.Basic
import GuestWatch.Fault.Tally
import GuestWatch.Guard
import GuestWatch.Hardcore
import GuestWatch.Journal.Basic
import GuestWatch.Journal.Note
import GuestWatch.Ledger
import GuestWatch.Memory.Basic
import GuestWatch.Memory.Intercept
import GuestWatch.Memory.Probe
import GuestWatch.Memory.Ram
import GuestWatch.Monitor.Basic
import GuestWatch.Monitor.FollowUps
import GuestWatch.Monitor.Operations
import GuestWatch.Monitor.Options
import GuestWatch.Monitor.Step
import GuestWatch.SaveState.Archive
import GuestWatch.SaveState.Header
import GuestWatch.SaveState.Rejection
import GuestWatch.SaveState.Use
import GuestWatch.Text.Hex
import GuestWatch.Text.Record
import GuestWatch.Text.Unprintable
import GuestWatch.Watch.Basic
import GuestWatch.Watch.Change
import GuestWatch.Watch.List
import GuestWatch.Word
import GuestWatch.Proofs.Journal
import GuestWatch.Proofs.Memory.Look
import GuestWatch.Proofs.Watch.Refresh
import GuestWatch.Proofs.Watch.Verdicts
import GuestWatch.Proofs.Watch.Polls
import GuestWatch.Proofs.Watch.Notices
import GuestWatch.Proofs.Monitor.Moves
import GuestWatch.Proofs.Monitor.Queue
import GuestWatch.Proofs.Monitor.Session
import GuestWatch.Proofs.Watch.Course
import GuestWatch.Proofs.Monitor.Chain
import GuestWatch.Proofs.Monitor.Frame
import GuestWatch.Proofs.Word
import GuestWatch.Proofs.Memory.Reads
import GuestWatch.Proofs.Memory.Slots
import GuestWatch.Proofs.Monitor.Wiring
import GuestWatch.Proofs.Monitor.Intercepted
import GuestWatch.Proofs.Monitor.Tables
import GuestWatch.Proofs.Memory.Stores
import GuestWatch.Proofs.Monitor.Noticed
import GuestWatch.Proofs.Regions
import GuestWatch.Proofs.Monitor.Protection
import GuestWatch.Proofs.Monitor.Accounting
import GuestWatch.Proofs.Monitor.Announcements
import GuestWatch.Proofs.Monitor.Mode
import GuestWatch.Proofs.Monitor.Transparency
import GuestWatch.Proofs.Ledger.Retention
import GuestWatch.Proofs.Ledger.Order
import GuestWatch.Proofs.SaveState.Codec
import GuestWatch.Proofs.SaveState.Gate
import GuestWatch.Proofs.Memory.Vacant
import GuestWatch.Proofs.Monitor.Unregistered
import GuestWatch.Proofs.Monitor.Synchronous
import GuestWatch.Proofs.Address
import GuestWatch.Proofs.Memory.Composed
import GuestWatch.Proofs.Memory.Bytes
import GuestWatch.Proofs.Tally
import GuestWatch.Proofs.Monitor.Lapses
import GuestWatch.Proofs.Monitor.Charges
import GuestWatch.Proofs.Memory.Contract
import GuestWatch.Proofs.Silence
import GuestWatch.Proofs.Monitor.Factors
import GuestWatch.Proofs.Condition.Checks
import GuestWatch.Proofs.Condition.Algebra
import GuestWatch.Proofs.Hardcore.Checks
import GuestWatch.Proofs.Monitor.Additions
import GuestWatch.Proofs.Monitor.Overlap
import GuestWatch.Proofs.Monitor.Bridge
