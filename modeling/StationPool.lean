import StationPool.AppConfig.Codec
import StationPool.AppConfig.Location
import StationPool.CentralSystem.Rehearsal
import StationPool.Connection.Step
import StationPool.Event.Codec
import StationPool.Event.Run
import StationPool.Frame
import StationPool.Handshake
import StationPool.Json.Printer
import StationPool.Json.Reader
import StationPool.Pool.Rehearsal
import StationPool.Queue.Run
import StationPool.Registry
import StationPool.Registry.Scripted
import StationPool.Shutdown
import StationPool.Sleep
import StationPool.Stats
import StationPool.Proofs.Connection.Views
import StationPool.Proofs.Connection.Vocabulary
import StationPool.Proofs.Connection.Moves
import StationPool.Proofs.Connection.Steps
import StationPool.Proofs.Connection.Soundness
import StationPool.Proofs.Connection.Beats
import StationPool.Proofs.Connection.Turns
import StationPool.Proofs.Connection.Statistics
import StationPool.Proofs.Connection.Presence
import StationPool.Proofs.Connection.Pending
import StationPool.Proofs.Connection.Closing
import StationPool.Proofs.Connection.Redials
import StationPool.Proofs.Queue.Slots
import StationPool.Proofs.Queue.Ledger
import StationPool.Proofs.Queue.Promises
import StationPool.Proofs.Connection.Traffic
import StationPool.Proofs.Connection.Carriage
import StationPool.Proofs.Connection.Clock
import StationPool.Proofs.Connection.Schedule
import StationPool.Proofs.Connection.Recovery
import StationPool.Proofs.Connection.Fledgling
import StationPool.Proofs.Connection.Sinking
import StationPool.Proofs.Event.Hearing
import StationPool.Proofs.Registry.Entries
import StationPool.Proofs.Registry.Takedowns
import StationPool.Proofs.Registry.Custody
import StationPool.Proofs.Pool.Books
import StationPool.Proofs.Pool.Changes
import StationPool.Proofs.Pool.Roster
import StationPool.Proofs.Pool.Withdrawal
import StationPool.Proofs.Pool.Errands
import StationPool.Proofs.Pool.House
import StationPool.Proofs.Pool.Finality
import StationPool.Proofs.Connection.Answers
import StationPool.Proofs.Connection.Farewell
import StationPool.Proofs.Pool.Enrolment
import StationPool.Proofs.Text.Blank
import StationPool.Proofs.Text.Digits
import StationPool.Proofs.AppConfig.Admission
import StationPool.Proofs.AppConfig.Endpoints
import StationPool.Proofs.AppConfig.Startup
import StationPool.Proofs.Time.Timestamp
import StationPool.Proofs.Json.Strings
import StationPool.Proofs.Json.Text
import StationPool.Proofs.Event.Codec
import StationPool.Proofs.Backoff
import StationPool.Proofs.Registry.Broadcast
import StationPool.Proofs.AppConfig.Documents
import StationPool.Proofs.Connection.Keepalive
import StationPool.Proofs.Connection.ReadDeadline
import StationPool.Proofs.Connection.Lines
import StationPool.Proofs.Connection.Sends
import StationPool.Proofs.Connection.Disconnects
import StationPool.Proofs.Targets
import StationPool.Proofs.Text.Encoding
import StationPool.Proofs.Text.Base64
import StationPool.Proofs.Credentials
import StationPool.Proofs.Text.Parts
import StationPool.Proofs.Event.Payloads
import StationPool.Proofs.Registry.Views
import StationPool.Proofs.Pool.Views
import StationPool.Proofs.Shutdown.Steps
import StationPool.Proofs.Shutdown.Signal
import StationPool.Proofs.Shutdown.Calls
import StationPool.Proofs.Shutdown.Coordination
import StationPool.Proofs.Connection.Sums
import StationPool.Proofs.Connection.Attempts
import StationPool.Proofs.Pool.Provenance
import StationPool.Proofs.AppConfig.Sums
import StationPool.Proofs.Sleep
