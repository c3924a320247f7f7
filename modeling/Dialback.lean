import Dialback.Json.Messages
import Dialback.Json.Notation
import Dialback.Settings.Lookup
import Dialback.Handshake.Compatibility
import Dialback.Uuid.Source
import Dialback.Memory
import Dialback.Registration.Script
import Dialback.Wire.Frame
import Dialback.Main
import Dialback.Proofs.Session.Accounting
import Dialback.Proofs.Session.Order
import Dialback.Proofs.Session.Safety
import Dialback.Proofs.Registration.Law
import Dialback.Proofs.Session.Closing
import Dialback.Proofs.Session.Pending
import Dialback.Proofs.Session.Gaps
import Dialback.Proofs.Session.Halting
import Dialback.Proofs.Registration.Connections
import Dialback.Proofs.Registration.Stopping
import Dialback.Proofs.Registration.Isolation
import Dialback.Proofs.Session.KeepAlive
import Dialback.Proofs.Session.Seats
import Dialback.Proofs.Session.Progress
import Dialback.Proofs.Session.Punctual
import Dialback.Proofs.Session.Graceful
import Dialback.Proofs.Registration.Gate
import Dialback.Proofs.Wire.Stream
import Dialback.Proofs.Session.Merge
import Dialback.Proofs.Session.Connecting
import Dialback.Proofs.Settings.RoundTrip
import Dialback.Proofs.Session.Backlog
import Dialback.Proofs.Session.FailedWrites
import Dialback.Proofs.Session.Sweeping
import Dialback.Proofs.Session.Table
import Dialback.Proofs.Session.Silence
import Dialback.Proofs.Session.Listening
import Dialback.Proofs.Version.RoundTrip
import Dialback.Proofs.Retry.History
import Dialback.Proofs.Retry.Budget
import Dialback.Proofs.Retry.Backoff
import Dialback.Proofs.Retry.Immediate
import Dialback.Proofs.Session.Serviceable
import Dialback.Proofs.Settings.Nearest
import Dialback.Proofs.Json.Form
import Dialback.Proofs.Json.Messages
import Dialback.Proofs.Registration.Numbering
