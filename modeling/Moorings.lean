import Moorings.Text.Utf8
import Moorings.Text.Hidden
import Moorings.Text.Quoted
import Moorings.Text.Decimal
import Moorings.Text.Blank
import Moorings.Time
import Moorings.Net.Ip
import Moorings.Net.Endpoint
import Moorings.Net.SystemError
import Moorings.ProtocolError
import Moorings.Settings
import Moorings.Lease.Message
import Moorings.Lease.Slot
import Moorings.Lease.Pool
import Moorings.Lease.Service
import Moorings.Lease.Client
import Moorings.Lease.Renewal
import Moorings.Session.Scan
import Moorings.Session.Request
import Moorings.Session.Response
import Moorings.Session.Pipeline
import Moorings.Session.Directory
import Moorings.Session.Connection
import Moorings.Session.Hub
import Moorings.Session.Serving
import Moorings.Session.Client
import Moorings.Session.Server
import Moorings.Session.Leased
import Moorings.CommandLine.Switches
import Moorings.CommandLine.Command
import Moorings.CommandLine.Outcome
import Moorings.CommandLine.Network
import Moorings.CommandLine.Run
import Moorings.Main
import Moorings.Proofs.Lease.Layout
import Moorings.Proofs.Lease.Register
import Moorings.Proofs.Lease.Exclusivity
import Moorings.Proofs.Lease.Datagrams
import Moorings.Proofs.Lease.Replies
import Moorings.Proofs.Lease.Delivery
import Moorings.Proofs.Lease.Traffic
import Moorings.Proofs.Lease.Leftovers
import Moorings.Proofs.Lease.UntilStop
import Moorings.Proofs.Lease.Sweeping
import Moorings.Proofs.Lease.Refusals
import Moorings.Proofs.Lease.Operations
import Moorings.Proofs.Lease.Naming
import Moorings.Proofs.Lease.Ports
import Moorings.Proofs.Lease.Grammar
import Moorings.Proofs.Lease.Renewing
import Moorings.Proofs.Text.Characters
import Moorings.Proofs.Text.Numerals
import Moorings.Proofs.Session.Stability
import Moorings.Proofs.Session.Framing
import Moorings.Proofs.Session.WholeStream
import Moorings.Proofs.Session.Decoding
import Moorings.Proofs.Session.Directory
import Moorings.Proofs.Session.History
import Moorings.Proofs.Session.Records
import Moorings.Proofs.Session.Accounting
import Moorings.Proofs.Session.LastWrite
import Moorings.Proofs.Session.Retirement
import Moorings.Proofs.Session.Lines
import Moorings.Proofs.Session.Sending
import Moorings.Proofs.Session.Limits
import Moorings.Proofs.Session.Answering
import Moorings.Proofs.Session.Reception
import Moorings.Proofs.Session.Backlog
import Moorings.Proofs.Session.Allowance
import Moorings.Proofs.Session.Keeping
import Moorings.Proofs.Session.Links
import Moorings.Proofs.Session.Storage
import Moorings.Proofs.Session.Delays
import Moorings.Proofs.Session.Acceptance
import Moorings.Proofs.Session.Pipelining
import Moorings.Proofs.Session.Agreement
import Moorings.Proofs.Session.Tenancy
