import MeowFrp.Lib.Machine
import MeowFrp.Lib.Fallible
import MeowFrp.Lib.Table
import MeowFrp.Lib.Keyset
import MeowFrp.Lib.Ledger
import MeowFrp.Lib.Tally
import MeowFrp.Lib.Chunks
import MeowFrp.Lib.Calendar
import MeowFrp.Lib.Progress
import MeowFrp.Data.Models
import MeowFrp.Data.Snapshot
import MeowFrp.Data.Text
import MeowFrp.Data.Book
import MeowFrp.Db.Store
import MeowFrp.Db.Page
import MeowFrp.Db.Outbox
import MeowFrp.Db.Runtime
import MeowFrp.Db.Op
import MeowFrp.Db.Records
import MeowFrp.Db.Permit
import MeowFrp.Edge.Store
import MeowFrp.Edge.Apply
import MeowFrp.Edge.Lease
import MeowFrp.Edge.Reconnect
import MeowFrp.Sync.Baseline
import MeowFrp.Sync.Records
import MeowFrp.Core.Manager
import MeowFrp.Core.Admission
import MeowFrp.Core.Drain
import MeowFrp.Core.Inbound
import MeowFrp.Core.TlsIdentity
import MeowFrp.Api.Proxies
import MeowFrp.Api.Access
import MeowFrp.Api.Plugin
import MeowFrp.Api.Setup
import MeowFrp.Api.Admins
import MeowFrp.Node.Fault
import MeowFrp.Node.Timer
import MeowFrp.Node.Basic
import MeowFrp.Node.Controller
import MeowFrp.Node.ControllerSteps
import MeowFrp.Node.Edge
import MeowFrp.Node.EdgeSteps
import MeowFrp.Node.Books
import MeowFrp.Node.Ports
import MeowFrp.Node.Proxies
import MeowFrp.Node.Quota
import MeowFrp.Node.Rotation
import MeowFrp.Node.Race
import MeowFrp.Node.Devices
import MeowFrp.Node.Fallback
import MeowFrp.Node.Cutoff
import MeowFrp.Node.Accounting
import MeowFrp.Node.AccountingSteps
import MeowFrp.Node.Exact
import MeowFrp.Node.Limit
import MeowFrp.Node.Bans
import MeowFrp.Node.Outage
import MeowFrp.Node.Logout
import MeowFrp.Cluster.Wire
import MeowFrp.Cluster.Session
import MeowFrp.Cluster.Client
import MeowFrp.Cluster.Machine
import MeowFrp.Cluster.Kind
import MeowFrp.Cluster.ControllerSteps
import MeowFrp.Cluster.Steps
import MeowFrp.Cluster.Sessions
import MeowFrp.Cluster.Transfer
import MeowFrp.Cluster.Settled
import MeowFrp.Cluster.Bans
import MeowFrp.Cluster.Notes
import MeowFrp.Cluster.Epochs
import MeowFrp.Cluster.Sync
import MeowFrp.Cluster.Turns
import MeowFrp.Cluster.Resync
import MeowFrp.Cluster.Teardown
import MeowFrp.Cluster.Catalog
import MeowFrp.Cluster.Connects
import MeowFrp.Cluster.Events
import MeowFrp.Cluster.Delivery
import MeowFrp.Cluster.Results
import MeowFrp.Cluster.Dispatch
import MeowFrp.Cluster.Answers
import MeowFrp.Cluster.Completion
import MeowFrp.Cluster.Enrollment
import MeowFrp.Config.Basic
import MeowFrp.Config.Changes
import MeowFrp.Config.Accepted
import MeowFrp.Config.RoundTrip
import MeowFrp.Config.Writers
import MeowFrp.Config.File
import MeowFrp.Edge.Commands
import MeowFrp.Edge.Disconnect
import MeowFrp.Dpi.Service
import MeowFrp.Dpi.Summary
import MeowFrp.Dpi.Tunnels
import MeowFrp.Dpi.Rebuild
import MeowFrp.Dpi.Parsers
import MeowFrp.Dpi.Engine
import MeowFrp.Dpi.Bounds
import MeowFrp.Dpi.Hello
import MeowFrp.Dpi.Memory
import MeowFrp.Dpi.Segments
import MeowFrp.Dpi.Http
