import Barista.Foundation.Program
import Barista.Foundation.Interleaving
import Barista.Foundation.ConditionalStore
import Barista.Foundation.TermLog
import Barista.Foundation.Run
import Barista.Foundation.Trace
import Barista.Foundation.History
import Barista.Foundation.Table
import Barista.Foundation.Transaction
import Barista.Foundation.Encoding
import Barista.Foundation.Fallible
import Barista.Foundation.Ascending
import Barista.Foundation.Trim
import Barista.Foundation.Streak
import Barista.Fleet.DesiredSpec
import Barista.Fleet.Lease
import Barista.Fleet.LeaseProtocol
import Barista.Fleet.LeaseAgreement
import Barista.Node.StateMachine
import Barista.Node.Journal
import Barista.Node.Transactions
import Barista.Node.Ownership
import Barista.Node.Database
import Barista.Node.Rows
import Barista.Node.World
import Barista.Node.Agent
import Barista.Node.Ops
import Barista.Node.Execute
import Barista.Node.Reconcile
import Barista.Node.Fleet
import Barista.Node.Service
import Barista.Node.FleetPhase
import Barista.Node.System
import Barista.Node.Sections
import Barista.Node.Conduct
import Barista.Node.CriticalSections
import Barista.Node.Coverage
import Barista.Node.Settlement
import Barista.Node.Statements
import Barista.Node.Steps
import Barista.Node.Traces
import Barista.Node.Entrances
import Barista.Node.LeaseRows
import Barista.Node.InstanceStates
import Barista.Node.Admission
import Barista.Node.Identities
import Barista.Node.Readiness
import Barista.Node.Recovery
import Barista.Node.Credentials
import Barista.Node.Restart
import Barista.Node.Requests
import Barista.Node.TerminalStates
import Barista.Node.Cancellation
import Barista.Node.Rejoin
import Barista.Node.FleetSteps
import Barista.Node.Evidence
import Barista.Node.LossPolicy
import Barista.Node.Executors
import Barista.Node.Work
import Barista.Node.SnapshotNames
import Barista.Node.PauseResume
import Barista.Node.LatestSnapshot
import Barista.Node.Finishing
import Barista.Node.ColdBoot
import Barista.Node.SnapshotVerbs
import Barista.Node.Standby
import Barista.Node.InPlace
import Barista.Node.Sweeps
import Barista.Node.Site
import Barista.Node.Spared
import Barista.Node.Survivors
import Barista.Node.IngressPorts
import Barista.Node.ForkSources
import Barista.Node.Guarantees
import Barista.Node.Debounce
import Barista.Node.InstancePages
import Barista.Node.SubstrateNames
import Barista.Node.EventStream
import Barista.Node.WatchEvents
import Barista.Node.EventFloor
import Barista.Capsule.Manifest
import Barista.Capsule.Registry
import Barista.Capsule.Operations
import Barista.Capsule.ObjectStore
import Barista.Capsule.Verbs
import Barista.Capsule.Conduct
import Barista.Capsule.Depot
import Barista.Capsule.LocalObjects
import Barista.Capsule.StagedUploads
import Barista.Capsule.Referenced
import Barista.Node.Outages
import Barista.Capsule.Restorable
import Barista.Capsule.Durable
import Barista.Cli.Calendar
import Barista.Guest.Exec
import Barista.Guest.Transfers
