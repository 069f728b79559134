import CgwFota.Crash.Program
import CgwFota.Crash.Trace
import CgwFota.Crash.Ledger
import CgwFota.Crash.Throwing
import CgwFota.Crash.Changes
import CgwFota.Data.Keyed
import CgwFota.Data.LittleEndian
import CgwFota.Data.FixedWidth
import CgwFota.Data.Json
import CgwFota.Data.JsonObject
import CgwFota.Data.JsonText
import CgwFota.State.TaskState
import CgwFota.Proto.Messages
import CgwFota.Store.Records
import CgwFota.Store.Migration
import CgwFota.Inventory.Envelope
import CgwFota.Inventory.State
import CgwFota.Inventory.Serializer
import CgwFota.Inventory.RoundTrip
import CgwFota.Inventory.Decoded
import CgwFota.Inventory.StateStore
import CgwFota.Inventory.Recovery
import CgwFota.Inventory.Frames
import CgwFota.Inventory.Calm
import CgwFota.Inventory.Session
import CgwFota.Inventory.Opening
import CgwFota.Inventory.Interrupted
import CgwFota.Cloud.State
import CgwFota.Cloud.Serializer
import CgwFota.Cloud.Store
import CgwFota.Cloud.Legacy
import CgwFota.Cloud.LegacyFields
import CgwFota.Cloud.Migration
import CgwFota.Cloud.Script
import CgwFota.Cloud.Course
import CgwFota.Cloud.Contents
import CgwFota.Orchestrator.World
import CgwFota.Orchestrator.Phases
import CgwFota.Orchestrator.Runs
import CgwFota.Orchestrator.Frame
import CgwFota.Orchestrator.Advance
import CgwFota.Orchestrator.OutboxRules
import CgwFota.Orchestrator.SendRules
import CgwFota.Properties.Permit
import CgwFota.Properties.Recheck
import CgwFota.Properties.Grant
import CgwFota.Properties.FinalResult
import CgwFota.Properties.FullInventory
import CgwFota.Properties.Outbox
import CgwFota.Properties.Download
import CgwFota.Properties.Revision
import CgwFota.Properties.ConfigTimes
import CgwFota.Properties.Consent
import CgwFota.Properties.Restart
import CgwFota.Properties.Transitions
import CgwFota.Properties.Controls
import CgwFota.Properties.ControlSummary
import CgwFota.Properties.Completion
import CgwFota.Properties.Abort
import CgwFota.Properties.Contiguous
import CgwFota.Properties.Sequence
import CgwFota.Properties.Watermarks
import CgwFota.Properties.Convergence
import CgwFota.Properties.SnapshotSeq
import CgwFota.Properties.Resubmission
import CgwFota.Properties.Retraction
import CgwFota.Properties.Opening
import CgwFota.Properties.Cleanup
import CgwFota.Properties.Rollback
import CgwFota.Properties.TypedMaps
import CgwFota.Properties.MigrationSafety
import CgwFota.Properties.MigratedFields
import CgwFota.Properties.CrossKey
import CgwFota.Properties.DoubleState
import CgwFota.Concurrency.Interleaving
import CgwFota.Transport.Message
import CgwFota.Config.FotaConfig
import CgwFota.Transport.Inflight
import CgwFota.Transport.Downlink
import CgwFota.Properties.Inflight
import CgwFota.Transport.Subscription
import CgwFota.Properties.Downlink
import CgwFota.Properties.Subscription
import CgwFota.Data.Delimited
import CgwFota.Data.Comparator
import CgwFota.Fingerprint.CanonicalEncoder
import CgwFota.Fingerprint.InventoryFingerprint
import CgwFota.Properties.Fingerprint
import CgwFota.Orchestrator.ProductionPorts
import CgwFota.Orchestrator.SnapshotAssembler
import CgwFota.Properties.ListDigest
import CgwFota.Transport.Codec
import CgwFota.Transport.CloudProxy
import CgwFota.Properties.Exchange
import CgwFota.Orchestrator.Keys
import CgwFota.Transport.CloudCalls
import CgwFota.Properties.MessageIds
import CgwFota.Properties.Resume
import CgwFota.Properties.TransportFailure
import CgwFota.Properties.EventKeys
import CgwFota.Properties.KeyFacts
import CgwFota.Properties.Envelope
import CgwFota.Properties.LegacyRevision
import CgwFota.Properties.PermitKept
import CgwFota.Properties.Availability
import CgwFota.Properties.DedupeWindow
import CgwFota.Properties.OutboxCapacity
import CgwFota.Properties.SentEvents
import CgwFota.Transport.Fake
import CgwFota.Properties.TransportAgreement
import CgwFota.Properties.Finished
import CgwFota.Properties.Progress
import CgwFota.Orchestrator.ConservativePorts
import CgwFota.Properties.FailClosed
import CgwFota.Daemon.FotaDaemon
import CgwFota.Daemon.Invariants
import CgwFota.Properties.Lifecycle
import CgwFota.Properties.Commands
import CgwFota.Properties.Delivery
import CgwFota.Data.Verdict
import CgwFota.Config.Checks
import CgwFota.Properties.ConfigAccepted
import CgwFota.Config.GenericTransport
import CgwFota.Properties.ContractB
import CgwFota.Crash.Frames
import CgwFota.Crash.Attempts
import CgwFota.Inventory.Confined
import CgwFota.Cloud.Confined
import CgwFota.Daemon.Service
import CgwFota.Properties.Reports
import CgwFota.Properties.Records
import CgwFota.Properties.StoreLevels
