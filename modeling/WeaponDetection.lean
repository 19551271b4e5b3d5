import WeaponDetection.Foundations.TransitionSystem
import WeaponDetection.Foundations.KeyedTable
import WeaponDetection.Foundations.OrderedDict
import WeaponDetection.Foundations.Double
import WeaponDetection.Foundations.Python
import WeaponDetection.Agent.Detection.Validation
import WeaponDetection.Agent.Detection.ValidationTotal
import WeaponDetection.Agent.Persistence.Outbox
import WeaponDetection.Agent.Detection.Connection
import WeaponDetection.Agent.Detection.Ingest
import WeaponDetection.Agent.Detection.CooldownLaw
import WeaponDetection.Backend.Contracts
import WeaponDetection.Contract.SyncItem
import WeaponDetection.Agent.Backoff
import WeaponDetection.Agent.Sync.Client
import WeaponDetection.Agent.Sync.Worker
import WeaponDetection.Foundations.TimeOrder
import WeaponDetection.Agent.Sync.HeadOfLine
import WeaponDetection.Agent.Sync.AlertAssociation
import WeaponDetection.Bridge.SnapshotRendezvous
import WeaponDetection.Bridge.RendezvousExactlyOnce
import WeaponDetection.Bridge.RendezvousNoLoss
import WeaponDetection.Agent.Configuration.Coordinator
import WeaponDetection.Agent.DeepStream.BridgeProcess
import WeaponDetection.Agent.Configuration.CameraAttribution
import WeaponDetection.Foundations.DotNet
import WeaponDetection.Foundations.LockTable
import WeaponDetection.Backend.Activation.Devices
import WeaponDetection.Backend.Activation.Transactions
import WeaponDetection.Backend.Activation.Serializability
import WeaponDetection.Foundations.WriteSet
import WeaponDetection.Backend.AlertSync.Records
import WeaponDetection.Backend.AlertSync.Service
import WeaponDetection.Backend.AlertSync.Statements
import WeaponDetection.Backend.AlertSync.QuotaAccounting
import WeaponDetection.Backend.AlertSync.SingleRecord
import WeaponDetection.Foundations.GuidText
import WeaponDetection.Backend.AlertSync.Cameras
import WeaponDetection.Backend.AlertSync.Sequential
import WeaponDetection.Backend.AlertSync.Replay
import WeaponDetection.Backend.AlertSync.BatchIsolation
import WeaponDetection.Backend.AlertSync.AcceptanceStability
import WeaponDetection.Foundations.Bytes
import WeaponDetection.Foundations.Utf8
import WeaponDetection.Foundations.Json
import WeaponDetection.Foundations.JsonDecoder
import WeaponDetection.Contract.Framing
import WeaponDetection.Contract.SnapshotFrame
import WeaponDetection.Bridge.FrameReader
import WeaponDetection.Contract.AckStream
import WeaponDetection.Bridge.SnapshotBranch
import WeaponDetection.Bridge.EvidenceAttribution
import WeaponDetection.Bridge.CandidateReachability
import WeaponDetection.Bridge.TransportThreads
import WeaponDetection.Agent.Configuration.Convergence
import WeaponDetection.Agent.Snapshots.Spool
import WeaponDetection.Agent.Snapshots.QuotaSuppression
import WeaponDetection.Agent.Snapshots.Reconciliation
import WeaponDetection.Foundations.ConfigParser
import WeaponDetection.Contract.DetectionInstant
import WeaponDetection.Foundations.EffectProgram
import WeaponDetection.Agent.Identity.Lifecycle
import WeaponDetection.Agent.Persistence.Migration
import WeaponDetection.Agent.Configuration.Validation
import WeaponDetection.Agent.Configuration.Serialization
import WeaponDetection.Foundations.ConfigRoundTrip
import WeaponDetection.Foundations.ConfigInterpolation
import WeaponDetection.Agent.Configuration.LastKnownGood
import WeaponDetection.Backend.Activation.CredentialLifecycle
import WeaponDetection.Agent.Snapshots.SpoolBound
import WeaponDetection.Agent.Snapshots.CaptureAtomicity
import WeaponDetection.Foundations.PagedQueue
import WeaponDetection.Agent.Snapshots.UploadWorker
import WeaponDetection.Agent.Snapshots.UploadProgress
import WeaponDetection.Agent.BusyLoop
import WeaponDetection.Foundations.Substring
import WeaponDetection.Foundations.Trim
import WeaponDetection.Backend.Snapshots.Upload
import WeaponDetection.Backend.Snapshots.Immutability
import WeaponDetection.Backend.Branches.RtspUrlSanitizer
import WeaponDetection.Backend.Branches.DeviceConfiguration
import WeaponDetection.Backend.Branches.WellFormed
import WeaponDetection.Backend.Branches.Creation
import WeaponDetection.Backend.Branches.Reconciliation
import WeaponDetection.Backend.Branches.StoredBranches
import WeaponDetection.Frontend.BranchEdit
import WeaponDetection.Contract.BranchReadEdit
import WeaponDetection.Contract.SnapshotCodec
import WeaponDetection.Contract.EvidenceValidators
import WeaponDetection.Foundations.StartStop
import WeaponDetection.Agent.Runtime.OperationalLock
import WeaponDetection.Foundations.TextOrder
import WeaponDetection.Contract.IsoOrder
import WeaponDetection.Agent.Persistence.DrainOrder
import WeaponDetection.Backend.Branches.ConfigurationVersion
import WeaponDetection.Backend.AlertSync.NextReset
import WeaponDetection.Foundations.SqlText
import WeaponDetection.Backend.Branches.CameraMigrations
import WeaponDetection.Foundations.Histogram
import WeaponDetection.Backend.Analytics.Window
import WeaponDetection.Backend.Analytics.Operational
import WeaponDetection.Backend.Analytics.Consistency
import WeaponDetection.Foundations.JsonEncoder
import WeaponDetection.Foundations.Masking
import WeaponDetection.Agent.Logging.Redaction
import WeaponDetection.Foundations.Csv
import WeaponDetection.Backend.Analytics.CsvWriter
import WeaponDetection.Foundations.Pagination
import WeaponDetection.Backend.AlertQuery.Listing
import WeaponDetection.Backend.AlertQuery.Pages
import WeaponDetection.Foundations.Rfc3986
import WeaponDetection.Agent.Logging.Formatter
import WeaponDetection.Backend.LiveStream.Streams
import WeaponDetection.Agent.Logging.RedactionSafe
import WeaponDetection.Agent.Logging.RedactionStore
import WeaponDetection.Agent.Configuration.CacheCodec
import WeaponDetection.Agent.Configuration.CacheRoundTrip
import WeaponDetection.Agent.Configuration.CacheStart
import WeaponDetection.Agent.Configuration.TypedConfiguration
import WeaponDetection.Contract.ConfigurationWire
import WeaponDetection.Contract.ConfigurationAccepted
import WeaponDetection.Foundations.Server
import WeaponDetection.Backend.AlertSync.BatchWrites
import WeaponDetection.Backend.DeviceRequests.Requests
import WeaponDetection.Backend.DeviceRequests.Share
import WeaponDetection.Backend.DeviceRequests.Isolation
import WeaponDetection.Foundations.Base64
import WeaponDetection.Backend.Admin.PasswordHasher
import WeaponDetection.Backend.Activation.KeyGenerator
import WeaponDetection.Backend.Activation.KeyAvailability
import WeaponDetection.Foundations.GuidRoundTrip
import WeaponDetection.Backend.Admin.Accounts
import WeaponDetection.Foundations.Grants
import WeaponDetection.Backend.Admin.Authorization
import WeaponDetection.Backend.Admin.Bootstrap
