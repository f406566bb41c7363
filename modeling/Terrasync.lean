import Terrasync.SyncDelta.SignatureProperties
import Terrasync.Lib.Scanner
import Terrasync.SyncDelta.RollingProperties
import Terrasync.SyncDelta.Matcher
import Terrasync.SyncDelta.MatcherProperties
import Terrasync.SyncDelta.Reconstruct
import Terrasync.SyncDelta.RoundTrip
import Terrasync.Lib.Machine
import Terrasync.Transport.FlowControl
import Terrasync.Transport.FlowControlProperties
import Terrasync.Observation
import Terrasync.Transport.Message
import Terrasync.App.RemoteInventory
import Terrasync.App.RemoteInventoryProperties
import Terrasync.App.RemoteAdvertisement
import Terrasync.App.RemoteAdvertisementProperties
import Terrasync.App.FileCommit
import Terrasync.App.RemoteReceiverSession
import Terrasync.App.Receiver
import Terrasync.App.RemoteSenderSession
import Terrasync.App.RemoteSession
import Terrasync.App.FileCommitProperties
import Terrasync.App.ReceiverProperties
import Terrasync.App.RemoteSessionCustody
import Terrasync.App.RemoteSessionMoves
import Terrasync.App.RemoteSessionStreams
import Terrasync.App.RemoteSessionRuns
import Terrasync.App.RemoteSessionCompletion
import Terrasync.App.RemoteSessionBrackets
import Terrasync.App.RemoteSessionQuiescence
import Terrasync.App.Diagnostics
import Terrasync.Lib.Fallible
import Terrasync.Web.CallbackReceipt
import Terrasync.Web.CallbackReceiptProperties
import Terrasync.App.DiagnosticTextProperties
import Terrasync.App.CallbackState
import Terrasync.Web.DiagnosticDelivery
import Terrasync.App.DiagnosticsProperties
import Terrasync.Web.CallbackDiagnosticsProperties
import Terrasync.Web.DiagnosticDeliveryProperties
import Terrasync.Web.DiagnosticExactlyOnce
import Terrasync.Catalogue.BaseTable
import Terrasync.Event
import Terrasync.Lib.WriteBuffers
import Terrasync.App.DatabaseConsumer
import Terrasync.App.DatabaseConsumerProperties
import Terrasync.Scan.FinalEvents
import Terrasync.Scan.FinalEvidence
import Terrasync.Scan.FinalEventsProperties
import Terrasync.Scan.Finalization
import Terrasync.Scan.FinalizationProperties
import Terrasync.Scan.FinalReplay
import Terrasync.Catalogue.CopyGeneration
import Terrasync.Catalogue.CopyRounds
import Terrasync.Catalogue.CopyGenerationProperties
import Terrasync.Catalogue.CopyRoundsProperties
import Terrasync.Web.Task
import Terrasync.Web.TaskLifecycle
import Terrasync.Web.TaskLifecycleProperties
import Terrasync.Web.TaskEdits
import Terrasync.Execution.Recovery
import Terrasync.Execution.RecoveryProperties
import Terrasync.Execution.UnconfirmedReplay
import Terrasync.Execution.RecoveryGate
import Terrasync.App.TransferSlot
import Terrasync.App.DeltaStream
import Terrasync.Lib.Joined
import Terrasync.Licensing.BindingMessage
import Terrasync.Licensing.LicenseProperties
import Terrasync.Licensing.LicenseSystem
import Terrasync.Licensing.MachineLimit
import Terrasync.Licensing.SentinelLookup
import Terrasync.Lib.Forest
import Terrasync.Scan.Packaging
import Terrasync.Scan.PackagingProperties
import Terrasync.App.IntegrityCheck
import Terrasync.Lib.Pool
import Terrasync.App.IntegrityCheckProperties
import Terrasync.Lib.Replacing
import Terrasync.Scan.Comparison
import Terrasync.Scan.ComparisonProperties
import Terrasync.Scan.BatchedRound
import Terrasync.Scan.RoundOutcome
import Terrasync.Scan.RoundBatching
import Terrasync.Scan.NamespaceDifference
import Terrasync.Scan.RoundLog
import Terrasync.Scan.RoundDecisions
import Terrasync.Scan.RoundDifference
import Terrasync.Scan.ResumeState
import Terrasync.Scan.ScanCuts
import Terrasync.Scan.ScanCutsProperties
import Terrasync.Scan.ScanRecovery
import Terrasync.App.ByteResume
import Terrasync.App.ByteResumeProperties
import Terrasync.Transport.SenderCredit
import Terrasync.Transport.SenderCreditProperties
import Terrasync.App.AdvertisementEvidence
import Terrasync.App.AdvertisementEvidenceProperties
import Terrasync.App.OutcomeAccount
import Terrasync.App.OutcomeAccountProperties
import Terrasync.Catalogue.Deletion
import Terrasync.Catalogue.DeletionProperties
import Terrasync.Lib.ThreeValued
import Terrasync.Scan.ChangeDetection
import Terrasync.Scan.ChangeDetectionProperties
import Terrasync.Transport.OrphanSet
import Terrasync.App.ExpertTransfer
import Terrasync.App.ExpertTransferProperties
import Terrasync.Scan.BatchQueries
import Terrasync.Scan.BatchQueriesProperties
import Terrasync.App.CommitAttempts
import Terrasync.App.CommitAttemptsProperties
import Terrasync.App.PathConfinement
import Terrasync.App.CreditConservation
import Terrasync.Lib.SelfDelimiting
import Terrasync.Scan.CandidateCache
import Terrasync.Scan.CandidateCacheProperties
import Terrasync.Catalogue.EventLog
import Terrasync.Catalogue.EventLogProperties
import Terrasync.Lib.BinarySearch
import Terrasync.Catalogue.InputBinding
import Terrasync.Catalogue.InputBindingProperties
import Terrasync.Lib.SegmentRuns
import Terrasync.Scan.VersionHistory
import Terrasync.Scan.VersionHistoryProperties
import Terrasync.App.ScanInput
import Terrasync.App.ScanInputProperties
import Terrasync.Lib.PlaceOrder
import Terrasync.Lib.BarrierChannel
import Terrasync.App.ScanPipeline
import Terrasync.App.ScanWriters
import Terrasync.App.ScanRouter
import Terrasync.App.ScanAccounts
import Terrasync.App.ScanProducer
import Terrasync.App.ScanPipelineProperties
import Terrasync.App.ScanDurability
import Terrasync.App.ScanLiveness
import Terrasync.Scan.ScanProgress
import Terrasync.Scan.ScanProgressProperties
import Terrasync.App.LocalTransfer
import Terrasync.App.LocalTransferProperties
import Terrasync.Licensing.SharedLicense
import Terrasync.Licensing.SharedLicenseProperties
import Terrasync.App.AutoFix
import Terrasync.App.AutoFixProperties
import Terrasync.Lib.ByteOffset
import Terrasync.Utils.PasswordCrypto
import Terrasync.Utils.PasswordCryptoProperties
import Terrasync.SyncDelta.CheckedRolling
import Terrasync.Scan.SparseGroups
import Terrasync.SyncDelta.MatcherBounds
import Terrasync.Scan.MetadataEncoding
import Terrasync.App.OutboxHistory
import Terrasync.App.DiagnosticRedaction
import Terrasync.Lib.Tally
import Terrasync.Lib.Lowercase
import Terrasync.Scan.FinalStatistics
import Terrasync.Scan.FinalStatisticsProperties
import Terrasync.Lib.Grouping
import Terrasync.Web.StorageAnalysis
import Terrasync.Web.StorageAnalysisProperties
import Terrasync.Lib.Substring
import Terrasync.Web.ConditionSerializer
import Terrasync.Web.ConditionSerializerProperties
import Terrasync.Lib.LittleEndian
import Terrasync.Transport.Framing
import Terrasync.Transport.Mux
import Terrasync.Transport.MuxProperties
import Terrasync.Transport.MuxDelivery
import Terrasync.App.SessionStreams
