import MediaSync.Common.FaultPrograms
import MediaSync.Common.GuardedPrograms
import MediaSync.Common.JsonValues
import MediaSync.Common.RowTables
import MediaSync.TaskRepository
import MediaSync.TaskOwnership
import MediaSync.ClaimOrder
import MediaSync.Common.PosixPaths
import MediaSync.SubscriptionScan
import MediaSync.SubscriptionHistory
import MediaSync.DownloadStream
import MediaSync.DownloadIntegrity
import MediaSync.Appliance.UpdateHandoff
import MediaSync.Appliance.UpdateJournal
import MediaSync.Appliance.JournalHistory
import MediaSync.Appliance.JournalBranches
import MediaSync.Appliance.UpdaterObservation
import MediaSync.Appliance.UpdaterCoordinator
import MediaSync.Appliance.CommitFinality
import MediaSync.Appliance.UpdaterSafety
import MediaSync.Appliance.UpdaterReturn
import MediaSync.Appliance.NoSplitBrain
import MediaSync.Appliance.RestoredStarts
import MediaSync.TaskWorker
import MediaSync.RetryAccounting
import MediaSync.SingleScan
import MediaSync.Common.IsoInstants
import MediaSync.ScheduledCycles
import MediaSync.DownloadChains
import MediaSync.DownloadResponses
import MediaSync.PasswordChanges
import MediaSync.OperationIds
import MediaSync.FullScanCoverage
import MediaSync.FolderRotation
import MediaSync.TransferTargets
import MediaSync.ExecutionModes
import MediaSync.TaskMigration
import MediaSync.DownloadProgress
import MediaSync.BackoffDelays
import MediaSync.DownloadPaths
import MediaSync.DownloadVerification
import MediaSync.FolderPaging
import MediaSync.ItemFingerprints
import MediaSync.PageWrites
import MediaSync.AccountDeletion
import MediaSync.CredentialRecovery
import MediaSync.PikPakSaves
import MediaSync.Appliance.SnapshotRoundTrip
import MediaSync.TransferOperation
import MediaSync.TransferredContent
import MediaSync.TransferHandler
import MediaSync.Common.ProgramModes
import MediaSync.WorkerCycles
import MediaSync.TransferWrites
import MediaSync.TransferRetries
import MediaSync.TransferEngine
import MediaSync.OneSave
import MediaSync.RetryLineage
import MediaSync.EngineCustody
import MediaSync.SaveEvidence
