import ClusterTrace.Main
import ClusterTrace.Proofs.Storage.LatestRecords
import ClusterTrace.Proofs.Storage.TakenRecords
import ClusterTrace.Proofs.Correlation.MigrationQuery
import ClusterTrace.Proofs.Correlation.HistoryQuery
import ClusterTrace.Proofs.Files.Growth
import ClusterTrace.Proofs.Ingest.Numbering
import ClusterTrace.Proofs.Ingest.ResourceNames
import ClusterTrace.Proofs.Ingest.ExtractionSteps
import ClusterTrace.Proofs.Ingest.ExtractedMembers
import ClusterTrace.Proofs.Ingest.TimestampPlace
import ClusterTrace.Proofs.Ingest.ExtractionAccount
import ClusterTrace.Proofs.Ingest.RootedResources
import ClusterTrace.Proofs.Ingest.InvisibleProducers
import ClusterTrace.Proofs.Files.Replacement
import ClusterTrace.Proofs.Ingest.FoundManifests
import ClusterTrace.Proofs.Ingest.ReadManifests
import ClusterTrace.Proofs.Ingest.FaultIsolation
import ClusterTrace.Proofs.Database.Repetition
import ClusterTrace.Proofs.Database.ReadBack
import ClusterTrace.Proofs.Files.Places
import ClusterTrace.Proofs.Files.RootedTrees
import ClusterTrace.Proofs.Ingest.ImportSteps
import ClusterTrace.Proofs.Archive.StoredData
import ClusterTrace.Proofs.Ingest.RejectedImports
import ClusterTrace.Proofs.Storage.Working
import ClusterTrace.Proofs.Ingest.DecodedKinds
import ClusterTrace.Proofs.Ingest.ArchiveTime
import ClusterTrace.Proofs.Ingest.ImportRuns
import ClusterTrace.Proofs.Ingest.ImportLedger
import ClusterTrace.Proofs.Database.ListingOrder
import ClusterTrace.Proofs.Database.Listings
import ClusterTrace.Proofs.Database.ListingPages
import ClusterTrace.Proofs.Correlation.QueryAgreement
import ClusterTrace.Proofs.Time.ColumnIdentity
import ClusterTrace.Proofs.Time.ReadInstants
import ClusterTrace.Proofs.Correlation.StorageOrder
import ClusterTrace.Proofs.Correlation.LaterInstances
import ClusterTrace.Proofs.Correlation.Preselection
import ClusterTrace.Proofs.Storage.AcceptedRecords
import ClusterTrace.Proofs.Queue.Progress
import ClusterTrace.Proofs.Storage.AssocSums
import ClusterTrace.Proofs.Queue.Failures
import ClusterTrace.Proofs.Storage.RetryBudget
import ClusterTrace.Proofs.Correlation.NamedPods
import ClusterTrace.Proofs.Correlation.RowsByTime
import ClusterTrace.Proofs.Manifest.Layouts
import ClusterTrace.Proofs.Manifest.AcceptedManifests
import ClusterTrace.Proofs.Correlation.MountedClaims
import ClusterTrace.Proofs.Ingest.Globs
import ClusterTrace.Proofs.Ingest.SelectedManifests
import ClusterTrace.Proofs.Time.CivilDates
import ClusterTrace.Proofs.Text.Words
import ClusterTrace.Proofs.Time.PrintedFields
import ClusterTrace.Proofs.Ingest.PrintedGatherTimes
import ClusterTrace.Proofs.Text.EncodedText
import ClusterTrace.Proofs.Json.PrintedValues
import ClusterTrace.Proofs.Storage.SortedAssoc
import ClusterTrace.Proofs.Ingest.EnrichmentFiles
import ClusterTrace.Proofs.Ingest.EnrichmentSteps
import ClusterTrace.Proofs.Ingest.EnrichmentRuns
import ClusterTrace.Proofs.Queue.Delays
import ClusterTrace.Proofs.Queue.ReadyOrder
import ClusterTrace.Proofs.Ingest.FreePaths
import ClusterTrace.Proofs.Ingest.RenamedCopies
