import MacroLoader.KeyedTable
import MacroLoader.Window
import MacroLoader.RowHistory
import MacroLoader.Program
import MacroLoader.ProgramPairs
import MacroLoader.ProgramParts
import MacroLoader.Interleaving
import MacroLoader.Registry
import MacroLoader.PythonValues
import MacroLoader.Calendar
import MacroLoader.RawTables
import MacroLoader.RowDigest
import MacroLoader.PostgresSync
import MacroLoader.GoldDelta
import MacroLoader.Replica
import MacroLoader.ReplicaWrites
import MacroLoader.RowRoundTrip
import MacroLoader.RawMigration
import MacroLoader.DeltaCompleteness
import MacroLoader.GoldCatalog
import MacroLoader.GoldCatalogRepository
import MacroLoader.GoldManifest
import MacroLoader.Silver
import MacroLoader.GoldFrameAssembly
import MacroLoader.GoldOuterJoin
import MacroLoader.GoldLake
import MacroLoader.GoldBundle
import MacroLoader.GoldPublication
import MacroLoader.GoldSteps
import MacroLoader.GoldRuns
import MacroLoader.GoldHistory
import MacroLoader.GoldRetention
import MacroLoader.CatalogFile
import MacroLoader.GoldAtomicity
import MacroLoader.GoldCurrent
import MacroLoader.GoldSyncSource
import MacroLoader.GoldProgress
import MacroLoader.SyncService
import MacroLoader.SyncCorrectness
import MacroLoader.SyncProgress
import MacroLoader.DeltaApplication
import MacroLoader.SyncConcurrency
import MacroLoader.PostgresConformance
import MacroLoader.SqlDouble
import MacroLoader.FeatureCatalog
import MacroLoader.SchemaMigrations
import MacroLoader.FeatureQuery
import MacroLoader.FeatureEma
import MacroLoader.FeatureCells
import MacroLoader.FeatureRsi
import MacroLoader.FeatureMacd
import MacroLoader.FeatureLags
import MacroLoader.FeatureNullResets
import MacroLoader.FeatureBars
import MacroLoader.FeatureStochastic
import MacroLoader.FeatureValidWindows
import MacroLoader.FeatureCausality
import MacroLoader.FeatureIsolation
import MacroLoader.FeatureFinite
import MacroLoader.FeatureVerification
import MacroLoader.FeatureDigest
import MacroLoader.KeyedRows
import MacroLoader.ParquetRepository
import MacroLoader.ColumnFrames
import MacroLoader.IngestionPlanner
import MacroLoader.IngestionRecords
import MacroLoader.BronzeUnitOfWork
import MacroLoader.BronzeStore
import MacroLoader.BronzeRefetch
import MacroLoader.BronzeOrchestration
import MacroLoader.FullFileProviders
import MacroLoader.BronzeHistory
import MacroLoader.BronzeWorkers
import MacroLoader.BronzeConcurrency
import MacroLoader.BronzeDates
import MacroLoader.BronzeUpdates
import MacroLoader.SilverRepository
import MacroLoader.Medallion
import MacroLoader.InventoryRefresh
import MacroLoader.SilverWorkers
import MacroLoader.DailyPipeline
import MacroLoader.MedallionRuns
import MacroLoader.DailyRuns
import MacroLoader.Loader
import MacroLoader.DailyJob
import MacroLoader.DailyProgress
import MacroLoader.FirstDay
import MacroLoader.LoaderRuns
import MacroLoader.HttpTransport
import MacroLoader.PythonNumbers
import MacroLoader.FredProvider
import MacroLoader.AccessControl
import MacroLoader.SchemaReconstruction
import MacroLoader.TextReplacement
import MacroLoader.SecretRedaction
import MacroLoader.ExclusiveWork
import MacroLoader.GuardedReconstruction
import MacroLoader.MaintenanceProtocol
import MacroLoader.MaintenanceRuns
import MacroLoader.MaintenanceOutcomes
import MacroLoader.ConcurrentScripts
