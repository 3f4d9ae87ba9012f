import Datapress.ColumnAccessProofs
import Datapress.LifecycleProofs
import Datapress.ServerProofs
import Datapress.HiddenAbsent
import Datapress.HiddenAbsentProofs
import Datapress.AuthProofs
import Datapress.Sql.ColumnSecrecy
import Datapress.Refresh.WaveProofs
import Datapress.Injection
import Datapress.DataFusion.ServeLastGood
import Datapress.DataFusion.RegistryKeys
import Datapress.DataFusion.RegistryUpdates
import Datapress.DataFusion.FastPath
import Datapress.DataFusion.RowGathering
import Datapress.DataFusion.Counting
import Datapress.DataFusion.Paging
import Datapress.DataFusion.Serialize
import Datapress.Wrapping
import Datapress.Refresh.Quiescence
import Datapress.Refresh.ReloadAllProofs
import Datapress.Refresh.RuntimeProofs
import Datapress.Refresh.TopologicalOrder
import Datapress.Refresh.FailureRecord
import Datapress.Refresh.ErrorRecords
import Datapress.Refresh.Delays
import Datapress.DataFusion.Reuse
import Datapress.DataFusion.IndexBuild
import Datapress.DataFusion.IndexLookup
import Datapress.DataFusion.Spill
import Datapress.ParquetCacheProofs
import Datapress.StorageIsolation
import Datapress.DuckDB.ReloadAtomicity
import Datapress.DuckDB.RelationKinds
import Datapress.DuckDB.Cancellation
import Datapress.DuckDB.GenerationsProofs
import Datapress.Config.Concurrency
import Datapress.Config.Creation
import Datapress.Config.Dataset
import Datapress.Config.Endpoint
import Datapress.Config.Expiry
import Datapress.Config.Startup
import Datapress.Config.StartupBuilds
import Datapress.Config.Names
import Datapress.Config.Persisted
import Datapress.Config.ExplorerFile
import Datapress.Config.Protection
import Datapress.Config.References
import Datapress.Config.Registrations
import Datapress.Config.ReloadAll
import Datapress.Config.Valid
import Datapress.Config.Validity
import Datapress.RangeRequests
import Datapress.PagingArithmetic
import Datapress.AggregationNames
import Datapress.DuckDB.TempNames
import Datapress.DuckDB.S3Secrets
import Datapress.McpOrigin
import Datapress.McpMessages
import Datapress.DuckDB.Formats
import Datapress.Demotion
import Datapress.Refresh.RecordTruth
import Datapress.DataFusion.CanonicalNames
import Datapress.ArrowStream
import Datapress.DuckDB.Pool
import Datapress.Cli
import Datapress.KeyCache
import Datapress.Envelopes
import Datapress.DataFusion.DiscoveryProofs
import Datapress.DataFusion.Readiness
import Datapress.DataFusion.Pgwire
