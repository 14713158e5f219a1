import CtxRemote.Turso.ProjectCompleteness
import CtxRemote.Turso.PushPaging
import CtxRemote.Turso.SearchAgreement
import CtxRemote.Sync.ProviderImport
import CtxRemote.Sync.FailureIsolation
import CtxRemote.Sync.Staging
import CtxRemote.Sync.TursoImport
import CtxRemote.Sync.MachineSync
import CtxRemote.Sync.WatchedSource
import CtxRemote.Sync.WriteRace
import CtxRemote.Library.Split
import CtxRemote.Store.EventKeys
import CtxRemote.Store.Events
import CtxRemote.Store.EventWrites
import CtxRemote.Store.SearchProjection
import CtxRemote.Store.SemanticCount
import CtxRemote.Store.ArchiveImport
import CtxRemote.Store.HashConflicts
import CtxRemote.Store.HiddenEvents
import CtxRemote.Library.Components
import CtxRemote.Schema.RepairTables
import CtxRemote.Schema.ProviderSessionRepair
import CtxRemote.Schema.RepairCandidates
import CtxRemote.Schema.RepairedSessions
import CtxRemote.Schema.SessionTriggers
import CtxRemote.Schema.RepairedEvents
import CtxRemote.Schema.RepairHistory
import CtxRemote.Capture.Identities
import CtxRemote.Library.Keyed
import CtxRemote.Capture.Envelopes
import CtxRemote.Capture.EventIdentity
import CtxRemote.Capture.ProviderImporter
import CtxRemote.Capture.FastInserts
import CtxRemote.Capture.FileTouches
import CtxRemote.Plugins.OutputReports
import CtxRemote.Library.Outcomes
import CtxRemote.Library.Segments
import CtxRemote.Store.Analyzer
import CtxRemote.Store.ScriptMatches
import CtxRemote.Store.ScriptPieces
import CtxRemote.Turso.ExportPolicy
import CtxRemote.Store.SourceFiles
import CtxRemote.Store.BulkProcesses
import CtxRemote.Capture.SessionIdentity
import CtxRemote.Semantic.SidecarProcesses
import CtxRemote.Upgrade.UpgradeLock
import CtxRemote.Capture.SpoolRecovery
import CtxRemote.Library.Faults
import CtxRemote.Capture.JsonlLines
import CtxRemote.Capture.CustomHistoryImport
import CtxRemote.Capture.ImportFrames
import CtxRemote.Capture.CustomHistoryRuns
import CtxRemote.Capture.CustomHistoryCursors
import CtxRemote.Capture.CustomHistoryHeldCursors
import CtxRemote.Upgrade.ReplaceBinary
import CtxRemote.Turso.ShowAgreement
import CtxRemote.Turso.IdLookup
import CtxRemote.Store.LegacyRecovery
import CtxRemote.Capture.EventSequences
import CtxRemote.Capture.DerivedTouches
import CtxRemote.Capture.TouchIndexes
import CtxRemote.Semantic.Indexing
import CtxRemote.Semantic.ChunkRanges
import CtxRemote.Semantic.CompleteChunks
import CtxRemote.Semantic.WholeEvents
import CtxRemote.Semantic.ConsumedPrefix
import CtxRemote.Capture.FileScope
import CtxRemote.Capture.FileScopeAgreement
import CtxRemote.Capture.CustomHistoryReferences
import CtxRemote.Capture.CustomHistoryValidation
import CtxRemote.Library.Blocks
import CtxRemote.Library.Chains
import CtxRemote.Config.TomlSubset
import CtxRemote.Config.ParsedLines
import CtxRemote.Config.BoolEdits
import CtxRemote.Library.Condition
import CtxRemote.Store.Catalog
import CtxRemote.Store.CatalogCounts
import CtxRemote.Store.CatalogCheckpoints
import CtxRemote.Store.Records
import CtxRemote.Store.RecordIndexes
import CtxRemote.Capture.CodexCatalog
import CtxRemote.Search.Snippets
import CtxRemote.Search.Packets
import CtxRemote.Library.Firsts
import CtxRemote.Library.Associations
import CtxRemote.Search.PacketCounts
import CtxRemote.Search.PacketFill
import CtxRemote.Search.MoreResults
import CtxRemote.Config.BoolAgreement
import CtxRemote.Config.SectionEdits
import CtxRemote.Config.SectionAgreement
import CtxRemote.Config.SectionPlaces
import CtxRemote.Capture.Retention
import CtxRemote.Mcp.Lines
import CtxRemote.Mcp.Server
import CtxRemote.Mcp.ServerRuns
import CtxRemote.Config.Loading
import CtxRemote.Library.Stopping
import CtxRemote.Search.Grouping
import CtxRemote.Integrations.InstallRuns
import CtxRemote.Semantic.DaemonRuns
import CtxRemote.Semantic.ArchiveRuns
import CtxRemote.Semantic.PublicationRuns
