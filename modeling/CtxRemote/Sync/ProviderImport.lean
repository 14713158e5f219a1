import CtxRemote.Library.Loops
import CtxRemote.Store.EventKeys

/-! `import_all_providers_in_memory_by_source`: the import loop over all provider sources that
hands each ephemeral store to a consumer.

The file system and the parsers of a machine are a `History`. Files and parsing are generic: a
`Path` names a file, `Content` is what one transcript file, or one source of another provider, is
normalized to, and an ephemeral store is the list of the contents staged in it.
-/

namespace CtxRemote.Sync
open CtxRemote.Library
open CtxRemote.Store (CaptureProvider)

-----------------------------------------------------------------------------------------
-- Sources and errors
-----------------------------------------------------------------------------------------

/-- `SourceInfo`. -/
structure SourceInfo where
  provider : CaptureProvider
  sourceFormat : String
  path : String
deriving DecidableEq

/-- `CaptureError`. -/
inductive CaptureError where
  | io
  | json
  | store
  | sqlite
  | time
  | uuid
  | unsupportedSchemaVersion (version : Nat)
  | invalidPayload (payload : String)
  | invalidPath (path : String)
  | invalidProviderTranscriptPath (path reason : String)
  | writerClosed
  | workerPanicked (worker : String)
  | systemIo (operation : String)
  | systemInvariant (reason : String)
  | invalidJsonLine (path : String) (line : Nat)
deriving DecidableEq

/-- One cause of an `anyhow` error. -/
inductive Cause where
  | storeError
  | capture (error : CaptureError)
  | message (text : String)
deriving DecidableEq

/-- An `anyhow` error, as its chain of causes. -/
abbrev ImportError := List Cause

/-- `ImportFailureScope`. -/
inductive ImportFailureScope where
  | source
  | system
deriving DecidableEq

/-- The causes that `import_error_scope` looks for. -/
def Cause.isSystem : Cause → Bool
  | .storeError => true
  | .capture .store => true
  | .capture (.workerPanicked _) => true
  | .capture (.systemIo _) => true
  | .capture (.systemInvariant _) => true
  | _ => false

/-- `import_error_scope`. -/
def importErrorScope (error : ImportError) : ImportFailureScope :=
  if error.any Cause.isSystem then .system else .source

-----------------------------------------------------------------------------------------
-- Summaries
-----------------------------------------------------------------------------------------

/-- `SourceStats`, as the totals read it. -/
structure SourceStats where
  files : Nat
  bytes : Nat
deriving DecidableEq

/-- `ProviderImportFailure`. -/
structure ProviderImportFailure where
  line : Nat
  error : String
deriving DecidableEq

/-- `ProviderImportSummary`. -/
structure ProviderImportSummary where
  imported : Nat := 0
  skipped : Nat := 0
  failed : Nat := 0
  importedSessions : Nat := 0
  skippedSessions : Nat := 0
  importedEvents : Nat := 0
  skippedEvents : Nat := 0
  importedEdges : Nat := 0
  skippedEdges : Nat := 0
  acceptedContentRecords : Nat := 0
  failures : List ProviderImportFailure := []
deriving DecidableEq

/-- `ProviderImportSummary::merge_from`. -/
def ProviderImportSummary.mergeFrom (self other : ProviderImportSummary)
    : ProviderImportSummary where
  imported := self.imported + other.imported
  skipped := self.skipped + other.skipped
  failed := self.failed + other.failed
  importedSessions := self.importedSessions + other.importedSessions
  skippedSessions := self.skippedSessions + other.skippedSessions
  importedEvents := self.importedEvents + other.importedEvents
  skippedEvents := self.skippedEvents + other.skippedEvents
  importedEdges := self.importedEdges + other.importedEdges
  skippedEdges := self.skippedEdges + other.skippedEdges
  acceptedContentRecords := self.acceptedContentRecords + other.acceptedContentRecords
  failures := self.failures ++ other.failures

/-- `ImportTotals`. -/
structure ImportTotals where
  sourceFiles : Nat := 0
  sourceBytes : Nat := 0
  importedSources : Nat := 0
  failedSources : Nat := 0
  sourcesCompletedWithRejections : Nat := 0
  importedSessions : Nat := 0
  importedEvents : Nat := 0
  importedEdges : Nat := 0
  skippedSessions : Nat := 0
  skippedEvents : Nat := 0
  skippedEdges : Nat := 0
  skipped : Nat := 0
  failed : Nat := 0
deriving DecidableEq

/-- `ImportTotals::add`. -/
def ImportTotals.add (totals : ImportTotals) (summary : ProviderImportSummary)
    (stats : SourceStats) : ImportTotals where
  sourceFiles := totals.sourceFiles + stats.files
  sourceBytes := totals.sourceBytes + stats.bytes
  importedSources := totals.importedSources + 1
  failedSources := totals.failedSources
  sourcesCompletedWithRejections :=
    totals.sourcesCompletedWithRejections + if 0 < summary.failed then 1 else 0
  importedSessions := totals.importedSessions + summary.importedSessions
  importedEvents := totals.importedEvents + summary.importedEvents
  importedEdges := totals.importedEdges + summary.importedEdges
  skippedSessions := totals.skippedSessions + summary.skippedSessions
  skippedEvents := totals.skippedEvents + summary.skippedEvents
  skippedEdges := totals.skippedEdges + summary.skippedEdges
  skipped := totals.skipped + summary.skipped
  failed := totals.failed + summary.failed

/-- `ImportTotals::add_source_failure`. -/
def ImportTotals.addSourceFailure (totals : ImportTotals) (stats : SourceStats)
    : ImportTotals :=
  { totals with
    sourceFiles := totals.sourceFiles + stats.files
    sourceBytes := totals.sourceBytes + stats.bytes
    failedSources := totals.failedSources + 1 }

-----------------------------------------------------------------------------------------
-- The histories of a machine and the consumer
-----------------------------------------------------------------------------------------

/-- The provider histories on a machine, with their parsers. `importCodexFile` and
`importClaudeFile` normalize one file, `importSource` a source of any other layout, and
`summarize` counts what importing some contents into one store has done.
-/
structure History (Path Content : Type) where
  isDir : SourceInfo → Bool
  sourceStats : SourceInfo → Except ImportError SourceStats
  codexSessionPaths : SourceInfo → Except ImportError (List Path)
  collectSourceImportPaths : SourceInfo → Except ImportError (List Path)
  importCodexFile : SourceInfo → Path → Except ImportError Content
  importClaudeFile : SourceInfo → Path → Except ImportError Content
  importSource : SourceInfo → Except ImportError Content
  summarize : List Content → ProviderImportSummary

/-- A program of the import, with the state of its consumer. -/
abbrev ImportM (σ : Type) := ExceptT ImportError (StateM σ)

/-- The four callbacks of the import loop. -/
structure Consumer (Path Content σ : Type) where
  shouldImport : SourceInfo → ImportM σ Bool
  persist : SourceInfo → List Content → ImportM σ Unit
  complete : SourceInfo → ImportM σ Unit
  shouldImportFile : SourceInfo → Path → ImportM σ Bool

-----------------------------------------------------------------------------------------
-- The import loop
-----------------------------------------------------------------------------------------

section Import

variable {Path Content σ : Type} (history : History Path Content)
  (consumer : Consumer Path Content σ)

/-- `PlannedImportSource`. -/
structure PlannedImportSource where
  source : SourceInfo
  stats : SourceStats

/-- What the inventory finds of one source: its plan, or an isolated failure with the empty
statistics.
-/
inductive Inventoried where
  | planned (plan : PlannedImportSource)
  | failure (stats : SourceStats)

/-- The plan, unless the source has failed. -/
def Inventoried.plan? : Inventoried → Option PlannedImportSource
  | .planned plan => some plan
  | .failure _ => none

/-- The statistics of an isolated failure. -/
def Inventoried.failure? : Inventoried → Option SourceStats
  | .planned _ => none
  | .failure stats => some stats

/-- `inventory_import_source`, with the isolation of `inventory_import_sources`. -/
def inventoryImportSource (source : SourceInfo) : Except ImportError Inventoried :=
  match history.sourceStats source with
  | .ok stats => .ok (.planned ⟨source, stats⟩)
  | .error error =>
      if importErrorScope error = .source then .ok (.failure ⟨0, 0⟩) else .error error

/-- `REMOTE_IN_MEMORY_CODEX_SESSION_BATCH_SIZE`. -/
def remoteInMemoryCodexSessionBatchSize : Nat := 8

/-- `import_codex_session_paths` on one chunk: the contents of its files, or the error of one
of them.
-/
def importCodexSessionPaths (source : SourceInfo) (paths : List Path)
    : Except ImportError (List Content) :=
  paths.mapM (history.importCodexFile source)

/-- `import_codex_tree_in_memory_chunks`. -/
def importCodexTreeInMemoryChunks (source : SourceInfo)
    : ImportM σ ProviderImportSummary := do
  let listed ← liftExcept (history.codexSessionPaths source)
  let paths ← selectM (consumer.shouldImportFile source) listed
  let summaries ← (chunks remoteInMemoryCodexSessionBatchSize paths).mapM fun paths => do
    let store ← liftExcept (importCodexSessionPaths history source paths)
    consumer.persist source store
    return history.summarize store
  return summaries.foldl ProviderImportSummary.mergeFrom {}

/-- `import_claude_tree_in_memory_chunks`. -/
def importClaudeTreeInMemoryChunks (source : SourceInfo)
    : ImportM σ ProviderImportSummary := do
  let paths ← liftExcept (history.collectSourceImportPaths source)
  let summaries ← paths.mapM fun path => do
    if ← consumer.shouldImportFile source path then
      let content ← liftExcept (history.importClaudeFile source path)
      consumer.persist source [content]
      return history.summarize [content]
    else
      return {}
  return summaries.foldl ProviderImportSummary.mergeFrom {}

/-- The branches of the import loop. -/
inductive Branch where
  | codexTree
  | claudeTree
  | wholeSource
deriving DecidableEq

/-- The branch that the import loop takes for a source. -/
def History.branch (source : SourceInfo) : Branch :=
  if source.provider = .codex ∧ source.sourceFormat = "codex_session_jsonl_tree"
    ∧ history.isDir source
  then .codexTree
  else if source.provider = .claude ∧ source.sourceFormat = "claude_projects_jsonl_tree"
    ∧ history.isDir source
  then .claudeTree
  else .wholeSource

/-- One round of the import loop: what it adds to the totals. -/
def importPlan (plan : PlannedImportSource) : ImportM σ (ImportTotals → ImportTotals) :=
  match history.branch plan.source with
  | .codexTree => do
      let summary ← importCodexTreeInMemoryChunks history consumer plan.source
      consumer.complete plan.source
      return fun totals => totals.add summary plan.stats
  | .claudeTree => do
      let summary ← importClaudeTreeInMemoryChunks history consumer plan.source
      consumer.complete plan.source
      return fun totals => totals.add summary plan.stats
  | .wholeSource =>
      match history.importSource plan.source with
      | .ok content => do
          consumer.persist plan.source [content]
          consumer.complete plan.source
          return fun totals => totals.add (history.summarize [content]) plan.stats
      | .error error =>
          if importErrorScope error = .source
          then pure fun totals => totals.addSourceFailure plan.stats
          else throw error

/-- `import_all_providers_in_memory_by_source`, on the sources that `import_requests` found. -/
def importAllProvidersInMemoryBySource (requests : List SourceInfo)
    : ImportM σ ImportTotals := do
  let changedSources ← selectM consumer.shouldImport requests
  let inventory ← liftExcept (changedSources.mapM (inventoryImportSource history))
  let failed : ImportTotals :=
    (inventory.filterMap Inventoried.failure?).foldl
      (fun totals stats => totals.addSourceFailure stats) {}
  let added ← (inventory.filterMap Inventoried.plan?).mapM (importPlan history consumer)
  return added.foldl (fun totals add => add totals) failed

end Import

end CtxRemote.Sync
