import CtxRemote.Library.Condition
import CtxRemote.Store.SessionSources
import CtxRemote.Store.SourceFiles

/-! The catalog of provider sessions, a row for each transcript file. A scan records the size and the
time that it finds; an import that completes records those that it planned on, together with a digest,
as the checkpoint where the next import of a grown file goes on.
-/

namespace CtxRemote.Store
open CtxRemote.Library

-----------------------------------------------------------------------------------------
-- Rows
-----------------------------------------------------------------------------------------

/-- `CatalogSession`. -/
structure CatalogSession where
  provider : CaptureProvider
  sourceFormat : String
  sourceRoot : String
  sourcePath : String
  externalSessionId : Option String
  parentExternalSessionId : Option String
  agentType : AgentType
  roleHint : Option String
  externalAgentId : Option String
  cwd : Option String
  sessionStartedAtMs : Option Int
  fileSizeBytes : UInt64
  fileModifiedAtMs : Int
  catalogedAtMs : Int
  metadata : Json

/-- The columns of the last import that completed: its time, the size and the time of the file that it
planned on, the digest of so many bytes, and the number of events.
-/
structure Checkpoint where
  lastImportedAtMs : Option Int := none
  lastImportedFileSizeBytes : Option Int := none
  lastImportedFileModifiedAtMs : Option Int := none
  lastImportedFileSha256 : Option String := none
  lastImportedEventCount : Option Int := none
deriving DecidableEq, Repr

/-- The columns on which imports and scans depend, which `source_import_files` has as well. -/
structure ImportColumns where
  fileSizeBytes : Int
  fileModifiedAtMs : Int
  isStale : Int
  indexedFileSizeBytes : Option Int
  indexedFileModifiedAtMs : Option Int
  indexedStatus : IndexedStatus

/-- A row of `catalog_sessions`. -/
structure CatalogSessionRow extends ImportColumns, Checkpoint where
  sourcePath : String
  provider : CaptureProvider
  sourceFormat : String
  sourceRoot : String
  externalSessionId : Option String
  parentExternalSessionId : Option String
  agentType : AgentType
  roleHint : Option String
  externalAgentId : Option String
  cwd : Option String
  sessionStartedAtMs : Option Int
  catalogedAtMs : Int
  indexedAtMs : Option Int
  indexedError : Option String
  indexedEventCount : Option Int
  metadataJson : String

/-- The primary key of `catalog_sessions` is the path. -/
abbrev Catalog : Type := Keyed CatalogSessionRow (·.sourcePath)

-----------------------------------------------------------------------------------------
-- Scans
-----------------------------------------------------------------------------------------

namespace CatalogSessionRow

/-- The row of a session's insertion. -/
def inserted (session : CatalogSession) : CatalogSessionRow where
  sourcePath := session.sourcePath
  provider := session.provider
  sourceFormat := session.sourceFormat
  sourceRoot := session.sourceRoot
  externalSessionId := session.externalSessionId
  parentExternalSessionId := session.parentExternalSessionId
  agentType := session.agentType
  roleHint := session.roleHint
  externalAgentId := session.externalAgentId
  cwd := session.cwd
  sessionStartedAtMs := session.sessionStartedAtMs
  fileSizeBytes := cappedI64 session.fileSizeBytes
  fileModifiedAtMs := session.fileModifiedAtMs
  catalogedAtMs := session.catalogedAtMs
  isStale := 0
  indexedAtMs := none
  indexedFileSizeBytes := none
  indexedFileModifiedAtMs := none
  indexedStatus := .pending
  indexedError := none
  indexedEventCount := none
  metadataJson := session.metadata.text

variable (row excluded : CatalogSessionRow)

/-- The condition of the columns that a file with the same size and time keeps. -/
def sameFile : Condition :=
  (Condition.equal (some row.fileSizeBytes) (some excluded.fileSizeBytes)).both
    (Condition.equal (some row.fileModifiedAtMs) (some excluded.fileModifiedAtMs))

/-- The condition of the columns that a larger file keeps. -/
def grownImport : Condition :=
  (Condition.exceeds (some excluded.fileSizeBytes) (some row.fileSizeBytes)).both <|
    (Condition.equal (some row.indexedStatus) (some .indexed)).both <|
      (Condition.equal row.indexedFileSizeBytes (some row.fileSizeBytes)).both <|
        (Condition.equal row.indexedFileModifiedAtMs (some row.fileModifiedAtMs)).both <|
          Condition.equal row.lastImportedFileSizeBytes (some row.fileSizeBytes)

/-- `CASE` of a column of the import. -/
def indexedCase {α : Type} (kept other : α) : α := if (row.sameFile excluded).holds then kept else other

/-- `CASE` of a column of the checkpoint. -/
def importedCase {α : Type} (kept : Option α) : Option α :=
  if (row.sameFile excluded).holds then kept
  else if (row.grownImport excluded).holds then kept
  else none

/-- The `WHERE` of the update. -/
def changed : Condition :=
  (Condition.isNot (some row.provider) (some excluded.provider)).either <|
    (Condition.isNot (some row.sourceFormat) (some excluded.sourceFormat)).either <|
      (Condition.isNot (some row.sourceRoot) (some excluded.sourceRoot)).either <|
        (Condition.isNot row.externalSessionId excluded.externalSessionId).either <|
          (Condition.isNot row.parentExternalSessionId excluded.parentExternalSessionId).either <|
            (Condition.isNot (some row.agentType) (some excluded.agentType)).either <|
              (Condition.isNot row.roleHint excluded.roleHint).either <|
                (Condition.isNot row.externalAgentId excluded.externalAgentId).either <|
                  (Condition.isNot row.cwd excluded.cwd).either <|
                    (Condition.isNot row.sessionStartedAtMs excluded.sessionStartedAtMs).either <|
                      (Condition.differ (some row.fileSizeBytes) (some excluded.fileSizeBytes)).either <|
                        (Condition.differ (some row.fileModifiedAtMs)
                          (some excluded.fileModifiedAtMs)).either <|
                          (Condition.differ (some row.isStale) (some 0)).either <|
                            Condition.isNot (some row.metadataJson) (some excluded.metadataJson)

/-- `ON CONFLICT(source_path) DO UPDATE`. -/
def updated : CatalogSessionRow :=
  { excluded with
    indexedAtMs := row.indexedCase excluded row.indexedAtMs none
    indexedFileSizeBytes := row.indexedCase excluded row.indexedFileSizeBytes none
    indexedFileModifiedAtMs := row.indexedCase excluded row.indexedFileModifiedAtMs none
    indexedStatus := row.indexedCase excluded row.indexedStatus .pending
    indexedError := row.indexedCase excluded row.indexedError none
    indexedEventCount := row.indexedCase excluded row.indexedEventCount none
    lastImportedAtMs := row.importedCase excluded row.lastImportedAtMs
    lastImportedFileSizeBytes := row.importedCase excluded row.lastImportedFileSizeBytes
    lastImportedFileModifiedAtMs := row.importedCase excluded row.lastImportedFileModifiedAtMs
    lastImportedFileSha256 := row.importedCase excluded row.lastImportedFileSha256
    lastImportedEventCount := row.importedCase excluded row.lastImportedEventCount }

end CatalogSessionRow

namespace Catalog

/-- The statement of `upsert_catalog_sessions` for a session. -/
def upsertSession (catalog : Catalog) (session : CatalogSession) : Catalog :=
  let excluded := CatalogSessionRow.inserted session
  match catalog.find? session.sourcePath with
  | none => catalog.put excluded
  | some row => if (row.changed excluded).holds then catalog.put (row.updated excluded) else catalog

/-- The rows of a source. -/
def ofSource (provider : CaptureProvider) (sourceRoot : String) (row : CatalogSessionRow) : Bool :=
  row.provider = provider && row.sourceRoot = sourceRoot

/-- `UPDATE … WHERE`. -/
def updateWhere (catalog : Catalog) (condition : CatalogSessionRow → Bool)
    (change : CatalogSessionRow → CatalogSessionRow)
    (keeps : ∀ row, (change row).sourcePath = row.sourcePath)
    : Catalog :=
  catalog.modify (fun row => if condition row then change row else row) fun row => by
    split
    next => exact keeps row
    next => rfl

/-- `mark_catalog_source_stale`. -/
def markCatalogSourceStale (catalog : Catalog) (provider : CaptureProvider) (sourceRoot : String)
    (catalogedAtMs : Int)
    : Catalog :=
  catalog.updateWhere (ofSource provider sourceRoot)
    (fun row => { row with isStale := 1, catalogedAtMs := catalogedAtMs }) fun _ => rfl

/-- `mark_catalog_source_missing_paths_stale`. -/
def markCatalogSourceMissingPathsStale (catalog : Catalog) (provider : CaptureProvider)
    (sourceRoot : String) (currentPaths : List String) (catalogedAtMs : Int)
    : Catalog :=
  catalog.updateWhere
    (fun row => ofSource provider sourceRoot row && !currentPaths.contains row.sourcePath)
    (fun row => { row with isStale := 1, catalogedAtMs := catalogedAtMs }) fun _ => rfl

-----------------------------------------------------------------------------------------
-- Imports
-----------------------------------------------------------------------------------------

/-- `CatalogSourceIndexUpdate`. -/
structure SourceIndexUpdate where
  sourceRoot : String
  sourcePath : String
  fileSizeBytes : UInt64
  fileModifiedAtMs : Int
  fileSha256 : Option String
  eventCount : Option UInt64
  indexedAtMs : Int
deriving DecidableEq

/-- The row that is known of a file. -/
def ofFile (provider : CaptureProvider) (sourceRoot sourcePath : String) (row : CatalogSessionRow)
    : Bool :=
  ofSource provider sourceRoot row && row.sourcePath = sourcePath && row.isStale = 0

/-- `mark_catalog_source_indexed`. -/
def markCatalogSourceIndexed (catalog : Catalog) (provider : CaptureProvider)
    (update : SourceIndexUpdate)
    : Catalog :=
  catalog.updateWhere (ofFile provider update.sourceRoot update.sourcePath)
    (fun row =>
      { row with
        indexedAtMs := some update.indexedAtMs
        indexedFileSizeBytes := some (cappedI64 update.fileSizeBytes)
        indexedFileModifiedAtMs := some update.fileModifiedAtMs
        indexedStatus := .indexed
        indexedError := none
        indexedEventCount := update.eventCount.map fun count => (cappedI64 count : Int)
        lastImportedAtMs := some update.indexedAtMs
        lastImportedFileSizeBytes := some (cappedI64 update.fileSizeBytes)
        lastImportedFileModifiedAtMs := some update.fileModifiedAtMs
        lastImportedFileSha256 := update.fileSha256
        lastImportedEventCount := update.eventCount.map fun count => (cappedI64 count : Int) })
    fun _ => rfl

/-- `mark_catalog_source_failed`. -/
def markCatalogSourceFailed (catalog : Catalog) (provider : CaptureProvider)
    (sourceRoot sourcePath error : String) (indexedAtMs : Int)
    : Catalog :=
  catalog.updateWhere (ofFile provider sourceRoot sourcePath)
    (fun row =>
      { row with
        indexedAtMs := some indexedAtMs
        indexedFileSizeBytes := none
        indexedFileModifiedAtMs := none
        indexedStatus := .failed
        indexedError := some error
        indexedEventCount := none })
    fun _ => rfl

/-- `CatalogSourceIndexState`. -/
structure SourceIndexState where
  lastImportedFileSizeBytes : Option UInt64
  lastImportedFileModifiedAtMs : Option Int
  lastImportedEventCount : Option UInt64
  lastImportedAtMs : Option Int
  lastImportedFileSha256 : Option String

/-- `nonnegative_i64_to_u64`, on a column. -/
def nonnegativeI64ToU64 : Option Int → Except StoreError (Option UInt64)
  | none => .ok none
  | some (.ofNat value) => .ok (some (.ofNat value))
  | some (.negSucc _) => .error .sql

/-- `catalog_source_index_state`. -/
def catalogSourceIndexState (catalog : Catalog) (provider : CaptureProvider)
    (sourceRoot sourcePath : String)
    : Except StoreError (Option SourceIndexState) :=
  match (catalog.find? sourcePath).filter (ofFile provider sourceRoot sourcePath) with
  | none => .ok none
  | some row => do
      let fileSizeBytes ← nonnegativeI64ToU64 row.lastImportedFileSizeBytes
      let eventCount ← nonnegativeI64ToU64 row.lastImportedEventCount
      return some
        { lastImportedFileSizeBytes := fileSizeBytes
          lastImportedFileModifiedAtMs := row.lastImportedFileModifiedAtMs
          lastImportedEventCount := eventCount
          lastImportedAtMs := row.lastImportedAtMs
          lastImportedFileSha256 := row.lastImportedFileSha256 }

end Catalog

end CtxRemote.Store
