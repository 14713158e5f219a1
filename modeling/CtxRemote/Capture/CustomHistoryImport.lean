import CtxRemote.Capture.CustomHistory
import CtxRemote.Capture.ImportPrograms
import CtxRemote.Library.Faults

/-! `import_custom_history_jsonl_v1_reader`, where every operation of the database may fail and the
process may die: the captures, the edges and the source cursors of a stream, each with transactions of
its own.

What a transaction has not committed is gone with an operation that fails. `ROLLBACK` does not fail.
-/

namespace CtxRemote.Capture.CustomHistory
open CtxRemote.Library CtxRemote.Library.Interruptible
open CtxRemote.Store (Uuid CaptureProvider Json StoreError timestampMs)
open CtxRemote.Sync (ProviderImportSummary)

-----------------------------------------------------------------------------------------
-- Edges
-----------------------------------------------------------------------------------------

/-- `custom_edge_estimated_bytes`. -/
def customEdgeEstimatedBytes (edge : EdgeImport) : Nat :=
  edge.providerKey.utf8ByteSize + edge.sourceId.utf8ByteSize + edge.sourceFormat.utf8ByteSize
    + (edge.rawSourcePath.map String.utf8ByteSize).getD 0 + edge.fromProviderSessionId.utf8ByteSize
    + edge.toProviderSessionId.utf8ByteSize + (edge.edgeId.map String.utf8ByteSize).getD 0
    + edge.metadata.text.utf8ByteSize + 256

/-- The id of an edge. -/
def EdgeImport.id (edge : EdgeImport) : Uuid :=
  if edge.edgeType = .parentChild then
    providerEdgeUuid .custom edge.toProviderSessionId "parent_child"
  else
    let key := (Json.object
      [("edge_id", optionalText edge.edgeId), ("edge_type", .string (edgeTypeText edge.edgeType)),
        ("from_provider_session_id", .string edge.fromProviderSessionId),
        ("kind", .string "session_edge"), ("provider_key", .string edge.providerKey),
        ("schema", .string schemaVersion), ("source_id", .string edge.sourceId),
        ("to_provider_session_id", .string edge.toProviderSessionId)]).text
    stableCaptureUuid key "session-edge"

/-- The row of an edge. -/
def customEdgeRecord (historyRecordId : Option Uuid) (edge : EdgeImport) : SessionEdge where
  id := edge.id
  fromSessionId := providerSessionUuid .custom edge.fromProviderSessionId
  toSessionId := providerSessionUuid .custom edge.toProviderSessionId
  edgeType := edge.edgeType
  confidence := edge.confidence
  sourceId :=
    some
      (providerScopedSourceUuid .custom edge.toProviderSessionId edge.sourceFormat edge.rawSourcePath)
  createdAtMs := timestampMs edge.occurredAt
  updatedAtMs := timestampMs edge.occurredAt
  sync := providerSyncMetadata edge.fidelity (.object
    [("history_record_id", optionalText (historyRecordId.map (·.text))), ("metadata", edge.metadata),
      ("provider_key", .string edge.providerKey), ("source_id", .string edge.sourceId)])

/-- The body of the loop of `import_custom_history_edges`. Its errors are all the store's. -/
def importCustomHistoryEdge (historyRecordId : Option Uuid) (line : Nat) (edge : EdgeImport)
    : ImportM ProviderImportSummary := do
  let record := customEdgeRecord historyRecordId edge
  let store := (← get).store
  if (store.getSession record.fromSessionId).isNone || (store.getSession record.toSessionId).isNone then
    return { failed := 1, failures := [⟨line, "edge endpoint session was not imported"⟩] }
  let wasPresent := store.sessionEdges.holds edge.id
  executeStatement (·.upsertSessionEdge record)
  if edge.edgeType = .parentChild then
    match (← get).store.getSession record.toSessionId with
    | none => throw (.store .other)
    | some child =>
        executeStatement (·.upsertSession
          { child with
            parentSessionId := some record.fromSessionId
            rootSessionId := child.rootSessionId.or (some record.fromSessionId) })
  if wasPresent then return { skippedEdges := 1, skipped := 1, acceptedContentRecords := 1 }
  else return { importedEdges := 1, imported := 1, acceptedContentRecords := 1 }

/-- The unit of an edge with its line number. -/
def customEdgeUnit (historyRecordId : Option Uuid) (line : Nat × EdgeImport) : ImportM Unit :=
  importUnit (customEdgeEstimatedBytes line.2) line.1
    (importCustomHistoryEdge historyRecordId line.1 line.2)

/-- `import_custom_history_edges`, on edges. -/
def importEdges (historyRecordId : Option Uuid) (edges : List (Nat × EdgeImport))
    : ImportM ProviderImportSummary := do
  beginTransaction true
  edges.forM (customEdgeUnit historyRecordId)
  commit
  return (← get).summary

/-- `import_custom_history_edges` where no operation fails: its result, and the store. -/
def importEdgesClean (historyRecordId : Option Uuid) (edges : List (Nat × EdgeImport))
    (summary : ProviderImportSummary) (store : ImportStore)
    : Except CaptureError ProviderImportSummary × ImportStore :=
  if edges.isEmpty then (.ok summary, store)
  else
    let (result, state) := perform (importEdges historyRecordId edges) (initialState store summary)
    (result, state.store)

/-- `import_custom_history_source_cursors` where no operation fails. -/
def storeCursors : List SyncCursor → ImportStore → Option ImportStore
  | [], store => some store
  | cursor :: cursors, store => do
      let next ← (store.upsertSyncCursor cursor).toOption
      storeCursors cursors next

-----------------------------------------------------------------------------------------
-- Operations that may fail
-----------------------------------------------------------------------------------------

/-- Programs of the importer whose operations may fail. -/
abbrev ImportProgram := Interruptible ImportState CaptureError

/-- An operation of the database. Where it fails or the process dies, the transaction is rolled back. -/
def transact (f : ImportState → ImportState) : ImportProgram Unit := fun state =>
  [(.died, state.rolledBack), (.failed (.store .sql), state.rolledBack), (.done (), f state)]

/-- The statements of a program, any of which may fail. -/
def during {α : Type} (plain : ImportM α) : ImportProgram α := fun state =>
  [(.died, state.rolledBack), (.failed (.store .sql), state.rolledBack),
    (Ending.ofExcept (perform plain state).1, (perform plain state).2)]

/-- `ProviderImportTransaction::rotate`: `COMMIT`, the checkpoint and `BEGIN`. -/
def rotateFaulty : ImportProgram Unit := do
  transact fun state =>
    { state with transaction := { state.transaction with active := false, committed := state.store } }
  transact id
  transact fun state =>
    { state with transaction := { state.transaction with active := true, units := 0, bytes := 0 } }

/-- `ProviderImportTransaction::prepare_unit`. -/
def prepareUnitFaulty (unitBytes : Nat) : ImportProgram Unit := do
  let transaction := (← read).transaction
  if transaction.active && transaction.batchSize.isSome && 0 < transaction.units
      && importTransactionBatchBytes < transaction.bytes + unitBytes then
    rotateFaulty

/-- `ProviderImportTransaction::record_unit`. -/
def recordUnitFaulty (unitBytes : Nat) : ImportProgram Unit := do
  if (← read).transaction.active then
    note fun state =>
      { state with
        transaction :=
          { state.transaction with
            units := state.transaction.units + 1
            bytes := state.transaction.bytes + unitBytes } }
    let transaction := (← read).transaction
    let belowUnitLimit := transaction.batchSize.all (transaction.units < ·)
    let belowByteLimit :=
      transaction.batchSize.isNone || transaction.bytes < importTransactionBatchBytes
    if !(belowUnitLimit && belowByteLimit) then rotateFaulty

/-- What `importUnit` does between `prepareUnit` and `recordUnit`. -/
def unitBody (lineNumber : Nat) (unit : ImportM ProviderImportSummary) : ImportM Unit := do
  let summary ← tryCatch unit fun error => do
    match error with
    | .store error => do
        rollback
        throw (.store error)
    | error => return { failed := 1, failures := [⟨lineNumber, error.text⟩] }
  modify fun state => { state with summary := state.summary.mergeFrom summary }

/-- `importUnit` with operations that may fail. -/
def importUnitFaulty (unitBytes lineNumber : Nat) (unit : ImportM ProviderImportSummary)
    : ImportProgram Unit := do
  prepareUnitFaulty unitBytes
  during (unitBody lineNumber unit)
  recordUnitFaulty unitBytes

/-- `ProviderImportTransaction::begin`. -/
def beginFaulty (hasWork : Bool) : ImportProgram Unit :=
  if hasWork then transact (·.begun true) else note (·.begun false)

/-- `ProviderImportTransaction::commit`. -/
def commitFaulty : ImportProgram Unit := do
  if (← read).transaction.active then
    transact fun state =>
      { state with
        transaction := { state.transaction with active := false, committed := state.store } }

variable (externals : Externals) (options : NormalizedProviderImportOptions)

/-- `resolve_pending_provider_edges_batched`. -/
def resolvePendingProviderEdgesFaulty : ImportProgram Unit := do
  let pending := (← read).caches.pendingEdges.insertionSort fun left right =>
    left.1.text ≤ right.1.text
  note fun state => { state with caches := { state.caches with pendingEdges := [] } }
  pending.forM fun edge =>
    importUnitFaulty (pendingEdgeEstimatedLen edge.2) edge.2.lineNumber
      (resolvePendingProviderEdge externals edge.1 edge.2)

/-- The loop of `persist_provider_capture_lines` over cursors. -/
def importCursorsFaulty (cursors : List SyncCursor) : ImportProgram Unit :=
  cursors.forM fun cursor =>
    importUnitFaulty (externals.cursorLength cursor) 0 do
      executeStatement (·.upsertSyncCursor cursor)
      return {}

/-- `persist_provider_capture_lines` behind the captures. -/
def finishImportFaulty (filesTouched : List (Nat × ProviderFileTouchedEnvelope))
    (cursors : List SyncCursor)
    : ImportProgram ProviderImportSummary := do
  resolvePendingProviderEdgesFaulty externals
  filesTouched.forM fun line =>
    importUnitFaulty (externals.fileLength line.2) line.1 do
      importProviderFileTouchedLine options.historyRecordId line.2
      return { acceptedContentRecords := 1 }
  if (← read).summary.failed = 0 then importCursorsFaulty externals cursors
  commitFaulty
  return (← read).summary

/-- `persist_provider_capture_lines`. -/
def persistFaulty (captures : List (Nat × ProviderCaptureEnvelope))
    (filesTouched : List (Nat × ProviderFileTouchedEnvelope))
    : ImportProgram ProviderImportSummary := do
  let cursors :=
    if options.persistCursors && (← read).summary.failed = 0 then pendingCursors captures else []
  beginFaulty (!(captures.isEmpty && filesTouched.isEmpty) && options.wrapTransaction)
  captures.forM fun line =>
    importUnitFaulty (externals.captureLength line.2) line.1
      (importProviderCaptureLine externals options line.2 line.1)
  finishImportFaulty externals options filesTouched cursors

/-- `import_custom_history_edges`, on edges. -/
def importEdgesFaulty (historyRecordId : Option Uuid) (edges : List (Nat × EdgeImport))
    : ImportProgram ProviderImportSummary := do
  beginFaulty true
  edges.forM fun line =>
    importUnitFaulty (customEdgeEstimatedBytes line.2) line.1
      (importCustomHistoryEdge historyRecordId line.1 line.2)
  commitFaulty
  return (← read).summary

-----------------------------------------------------------------------------------------
-- Imports
-----------------------------------------------------------------------------------------

/-- Programs on the store. -/
abbrev StoreProgram := Interruptible ImportStore CaptureError

/-- A program of the importer on the store. -/
def onStore (summary : ProviderImportSummary) (program : ImportProgram ProviderImportSummary)
    : StoreProgram ProviderImportSummary :=
  zoom (initialState · summary) (fun _ state => state.store) program

/-- `import_normalized_provider_captures`: the bulk mode of the event search is begun before the import
and finished behind it, whatever its result.
-/
def importCapturesFaulty (normalization : ProviderNormalizationResult)
    : StoreProgram ProviderImportSummary :=
  let filtered := filterProviderCaptureLinesWithoutRealSessionMessages normalization
  if filtered.summary.failed = 0 ∧ ¬ providerCaptureLinesHaveRealMessage filtered.captures then
    let line :=
      ((filtered.captures.map (·.1)).head?.or (filtered.filesTouched.map (·.1)).head?).getD 0
    pure (filtered.summary.mergeFrom (noRealMessage line))
  else
    let filesTouched := allFilesTouched externals filtered
    let persist := onStore filtered.summary (persistFaulty externals options filtered.captures filesTouched)
    if hasTransactions options filtered.captures filesTouched then do
      operation (.store .sql) some
      let result ← attempt persist
      operation (.store .sql) some
      match result with
      | .ok summary => pure summary
      | .error error => fail error
    else persist

/-- `import_custom_history_edges`. -/
def importCustomHistoryEdges (historyRecordId : Option Uuid) (edges : List (Nat × EdgeImport))
    (summary : ProviderImportSummary)
    : StoreProgram ProviderImportSummary :=
  if edges.isEmpty then pure summary else onStore summary (importEdgesFaulty historyRecordId edges)

/-- `import_custom_history_source_cursors`: every cursor is a transaction of its own. -/
def importCustomHistorySourceCursors (cursors : List SyncCursor) : StoreProgram Unit :=
  cursors.forM fun cursor =>
    operation (.store .sql) fun store => (store.upsertSyncCursor cursor).toOption

/-- The error of an import: the stream cannot be read, or the import fails. -/
inductive ReaderError where
  | io
  | capture (error : CaptureError)

/-- The options of a stream's import. -/
def readerOptions (historyRecordId : Option Uuid) : NormalizedProviderImportOptions :=
  ⟨historyRecordId, true, true, true⟩

variable (context : AdapterContext) (historyRecordId : Option Uuid)

/-- `import_custom_history_jsonl_v1_reader` behind the normalization. -/
def importNormalization (normalization : Normalization) : StoreProgram ProviderImportSummary := do
  let summary ← importCapturesFaulty externals (readerOptions historyRecordId) normalization.provider
  let summary ← importCustomHistoryEdges historyRecordId normalization.edges summary
  if summary.failed = 0 then importCustomHistorySourceCursors normalization.sourceCursors
  pure summary

/-- `import_custom_history_jsonl_v1_reader`, on the lines of the stream. -/
def importCustomHistoryJsonlV1Reader (fromSlice : List UInt8 → Except String Record)
    (lines : List (List UInt8))
    : Interruptible ImportStore ReaderError ProviderImportSummary := do
  operation .io some
  mapError .capture (importNormalization externals historyRecordId
    (normalize externals context fromSlice lines))

end CtxRemote.Capture.CustomHistory
