import CtxRemote.Capture.EventIdentity
import CtxRemote.Library.Loops

/-! `import_normalized_provider_captures`: captures are imported one after another, with the sessions
and edges that the run has handled in caches, then the edges whose parent was missing, the file
touches and the cursors. Transactions end after 64 units or 8 MiB of them.
-/

namespace CtxRemote.Capture
open CtxRemote.Library
open CtxRemote.Store
  (Uuid CaptureProvider Json Fidelity DateTime Event StoreError timestampMs)
open CtxRemote.Sync (ProviderImportSummary ProviderImportFailure)
open CtxRemote.Turso (trim)

-----------------------------------------------------------------------------------------
-- The state of an import
-----------------------------------------------------------------------------------------

/-- `PendingProviderEdge`. -/
structure PendingProviderEdge where
  providerSessionId : String
  parentProviderSessionId : Option String
  sessionId : Uuid
  parentSessionId : Uuid
  rootSessionId : Option Uuid
  sourceId : Uuid
  sourceFormat : String
  importedAt : DateTime
  fidelity : Fidelity
  lineNumber : Nat

/-- `ProviderImportCaches`. -/
structure ProviderImportCaches where
  importedSessions : List Uuid := []
  processedSources : List Uuid := []
  processedSessions : List Uuid := []
  importedEdges : List Uuid := []
  processedEdges : List Uuid := []
  sessionExists : Uuid → Option Bool := fun _ => none
  piEventIdentitiesByEntryId : Uuid → Option (List (String × ProviderEventImportIdentity)) :=
    fun _ => none
  pendingEdges : List (Uuid × PendingProviderEdge) := []

/-- `ProviderImportTransaction`, with the store that a rollback returns to. -/
structure ProviderImportTransaction where
  active : Bool
  batchSize : Option Nat
  units : Nat
  bytes : Nat
  committed : ImportStore

/-- What an import changes. -/
structure ImportState where
  store : ImportStore
  caches : ProviderImportCaches
  transaction : ProviderImportTransaction
  summary : ProviderImportSummary

/-- A program of the importer. -/
abbrev ImportM := ExceptT CaptureError (StateM ImportState)

/-- A statement of the store; a failed one leaves the store as it was. -/
def executeStatement (statement : ImportStore → Except StoreError ImportStore) : ImportM Unit := do
  match statement (← get).store with
  | .ok store => modify fun state => { state with store := store }
  | .error error => throw (.store error)

/-- A change of the caches. -/
def changeCaches (change : ProviderImportCaches → ProviderImportCaches) : ImportM Unit :=
  modify fun state => { state with caches := change state.caches }

variable (externals : Externals) (historyRecordId : Option Uuid)

-----------------------------------------------------------------------------------------
-- Captures
-----------------------------------------------------------------------------------------

/-- The first checks of `import_provider_capture_line`. -/
def checkCapture (capture : ProviderCaptureEnvelope) (lineNumber : Nat)
    : Except CaptureError Unit := do
  if ¬ (1 ≤ capture.schemaVersion ∧ capture.schemaVersion ≤ 2) then
    throw (.invalidPayload ("unsupported provider capture envelope schema version "
      ++ capture.schemaVersion.repr ++ " on line " ++ lineNumber.repr))
  match capture.event with
  | some event => validateProviderEventForImport externals event
  | none => return ()

/-- The id of the source of a capture. -/
def ProviderCaptureEnvelope.sourceId (capture : ProviderCaptureEnvelope) : Uuid :=
  providerScopedSourceUuid capture.provider capture.session.providerSessionId
    capture.source.sourceFormat capture.source.rawSourcePath

/-- The identity of the source of a capture. -/
def ProviderCaptureEnvelope.sourceIdentity (capture : ProviderCaptureEnvelope) : Option String :=
  providerSourceIdentity capture.provider capture.source.sourceFormat capture.source.sourceRoot
    capture.source.rawSourcePath capture.source.idempotencyKey capture.source.metadata

/-- The row of the source of a capture. -/
def captureSourceRecord (capture : ProviderCaptureEnvelope) (lineNumber : Nat) : CaptureSource :=
  let source := capture.source
  let session := capture.session
  let sourceRoot := providerSourceRoot source.sourceRoot source.rawSourcePath
  { id := capture.sourceId
    kind := .providerImport
    provider := capture.provider
    machineId := source.machineId
    processId := none
    cwd := session.cwd
    rawSourcePath := source.rawSourcePath
    sourceFormat := some source.sourceFormat
    sourceRoot := sourceRoot
    sourceIdentity := capture.sourceIdentity
    externalSessionId := some session.providerSessionId
    startedAtMs := timestampMs session.startedAt
    endedAtMs := session.endedAt.map timestampMs
    sync := providerSyncMetadata source.fidelity (.object
      [("cursor", cursorRangeJson externals (providerSourceCursorRange capture)),
        ("fixture_line", numberJson (UInt64.ofNat lineNumber)),
        ("imported_at", timeJson externals source.observedAt),
        ("provider_session_id", .string session.providerSessionId),
        ("session_metadata", session.metadata),
        ("source_format", .string source.sourceFormat),
        ("source_idempotency_key", optionalText source.idempotencyKey),
        ("source_identity", optionalText capture.sourceIdentity),
        ("source_identity_key", .string (providerScopedSourceIdentityKey capture.provider
          session.providerSessionId source.sourceFormat source.rawSourcePath)),
        ("source_metadata", source.metadata),
        ("source_root", optionalText sourceRoot),
        ("source_trust", .string source.trust.asStr)]) }

/-- The source is written once in an import. -/
def importCaptureSource (capture : ProviderCaptureEnvelope) (lineNumber : Nat) : ImportM Unit := do
  if capture.sourceId ∉ (← get).caches.processedSources then
    changeCaches fun caches =>
      { caches with processedSources := capture.sourceId :: caches.processedSources }
    executeStatement fun store =>
      .ok (store.upsertCaptureSource (captureSourceRecord externals capture lineNumber))

/-- The ids of a capture's session and of the sessions it names as parent and as root. A session
with a parent and no named root is its own root.
-/
structure CaptureSessions where
  sessionId : Uuid
  requestedParentSessionId : Option Uuid
  requestedRootSessionId : Option Uuid
deriving DecidableEq

/-- The sessions that a store takes a capture for. -/
def captureSessions (store : ImportStore) (capture : ProviderCaptureEnvelope) : CaptureSessions :=
  let resolve (providerSessionId : String) : Uuid :=
    providerImportSessionUuid store capture.provider providerSessionId capture.sourceId
      capture.sourceIdentity
  let sessionId := resolve capture.session.providerSessionId
  let requestedParentSessionId := capture.session.parentProviderSessionId.map resolve
  { sessionId := sessionId
    requestedParentSessionId := requestedParentSessionId
    requestedRootSessionId :=
      (capture.session.rootProviderSessionId.map resolve).or
        (requestedParentSessionId.map fun _ => sessionId) }

/-- `provider_session_exists_cached`. -/
def providerSessionExistsCached (sessionId : Uuid) : ImportM Bool := do
  let state ← get
  match state.caches.sessionExists sessionId with
  | some found => return found
  | none =>
      let found := (state.store.getSession sessionId).isSome
      changeCaches fun caches =>
        { caches with sessionExists := Function.update caches.sessionExists sessionId (some found) }
      return found

/-- A requested session, if it exists or is the one with the given id. -/
def existingSession (requested : Option Uuid) (own : Option Uuid) : ImportM (Option Uuid) := do
  match requested with
  | none => return none
  | some id =>
      if some id = own then return some id
      else if ← providerSessionExistsCached id then return some id
      else return none

/-- The row of the session of a capture. -/
def sessionRecord (capture : ProviderCaptureEnvelope) (lineNumber : Nat) (sessionId : Uuid)
    (parentSessionId rootSessionId : Option Uuid)
    : Session :=
  let source := capture.source
  let session := capture.session
  { id := sessionId
    historyRecordId := historyRecordId
    parentSessionId := parentSessionId
    rootSessionId := rootSessionId
    captureSourceId := some capture.sourceId
    provider := capture.provider
    externalSessionId := some session.providerSessionId
    externalAgentId := session.externalAgentId
    agentType := session.agentType
    roleHint := session.roleHint
    isPrimary := session.isPrimary
    status := session.status
    transcriptBlobId := none
    startedAtMs := timestampMs session.startedAt
    endedAtMs := session.endedAt.map timestampMs
    createdAtMs := timestampMs source.observedAt
    updatedAtMs := timestampMs source.observedAt
    sync := providerSyncMetadata session.fidelity (.object
      [("artifacts", session.artifacts),
        ("fixture_line", numberJson (UInt64.ofNat lineNumber)),
        ("imported_at", timeJson externals source.observedAt),
        ("metadata", session.metadata),
        ("parent_provider_session_id", optionalText session.parentProviderSessionId),
        ("provider_session_id", .string session.providerSessionId),
        ("root_provider_session_id", optionalText session.rootProviderSessionId),
        ("session_idempotency_key", optionalText session.idempotencyKey),
        ("source_format", .string source.sourceFormat),
        ("source_trust", .string source.trust.asStr)]) }

/-- The session is written at its first capture in an import. -/
def importCaptureSession (capture : ProviderCaptureEnvelope) (lineNumber : Nat)
    (sessionId : Uuid) (parentSessionId rootSessionId : Option Uuid)
    : ImportM ProviderImportSummary := do
  if sessionId ∈ (← get).caches.processedSessions then return {}
  changeCaches fun caches =>
    { caches with processedSessions := sessionId :: caches.processedSessions }
  let isNewSession := !(← providerSessionExistsCached sessionId)
  executeStatement (·.upsertSession
    (sessionRecord externals historyRecordId capture lineNumber sessionId parentSessionId rootSessionId))
  changeCaches fun caches =>
    { caches with sessionExists := Function.update caches.sessionExists sessionId (some true) }
  if isNewSession && sessionId ∉ (← get).caches.importedSessions then
    changeCaches fun caches =>
      { caches with importedSessions := sessionId :: caches.importedSessions }
    return { importedSessions := 1, imported := 1 }
  else return { skippedSessions := 1, skipped := 1 }

/-- Counts an edge that was written. -/
def countEdge (edgeId : Uuid) (wasPresent : Bool) : ImportM ProviderImportSummary := do
  if !wasPresent && edgeId ∉ (← get).caches.importedEdges then
    changeCaches fun caches => { caches with importedEdges := edgeId :: caches.importedEdges }
    return { importedEdges := 1, imported := 1 }
  else return { skippedEdges := 1, skipped := 1 }

/-- The id of the edge of a capture. -/
def ProviderCaptureEnvelope.edgeId (capture : ProviderCaptureEnvelope) (sessionId : Uuid) : Uuid :=
  providerImportEdgeUuid capture.provider capture.session.providerSessionId capture.sourceIdentity
    sessionId "parent_child"

/-- The edge of a capture whose parent exists. -/
def edgeRecord (capture : ProviderCaptureEnvelope) (lineNumber : Nat) (sessionId parentId : Uuid)
    : SessionEdge where
  id := capture.edgeId sessionId
  fromSessionId := parentId
  toSessionId := sessionId
  edgeType := .parentChild
  confidence := .explicit
  sourceId := some capture.sourceId
  createdAtMs := timestampMs capture.source.observedAt
  updatedAtMs := timestampMs capture.source.observedAt
  sync := providerSyncMetadata capture.session.fidelity (.object
    [("fixture_line", numberJson (UInt64.ofNat lineNumber)),
      ("imported_at", timeJson externals capture.source.observedAt),
      ("parent_provider_session_id", optionalText capture.session.parentProviderSessionId),
      ("provider_session_id", .string capture.session.providerSessionId),
      ("source_format", .string capture.source.sourceFormat)])

/-- What is kept of a capture whose parent is missing. -/
def pendingEdge (capture : ProviderCaptureEnvelope) (lineNumber : Nat) (sessions : CaptureSessions)
    (parentId : Uuid)
    : PendingProviderEdge where
  providerSessionId := capture.session.providerSessionId
  parentProviderSessionId := capture.session.parentProviderSessionId
  sessionId := sessions.sessionId
  parentSessionId := parentId
  rootSessionId := sessions.requestedRootSessionId
  sourceId := capture.sourceId
  sourceFormat := capture.source.sourceFormat
  importedAt := capture.source.observedAt
  fidelity := capture.session.fidelity
  lineNumber := lineNumber

/-- The edge of a capture: written once in an import, or kept for later while the parent is
missing.
-/
def importCaptureEdge (capture : ProviderCaptureEnvelope) (lineNumber : Nat)
    (sessions : CaptureSessions) (parentSessionId : Option Uuid)
    : ImportM ProviderImportSummary := do
  let edgeId := capture.edgeId sessions.sessionId
  match parentSessionId, sessions.requestedParentSessionId with
  | some parentId, _ =>
      if edgeId ∈ (← get).caches.processedEdges then return {}
      changeCaches fun caches => { caches with processedEdges := edgeId :: caches.processedEdges }
      let wasPresent := (← get).store.sessionEdges.holds edgeId
      executeStatement (·.upsertSessionEdge
        (edgeRecord externals capture lineNumber sessions.sessionId parentId))
      countEdge edgeId wasPresent
  | none, some parentId => do
      changeCaches fun caches =>
        if caches.pendingEdges.any (·.1 = edgeId) then caches
        else
          { caches with
            pendingEdges :=
              caches.pendingEdges ++ [(edgeId, pendingEdge capture lineNumber sessions parentId)] }
      return {}
  | none, none => return {}

/-- `as_u64`. -/
def asU64 : Json → Option UInt64
  | .number (.posInt value) => some value
  | _ => none

/-- The entry id of a Pi event. -/
def ProviderEventEnvelope.piEntryId (event : ProviderEventEnvelope) : Option String :=
  ((event.metadata.get "entry_id").bind Json.asStr).filter fun id => !(trim id.toList).isEmpty

/-- The hash of an event. -/
def ProviderEventEnvelope.hash (event : ProviderEventEnvelope) : String :=
  event.providerEventHash.getD (computePayloadHash event.payload)

/-- `pi_existing_event_identity_by_entry_id`. The identities of a session are read from the store at
its first event with an entry id, and not again.
-/
def piExistingEventIdentityByEntryId (provider : CaptureProvider) (sessionId : Uuid)
    (entryId : Option String)
    : ImportM (Option ProviderEventImportIdentity) := do
  match entryId with
  | none => return none
  | some entryId =>
      if provider ≠ .pi then return none
      let state ← get
      match state.caches.piEventIdentitiesByEntryId sessionId with
      | some identities => return identities.lookup entryId
      | none =>
          match piEventIdentities state.store externals sessionId with
          | .error error => throw (.store error)
          | .ok identities =>
              changeCaches fun caches =>
                { caches with
                  piEventIdentitiesByEntryId :=
                    Function.update caches.piEventIdentitiesByEntryId sessionId (some identities) }
              return identities.lookup entryId

/-- The identity of an event that no Pi entry has. -/
def captureEventIdentity (store : ImportStore) (capture : ProviderCaptureEnvelope)
    (event : ProviderEventEnvelope) (sessionId : Uuid)
    : ProviderEventImportIdentity :=
  let legacyIndex := ((event.metadata.get "legacy_provider_event_index").bind asU64).filter
    fun _ => !(decide (capture.provider = .pi) && event.piEntryId.isSome)
  let identityIndex := ((event.metadata.get "provider_event_identity_index").bind asU64).getD
    event.providerEventIndex
  providerEventImportIdentity store capture.provider capture.session.providerSessionId
    capture.sourceId identityIndex event.providerEventIndex event.hash legacyIndex
    (sessionId = providerSessionUuid capture.provider capture.session.providerSessionId)

/-- The run of a command output. -/
def captureRun (capture : ProviderCaptureEnvelope) (event : ProviderEventEnvelope)
    (sessionId : Uuid) (identity : ProviderEventImportIdentity)
    : Except CaptureError (Option Run) :=
  providerCommandRunFromEvent externals
    { provider := capture.provider
      providerSessionId := capture.session.providerSessionId
      sessionId := sessionId
      sourceId := capture.sourceId
      runSourceId := identity.runSourceId
      historyRecordId := historyRecordId
      event := event
      eventHash := event.hash }

/-- The event that an import stores. -/
def eventRecord (capture : ProviderCaptureEnvelope) (event : ProviderEventEnvelope)
    (lineNumber : Nat) (sessionId : Uuid) (identity : ProviderEventImportIdentity)
    (run : Option Run)
    : Event where
  id := identity.id
  seq := identity.seq
  historyRecordId := historyRecordId
  sessionId := some sessionId
  runId := run.map (·.id)
  eventType := event.eventType
  role := event.role
  occurredAt := event.occurredAt
  captureSourceId := some capture.sourceId
  payload := .object
    [("artifacts", event.artifacts), ("body", event.payload), ("cursor", optionalText event.cursor),
      ("provider", .string capture.provider.asStr), ("provider_event_hash", .string event.hash),
      ("provider_event_index", numberJson event.providerEventIndex),
      ("provider_session_id", .string capture.session.providerSessionId)]
  payloadBlobId := none
  dedupeKey := some identity.dedupeKey
  sync := providerSyncMetadata event.fidelity (.object
    [("cursor", optionalText event.cursor),
      ("event_idempotency_key", optionalText event.idempotencyKey),
      ("fixture_line", numberJson (UInt64.ofNat lineNumber)),
      ("imported_at", timeJson externals capture.source.observedAt),
      ("metadata", event.metadata), ("provider_event_hash", .string event.hash),
      ("provider_event_index", numberJson event.providerEventIndex),
      ("provider_session_id", .string capture.session.providerSessionId),
      ("source_format", .string capture.source.sourceFormat),
      ("source_trust", .string capture.source.trust.asStr)])

/-- Stores the run and the event with inserts that leave what is stored: whether the event was
present.
-/
def insertEventFast (run : Option Run) (event : Event) : ImportM Bool := do
  match run with
  | some run => executeStatement (·.insertRunIfAbsent run)
  | none => pure ()
  match (← get).store.insertEventIfAbsent externals.toExternals event with
  | .ok (inserted, store) => do
      modify fun state => { state with store := store }
      return !inserted
  | .error error => throw (.store error)

/-- Stores the run and the event with updating inserts. An event that conflicts with a stored one
counts as present.
-/
def upsertEventSlow (run : Option Run) (event : Event) : ImportM Bool := do
  let wasPresent := event.dedupeKey.any (providerEventExists (← get).store)
  match run with
  | some run => executeStatement (·.upsertRun run)
  | none => pure ()
  match (← get).store.upsertEvent externals.toExternals event with
  | .ok store => do
      modify fun state => { state with store := store }
      return wasPresent
  | .error (.providerEventConflict _) => return true
  | .error error => throw (.store error)

/-- Stores the run and the event of a capture: whether the event was present. -/
def storeEvent (fastEventInserts : Bool) (run : Option Run) (event : Event) : ImportM Bool :=
  if fastEventInserts then insertEventFast externals run event
  else upsertEventSlow externals run event

/-- The run and the event to store for a capture. -/
def prepareEvent (capture : ProviderCaptureEnvelope) (event : ProviderEventEnvelope)
    (lineNumber : Nat) (sessionId : Uuid)
    : ImportM (Option Run × Event) := do
  let existing ← piExistingEventIdentityByEntryId externals capture.provider sessionId
    event.piEntryId
  let identity := existing.getD (captureEventIdentity (← get).store capture event sessionId)
  let run ← liftExcept (captureRun externals historyRecordId capture event sessionId identity)
  return (run, eventRecord externals historyRecordId capture event lineNumber sessionId identity run)

/-- The source, the session and the edge of a capture, and its session's id. -/
def importCaptureLineage (capture : ProviderCaptureEnvelope) (lineNumber : Nat)
    : ImportM (Uuid × ProviderImportSummary) := do
  importCaptureSource externals capture lineNumber
  let sessions := captureSessions (← get).store capture
  let parentSessionId ← existingSession sessions.requestedParentSessionId none
  let rootSessionId ← existingSession sessions.requestedRootSessionId (some sessions.sessionId)
  let sessionSummary ← importCaptureSession externals historyRecordId capture lineNumber
    sessions.sessionId parentSessionId rootSessionId
  let edgeSummary ← importCaptureEdge externals capture lineNumber sessions parentSessionId
  return (sessions.sessionId, sessionSummary.mergeFrom edgeSummary)

/-- `import_provider_capture_line` up to the point where it stores the event: its counts so far, and
the run and the event.
-/
def prepareCapture (capture : ProviderCaptureEnvelope) (lineNumber : Nat)
    : ImportM (ProviderImportSummary × Option (Option Run × Event)) := do
  liftExcept (checkCapture externals capture lineNumber)
  let (sessionId, summary) ← importCaptureLineage externals historyRecordId capture lineNumber
  match capture.event with
  | none => return (summary, none)
  | some event =>
      return (summary,
        some (← prepareEvent externals historyRecordId capture event lineNumber sessionId))

/-- The counts of an event. -/
def eventSummary (wasPresent : Bool) : ProviderImportSummary :=
  if wasPresent then { skippedEvents := 1, skipped := 1, acceptedContentRecords := 1 }
  else { importedEvents := 1, imported := 1, acceptedContentRecords := 1 }

variable (options : NormalizedProviderImportOptions)

/-- `import_provider_capture_line`. -/
def importProviderCaptureLine (capture : ProviderCaptureEnvelope) (lineNumber : Nat)
    : ImportM ProviderImportSummary := do
  let (summary, stored) ← prepareCapture externals options.historyRecordId capture lineNumber
  match stored with
  | none => return summary
  | some (run, event) =>
      let wasPresent ← storeEvent externals options.fastEventInserts run event
      return summary.mergeFrom (eventSummary wasPresent)

-----------------------------------------------------------------------------------------
-- Pending edges
-----------------------------------------------------------------------------------------

/-- `resolve_pending_root_session_id`. -/
def resolvePendingRootSessionId (edge : PendingProviderEdge) : ImportM (Option Uuid) := do
  match ← existingSession edge.rootSessionId (some edge.sessionId) with
  | some rootId => return some rootId
  | none => return some edge.parentSessionId

/-- `update_session_parent`. -/
def updateSessionParent (edge : PendingProviderEdge) (rootSessionId : Option Uuid)
    : ImportM Unit := do
  match (← get).store.getSession edge.sessionId with
  | none => throw (.store .other)
  | some session =>
      if session.parentSessionId = some edge.parentSessionId
          ∧ session.rootSessionId = rootSessionId then return ()
      executeStatement (·.upsertSession
        { session with
          parentSessionId := some edge.parentSessionId
          rootSessionId := rootSessionId
          updatedAtMs := timestampMs edge.importedAt })

/-- The edge of a pending capture whose parent exists by now. -/
def deferredEdgeRecord (edgeId : Uuid) (edge : PendingProviderEdge) : SessionEdge where
  id := edgeId
  fromSessionId := edge.parentSessionId
  toSessionId := edge.sessionId
  edgeType := .parentChild
  confidence := .explicit
  sourceId := some edge.sourceId
  createdAtMs := timestampMs edge.importedAt
  updatedAtMs := timestampMs edge.importedAt
  sync := providerSyncMetadata edge.fidelity (.object
    [("deferred_edge_resolution", .bool true),
      ("fixture_line", numberJson (UInt64.ofNat edge.lineNumber)),
      ("imported_at", timeJson externals edge.importedAt),
      ("parent_provider_session_id", optionalText edge.parentProviderSessionId),
      ("provider_session_id", .string edge.providerSessionId),
      ("source_format", .string edge.sourceFormat)])

/-- `resolve_pending_provider_edge`. -/
def resolvePendingProviderEdge (edgeId : Uuid) (edge : PendingProviderEdge)
    : ImportM ProviderImportSummary := do
  if edgeId ∈ (← get).caches.processedEdges then
    let rootSessionId ← resolvePendingRootSessionId edge
    updateSessionParent edge rootSessionId
    return {}
  if !(← providerSessionExistsCached edge.parentSessionId) then
    return { skippedEdges := 1, skipped := 1 }
  let rootSessionId ← resolvePendingRootSessionId edge
  updateSessionParent edge rootSessionId
  changeCaches fun caches =>
    { caches with
      sessionExists := Function.update caches.sessionExists edge.sessionId (some true) }
  let wasPresent := (← get).store.sessionEdges.holds edgeId
  executeStatement (·.upsertSessionEdge (deferredEdgeRecord externals edgeId edge))
  changeCaches fun caches => { caches with processedEdges := edgeId :: caches.processedEdges }
  countEdge edgeId wasPresent

-----------------------------------------------------------------------------------------
-- File touches and cursors
-----------------------------------------------------------------------------------------

/-- `import_provider_file_touched_line`. -/
def importProviderFileTouchedLine (file : ProviderFileTouchedEnvelope) : ImportM Unit := do
  let store := (← get).store
  let sourceId := providerScopedSourceUuid file.provider file.providerSessionId file.sourceFormat
    file.rawSourcePath
  let sourceIdentity := providerSourceIdentity file.provider file.sourceFormat file.sourceRoot
    file.rawSourcePath none file.metadata
  let legacySessionId := providerSessionUuid file.provider file.providerSessionId
  let inferredSessionId := providerImportSessionUuid store file.provider file.providerSessionId
    sourceId sourceIdentity
  let eventId := file.providerEventIndex.bind fun index =>
    providerFileTouchEventId store file.provider file.providerSessionId sourceId index
      (inferredSessionId = legacySessionId)
  let sessionId :=
    ((eventId.bind store.getEvent).bind (·.sessionId)).getD inferredSessionId
  let touchId := providerFileTouchImportId store file.provider file.providerSessionId sourceId
    file.providerTouchIndex (sessionId = legacySessionId)
  executeStatement (·.upsertFileTouched
    { id := touchId
      historyRecordId := historyRecordId
      runId := none
      eventId := eventId
      vcsWorkspaceId := none
      path := file.path
      changeKind := file.changeKind
      oldPath := file.oldPath
      lineCountDelta := file.lineCountDelta
      confidence := file.confidence
      createdAtMs := timestampMs file.occurredAt
      updatedAtMs := timestampMs file.occurredAt
      sourceId := some sourceId
      sync := providerSyncMetadata .imported (.object
        [("metadata", file.metadata), ("provider", .string file.provider.asStr),
          ("provider_event_index", (file.providerEventIndex.map numberJson).getD .null),
          ("provider_session_id", .string file.providerSessionId),
          ("provider_touch_index", numberJson file.providerTouchIndex),
          ("raw_source_path", optionalText file.rawSourcePath),
          ("session_id", .string sessionId.text), ("source_format", .string file.sourceFormat),
          ("source_id", .string sourceId.text),
          ("source_root", optionalText (providerSourceRoot file.sourceRoot file.rawSourcePath))]) })

-----------------------------------------------------------------------------------------
-- Transactions
-----------------------------------------------------------------------------------------

/-- `IMPORT_TRANSACTION_BATCH_BYTES`. -/
def importTransactionBatchBytes : Nat := 8 * 1024 * 1024

/-- `IMPORT_TRANSACTION_BATCH_UNITS`. -/
def importTransactionBatchUnits : Nat := 64

/-- `ProviderImportTransaction::rotate`. -/
def rotate : ImportM Unit :=
  modify fun state =>
    { state with
      transaction :=
        { state.transaction with units := 0, bytes := 0, committed := state.store } }

/-- `ProviderImportTransaction::prepare_unit`. -/
def prepareUnit (unitBytes : Nat) : ImportM Unit := do
  let transaction := (← get).transaction
  if transaction.active && transaction.batchSize.isSome && 0 < transaction.units
      && importTransactionBatchBytes < transaction.bytes + unitBytes then
    rotate

/-- `ProviderImportTransaction::record_unit`. -/
def recordUnit (unitBytes : Nat) : ImportM Unit := do
  if (← get).transaction.active then
    modify fun state =>
      { state with
        transaction :=
          { state.transaction with
            units := state.transaction.units + 1
            bytes := state.transaction.bytes + unitBytes } }
    let transaction := (← get).transaction
    let belowUnitLimit := transaction.batchSize.all (transaction.units < ·)
    let belowByteLimit :=
      transaction.batchSize.isNone || transaction.bytes < importTransactionBatchBytes
    if !(belowUnitLimit && belowByteLimit) then rotate

/-- `ProviderImportTransaction::rollback`. -/
def rollback : ImportM Unit :=
  modify fun state =>
    if state.transaction.active then
      { state with
        store := state.transaction.committed
        transaction := { state.transaction with active := false } }
    else state

/-- `ProviderImportTransaction::commit`. -/
def commit : ImportM Unit :=
  modify fun state =>
    if state.transaction.active then
      { state with
        transaction := { state.transaction with active := false, committed := state.store } }
    else state

/-- One unit of an import. An error of the store rolls the transaction back and ends the import;
another one is a failure of the unit's line.
-/
def importUnit (unitBytes lineNumber : Nat) (unit : ImportM ProviderImportSummary)
    : ImportM Unit := do
  prepareUnit unitBytes
  let summary ← tryCatch unit fun error => do
    match error with
    | .store error => do
        rollback
        throw (.store error)
    | error => return { failed := 1, failures := [⟨lineNumber, error.text⟩] }
  modify fun state => { state with summary := state.summary.mergeFrom summary }
  recordUnit unitBytes

-----------------------------------------------------------------------------------------
-- Imports
-----------------------------------------------------------------------------------------

/-- `pending_edge_estimated_len`. -/
def pendingEdgeEstimatedLen (edge : PendingProviderEdge) : Nat :=
  edge.providerSessionId.utf8ByteSize
    + (edge.parentProviderSessionId.map String.utf8ByteSize).getD 0
    + edge.sourceFormat.utf8ByteSize + 256

/-- The unit of a pending edge with its id. -/
def edgeUnit (pending : Uuid × PendingProviderEdge) : ImportM Unit :=
  importUnit (pendingEdgeEstimatedLen pending.2) pending.2.lineNumber
    (resolvePendingProviderEdge externals pending.1 pending.2)

/-- `resolve_pending_provider_edges_batched`. The edges come in the order of their ids. -/
def resolvePendingProviderEdgesBatched : ImportM Unit := do
  let pending := (← get).caches.pendingEdges.insertionSort fun left right =>
    left.1.text ≤ right.1.text
  changeCaches fun caches => { caches with pendingEdges := [] }
  pending.forM (edgeUnit externals)

/-- The cursors of captures, the last one of each id, in the order of their ids. -/
def pendingCursors (captures : List (Nat × ProviderCaptureEnvelope)) : List SyncCursor :=
  let cursors := captures.filterMap fun (_, capture) => providerSyncCursor capture
  let latest := cursors.foldl (fun kept cursor => kept.filter (·.id ≠ cursor.id) ++ [cursor]) []
  latest.insertionSort fun left right => left.id.text ≤ right.id.text

/-- `ProviderImportTransaction::begin`. -/
def beginTransaction (hasWork : Bool) : ImportM Unit :=
  modify fun state =>
    { state with
      transaction :=
        { active := hasWork
          batchSize := some importTransactionBatchUnits
          units := 0
          bytes := 0
          committed := state.store } }

/-- The unit of a capture with its line number. -/
def captureUnit (line : Nat × ProviderCaptureEnvelope) : ImportM Unit :=
  importUnit (externals.captureLength line.2) line.1
    (importProviderCaptureLine externals options line.2 line.1)

/-- The loop of `persist_provider_capture_lines` over captures. -/
def importCaptures (captures : List (Nat × ProviderCaptureEnvelope)) : ImportM Unit :=
  captures.forM (captureUnit externals options)

/-- The unit of a file touch with its line number. -/
def fileUnit (line : Nat × ProviderFileTouchedEnvelope) : ImportM Unit :=
  importUnit (externals.fileLength line.2) line.1 do
    importProviderFileTouchedLine historyRecordId line.2
    return { acceptedContentRecords := 1 }

/-- The loop of `persist_provider_capture_lines` over file touches. -/
def importFilesTouched (filesTouched : List (Nat × ProviderFileTouchedEnvelope)) : ImportM Unit :=
  filesTouched.forM (fileUnit externals historyRecordId)

/-- The unit of a cursor. -/
def cursorUnit (cursor : SyncCursor) : ImportM Unit :=
  importUnit (externals.cursorLength cursor) 0 do
    executeStatement (·.upsertSyncCursor cursor)
    return {}

/-- The loop of `persist_provider_capture_lines` over cursors. -/
def importCursors (cursors : List SyncCursor) : ImportM Unit :=
  cursors.forM (cursorUnit externals)

/-- What `persist_provider_capture_lines` does behind the captures. -/
def finishImport (filesTouched : List (Nat × ProviderFileTouchedEnvelope))
    (cursors : List SyncCursor)
    : ImportM ProviderImportSummary := do
  resolvePendingProviderEdgesBatched externals
  importFilesTouched externals historyRecordId filesTouched
  if (← get).summary.failed = 0 then importCursors externals cursors
  commit
  return (← get).summary

/-- `persist_provider_capture_lines`. -/
def persistProviderCaptureLines (captures : List (Nat × ProviderCaptureEnvelope))
    (filesTouched : List (Nat × ProviderFileTouchedEnvelope))
    : ImportM ProviderImportSummary := do
  let cursors :=
    if options.persistCursors && (← get).summary.failed = 0 then pendingCursors captures else []
  beginTransaction (!(captures.isEmpty && filesTouched.isEmpty) && options.wrapTransaction)
  importCaptures externals options captures
  finishImport externals options.historyRecordId filesTouched cursors

/-- The file touches of an import: those of its adapter, and those read off the events of other
lines.
-/
def allFilesTouched (normalization : ProviderNormalizationResult)
    : List (Nat × ProviderFileTouchedEnvelope) :=
  let supplied := normalization.filesTouched.map (·.1)
  normalization.filesTouched
    ++ normalization.captures.flatMap fun (lineNumber, capture) =>
      if capture.provider = .codex || supplied.contains lineNumber then []
      else
        (capture.event.map fun event =>
          (externals.providerFileTouchesFromEvent capture event).map (lineNumber, ·)).getD []

/-- The state in which an import starts. -/
def initialState (store : ImportStore) (summary : ProviderImportSummary) : ImportState where
  store := store
  caches := {}
  transaction := ⟨false, none, 0, 0, store⟩
  summary := summary

/-- `import_normalized_provider_captures`: its result, and the store. -/
def importNormalizedProviderCaptures (store : ImportStore)
    (normalization : ProviderNormalizationResult)
    : Except CaptureError ProviderImportSummary × ImportStore :=
  let filtered := filterProviderCaptureLinesWithoutRealSessionMessages normalization
  if filtered.summary.failed = 0 ∧ ¬ providerCaptureLinesHaveRealMessage filtered.captures then
    let line :=
      ((filtered.captures.map (·.1)).head?.or (filtered.filesTouched.map (·.1)).head?).getD 0
    (.ok (filtered.summary.mergeFrom (noRealMessage line)), store)
  else
    let (result, state) :=
      perform
        (persistProviderCaptureLines externals options filtered.captures
          (allFilesTouched externals filtered))
        (initialState store filtered.summary)
    (result, state.store)

-----------------------------------------------------------------------------------------
-- An example
-----------------------------------------------------------------------------------------

/-- Externals for captures whose times are all the epoch and whose events touch no files. -/
def epochExternals : Externals where
  fromStr := fun _ => none
  scriptgramIndexText := fun _ => ""
  checkedSubMilliseconds := fun _ _ => none
  dateTimeText := fun _ => "1970-01-01T00:00:00Z"
  captureLength := fun _ => 1000
  fileLength := fun _ => 1000
  cursorLength := fun _ => 1000
  providerFileTouchesFromEvent := fun _ _ => []

/-- A user's message. -/
def messageEvent (providerEventIndex : UInt64) (providerEventHash : String)
    : ProviderEventEnvelope where
  providerEventIndex := providerEventIndex
  providerEventHash := some providerEventHash
  cursor := none
  eventType := .message
  role := some .user
  occurredAt := ⟨0⟩
  fidelity := .imported
  idempotencyKey := none
  artifacts := .array []
  payload := .object [("text", .string "hi")]
  metadata := .object []

/-- A capture of a session in one file of sessions. -/
def sessionCapture (provider : CaptureProvider) (providerSessionId : String)
    (parent root : Option String) (event : ProviderEventEnvelope)
    : ProviderCaptureEnvelope where
  schemaVersion := 2
  provider := provider
  source :=
    { sourceFormat := "sessions_jsonl"
      machineId := "local"
      observedAt := ⟨0⟩
      rawSourcePath := some "/sessions.jsonl"
      sourceRoot := none
      trust := .providerNative
      fidelity := .imported
      cursor := none
      idempotencyKey := none
      metadata := .object [] }
  session :=
    { providerSessionId := providerSessionId
      parentProviderSessionId := parent
      rootProviderSessionId := root
      externalAgentId := none
      agentType := .primary
      roleHint := none
      isPrimary := true
      status := .imported
      startedAt := ⟨0⟩
      endedAt := none
      cwd := none
      fidelity := .imported
      idempotencyKey := none
      artifacts := .array []
      metadata := .object [] }
  event := some event

/-- Captures on numbered lines. -/
def numberedCaptures (captures : List ProviderCaptureEnvelope) : ProviderNormalizationResult where
  summary := {}
  captures := captures.mapIdx fun index capture => (index + 1, capture)
  filesTouched := []

/-- The default options of adapters. -/
def adapterOptions : NormalizedProviderImportOptions := ⟨none, true, true, true⟩

end CtxRemote.Capture
