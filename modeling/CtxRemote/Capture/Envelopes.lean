import CtxRemote.Capture.ImportStore
import CtxRemote.Sync.ProviderImport

/-! The envelopes that provider adapters normalize their histories to, what a session needs to have a
real conversation, the runs that command outputs stand for, and the cursors that captures carry.
-/

namespace CtxRemote.Capture
open CtxRemote.Library
open CtxRemote.Store
  (Uuid CaptureProvider Json Number EventType EventRole Fidelity DateTime SyncMetadata Event
    StoreError AgentType SessionStatus timestampMs)
open CtxRemote.Sync (ProviderImportSummary ProviderImportFailure)
open CtxRemote.Turso (trim)

-----------------------------------------------------------------------------------------
-- Envelopes
-----------------------------------------------------------------------------------------

/-- `ProviderSourceTrust`. -/
inductive ProviderSourceTrust where
  | providerNative | providerExport | wrapperObserved | fixture | synthetic | unknown
deriving DecidableEq, Repr

/-- The serialized name of a trust. -/
def ProviderSourceTrust.asStr : ProviderSourceTrust → String
  | providerNative => "provider_native"
  | providerExport => "provider_export"
  | wrapperObserved => "wrapper_observed"
  | fixture => "fixture"
  | synthetic => "synthetic"
  | unknown => "unknown"

/-- `ProviderCursorCheckpoint`. -/
structure ProviderCursorCheckpoint where
  stream : String
  cursor : String
  observedAt : DateTime

/-- `ProviderCursorRange`. -/
structure ProviderCursorRange where
  before : Option ProviderCursorCheckpoint
  after : Option ProviderCursorCheckpoint

/-- `ProviderSourceEnvelope`. -/
structure ProviderSourceEnvelope where
  sourceFormat : String
  machineId : String
  observedAt : DateTime
  rawSourcePath : Option String
  sourceRoot : Option String
  trust : ProviderSourceTrust
  fidelity : Fidelity
  cursor : Option ProviderCursorRange
  idempotencyKey : Option String
  metadata : Json

/-- `ProviderSessionEnvelope`, its artifacts in their serialized form. -/
structure ProviderSessionEnvelope where
  providerSessionId : String
  parentProviderSessionId : Option String
  rootProviderSessionId : Option String
  externalAgentId : Option String
  agentType : AgentType
  roleHint : Option String
  isPrimary : Bool
  status : SessionStatus
  startedAt : DateTime
  endedAt : Option DateTime
  cwd : Option String
  fidelity : Fidelity
  idempotencyKey : Option String
  artifacts : Json
  metadata : Json

/-- `ProviderEventEnvelope`, its artifacts in their serialized form. -/
structure ProviderEventEnvelope where
  providerEventIndex : UInt64
  providerEventHash : Option String
  cursor : Option String
  eventType : EventType
  role : Option EventRole
  occurredAt : DateTime
  fidelity : Fidelity
  idempotencyKey : Option String
  artifacts : Json
  payload : Json
  metadata : Json

/-- `ProviderCaptureEnvelope`. -/
structure ProviderCaptureEnvelope where
  schemaVersion : Nat
  provider : CaptureProvider
  source : ProviderSourceEnvelope
  session : ProviderSessionEnvelope
  event : Option ProviderEventEnvelope

/-- `ProviderFileTouchedEnvelope`. -/
structure ProviderFileTouchedEnvelope where
  provider : CaptureProvider
  providerSessionId : String
  providerTouchIndex : UInt64
  providerEventIndex : Option UInt64
  rawSourcePath : Option String
  sourceRoot : Option String
  path : String
  changeKind : Option FileChangeKind
  oldPath : Option String
  lineCountDelta : Option Int
  confidence : Confidence
  occurredAt : DateTime
  sourceFormat : String
  metadata : Json

/-- `ProviderNormalizationResult`, each envelope with its line number. -/
structure ProviderNormalizationResult where
  summary : ProviderImportSummary
  captures : List (Nat × ProviderCaptureEnvelope)
  filesTouched : List (Nat × ProviderFileTouchedEnvelope)

/-- `NormalizedProviderImportOptions`. -/
structure NormalizedProviderImportOptions where
  historyRecordId : Option Uuid
  persistCursors : Bool
  wrapTransaction : Bool
  fastEventInserts : Bool

/-- `CaptureError`, by the kinds that an import of captures and a catalog raise. -/
inductive CaptureError where
  | io (error : String)
  | store (error : StoreError)
  | invalidPayload (payload : String)
  | workerPanicked (worker : String)
deriving DecidableEq

/-- `CaptureError`'s `Display`; that of an error of the store is not modelled. -/
def CaptureError.text : CaptureError → String
  | io error => "io error: " ++ error
  | store _ => "store error"
  | invalidPayload payload => "invalid capture payload: " ++ payload
  | workerPanicked worker => worker ++ " worker thread panicked"

/-- Functions that this model leaves open: those of the store, `chrono`'s subtraction of
milliseconds and its serialized times, the serialized lengths of units, and the file touches that
`provider_file_touches_from_event` reads off the event of a capture.
-/
structure Externals extends Store.Externals where
  checkedSubMilliseconds : DateTime → Int → Option DateTime
  dateTimeText : DateTime → String
  captureLength : ProviderCaptureEnvelope → Nat
  fileLength : ProviderFileTouchedEnvelope → Nat
  cursorLength : SyncCursor → Nat
  providerFileTouchesFromEvent
    : ProviderCaptureEnvelope → ProviderEventEnvelope → List ProviderFileTouchedEnvelope

variable (externals : Externals)

/-- `provider_sync_metadata`. -/
def providerSyncMetadata (fidelity : Fidelity) (metadata : Json) : SyncMetadata where
  fidelity := fidelity
  metadata := metadata

/-- A serialized number. -/
def numberJson (value : UInt64) : Json := .number (.posInt value)

/-- A serialized time. -/
def timeJson (value : DateTime) : Json := .string (externals.dateTimeText value)

-----------------------------------------------------------------------------------------
-- Real conversations
-----------------------------------------------------------------------------------------

/-- `provider_policy_session_key`. -/
def providerPolicySessionKey (provider : CaptureProvider) (trust : ProviderSourceTrust)
    (sourceFormat providerSessionId : String) (rawSourcePath : Option String)
    : Option String :=
  if provider = .custom ∨ ¬ (trust = .providerNative ∨ trust = .providerExport) then none
  else
    some (provider.asStr ++ "\x00" ++ sourceFormat ++ "\x00" ++ providerSessionId ++ "\x00"
      ++ rawSourcePath.getD "")

/-- `provider_capture_policy_session_key`. -/
def providerCapturePolicySessionKey (capture : ProviderCaptureEnvelope) : Option String :=
  providerPolicySessionKey capture.provider capture.source.trust capture.source.sourceFormat
    capture.session.providerSessionId capture.source.rawSourcePath

/-- `provider_file_touch_policy_session_key`. -/
def providerFileTouchPolicySessionKey (file : ProviderFileTouchedEnvelope) : Option String :=
  providerPolicySessionKey file.provider .providerNative file.sourceFormat file.providerSessionId
    file.rawSourcePath

/-- `provider_event_payload_has_text`. -/
def providerEventPayloadHasText (payload : Json) : Bool :=
  (((payload.get "text").bind Json.asStr).or
    (((payload.get "body").bind (·.get "text")).bind Json.asStr)).any fun text =>
      !(trim text.toList).isEmpty

/-- `provider_event_is_real_conversation_message`. -/
def providerEventIsRealConversationMessage (event : ProviderEventEnvelope) : Bool :=
  event.eventType = .message
  && (event.role = some .user || event.role = some .assistant || event.role = some .system)
  && providerEventPayloadHasText event.payload

/-- `provider_capture_lines_have_real_message`. -/
def providerCaptureLinesHaveRealMessage (captures : List (Nat × ProviderCaptureEnvelope)) : Bool :=
  let native (capture : ProviderCaptureEnvelope) : Bool :=
    capture.source.trust = .providerNative || capture.source.trust = .providerExport
  ((captures.filter fun (_, capture) => capture.provider ≠ .custom).all fun (_, capture) =>
    !native capture)
  || captures.any fun (_, capture) =>
    capture.provider ≠ .custom && native capture
      && capture.event.any providerEventIsRealConversationMessage

/-- The sessions of native sources with and without a real message. -/
def rejectedSessionKeys (captures : List (Nat × ProviderCaptureEnvelope)) : List String :=
  let native := captures.filterMap fun (_, capture) => providerCapturePolicySessionKey capture
  let real := captures.filterMap fun (_, capture) =>
    if capture.event.any providerEventIsRealConversationMessage
    then providerCapturePolicySessionKey capture
    else none
  native.dedup.filter fun key => !real.contains key

/-- The failure of a source without any real message. -/
def noRealMessage (line : Nat) : ProviderImportSummary :=
  { failed := 1
    failures := [⟨line, "provider source contained no real conversation message"⟩] }

/-- `filter_provider_capture_lines_without_real_session_messages`. -/
def filterProviderCaptureLinesWithoutRealSessionMessages
    (normalization : ProviderNormalizationResult)
    : ProviderNormalizationResult :=
  let rejected := rejectedSessionKeys normalization.captures
  if rejected.isEmpty then normalization
  else
    let drops (key : Option String) : Bool := key.any rejected.contains
    let (dropped, captures) := normalization.captures.partition fun (_, capture) =>
      drops (providerCapturePolicySessionKey capture)
    let (droppedFiles, files) := normalization.filesTouched.partition fun (_, file) =>
      drops (providerFileTouchPolicySessionKey file)
    let counted := normalization.summary.mergeFrom
      { skippedSessions := rejected.length
        skipped := dropped.length + droppedFiles.length
        skippedEvents := (dropped.filter fun (_, capture) => capture.event.isSome).length }
    let allRejected := (normalization.captures.filterMap fun (_, capture) =>
      providerCapturePolicySessionKey capture).all rejected.contains
    { summary :=
        if allRejected && counted.failed = 0 then counted.mergeFrom (noRealMessage 0) else counted
      captures := captures
      filesTouched := files }

-----------------------------------------------------------------------------------------
-- Command runs
-----------------------------------------------------------------------------------------

/-- `provider_command_duration_ms`. -/
def providerCommandDurationMs (payload : Json) : Except CaptureError (Option Int) :=
  match payload.get "duration_ms" with
  | none => .ok none
  | some .null => .ok none
  | some value =>
      match value.asI64 with
      | none => .error (.invalidPayload "duration_ms must be an integer")
      | some duration =>
          if duration < 0 then
            .error (.invalidPayload ("duration_ms must be nonnegative, got " ++ toString duration))
          else .ok (some duration)

/-- `provider_event_started_at`. Every number of milliseconds in an `i64` but the least one is a
`chrono::Duration`.
-/
def providerEventStartedAt (event : ProviderEventEnvelope) : Except CaptureError DateTime :=
  if event.eventType ≠ .commandOutput then .ok event.occurredAt
  else do
    match ← providerCommandDurationMs event.payload with
    | none => return event.occurredAt
    | some duration =>
        match externals.checkedSubMilliseconds event.occurredAt duration with
        | some startedAt => return startedAt
        | none =>
            throw (.invalidPayload
              ("duration_ms moves command start before representable time: " ++ toString duration))

/-- `validate_provider_event_for_import`. -/
def validateProviderEventForImport (event : ProviderEventEnvelope) : Except CaptureError Unit :=
  (providerEventStartedAt externals event).map fun _ => ()

/-- `provider_command_run_status`. -/
def providerCommandRunStatus (payload : Json) : RunStatus :=
  if ((payload.get "timed_out").bind Json.asBool).getD false then .cancelled
  else
    match (payload.get "exit_code").bind Json.asI64 with
    | some 0 => .succeeded
    | some _ => .failed
    | none => .partial'

/-- `i32::try_from`. -/
def tryI32 (value : Int) : Option Int :=
  if -(2 ^ 31) ≤ value ∧ value < 2 ^ 31 then some value else none

/-- `ProviderCommandRunInput`, less the payload of its event. -/
structure ProviderCommandRunInput where
  provider : CaptureProvider
  providerSessionId : String
  sessionId : Uuid
  sourceId : Uuid
  runSourceId : Option Uuid
  historyRecordId : Option Uuid
  event : ProviderEventEnvelope
  eventHash : String

/-- `provider_command_run_from_event`. -/
def providerCommandRunFromEvent (input : ProviderCommandRunInput)
    : Except CaptureError (Option Run) := do
  if input.event.eventType ≠ .commandOutput then return none
  let payload := input.event.payload
  let callId := (payload.get "call_id").bind Json.asStr
  let key := callId.getD input.eventHash
  let startedAt ← providerEventStartedAt externals input.event
  return some
    { id :=
        match input.runSourceId with
        | some sourceId => providerSourceRunUuid sourceId key
        | none => providerRunUuid input.provider input.providerSessionId key
      historyRecordId := input.historyRecordId
      sessionId := some input.sessionId
      runType := .command
      status := providerCommandRunStatus payload
      startedAtMs := timestampMs startedAt
      endedAtMs := some (timestampMs input.event.occurredAt)
      exitCode := ((payload.get "exit_code").bind Json.asI64).bind tryI32
      cwd := none
      commandPreview :=
        ((payload.get "command").bind Json.asStr).filter fun text => !(trim text.toList).isEmpty
      inputBlobId := none
      outputBlobId := none
      createdAtMs := timestampMs input.event.occurredAt
      updatedAtMs := timestampMs input.event.occurredAt
      sourceId := some input.sourceId
      sync := providerSyncMetadata input.event.fidelity (.object
        [("call_id", optionalText callId),
          ("provider_event_hash", .string input.eventHash),
          ("provider_event_index", numberJson input.event.providerEventIndex),
          ("provider_session_id", .string input.providerSessionId),
          ("source", .string "provider_command_output")]) }

-----------------------------------------------------------------------------------------
-- Cursors
-----------------------------------------------------------------------------------------

/-- `provider_source_cursor_stream_for_source`. -/
def providerSourceCursorStreamForSource (provider : CaptureProvider)
    (source : ProviderSourceEnvelope)
    : String :=
  let (kind, value) :=
    (providerSourceIdentityComponent source.sourceRoot source.rawSourcePath source.idempotencyKey
      source.metadata).getD ("default", "default")
  let key := (Json.array [.string "provider-source-cursor-v1", .string provider.asStr,
    .string source.sourceFormat, .string kind, .string value]).text
  let sourceId := stableCaptureUuid key "provider-cursor-source"
  "provider:" ++ provider.asStr ++ ":" ++ source.sourceFormat ++ ":source:"
    ++ String.ofList (sourceId.text.toList.filter (· ≠ '-'))

/-- `source_scoped_checkpoint`. -/
def sourceScopedCheckpoint (capture : ProviderCaptureEnvelope)
    (checkpoint : ProviderCursorCheckpoint)
    : ProviderCursorCheckpoint :=
  if capture.provider = .custom then checkpoint
  else
    { checkpoint with
      stream := providerSourceCursorStreamForSource capture.provider capture.source }

/-- `provider_source_cursor_range`. -/
def providerSourceCursorRange (capture : ProviderCaptureEnvelope) : Option ProviderCursorRange :=
  capture.source.cursor.map fun cursor =>
    { before := cursor.before.map (sourceScopedCheckpoint capture)
      after := cursor.after.map (sourceScopedCheckpoint capture) }

/-- A serialized checkpoint. -/
def checkpointJson (checkpoint : ProviderCursorCheckpoint) : Json :=
  .object
    [("cursor", .string checkpoint.cursor), ("observed_at", timeJson externals checkpoint.observedAt),
      ("stream", .string checkpoint.stream)]

/-- A serialized cursor range, or `null`. -/
def cursorRangeJson : Option ProviderCursorRange → Json
  | none => .null
  | some range =>
      .object
        ((range.after.toList.map fun after => ("after", checkpointJson externals after))
          ++ range.before.toList.map fun before => ("before", checkpointJson externals before))

/-- `provider_sync_cursor`. -/
def providerSyncCursor (capture : ProviderCaptureEnvelope) : Option SyncCursor :=
  let fromSource :=
    (capture.source.cursor.bind (·.after)).map (sourceScopedCheckpoint capture)
  let fromEvent := capture.event.bind fun event =>
    event.cursor.map fun cursor =>
      { stream := providerSourceCursorStreamForSource capture.provider capture.source
        cursor := cursor
        observedAt := event.occurredAt : ProviderCursorCheckpoint }
  (fromSource.or fromEvent).map fun checkpoint =>
    { id := stableCaptureUuid
        ("provider-cursor:" ++ capture.provider.asStr ++ ":" ++ capture.source.machineId ++ ":"
          ++ checkpoint.stream)
        "provider-sync-cursor"
      teamId := none
      deviceId := capture.source.machineId
      stream := checkpoint.stream
      cursor := checkpoint.cursor
      lastSyncedAtMs := some (timestampMs checkpoint.observedAt)
      createdAtMs := timestampMs checkpoint.observedAt
      updatedAtMs := timestampMs checkpoint.observedAt }

end CtxRemote.Capture
