import CtxRemote.Capture.ProviderImporter

/-! The normalization of a `ctx-history-jsonl-v1` stream: its records are validated one after another
and then against each other, and what is left becomes captures, file touches, edges and cursors.

A `BTreeMap` is the list of its entries in the order of their insertion, and is sorted by its keys
where its entries are visited.
-/

namespace CtxRemote.Capture.CustomHistory
open CtxRemote.Library
open CtxRemote.Store
  (Uuid CaptureProvider Json Fidelity DateTime EventType EventRole AgentType SessionStatus
    timestampMs)
open CtxRemote.Sync (ProviderImportSummary)
open CtxRemote.Turso (trim)

-----------------------------------------------------------------------------------------
-- Records
-----------------------------------------------------------------------------------------

/-- `CtxHistoryJsonlSourceRecord`. -/
structure SourceRecord where
  sourceId : String
  providerKey : String
  sourceFormat : String
  rawUri : Option String
  rawSourcePath : Option String
  fingerprint : Option String
  importerVersion : Option String
  observedAt : Option DateTime
  machineId : Option String
  trust : ProviderSourceTrust
  fidelity : Fidelity
  cursor : Option ProviderCursorRange
  metadata : Json

/-- `CtxHistoryJsonlSessionRecord`, its artifacts in their serialized form. -/
structure SessionRecord where
  sourceId : String
  sessionId : String
  nativeSessionId : Option String
  parentSessionId : Option String
  rootSessionId : Option String
  externalAgentId : Option String
  agentType : AgentType
  roleHint : Option String
  isPrimary : Bool
  status : SessionStatus
  startedAt : DateTime
  endedAt : Option DateTime
  cwd : Option String
  fidelity : Fidelity
  idempotencyKey : Option String
  artifacts : Json
  metadata : Json

/-- `CtxHistoryJsonlEventRecord`, its artifacts in their serialized form. -/
structure EventRecord where
  sourceId : String
  sessionId : String
  eventIndex : UInt64
  eventId : Option String
  nativeCursor : Option String
  eventHash : Option String
  eventType : EventType
  role : Option EventRole
  occurredAt : DateTime
  fidelity : Fidelity
  idempotencyKey : Option String
  artifacts : Json
  payload : Json
  preview : Option String
  metadata : Json

/-- `CtxHistoryJsonlFileTouchRecord`. -/
structure FileTouchRecord where
  sourceId : String
  sessionId : String
  touchIndex : UInt64
  eventIndex : Option UInt64
  path : String
  changeKind : Option FileChangeKind
  oldPath : Option String
  lineCountDelta : Option Int
  confidence : Confidence
  occurredAt : DateTime
  metadata : Json

/-- `CtxHistoryJsonlEdgeRecord`. -/
structure EdgeRecord where
  sourceId : String
  fromSessionId : String
  toSessionId : String
  edgeId : Option String
  edgeType : SessionEdgeType
  confidence : Confidence
  occurredAt : Option DateTime
  fidelity : Fidelity
  metadata : Json

/-- `CtxHistoryJsonlRecord`, a manifest by its schema version. -/
inductive Record where
  | manifest (schemaVersion : String)
  | source (source : SourceRecord)
  | session (session : SessionRecord)
  | event (event : EventRecord)
  | fileTouch (fileTouch : FileTouchRecord)
  | edge (edge : EdgeRecord)

/-- `ProviderAdapterContext` of a stream, which has no source root. -/
structure AdapterContext where
  machineId : String
  sourcePath : Option String
  importedAt : DateTime

/-- `SessionEdgeType::as_str`. -/
def edgeTypeText : SessionEdgeType → String
  | .parentChild => "parent_child"
  | .delegated => "delegated"
  | .reviewed => "reviewed"
  | .spawned => "spawned"
  | .resumedFrom => "resumed_from"
  | .importedRelated => "imported_related"

/-- `CTX_HISTORY_JSONL_V1_SCHEMA_VERSION`. -/
def schemaVersion : String := "ctx-history-jsonl-v1"

-----------------------------------------------------------------------------------------
-- The records by themselves
-----------------------------------------------------------------------------------------

/-- `push_provider_import_failure`. -/
def pushFailure (line : Nat) (summary : ProviderImportSummary) (error : String)
    : ProviderImportSummary :=
  summary.mergeFrom { failed := 1, failures := [⟨line, error⟩] }

/-- `validate_custom_history_identifier`: the failure, if there is one. -/
def identifierErrors (field value : String) : List String :=
  if (trim value.toList).isEmpty then [field ++ " must not be empty"]
  else if value.utf8ByteSize > 512 then [field ++ " must be at most 512 bytes"]
  else if value.toList.any fun c => c.toNat < 32 || (127 ≤ c.toNat && c.toNat < 160) then
    [field ++ " must not contain control characters"]
  else []

/-- A byte that may start a provider key. -/
def isKeyStart (c : Char) : Bool := c.isLower || c.isDigit

/-- `validate_custom_source_record`. -/
def sourceErrors (source : SourceRecord) : List String :=
  let key := source.providerKey.toList
  let valid :=
    !key.isEmpty && source.providerKey.utf8ByteSize ≤ 128
      && key.all (fun c => isKeyStart c || c = '.' || c = '_' || c = '-')
      && key.head?.any isKeyStart
  identifierErrors "source_id" source.sourceId ++ identifierErrors "source_format" source.sourceFormat
    ++ if valid then [] else
      ["provider_key must be 1 to 128 bytes, start with a lowercase ASCII letter or digit, and use only lowercase ASCII letters, digits, '.', '_', or '-'"]

abbrev SessionKey := String × String

def SessionRecord.key (session : SessionRecord) : SessionKey := (session.sourceId, session.sessionId)

def EventRecord.key (event : EventRecord) : String × String × UInt64 :=
  (event.sourceId, event.sessionId, event.eventIndex)

def EventRecord.sessionKey (event : EventRecord) : SessionKey := (event.sourceId, event.sessionId)

def FileTouchRecord.key (touch : FileTouchRecord) : String × String × UInt64 :=
  (touch.sourceId, touch.sessionId, touch.touchIndex)

def FileTouchRecord.sessionKey (touch : FileTouchRecord) : SessionKey := (touch.sourceId, touch.sessionId)

def EdgeRecord.fromKey (edge : EdgeRecord) : SessionKey := (edge.sourceId, edge.fromSessionId)

def EdgeRecord.toKey (edge : EdgeRecord) : SessionKey := (edge.sourceId, edge.toSessionId)

def EdgeRecord.key (edge : EdgeRecord) : String × String × String × String :=
  (edge.sourceId, edge.fromSessionId, edge.toSessionId,
    edge.edgeId.getD (edge.fromSessionId ++ ":" ++ edge.toSessionId ++ ":" ++ edgeTypeText edge.edgeType))

/-- The records that were accepted so far, each with its line. -/
structure Collected where
  summary : ProviderImportSummary := {}
  manifestSeen : Bool := false
  manifestIsStructurallyInvalid : Bool := false
  sources : List (Nat × SourceRecord) := []
  sessions : List (Nat × SessionRecord) := []
  events : List (Nat × EventRecord) := []
  fileTouches : List (Nat × FileTouchRecord) := []
  edges : List (Nat × EdgeRecord) := []

namespace Collected

/-- The failures of a record. -/
def reject (collected : Collected) (line : Nat) (errors : List String) : Collected :=
  { collected with summary := errors.foldl (pushFailure line) collected.summary }

/-- A record's failures, or the record where it has none. -/
def acceptUnless (collected : Collected) (line : Nat) (errors : List String) (next : Collected) : Collected :=
  if errors.isEmpty then next else collected.reject line errors

/-- A text where a condition holds. -/
def errorIf (condition : Bool) (error : String) : List String := if condition then [error] else []

/-- The step of the loop over records. -/
def add (collected : Collected) (line : Nat) : Record → Collected
  | .manifest version =>
      let errors :=
        errorIf (version ≠ schemaVersion) ("unsupported custom history schema version `" ++ version ++ "`")
          ++ errorIf collected.manifestSeen "duplicate manifest record"
      { collected.reject line errors with
        manifestSeen := true
        manifestIsStructurallyInvalid := collected.manifestIsStructurallyInvalid || !errors.isEmpty }
  | .source source =>
      let errors :=
        sourceErrors source
          ++ errorIf (collected.sources.any (·.2.sourceId = source.sourceId)) "duplicate source_id"
      collected.acceptUnless line errors { collected with sources := collected.sources ++ [(line, source)] }
  | .session session =>
      let errors :=
        identifierErrors "source_id" session.sourceId ++ identifierErrors "session_id" session.sessionId
          ++ errorIf (collected.sessions.any (·.2.key = session.key)) "duplicate session record"
      collected.acceptUnless line errors { collected with sessions := collected.sessions ++ [(line, session)] }
  | .event event =>
      let errors :=
        identifierErrors "source_id" event.sourceId ++ identifierErrors "session_id" event.sessionId
          ++ errorIf (collected.events.any (·.2.key = event.key)) "duplicate event_index for session"
      collected.acceptUnless line errors { collected with events := collected.events ++ [(line, event)] }
  | .fileTouch touch =>
      let errors :=
        identifierErrors "source_id" touch.sourceId ++ identifierErrors "session_id" touch.sessionId
          ++ errorIf (trim touch.path.toList).isEmpty "file_touch path must not be empty"
          ++ errorIf (collected.fileTouches.any (·.2.key = touch.key)) "duplicate touch_index for session"
      collected.acceptUnless line errors
        { collected with fileTouches := collected.fileTouches ++ [(line, touch)] }
  | .edge edge =>
      let errors :=
        identifierErrors "source_id" edge.sourceId
          ++ identifierErrors "from_session_id" edge.fromSessionId
          ++ identifierErrors "to_session_id" edge.toSessionId
          ++ errorIf (collected.edges.any (·.2.key = edge.key)) "duplicate edge record"
      collected.acceptUnless line errors { collected with edges := collected.edges ++ [(line, edge)] }

-----------------------------------------------------------------------------------------
-- The records against each other
-----------------------------------------------------------------------------------------

def hasSource (collected : Collected) (sourceId : String) : Bool :=
  collected.sources.any (·.2.sourceId = sourceId)

def hasSession (collected : Collected) (key : SessionKey) : Bool :=
  collected.sessions.any (·.2.key = key)

/-- `custom_history_session_reference_error`. -/
def sessionReferenceError (collected : Collected) (session : SessionRecord) : Option String :=
  if !collected.hasSource session.sourceId then
    some ("session references unknown source_id `" ++ session.sourceId ++ "`")
  else
    let parent := session.parentSessionId.filter fun parent =>
      !collected.hasSession (session.sourceId, parent)
    let root := session.rootSessionId.filter fun root =>
      root ≠ session.sessionId && !collected.hasSession (session.sourceId, root)
    (parent.map fun parent => "session references unknown parent_session_id `" ++ parent ++ "`").or
      (root.map fun root => "session references unknown root_session_id `" ++ root ++ "`")

/-- Sessions in the order of their keys. -/
def sortedSessions (sessions : List (Nat × SessionRecord)) : List (Nat × SessionRecord) :=
  sessions.insertionSort fun left right =>
    left.2.sourceId < right.2.sourceId
    ∨ (left.2.sourceId = right.2.sourceId ∧ left.2.sessionId ≤ right.2.sessionId)

/-- The sessions whose references do not hold, with their failures. -/
def invalidSessions (collected : Collected) : List (Nat × SessionRecord × String) :=
  (sortedSessions collected.sessions).filterMap fun (line, session) =>
    (collected.sessionReferenceError session).map fun error => (line, session, error)

/-- A round of the loop over invalid sessions. -/
def rejectInvalidSessions (collected : Collected) : Collected :=
  { collected with
    sessions :=
      collected.sessions.filter fun (_, session) => (collected.sessionReferenceError session).isNone
    summary :=
      collected.invalidSessions.foldl (fun summary (line, _, error) => pushFailure line summary error)
        collected.summary }

/-- The loop over invalid sessions. Every round but the last one removes a session. -/
def rejectSessions : Nat → Collected → Collected
  | 0, collected => collected
  | rounds + 1, collected =>
      if collected.invalidSessions.isEmpty then collected
      else rejectSessions rounds collected.rejectInvalidSessions

/-- The failure of an event. -/
def eventReferenceError (collected : Collected) (event : EventRecord) : Option String :=
  if collected.hasSession event.sessionKey then none
  else
    some ("event references unknown session `" ++ event.sessionId ++ "` in source `" ++ event.sourceId
      ++ "`")

/-- The failure of a file touch. -/
def fileTouchReferenceError (collected : Collected) (touch : FileTouchRecord) : Option String :=
  if !collected.hasSession touch.sessionKey then
    some ("file_touch references unknown session `" ++ touch.sessionId ++ "` in source `"
      ++ touch.sourceId ++ "`")
  else
    (touch.eventIndex.filter fun index =>
      !collected.events.any (·.2.key = (touch.sourceId, touch.sessionId, index))).map fun index =>
        "file_touch references unknown event_index `" ++ index.toNat.repr ++ "`"

/-- The failure of an edge. -/
def edgeReferenceError (collected : Collected) (edge : EdgeRecord) : Option String :=
  if !collected.hasSession edge.fromKey then
    some ("edge references unknown from_session_id `" ++ edge.fromSessionId ++ "`")
  else if !collected.hasSession edge.toKey then
    some ("edge references unknown to_session_id `" ++ edge.toSessionId ++ "`")
  else if edge.edgeType = .parentChild then
    let parent := (collected.sessions.find? (·.2.key = edge.toKey)).bind (·.2.parentSessionId)
    (parent.filter (· ≠ edge.fromSessionId)).map fun parent =>
      "parent_child edge from_session_id `" ++ edge.fromSessionId
        ++ "` conflicts with session parent_session_id `" ++ parent ++ "`"
  else none

/-- The records without a failure, and the summary with the failures of the others. -/
def validate {α : Type} (error : α → Option String) (summary : ProviderImportSummary)
    (records : List (Nat × α))
    : List (Nat × α) × ProviderImportSummary :=
  (records.filter fun (_, record) => (error record).isNone,
    records.foldl
      (fun summary (line, record) => (error record).toList.foldl (pushFailure line) summary) summary)

/-- `reject_invalid_custom_history_references`. Events are checked first, and touches against the
events that are left.
-/
def rejectInvalidReferences (collected : Collected) : Collected :=
  let collected := rejectSessions collected.sessions.length collected
  let (events, summary) := validate collected.eventReferenceError collected.summary collected.events
  let collected := { collected with events := events, summary := summary }
  let (fileTouches, summary) :=
    validate collected.fileTouchReferenceError collected.summary collected.fileTouches
  let collected := { collected with fileTouches := fileTouches, summary := summary }
  let (edges, summary) := validate collected.edgeReferenceError collected.summary collected.edges
  { collected with edges := edges, summary := summary }

/-- The sessions that the sessions with some keys name as parents and roots. -/
def dependencies (sessions : List (Nat × SessionRecord)) (required : List SessionKey)
    : List SessionKey :=
  (sessions.filter fun (_, session) => session.key ∈ required).flatMap fun (_, session) =>
    (session.parentSessionId.toList ++ session.rootSessionId.toList).map fun id =>
      (session.sourceId, id)

/-- The loop over required sessions. Every round but the last one adds a key. -/
def requireSessions (sessions : List (Nat × SessionRecord)) : Nat → List SessionKey → List SessionKey
  | 0, required => required
  | rounds + 1, required =>
      let more := (dependencies sessions required).filter (· ∉ required)
      if more.isEmpty then required else requireSessions sessions rounds (required ++ more)

/-- `retain_custom_history_content_sessions`. -/
def retainContentSessions (collected : Collected) : Collected :=
  let required :=
    collected.events.map (·.2.sessionKey) ++ collected.fileTouches.map (·.2.sessionKey)
      ++ collected.edges.flatMap fun (_, edge) => [edge.fromKey, edge.toKey]
  let required := requireSessions collected.sessions (2 * collected.sessions.length) required
  { collected with
    sessions := collected.sessions.filter fun (_, session) => session.key ∈ required }

theorem mem_invalidSessions {collected : Collected} {entry : Nat × SessionRecord × String}
    : entry ∈ collected.invalidSessions
      ↔ (entry.1, entry.2.1) ∈ collected.sessions
        ∧ collected.sessionReferenceError entry.2.1 = some entry.2.2 := by
  have same {line : Nat × SessionRecord}
      : line ∈ sortedSessions collected.sessions ↔ line ∈ collected.sessions :=
    List.mem_insertionSort _
  simp only [invalidSessions, List.mem_filterMap, Option.map_eq_some_iff]
  constructor
  · rintro ⟨⟨line, session⟩, member, error, found, rfl⟩
    exact ⟨same.mp member, found⟩
  · rintro ⟨member, found⟩
    exact ⟨_, same.mpr member, _, found, rfl⟩

/-- The loop ends with sessions whose references all hold. Witness: by induction on the rounds, each of
which removes a session.
-/
theorem invalidSessions_rejectSessions {rounds : Nat} {collected : Collected}
    (enough : collected.sessions.length ≤ rounds)
    : (rejectSessions rounds collected).invalidSessions = [] := by
  induction rounds generalizing collected with
  | zero =>
      have none : collected.sessions = [] := List.eq_nil_of_length_eq_zero (by omega)
      rw [rejectSessions, List.eq_nil_iff_forall_not_mem]
      intro entry member
      simp [mem_invalidSessions, none] at member
  | succ rounds ih =>
      rw [rejectSessions]
      split
      next settled => exact List.isEmpty_iff.mp settled
      next unsettled =>
        obtain ⟨entry, member⟩ := List.exists_mem_of_ne_nil _ (mt List.isEmpty_iff.mpr unsettled)
        obtain ⟨inside, error⟩ := mem_invalidSessions.mp member
        have shorter : collected.rejectInvalidSessions.sessions.length < collected.sessions.length := by
          refine List.length_filter_lt_length_iff_exists.mpr ⟨_, inside, ?_⟩
          simp [error]
        exact ih (by omega)

/-- The parents and roots that sessions name. -/
def namedSessions (sessions : List (Nat × SessionRecord)) : List SessionKey :=
  sessions.flatMap fun (_, session) =>
    (session.parentSessionId.toList ++ session.rootSessionId.toList).map fun id =>
      (session.sourceId, id)

theorem dependencies_subset {sessions : List (Nat × SessionRecord)} {required : List SessionKey}
    {key : SessionKey} (member : key ∈ dependencies sessions required)
    : key ∈ namedSessions sessions := by
  obtain ⟨entry, inside, here⟩ := List.mem_flatMap.mp member
  exact List.mem_flatMap.mpr ⟨entry, List.mem_of_mem_filter inside, here⟩

theorem length_namedSessions (sessions : List (Nat × SessionRecord))
    : (namedSessions sessions).length ≤ 2 * sessions.length := by
  induction sessions with
  | nil => simp [namedSessions]
  | cons entry sessions ih =>
      have here : (entry.2.parentSessionId.toList ++ entry.2.rootSessionId.toList).length ≤ 2 := by
        cases entry.2.parentSessionId <;> cases entry.2.rootSessionId <;> simp
      simp only [namedSessions, List.flatMap_cons, List.length_append, List.length_map,
        List.length_cons] at ih here ⊢
      omega

/-- The loop ends with keys that hold all the sessions that theirs name. Witness: by induction on the
rounds, each of which adds one of the named sessions.
-/
theorem dependencies_requireSessions {sessions : List (Nat × SessionRecord)} {rounds : Nat}
    {required : List SessionKey}
    (enough : ((namedSessions sessions).filter (· ∉ required)).length ≤ rounds)
    : ∀ key ∈ dependencies sessions (requireSessions sessions rounds required),
        key ∈ requireSessions sessions rounds required := by
  induction rounds generalizing required with
  | zero =>
      intro key member
      by_contra absent
      have missing : key ∈ (namedSessions sessions).filter (· ∉ required) :=
        List.mem_filter.mpr ⟨dependencies_subset member, decide_eq_true absent⟩
      exact absurd (List.length_pos_of_mem missing) (by omega)
  | succ rounds ih =>
      rw [requireSessions]
      split
      next settled =>
        intro key member
        by_contra absent
        have more : key ∈ (dependencies sessions required).filter (· ∉ required) :=
          List.mem_filter.mpr ⟨member, decide_eq_true absent⟩
        rw [List.isEmpty_iff.mp settled] at more
        cases more
      next unsettled =>
        refine ih ?_
        obtain ⟨key, member⟩ := List.exists_mem_of_ne_nil _ (mt List.isEmpty_iff.mpr unsettled)
        obtain ⟨depends, absent⟩ := List.mem_filter.mp member
        have narrower
            : (namedSessions sessions).filter
                  (· ∉ required ++ (dependencies sessions required).filter (· ∉ required))
              = ((namedSessions sessions).filter (· ∉ required)).filter
                  (· ∉ (dependencies sessions required).filter (· ∉ required)) := by
          rw [List.filter_filter]
          refine List.filter_congr fun other _ => ?_
          simp only [List.mem_append, not_or, Bool.decide_and, Bool.and_comm]
        have shorter := List.length_filter_lt_length_iff_exists
          (p := fun other => decide (other ∉ (dependencies sessions required).filter (· ∉ required)))
          (l := (namedSessions sessions).filter (· ∉ required)) |>.mpr
          ⟨key, List.mem_filter.mpr ⟨dependencies_subset depends, absent⟩, by simpa using member⟩
        rw [narrower]
        omega

/-- The sessions that are retained have the sessions that they name as parents and roots. -/
theorem dependencies_retained (sessions : List (Nat × SessionRecord)) (required : List SessionKey)
    : ∀ key ∈ dependencies sessions (requireSessions sessions (2 * sessions.length) required),
        key ∈ requireSessions sessions (2 * sessions.length) required :=
  dependencies_requireSessions
    ((List.length_filter_le _ _).trans (length_namedSessions sessions))

end Collected

-----------------------------------------------------------------------------------------
-- Envelopes
-----------------------------------------------------------------------------------------

variable (externals : Externals) (context : AdapterContext)

/-- `custom_history_internal_session_id`. -/
def internalSessionId (providerKey sourceId sessionId : String) : String :=
  let key := (Json.object
    [("kind", .string "session"), ("provider_key", .string providerKey),
      ("schema", .string schemaVersion), ("session_id", .string sessionId),
      ("source_id", .string sourceId)]).text
  "ctx-history-jsonl-v1-" ++ (stableCaptureUuid key "custom-provider-session-id").text

/-- `custom_history_cursor_stream`. -/
def cursorStream (source : SourceRecord) : String :=
  let key := (Json.object
    [("kind", .string "cursor_stream"), ("provider_key", .string source.providerKey),
      ("schema", .string schemaVersion), ("source_format", .string source.sourceFormat),
      ("source_id", .string source.sourceId)]).text
  "provider:custom:" ++ source.providerKey ++ ":" ++ (stableCaptureUuid key "custom-cursor-stream").text

/-- `custom_history_normalized_cursor_checkpoint`. -/
def normalizedCheckpoint (source : SourceRecord) (checkpoint : ProviderCursorCheckpoint)
    : ProviderCursorCheckpoint :=
  { checkpoint with stream := cursorStream source }

/-- `custom_history_normalized_cursor_range`. -/
def normalizedCursorRange (source : SourceRecord) (cursor : ProviderCursorRange)
    : ProviderCursorRange where
  before := cursor.before.map (normalizedCheckpoint source)
  after := cursor.after.map (normalizedCheckpoint source)

/-- An insertion into a map, in the order of its keys. -/
def insertField (key : String) (value : Json) : List (String × Json) → List (String × Json)
  | [] => [(key, value)]
  | (other, held) :: fields =>
      if key < other then (key, value) :: (other, held) :: fields
      else if key = other then (key, value) :: fields
      else (other, held) :: insertField key value fields

/-- `custom_history_metadata`. -/
def customMetadata (base custom : Json) : Json :=
  let fields :=
    match base with
    | .object fields => fields
    | .null => []
    | other => [("metadata", other)]
  .object (insertField "ctx_history_jsonl_v1" custom fields)

/-- `custom_history_effective_raw_source_path`. -/
def effectiveRawSourcePath (source : SourceRecord) : Option String :=
  source.rawSourcePath.or context.sourcePath

/-- The machine of a source. -/
def machineIdOf (source : SourceRecord) : String := source.machineId.getD context.machineId

/-- The metadata of a source's captures. -/
def sourceMetadata (source : SourceRecord) : Json :=
  customMetadata source.metadata (.object
    [("cursor", cursorRangeJson externals source.cursor),
      ("fingerprint", optionalText source.fingerprint),
      ("importer_version", optionalText source.importerVersion),
      ("provider_key", .string source.providerKey),
      ("raw_source_path", optionalText source.rawSourcePath), ("raw_uri", optionalText source.rawUri),
      ("source_format", .string source.sourceFormat), ("source_id", .string source.sourceId)])

/-- The cursor that an event gives a source without one. -/
def eventCursor (source : SourceRecord) (event : ProviderEventEnvelope) : Option ProviderCursorRange :=
  event.cursor.map fun cursor =>
    { before := none
      after :=
        some { stream := cursorStream source, cursor := cursor, observedAt := event.occurredAt } }

/-- `custom_history_session_capture`. -/
def sessionCaptureOf (source : SourceRecord) (session : SessionRecord)
    (event : Option ProviderEventEnvelope)
    : ProviderCaptureEnvelope where
  schemaVersion := 2
  provider := .custom
  source :=
    { sourceFormat := source.sourceFormat
      machineId := machineIdOf context source
      observedAt := source.observedAt.getD context.importedAt
      rawSourcePath := effectiveRawSourcePath context source
      sourceRoot := source.rawSourcePath.or source.rawUri
      trust := if source.trust = .unknown then .providerExport else source.trust
      fidelity := source.fidelity
      cursor :=
        (source.cursor.map (normalizedCursorRange source)).or (event.bind (eventCursor source))
      idempotencyKey := some ("ctx-history-jsonl-v1:" ++ source.providerKey ++ ":" ++ source.sourceId)
      metadata := sourceMetadata externals source }
  session :=
    { providerSessionId := internalSessionId source.providerKey source.sourceId session.sessionId
      parentProviderSessionId :=
        session.parentSessionId.map (internalSessionId source.providerKey source.sourceId)
      rootProviderSessionId :=
        session.rootSessionId.map (internalSessionId source.providerKey source.sourceId)
      externalAgentId := session.externalAgentId
      agentType := session.agentType
      roleHint := session.roleHint
      isPrimary := session.isPrimary
      status := session.status
      startedAt := session.startedAt
      endedAt := session.endedAt
      cwd := session.cwd
      fidelity := session.fidelity
      idempotencyKey :=
        session.idempotencyKey.or
          (some ("ctx-history-jsonl-v1:" ++ source.providerKey ++ ":" ++ source.sourceId ++ ":"
            ++ session.sessionId))
      artifacts := session.artifacts
      metadata := customMetadata session.metadata (.object
        [("native_session_id", optionalText session.nativeSessionId),
          ("parent_session_id", optionalText session.parentSessionId),
          ("provider_key", .string source.providerKey),
          ("root_session_id", optionalText session.rootSessionId),
          ("session_id", .string session.sessionId), ("source_id", .string source.sourceId)]) }
  event := event

/-- `custom_history_event_envelope`. -/
def eventEnvelope (source : SourceRecord) (event : EventRecord) : ProviderEventEnvelope where
  providerEventIndex := event.eventIndex
  providerEventHash := event.eventHash
  cursor := event.nativeCursor
  eventType := event.eventType
  role := event.role
  occurredAt := event.occurredAt
  fidelity := event.fidelity
  idempotencyKey := event.idempotencyKey
  artifacts := event.artifacts
  payload := event.payload
  metadata := customMetadata event.metadata (.object
    [("event_id", optionalText event.eventId), ("native_cursor", optionalText event.nativeCursor),
      ("preview", optionalText event.preview), ("provider_key", .string source.providerKey),
      ("session_id", .string event.sessionId), ("source_id", .string event.sourceId)])

/-- `custom_history_file_touch_envelope`. -/
def fileTouchEnvelope (source : SourceRecord) (touch : FileTouchRecord)
    : ProviderFileTouchedEnvelope where
  provider := .custom
  providerSessionId := internalSessionId source.providerKey source.sourceId touch.sessionId
  providerTouchIndex := touch.touchIndex
  providerEventIndex := touch.eventIndex
  rawSourcePath := effectiveRawSourcePath context source
  sourceRoot := source.rawSourcePath.or source.rawUri
  path := touch.path
  changeKind := touch.changeKind
  oldPath := touch.oldPath
  lineCountDelta := touch.lineCountDelta
  confidence := touch.confidence
  occurredAt := touch.occurredAt
  sourceFormat := source.sourceFormat
  metadata := customMetadata touch.metadata (.object
    [("provider_key", .string source.providerKey), ("session_id", .string touch.sessionId),
      ("source_id", .string touch.sourceId)])

/-- `CustomHistoryJsonlV1EdgeImport`. -/
structure EdgeImport where
  providerKey : String
  sourceId : String
  sourceFormat : String
  rawSourcePath : Option String
  fromProviderSessionId : String
  toProviderSessionId : String
  edgeId : Option String
  edgeType : SessionEdgeType
  confidence : Confidence
  occurredAt : DateTime
  fidelity : Fidelity
  metadata : Json

/-- `custom_history_edge_import`. -/
def edgeImport (source : SourceRecord) (edge : EdgeRecord) : EdgeImport where
  providerKey := source.providerKey
  sourceId := source.sourceId
  sourceFormat := source.sourceFormat
  rawSourcePath := effectiveRawSourcePath context source
  fromProviderSessionId := internalSessionId source.providerKey source.sourceId edge.fromSessionId
  toProviderSessionId := internalSessionId source.providerKey source.sourceId edge.toSessionId
  edgeId := edge.edgeId
  edgeType := edge.edgeType
  confidence := edge.confidence
  occurredAt := edge.occurredAt.getD context.importedAt
  fidelity := edge.fidelity
  metadata := customMetadata edge.metadata (.object
    [("edge_id", optionalText edge.edgeId), ("from_session_id", .string edge.fromSessionId),
      ("provider_key", .string source.providerKey), ("source_id", .string edge.sourceId),
      ("to_session_id", .string edge.toSessionId)])

/-- The cursor of `import_custom_history_source_cursors` for a source's machine and checkpoint. -/
def sourceCursor (machineId : String) (checkpoint : ProviderCursorCheckpoint) : SyncCursor where
  id := stableCaptureUuid
    ("provider-cursor:" ++ CaptureProvider.custom.asStr ++ ":" ++ machineId ++ ":" ++ checkpoint.stream)
    "provider-sync-cursor"
  teamId := none
  deviceId := machineId
  stream := checkpoint.stream
  cursor := checkpoint.cursor
  lastSyncedAtMs := some (timestampMs checkpoint.observedAt)
  createdAtMs := timestampMs checkpoint.observedAt
  updatedAtMs := timestampMs checkpoint.observedAt

-----------------------------------------------------------------------------------------
-- Streams
-----------------------------------------------------------------------------------------

/-- `CustomHistoryJsonlV1NormalizationResult`, its source cursors as they are stored. -/
structure Normalization where
  provider : ProviderNormalizationResult
  edges : List (Nat × EdgeImport)
  sourceCursors : List SyncCursor

/-- `MAX_PROVIDER_JSONL_LINE_BYTES`. -/
def maxLineBytes : Nat := 16 * 1024 * 1024

/-- A line of the stream, with its line break, that is too long to be read. -/
def isOversized (line : List UInt8) : Bool := line.length > maxLineBytes

/-- `u8::is_ascii_whitespace`. -/
def isAsciiWhitespace (byte : UInt8) : Bool :=
  byte = 0x20 || byte = 0x09 || byte = 0x0a || byte = 0x0c || byte = 0x0d

/-- The loop that reads lines: oversized ones are counted, blank ones are passed over, and the others
are parsed.
-/
def readRecords (fromSlice : List UInt8 → Except String Record) (lines : List (List UInt8))
    : ProviderImportSummary × List (Nat × Record) :=
  (lines.mapIdx fun index line => (index + 1, line)).foldl
    (fun (summary, records) (lineNumber, line) =>
      if isOversized line then (summary.mergeFrom { skipped := 1, skippedEvents := 1 }, records)
      else if line.all isAsciiWhitespace then (summary, records)
      else
        match fromSlice line with
        | .ok record => (summary, records ++ [(lineNumber, record)])
        | .error error => (pushFailure lineNumber summary error, records))
    ({}, [])

/-- The records of a stream that are left after the validation by themselves. -/
def collect (fromSlice : List UInt8 → Except String Record) (lines : List (List UInt8)) : Collected :=
  let (summary, records) := readRecords fromSlice lines
  let collected :=
    records.foldl (fun collected (line, record) => collected.add line record) { summary := summary }
  if collected.manifestSeen then collected
  else
    { collected.reject 0 ["missing manifest record for ctx-history-jsonl-v1"] with
      manifestIsStructurallyInvalid := true }

/-- The source of a record. Behind the validation there is one. -/
def Collected.source (collected : Collected) (sourceId : String) : Option SourceRecord :=
  (collected.sources.find? (·.2.sourceId = sourceId)).map (·.2)

/-- The session of a record. Behind the validation there is one. -/
def Collected.session (collected : Collected) (key : SessionKey) : Option SessionRecord :=
  (collected.sessions.find? (·.2.key = key)).map (·.2)

/-- The captures of sessions, in the order of their keys, and of events. -/
def Collected.captures (collected : Collected) : List (Nat × ProviderCaptureEnvelope) :=
  ((Collected.sortedSessions collected.sessions).filterMap fun (line, session) =>
    (collected.source session.sourceId).map fun source =>
      (line, sessionCaptureOf externals context source session none))
  ++ collected.events.filterMap fun (line, event) => do
    let session ← collected.session event.sessionKey
    let source ← collected.source event.sourceId
    return (line, sessionCaptureOf externals context source session (some (eventEnvelope source event)))

/-- The cursors behind their sources, in the order of their ids. -/
def Collected.sourceCursors (collected : Collected) : List SyncCursor :=
  (collected.sources.insertionSort fun left right => left.2.sourceId ≤ right.2.sourceId).filterMap
    fun (_, source) =>
      (source.cursor.bind fun cursor => (normalizedCursorRange source cursor).after).map
        (sourceCursor (machineIdOf context source))

/-- `normalize_custom_history_jsonl_v1_reader`. -/
def normalize (fromSlice : List UInt8 → Except String Record) (lines : List (List UInt8))
    : Normalization :=
  let collected := collect fromSlice lines
  if collected.manifestIsStructurallyInvalid then ⟨⟨collected.summary, [], []⟩, [], []⟩
  else
    let collected := collected.rejectInvalidReferences.retainContentSessions
    { provider :=
        { summary := collected.summary
          captures := collected.captures externals context
          filesTouched :=
            collected.fileTouches.filterMap fun (line, touch) =>
              (collected.source touch.sourceId).map fun source =>
                (line, fileTouchEnvelope context source touch) }
      edges :=
        collected.edges.filterMap fun (line, edge) =>
          (collected.source edge.sourceId).map fun source => (line, edgeImport context source edge)
      sourceCursors := collected.sourceCursors context }

end CtxRemote.Capture.CustomHistory
