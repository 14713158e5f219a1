import CtxRemote.Capture.Envelopes

/-! Which stored rows an import takes its captures for: `provider_import_session_uuid` and
`provider_event_import_identity` prefer what the store holds under an earlier id to a new id.
-/

namespace CtxRemote.Capture
open CtxRemote.Store
  (Uuid CaptureProvider Json EventRow StoreError providerEventDedupeKey providerSourceEventDedupeKey)
open CtxRemote.Turso (trim)

variable (store : ImportStore)

-----------------------------------------------------------------------------------------
-- Sessions
-----------------------------------------------------------------------------------------

/-- `source_format`, with the metadata behind it. -/
def CaptureSource.format (source : CaptureSource) : Option String :=
  source.sourceFormat.or ((source.sync.metadata.get "source_format").bind Json.asStr)

/-- The identity that `legacy_session_matches_source` gives to a stored source. -/
def CaptureSource.derivedIdentity (source : CaptureSource) : Option String :=
  source.format.bind fun format =>
    providerSourceIdentity source.provider format source.sourceRoot source.rawSourcePath
      ((source.sync.metadata.get "source_idempotency_key").bind Json.asStr)
      ((source.sync.metadata.get "source_metadata").getD source.sync.metadata)

/-- `legacy_session_matches_source`. -/
def legacySessionMatchesSource (session : Session) (sourceId : Uuid) (sourceIdentity : String)
    : Bool :=
  match session.captureSourceId with
  | none => false
  | some existingSourceId =>
      if existingSourceId = sourceId then true
      else
        match store.captureSources.find? existingSourceId, store.captureSources.find? sourceId with
        | some existing, some incoming =>
            if existing.provider ≠ incoming.provider then false
            else if existing.format.isSome ∧ incoming.format.isSome
              ∧ existing.format ≠ incoming.format then false
            else
              existing.sourceIdentity = some sourceIdentity
              || existing.derivedIdentity = some sourceIdentity
              || (existing.rawSourcePath.isSome && existing.rawSourcePath = incoming.rawSourcePath)
        | _, _ => false

/-- `provider_import_session_uuid`. -/
def providerImportSessionUuid (provider : CaptureProvider) (providerSessionId : String)
    (sourceId : Uuid) (sourceIdentity : Option String)
    : Uuid :=
  let legacySessionId := providerSessionUuid provider providerSessionId
  match sourceIdentity with
  | none => legacySessionId
  | some sourceIdentity =>
      if provider = .custom then legacySessionId
      else
        match store.sessionByCaptureSourceAndExternalSession sourceId provider providerSessionId with
        | some existing => existing.id
        | none =>
            let sourceSessionId := providerSourceSessionUuid sourceIdentity providerSessionId
            if (store.getSession sourceSessionId).isSome then sourceSessionId
            else
              match store.getSession legacySessionId with
              | some existing =>
                  if legacySessionMatchesSource store existing sourceId sourceIdentity
                  then legacySessionId
                  else sourceSessionId
              | none => sourceSessionId

-----------------------------------------------------------------------------------------
-- Events
-----------------------------------------------------------------------------------------

/-- `ProviderEventImportIdentity`. -/
structure ProviderEventImportIdentity where
  id : Uuid
  seq : UInt64
  dedupeKey : String
  runSourceId : Option Uuid
deriving DecidableEq

/-- `provider_event_exists`. -/
def providerEventExists (dedupeKey : String) : Bool :=
  (store.database.eventIdByDedupeKey dedupeKey).isSome

/-- The identity of a stored event that has a dedupe key. -/
def storedEventIdentity (event : EventRow) : Option ProviderEventImportIdentity :=
  event.dedupeKey.map fun dedupeKey =>
    { id := event.id
      seq := UInt64.ofNat event.seq.toNat
      dedupeKey := dedupeKey
      runSourceId := event.captureSourceId }

/-- `provider_event_identity_by_id`. -/
def providerEventIdentityById (id : Uuid) : Option ProviderEventImportIdentity :=
  (store.getEvent id).bind storedEventIdentity

/-- `provider_event_identity_by_alias`. -/
def providerEventIdentityByAlias (aliasId : Uuid) : Option ProviderEventImportIdentity :=
  (store.eventAliasTargetId aliasId).bind (providerEventIdentityById store)

/-- `provider_event_id_exists`. -/
def providerEventIdExists (id : Uuid) : Bool := (store.getEvent id).isSome

/-- What an import looks for under an identity: its key, an alias of its id, and its id. -/
def storedUnder (identity : ProviderEventImportIdentity) : Option ProviderEventImportIdentity :=
  if providerEventExists store identity.dedupeKey then some identity
  else
    match providerEventIdentityByAlias store identity.id with
    | some existing => some existing
    | none => if providerEventIdExists store identity.id then some identity else none

/-- `provider_source_event_import_identity_with_seq`. -/
def providerSourceEventImportIdentityWithSeq (sourceId : Uuid)
    (providerEventIndex providerEventSequenceIndex : UInt64) (eventHash : String)
    : ProviderEventImportIdentity where
  id := providerSourceEventUuid sourceId providerEventIndex
  seq := providerSourceEventSeq sourceId providerEventSequenceIndex
  dedupeKey := providerSourceEventDedupeKey sourceId providerEventIndex eventHash
  runSourceId := some sourceId

/-- `provider_source_event_import_identity`. -/
def providerSourceEventImportIdentity (sourceId : Uuid) (providerEventIndex : UInt64)
    (eventHash : String)
    : ProviderEventImportIdentity :=
  providerSourceEventImportIdentityWithSeq sourceId providerEventIndex providerEventIndex eventHash

/-- `provider_legacy_event_import_identity`. -/
def providerLegacyEventImportIdentity (provider : CaptureProvider) (providerSessionId : String)
    (providerEventIndex : UInt64) (eventHash : String)
    : ProviderEventImportIdentity where
  id := providerEventUuid provider providerSessionId providerEventIndex
  seq := providerEventSeq provider providerSessionId providerEventIndex
  dedupeKey := providerEventDedupeKey provider providerSessionId providerEventIndex eventHash
  runSourceId := none

/-- `provider_event_seq_available`. -/
def providerEventSeqAvailable (seq : UInt64) (eventId : Uuid) : Bool :=
  (store.eventIdBySeq seq).all (· = eventId)

/-- The sequence numbers that are tried for an event, in order. -/
def sequenceCandidates (providerEventIndex providerEventSequenceIndex : UInt64) : List UInt64 :=
  [providerEventSequenceIndex ^^^ 0x00080000, providerEventIndex, providerEventIndex ^^^ 0x00080000]
    ++ (List.range' 1 1023).map fun salt =>
      (providerEventSequenceIndex + UInt64.ofNat salt) &&& 0x000fffff

/-- `avoid_provider_source_event_seq_collision`. -/
def avoidProviderSourceEventSeqCollision (identity : ProviderEventImportIdentity) (sourceId : Uuid)
    (providerEventIndex providerEventSequenceIndex : UInt64)
    : ProviderEventImportIdentity :=
  if providerEventSeqAvailable store identity.seq identity.id then identity
  else
    match (sequenceCandidates providerEventIndex providerEventSequenceIndex).find? fun candidate =>
        providerEventSeqAvailable store (providerSourceEventSeq sourceId candidate) identity.id with
    | some candidate => { identity with seq := providerSourceEventSeq sourceId candidate }
    | none => identity

/-- `provider_event_import_identity`. -/
def providerEventImportIdentity (provider : CaptureProvider) (providerSessionId : String)
    (sourceId : Uuid) (providerEventIndex providerEventSequenceIndex : UInt64) (eventHash : String)
    (legacyProviderEventIndex : Option UInt64) (allowLegacyProviderIdentity : Bool)
    : ProviderEventImportIdentity :=
  let sourceIdentity :=
    avoidProviderSourceEventSeqCollision store
      (providerSourceEventImportIdentityWithSeq sourceId providerEventIndex
        providerEventSequenceIndex eventHash)
      sourceId providerEventIndex providerEventSequenceIndex
  let legacy :=
    if allowLegacyProviderIdentity then
      (legacyProviderEventIndex.toList.flatMap fun legacyIndex =>
        [providerSourceEventImportIdentity sourceId legacyIndex eventHash,
          providerLegacyEventImportIdentity provider providerSessionId legacyIndex eventHash])
        ++ [providerLegacyEventImportIdentity provider providerSessionId providerEventIndex
          eventHash]
    else []
  ((sourceIdentity :: legacy).findSome? (storedUnder store)).getD sourceIdentity

/-- `pi_stored_event_entry_id`, of the payload and the metadata of an event. -/
def piStoredEventEntryId (payload metadata : Json) : Option String :=
  let pointer (value : Json) (path : List String) : Option String :=
    (path.foldl (fun found key => found.bind (·.get key)) (some value)).bind Json.asStr
  ((pointer payload ["body", "entry_id"]).or (pointer payload ["body", "body", "id"])).or
    (pointer metadata ["metadata", "entry_id"])

/-- The first stored identity of each entry of a Pi session. -/
def piEventIdentities (externals : Externals) (sessionId : Uuid)
    : Except StoreError (List (String × ProviderEventImportIdentity)) :=
  (store.eventsForSession sessionId).foldlM (fun identities event => do
    let some payload := externals.fromStr event.payloadJson | throw .json
    let some metadata := externals.fromStr event.metadataJson | throw .json
    match piStoredEventEntryId payload metadata, storedEventIdentity event with
    | some entryId, some identity =>
        if (identities.lookup entryId).isSome then return identities
        else return identities ++ [(entryId, identity)]
    | _, _ => return identities) []

/-- `provider_file_touch_event_id`. -/
def providerFileTouchEventId (provider : CaptureProvider) (providerSessionId : String)
    (sourceId : Uuid) (providerEventIndex : UInt64) (allowLegacyProviderIdentity : Bool)
    : Option Uuid :=
  let bySource := store.getEvent (providerSourceEventUuid sourceId providerEventIndex)
  let byLegacy :=
    if allowLegacyProviderIdentity
    then store.getEvent (providerEventUuid provider providerSessionId providerEventIndex)
    else none
  (bySource.or byLegacy).map (·.id)

/-- `provider_file_touch_import_id`. -/
def providerFileTouchImportId (provider : CaptureProvider) (providerSessionId : String)
    (sourceId : Uuid) (providerTouchIndex : UInt64) (allowLegacyProviderIdentity : Bool)
    : Uuid :=
  let sourceTouchId := providerSourceFileTouchUuid sourceId providerTouchIndex
  let legacyTouchId := providerFileTouchUuid provider providerSessionId providerTouchIndex
  if store.filesTouched.holds sourceTouchId then sourceTouchId
  else if allowLegacyProviderIdentity && store.filesTouched.holds legacyTouchId then legacyTouchId
  else sourceTouchId

end CtxRemote.Capture
