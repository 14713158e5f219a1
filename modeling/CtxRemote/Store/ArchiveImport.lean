import CtxRemote.Store.Events

/-! Archive import as it concerns events: the checks of an archive's events among themselves and
against the store, and their upsert in the import's transaction.
-/

namespace CtxRemote.Store
open CtxRemote.Library

-----------------------------------------------------------------------------------------
-- Archives
-----------------------------------------------------------------------------------------

/-- `SessionHistoryArchive`: its versions, its events and its other entities. -/
structure SessionHistoryArchive (Entities : Type) where
  schemaVersion : Nat
  version : Nat
  events : List Event
  entities : Entities

/-- What an import does with the other entities of an archive: the conflict checks made before and
after those on events, and the upserts before and after those of events, as far as they concern the
tables that events refer to.
-/
structure EntityImport (Entities : Type) where
  rejectRecords : Database → Entities → Except StoreError Unit
  rejectBefore : Database → Entities → Except StoreError Unit
  rejectAfter : Database → Entities → Except StoreError Unit
  upsertRecords : References → Entities → Except StoreError References
  upsertBefore : References → Entities → Except StoreError References
  upsertAfter : References → Entities → Except StoreError References

variable {Entities : Type}

/-- `validate_archive_version`. -/
def validateArchiveVersion (archive : SessionHistoryArchive Entities) : Except StoreError Unit :=
  if (archive.schemaVersion = 1 ∧ archive.version = 1)
      ∨ (archive.schemaVersion = 2 ∧ archive.version = 2) then .ok ()
  else .error (.unsupportedArchiveVersion (max archive.schemaVersion archive.version))

/-- The test of an early return: an archive of version 1 has records only. -/
def SessionHistoryArchive.recordsOnly (archive : SessionHistoryArchive Entities) : Bool :=
  archive.schemaVersion < 2 && archive.version < 2

-----------------------------------------------------------------------------------------
-- Checks of events
-----------------------------------------------------------------------------------------

/-- The maps that `reject_archive_event_internal_conflicts` fills, newest entry first. -/
structure SeenEvents where
  seq : List (UInt64 × Event)
  providerEvents : List ((String × String × Option String × UInt64) × String)

/-- The loop body of `reject_archive_event_internal_conflicts`. -/
def SeenEvents.add (seen : SeenEvents) (event : Event) : Except StoreError SeenEvents :=
  if (seen.seq.lookup event.seq).any (· != event) then .error (.importConflict "event" event.id)
  else
    let seen := { seen with seq := (event.seq, event) :: seen.seq }
    match event.dedupeKey.bind parseProviderEventDedupeKey with
    | none => .ok seen
    | some parsed =>
        let key :=
          (parsed.provider, parsed.externalSessionId, parsed.sourceId, parsed.providerIndex)
        match seen.providerEvents.lookup key with
        | none => .ok { seen with providerEvents := (key, parsed.payloadHash) :: seen.providerEvents }
        | some existingHash =>
            if existingHash ≠ parsed.payloadHash then
              .error
                (.providerEventConflict
                  { provider := parsed.provider
                    externalSessionId := parsed.externalSessionId
                    providerIndex := parsed.providerIndex
                    existingHash := existingHash
                    newHash := parsed.payloadHash })
            else .ok seen

/-- `reject_archive_event_internal_conflicts`. -/
def rejectArchiveEventInternalConflicts (events : List Event) : Except StoreError Unit := do
  let _ ← events.foldlM SeenEvents.add ⟨[], []⟩

/-- `reject_import_invariant_conflicts`. -/
def rejectImportInvariantConflicts (db : Database) (archive : SessionHistoryArchive Entities)
    : Except StoreError Unit :=
  if archive.recordsOnly then .ok ()
  else archive.events.forM fun event => rejectConflictingKey db event.dedupeKey

/-- `value as u64`, refused for a negative value. -/
def nonnegativeI64ToU64 (value : Int) : Except StoreError UInt64 :=
  if value < 0 then .error .sql else .ok (UInt64.ofNat value.toNat)

/-- `event_from_row`. -/
def eventFromRow (externals : Externals) (row : EventRow) : Except StoreError Event := do
  let seq ← nonnegativeI64ToU64 row.seq
  let some payload := externals.fromStr row.payloadJson | .error .json
  let syncVersion ← nonnegativeI64ToU64 row.syncVersion
  let some metadata := externals.fromStr row.metadataJson | .error .json
  return {
    id := row.id
    seq := seq
    historyRecordId := row.historyRecordId
    sessionId := row.sessionId
    runId := row.runId
    eventType := row.eventType
    role := row.role
    occurredAt := ⟨row.occurredAtMs * 1000000⟩
    captureSourceId := row.captureSourceId
    payload := payload
    payloadBlobId := row.payloadBlobId
    dedupeKey := row.dedupeKey
    sync :=
      { visibility := row.visibility
        fidelity := row.fidelity
        syncState := row.syncState
        syncVersion := syncVersion
        deletedAt := row.deletedAtMs.map fun ms => ⟨ms * 1000000⟩
        metadata := metadata } }

/-- `reject_entity_conflict` for the event that a query on `events` finds. -/
def rejectEventConflict (externals : Externals) (existing : Option EventRow) (incoming : Event)
    : Except StoreError Unit :=
  match existing with
  | none => .ok ()
  | some row => do
      let existing ← eventFromRow externals row
      if existing != incoming then .error (.importConflict "event" incoming.id)

/-- The checks of one event in `reject_rich_import_conflicts`. -/
def rejectStoredEventConflicts (externals : Externals) (db : Database) (event : Event)
    : Except StoreError Unit := do
  rejectEventConflict externals (db.eventById event.id) event
  rejectEventConflict externals (db.events.rows.find? fun row => row.seq = asI64 event.seq) event
  match event.dedupeKey with
  | none => return ()
  | some dedupeKey =>
      rejectConflictingKey db (some dedupeKey)
      rejectEventConflict externals
        (db.events.rows.find? fun row => row.dedupeKey = some dedupeKey) event

/-- `reject_import_conflicts`. -/
def rejectImportConflicts (externals : Externals) (imports : EntityImport Entities) (db : Database)
    (archive : SessionHistoryArchive Entities)
    : Except StoreError Unit := do
  imports.rejectRecords db archive.entities
  if archive.recordsOnly then return ()
  imports.rejectBefore db archive.entities
  archive.events.forM (rejectStoredEventConflicts externals db)
  imports.rejectAfter db archive.entities

-----------------------------------------------------------------------------------------
-- The import
-----------------------------------------------------------------------------------------

/-- `upsert_event_tx`: the event goes to the row that has its dedupe key, else to the row with its
id. -/
def upsertEventTx (db : Database) (event : Event) : Except StoreError Database := do
  let eventId := (event.dedupeKey.bind db.eventIdByDedupeKey).getD event.id
  let events ← upsertEventRow db { event.row with id := eventId }
  return { db with events := events }

/-- The writes of `import_archive`'s transaction: the records and
`import_rich_archive_entities_tx`.
-/
def importEntitiesTx (imports : EntityImport Entities) (db : Database)
    (archive : SessionHistoryArchive Entities)
    : Except StoreError Database := do
  let records ← imports.upsertRecords db.references archive.entities
  let db := { db with references := records }
  if archive.recordsOnly then return db
  let references ← imports.upsertBefore db.references archive.entities
  let db ← archive.events.foldlM upsertEventTx { db with references := references }
  let references ← imports.upsertAfter db.references archive.entities
  return { db with references := references }

/-- What a rebuild that stops at an unreadable event has inserted until then. -/
def interruptedSearchProjection (externals : Externals) (db : Database) : List SearchRow :=
  ((db.events.rows.insertionSort EventRow.before).takeWhile fun row =>
    (rebuiltSearchRows externals db.references row).isSome).flatMap fun row =>
      (rebuiltSearchRows externals db.references row).getD []

/-- The rebuild that follows the commit of an import. -/
def rebuildAfterImport (externals : Externals) (db : Database) : Except StoreError Unit × Database :=
  match rebuildSearchProjection externals db with
  | none => (.error .json, { db with projection := interruptedSearchProjection externals db })
  | some projection =>
      (.ok (), refreshSemanticSearchableItemStats { db with projection := projection })

/-- The checks and the writes of `import_archive` up to its commit. -/
def importTransaction (externals : Externals) (imports : EntityImport Entities) (db : Database)
    (archive : SessionHistoryArchive Entities) (overwrite : Bool)
    : Except StoreError Database := do
  validateArchiveVersion archive
  rejectArchiveEventInternalConflicts archive.events
  rejectImportInvariantConflicts db archive
  if !overwrite then rejectImportConflicts externals imports db archive
  importEntitiesTx imports db archive

/-- `Store::import_archive`: the outcome, and the database. An error before the commit leaves the
database as it was.
-/
def importArchive (externals : Externals) (imports : EntityImport Entities) (db : Database)
    (archive : SessionHistoryArchive Entities) (overwrite : Bool)
    : Except StoreError Unit × Database :=
  match importTransaction externals imports db archive overwrite with
  | .error error => (.error error, db)
  | .ok committed => rebuildAfterImport externals committed

end CtxRemote.Store
