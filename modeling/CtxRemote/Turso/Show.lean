import Mathlib.Data.List.Dedup
import Mathlib.Data.Prod.Lex
import CtxRemote.Library.Keyset
import CtxRemote.Library.Lookup
import CtxRemote.Turso.Search

/-! The two show commands of the remote-primary mode, `remote_snapshot_session` and
`remote_snapshot_event`, with their fallbacks on the projection.

`uuid::Uuid::parse_str` is a parameter: the texts that it accepts.
-/

namespace CtxRemote.Turso
open CtxRemote.Library

-----------------------------------------------------------------------------------------
-- Tables
-----------------------------------------------------------------------------------------

/-- A row of the snapshot's `sessions` table, with the columns that `remote_snapshot_session` reads. -/
structure SessionRow extends SnapshotSession where
  externalSessionId : Option String
  startedAtMs : Int
  endedAtMs : Option Int
  deletedAtMs : Option Int
deriving DecidableEq, Repr

/-- A row of the snapshot's `events` table, with its sequence number. -/
structure SequencedEvent extends SnapshotEvent where
  seq : Int
deriving DecidableEq, Repr

/-- The tables of an imported snapshot. Its events are listed in the order of their primary key. -/
structure SnapshotTables where
  sessions : List SessionRow
  events : List SequencedEvent
  eventSearch : List SearchRow
  sessionIds : (sessions.map (·.id)).Nodup
  ordered : Ascending SnapshotEvent.id (events.map (·.toSnapshotEvent))

/-- The columns that a search reads. -/
def SnapshotTables.searched (tables : SnapshotTables) : Snapshot where
  sessions := tables.sessions.map (·.toSnapshotSession)
  events := tables.events.map (·.toSnapshotEvent)
  eventSearch := tables.eventSearch
  ordered := tables.ordered

/-- The tables of a remote database that the show commands read. -/
structure ShowTables where
  projection : Option Projection
  snapshot : Option SnapshotTables

/-- The tables as a search reads them. -/
def ShowTables.searched (tables : ShowTables) : RemoteTables where
  projection := tables.projection
  snapshot := tables.snapshot.map (·.searched)

-----------------------------------------------------------------------------------------
-- Results
-----------------------------------------------------------------------------------------

/-- What an id is looked up for. -/
inductive ShowKind
  | session
  | event
deriving DecidableEq, Repr

/-- The errors of the show commands. -/
inductive ShowError
  | notFound (kind : ShowKind) (id : String)
  | ambiguous (kind : ShowKind) (id : String)
deriving DecidableEq, Repr

/-- What `remote_snapshot_session` prints. A session of the projection has no `external_session_id`
field, which one of the snapshot may have as null.
-/
structure SessionView where
  id : String
  provider : String
  externalSessionId : Option (Option String)
  startedAtMs : Int
  endedAtMs : Option Int
  events : List SearchHit
deriving DecidableEq, Repr

-----------------------------------------------------------------------------------------
-- Lookups
-----------------------------------------------------------------------------------------

section Show

variable (isUuid : String → Bool) (tables : ShowTables)

/-- `remote_id_match`: a full id must be equal, anything else is the start of a `LIKE` pattern. -/
def remoteIdMatch (id column : String) : Bool :=
  if isUuid id then column = id else like none (id.toList ++ ['%']) column.toList

/-- The sessions of the snapshot that are not deleted. -/
def SnapshotTables.liveSessions (snapshot : SnapshotTables) : List SessionRow :=
  snapshot.sessions.filter fun session => session.deletedAtMs.isNone

/-- The events of the snapshot that are not deleted. -/
def SnapshotTables.liveEvents (snapshot : SnapshotTables) : List SequencedEvent :=
  snapshot.events.filter fun event => event.deletedAtMs.isNone

/-- The session ids of the projection: `GROUP BY session_id`, for rows with one. -/
def Projection.sessionIds (projection : Projection) : List String :=
  (projection.events.rows.filterMap (·.sessionId)).dedup

/-- The rows of a session in the projection, `ORDER BY occurred_at_ms, event_id`. -/
def Projection.sessionRows (projection : Projection) (session : String) : List EventRow :=
  orderBy (fun row => toLex (row.occurredAtMs, row.eventId))
    (projection.events.rows.filter fun row => row.sessionId = some session)

/-- The live events of a session in the snapshot, `ORDER BY e.occurred_at_ms, e.seq`. -/
def SnapshotTables.sessionEvents (snapshot : SnapshotTables) (session : String)
    : List SequencedEvent :=
  orderBy (fun event => toLex (event.occurredAtMs, event.seq))
    (snapshot.liveEvents.filter fun event => event.sessionId = some session)

/-- The view of a session of the projection: its provider, times and events. -/
def Projection.sessionView (projection : Projection) (session : String) : SessionView :=
  let rows := projection.sessionRows session
  { id := session
    provider := ((rows.map (·.provider)).min?).getD ""
    externalSessionId := none
    startedAtMs := ((rows.map (·.occurredAtMs)).min?).getD 0
    endedAtMs := (rows.map (·.occurredAtMs)).max?
    events := rows.map EventRow.hit }

/-- The view of a session of the snapshot. -/
def SnapshotTables.sessionView (snapshot : SnapshotTables) (session : SessionRow) : SessionView where
  id := session.id
  provider := session.provider
  externalSessionId := some session.externalSessionId
  startedAtMs := session.startedAtMs
  endedAtMs := session.endedAtMs
  events :=
    (snapshot.sessionEvents session.id).map fun event =>
      snapshot.searched.hit event.toSnapshotEvent

/-- `remote_projection_session`. -/
def remoteProjectionSession (id : String) : Except ShowError SessionView :=
  match tables.projection with
  | none => .error (.notFound .session id)
  | some projection =>
      match lookup (remoteIdMatch isUuid id) projection.sessionIds with
      | .missing => .error (.notFound .session id)
      | .several => .error (.ambiguous .session id)
      | .only session => .ok (projection.sessionView session)

/-- `remote_projection_event`. -/
def remoteProjectionEvent (id : String) : Except ShowError SearchHit :=
  match tables.projection with
  | none => .error (.notFound .event id)
  | some projection =>
      match lookup (fun row => remoteIdMatch isUuid id row.eventId) projection.events.rows with
      | .missing => .error (.notFound .event id)
      | .several => .error (.ambiguous .event id)
      | .only row => .ok row.hit

/-- `remote_snapshot_session`: the projection is read only where the snapshot has no session for the
id.
-/
def remoteSnapshotSession (id : String) : Except ShowError SessionView :=
  match tables.snapshot with
  | none => remoteProjectionSession isUuid tables id
  | some snapshot =>
      match lookup (fun session => remoteIdMatch isUuid id session.id) snapshot.liveSessions with
      | .missing => remoteProjectionSession isUuid tables id
      | .several => .error (.ambiguous .session id)
      | .only session => .ok (snapshot.sessionView session)

/-- `remote_snapshot_event`: the projection is read only where the snapshot has no event for the id. -/
def remoteSnapshotEvent (id : String) : Except ShowError SearchHit :=
  match tables.snapshot with
  | none => remoteProjectionEvent isUuid tables id
  | some snapshot =>
      match lookup (fun event => remoteIdMatch isUuid id event.id) snapshot.liveEvents with
      | .missing => remoteProjectionEvent isUuid tables id
      | .several => .error (.ambiguous .event id)
      | .only event => .ok (snapshot.searched.hit event.toSnapshotEvent)

end Show

end CtxRemote.Turso
