import CtxRemote.Library.Like
import CtxRemote.Library.Newest
import CtxRemote.Turso.DedupeKey
import CtxRemote.Turso.Project

/-! The two search entry points: `search` of `ctx turso search`, and `remote_snapshot_search`
of the remote-primary commands with its fallback `remote_projection_search`.

FTS5 is a parameter. It turns the text of a `MATCH` expression into a predicate on documents, or
rejects the expression as a syntax error.
-/

namespace CtxRemote.Turso
open CtxRemote.Library

-----------------------------------------------------------------------------------------
-- Query texts
-----------------------------------------------------------------------------------------

/-- `str::split_whitespace`. -/
def splitWhitespace (text : List Char) : List (List Char) :=
  (text.splitOnP isWhitespace).filter fun word => !word.isEmpty

/-- `str::replace` of one character. -/
def replaceChar (c : Char) (replacement : List Char) (text : List Char) : List Char :=
  text.flatMap fun d => if d = c then replacement else [d]

/-- `fts_match_query`. -/
def ftsMatchQuery (query : List Char) : List Char :=
  List.intercalate " AND ".toList
    ((splitWhitespace query).map fun term =>
      '"' :: (replaceChar '"' ['"', '"'] term ++ ['"']))

/-- `substring_pattern`. -/
def substringPattern (query : List Char) : List Char :=
  let escaped :=
    replaceChar '_' ['\\', '_']
      (replaceChar '%' ['\\', '%'] (replaceChar '\\' ['\\', '\\'] query))
  '%' :: (escaped ++ ['%'])

/-- FTS5 `MATCH`: `none` for an expression that does not parse. -/
abbrev Fts := List Char → Option (String → Bool)

-----------------------------------------------------------------------------------------
-- Layouts and results
-----------------------------------------------------------------------------------------

/-- The tables of a remote database, each layout where it exists. -/
structure RemoteTables where
  projection : Option Projection
  snapshot : Option Snapshot

/-- A search result. -/
structure SearchHit where
  eventId : String
  sessionId : Option String
  provider : String
  role : Option String
  eventType : String
  occurredAtMs : Int
  payloadJson : String
deriving DecidableEq, Repr

/-- The errors of a search. -/
inductive SearchError
  /-- Neither a projection nor a snapshot exists. -/
  | noLayout
  /-- FTS5 rejects the expression. -/
  | matchSyntax
deriving DecidableEq, Repr

/-- The columns selected from an event row. -/
def EventRow.hit (row : EventRow) : SearchHit where
  eventId := row.eventId
  sessionId := row.sessionId
  provider := row.provider
  role := row.role
  eventType := row.eventType
  occurredAtMs := row.occurredAtMs
  payloadJson := row.payloadJson

/-- The columns selected from a snapshot event joined with its session. -/
def Snapshot.hit (snapshot : Snapshot) (event : SnapshotEvent) : SearchHit where
  eventId := event.id
  sessionId := event.sessionId
  provider := (snapshot.provider event).getD "unknown"
  role := event.role
  eventType := event.eventType
  occurredAtMs := event.occurredAtMs
  payloadJson := event.payloadJson

/-- The newest hits. -/
def newestHits (limit : Nat) (hits : List SearchHit) : List SearchHit :=
  newest SearchHit.occurredAtMs limit hits

/-- `ctx_turso_search MATCH … JOIN ctx_turso_events USING(event_id)`. -/
def Projection.joinSearch (db : Projection) (matching : String → Bool) : List EventRow :=
  (db.search.filter fun row => matching row.searchText).flatMap fun row =>
    db.events.rows.filter fun event => event.eventId = row.eventId

/-- `event_search MATCH … JOIN events ON e.id = es.event_id`. -/
def Snapshot.joinSearch (snapshot : Snapshot) (matching : String → Bool)
    : List SnapshotEvent :=
  (snapshot.eventSearch.filter fun row => matching row.searchText).flatMap fun row =>
    snapshot.events.filter fun event => event.id = row.eventId

-----------------------------------------------------------------------------------------
-- ctx turso search
-----------------------------------------------------------------------------------------

/-- `TursoSearchArgs`. -/
structure SearchArgs where
  query : List Char
  provider : Option String
  limit : Nat

/-- `search`: the snapshot alone where there is one, else the projection. -/
def search (fts : Fts) (tables : RemoteTables) (args : SearchArgs)
    : Except SearchError (List SearchHit) :=
  match tables.snapshot, tables.projection with
  | some snapshot, _ =>
      .ok
        (newestHits args.limit
          ((snapshot.live.filter fun event =>
              (args.provider.all fun provider => snapshot.provider event = some provider)
                && like (some '\\') (substringPattern args.query)
                  event.payloadJson.toList).map snapshot.hit))
  | none, some projection =>
      match fts (ftsMatchQuery args.query) with
      | none => .error .matchSyntax
      | some matching =>
          .ok
            (newestHits args.limit
              (((projection.joinSearch matching).filter fun row =>
                args.provider.all fun provider => row.provider = provider).map EventRow.hit))
  | none, none => .error .noLayout

-----------------------------------------------------------------------------------------
-- Remote-primary search
-----------------------------------------------------------------------------------------

/-- `RemoteSearchRequest`. -/
structure RemoteSearchRequest where
  query : List Char
  terms : List (List Char)
  limit : Nat
  provider : Option String
  session : Option String
  eventType : Option String

/-- The `MATCH` operands of a request: its query and terms that are not blank. -/
def RemoteSearchRequest.matchTerms (request : RemoteSearchRequest) : List (List Char) :=
  (((request.query :: request.terms).map trim).filter fun term => !term.isEmpty).map
    ftsMatchQuery

/-- The `MATCH` expression of a request. -/
def RemoteSearchRequest.matchExpression (request : RemoteSearchRequest) : List Char :=
  List.intercalate " OR ".toList request.matchTerms

/-- `session_id LIKE '{session}%'`, without an escape character; NULL never matches. -/
def sessionMatches (session : String) (sessionId : Option String) : Bool :=
  sessionId.any fun id => like none (session.toList ++ ['%']) id.toList

/-- The filters of a request on a projection row. -/
def RemoteSearchRequest.accepts (request : RemoteSearchRequest) (row : EventRow) : Bool :=
  (request.provider.all fun provider => row.provider = provider)
    && (request.session.all fun session => sessionMatches session row.sessionId)
    && (request.eventType.all fun eventType => row.eventType = eventType)

/-- The filters of a request on a snapshot event, which must be live. -/
def RemoteSearchRequest.acceptsSnapshot (request : RemoteSearchRequest) (snapshot : Snapshot)
    (event : SnapshotEvent)
    : Bool :=
  event.deletedAtMs.isNone
    && (request.provider.all fun provider => snapshot.provider event = some provider)
    && (request.session.all fun session => sessionMatches session event.sessionId)
    && (request.eventType.all fun eventType => event.eventType = eventType)

/-- `remote_projection_search`. -/
def remoteProjectionSearch (fts : Fts) (projection : Option Projection)
    (request : RemoteSearchRequest)
    : Except SearchError (List SearchHit) :=
  match projection with
  | none => .error .noLayout
  | some projection =>
      if request.matchTerms.isEmpty then
        .ok
          (newestHits request.limit
            ((projection.events.rows.filter request.accepts).map EventRow.hit))
      else
        match fts request.matchExpression with
        | none => .error .matchSyntax
        | some matching =>
            .ok
              (newestHits request.limit
                (((projection.joinSearch matching).filter request.accepts).map EventRow.hit))

/-- The conditions of the projection lookup beside a snapshot: the event id is not in the
snapshot's `events`, and the event owns its key if it has one.
-/
def Projection.beside (projection : Projection) (snapshot : Snapshot) (row : EventRow)
    : Bool :=
  (snapshot.events.all fun event => event.id ≠ row.eventId)
    && (row.dedupeKey.all fun key => projection.keyOwner key = some row.eventId)

/-- `remote_snapshot_search`: with a snapshot, its matches and those of the projection lookup,
each cut to the limit, merged newest first and cut again.
-/
def remoteSnapshotSearch (fts : Fts) (tables : RemoteTables) (request : RemoteSearchRequest)
    : Except SearchError (List SearchHit) :=
  match tables.snapshot with
  | none => remoteProjectionSearch fts tables.projection request
  | some snapshot =>
      if request.matchTerms.isEmpty then
        .ok
          (newestHits request.limit
            ((snapshot.events.filter (request.acceptsSnapshot snapshot)).map snapshot.hit))
      else
        match fts request.matchExpression with
        | none => .error .matchSyntax
        | some matching =>
            let results :=
              newestHits request.limit
                (((snapshot.joinSearch matching).filter
                  (request.acceptsSnapshot snapshot)).map snapshot.hit)
            match tables.projection with
            | none => .ok results
            | some projection =>
                let projected :=
                  newestHits request.limit
                    (((projection.joinSearch matching).filter fun row =>
                      projection.beside snapshot row && request.accepts row).map
                      EventRow.hit)
                .ok (newestHits request.limit (results ++ projected))

end CtxRemote.Turso
