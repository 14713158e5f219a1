import CtxRemote.Turso.SearchAgreement
import CtxRemote.Turso.Show

/-! What the show commands have in common with the remote search: both read the two layouts, the
search together and the show commands one after the other.
-/

namespace CtxRemote.Turso
open CtxRemote.Library

-----------------------------------------------------------------------------------------
-- The two layouts as one
-----------------------------------------------------------------------------------------

namespace ShowTables

variable (tables : ShowTables)

/-- The sessions that the snapshot holds, if there is one, and has not deleted. -/
def liveSessions : List SessionRow :=
  match tables.snapshot with
  | none => []
  | some snapshot => snapshot.liveSessions

/-- The events that the snapshot holds, if there is one, and has not deleted. -/
def liveHits : List SearchHit :=
  match tables.snapshot with
  | none => []
  | some snapshot =>
      snapshot.liveEvents.map fun event => snapshot.searched.hit event.toSnapshotEvent

/-- The rows of the projection, if there is one. -/
def rows : List EventRow :=
  match tables.projection with
  | none => []
  | some projection => projection.events.rows

/-- The rows of the projection that a search selects from: all of them, or those beside the snapshot. -/
def besideRows : List EventRow :=
  match tables.projection with
  | none => []
  | some projection =>
      projection.events.rows.filter fun row =>
        tables.searched.snapshot.all fun snapshot => projection.beside snapshot row

/-- An event that the database holds for a search, in either layout. -/
def Held (hit : SearchHit) : Prop :=
  hit ∈ tables.liveHits ∨ ∃ row ∈ tables.besideRows, row.hit = hit

/-- A prefix of two different sessions, one in each layout. -/
def MatchesBoth (isUuid : String → Bool) (id : String) : Prop :=
  ∃ session ∈ tables.liveSessions, remoteIdMatch isUuid id session.id = true
    ∧ ∃ row ∈ tables.rows, ∃ other, row.sessionId = some other
      ∧ remoteIdMatch isUuid id other = true ∧ other ≠ session.id

variable {tables}

theorem besideRows_subset : tables.besideRows ⊆ tables.rows := by
  unfold besideRows rows
  cases tables.projection with
  | none => exact List.Subset.refl _
  | some projection => exact List.filter_subset_self _

/-- The rows of a projection have different event ids. -/
theorem nodup_rows : (tables.rows.map (·.eventId)).Nodup := by
  unfold rows
  cases tables.projection with
  | none => exact List.nodup_nil
  | some projection => exact projection.nodup_eventIds

theorem row_eq_of_eventId {left right : EventRow} (inLeft : left ∈ tables.rows)
    (inRight : right ∈ tables.rows) (same : left.eventId = right.eventId)
    : left = right :=
  List.inj_on_of_nodup_map nodup_rows inLeft inRight same

/-- The live events of a snapshot have different ids. -/
theorem nodup_liveHits : (tables.liveHits.map (·.eventId)).Nodup := by
  unfold liveHits
  cases tables.snapshot with
  | none => exact List.nodup_nil
  | some snapshot =>
      have ordered := (List.pairwise_map.mp snapshot.ordered).filter fun event =>
        event.deletedAtMs.isNone
      rw [List.map_map]
      exact List.pairwise_map.mpr (ordered.imp fun before => ne_of_lt before)

theorem nodup_liveSessions : (tables.liveSessions.map (·.id)).Nodup := by
  unfold liveSessions
  cases tables.snapshot with
  | none => exact List.nodup_nil
  | some snapshot => exact snapshot.sessionIds.sublist (List.filter_sublist.map _)

/-- A row beside the snapshot is of no event of the snapshot. -/
theorem eventId_ne_of_beside {row : EventRow} {hit : SearchHit} (beside : row ∈ tables.besideRows)
    (live : hit ∈ tables.liveHits)
    : hit.eventId ≠ row.eventId := by
  unfold besideRows searched at beside
  unfold liveHits at live
  cases projected : tables.projection with
  | none => simp [projected] at beside
  | some projection =>
      cases present : tables.snapshot with
      | none => simp [present] at live
      | some snapshot =>
          rw [projected, present] at beside
          rw [present] at live
          obtain ⟨event, member, rfl⟩ := List.mem_map.mp live
          have apart := (List.mem_filter.mp beside).2
          simp only [Option.map_some, Option.all_some, Projection.beside, Bool.and_eq_true,
            List.all_eq_true, decide_eq_true_eq] at apart
          exact apart.1 _ (List.mem_map_of_mem (List.mem_of_mem_filter member))

theorem hit_mem_liveHits {snapshot : SnapshotTables} (present : tables.snapshot = some snapshot)
    {event : SnapshotEvent} (stored : event ∈ snapshot.searched.events)
    (live : event.deletedAtMs.isNone = true)
    : snapshot.searched.hit event ∈ tables.liveHits := by
  obtain ⟨row, member, rfl⟩ := List.mem_map.mp stored
  unfold liveHits
  rw [present]
  exact List.mem_map_of_mem (List.mem_filter.mpr ⟨member, live⟩)

theorem mem_besideRows {projection : Projection} (projected : tables.projection = some projection)
    {row : EventRow}
    : row ∈ tables.besideRows
      ↔ row ∈ projection.events
        ∧ ∀ snapshot, tables.searched.snapshot = some snapshot
          → projection.beside snapshot row = true := by
  unfold besideRows
  rw [projected]
  simp only [List.mem_filter, Option.all_eq_true]
  rfl

/-- What a search answers, the database holds. Witness: by the query that the request takes. -/
theorem held_of_search {fts : Fts} {request : RemoteSearchRequest} {hits : List SearchHit}
    {hit : SearchHit} (answers : remoteSnapshotSearch fts tables.searched request = .ok hits)
    (answered : hit ∈ hits)
    : tables.Held hit := by
  have ofProjection {projection : Projection} (projected : tables.projection = some projection)
      (alone : tables.searched.snapshot = none) {row : EventRow} (stored : row ∈ projection.events)
      : tables.Held row.hit :=
    .inr ⟨row, (mem_besideRows projected).mpr ⟨stored, by simp [alone]⟩, rfl⟩
  cases present : tables.snapshot with
  | none =>
      have alone : tables.searched.snapshot = none := by simp [searched, present]
      unfold remoteSnapshotSearch remoteProjectionSearch at answers
      rw [alone] at answers
      cases projected : tables.projection with
      | none => simp [searched, projected] at answers
      | some projection =>
          simp only [searched, projected] at answers
          split at answers
          · obtain rfl := Except.ok.inj answers
            obtain ⟨row, selected, rfl⟩ := List.mem_map.mp (mem_of_mem_newest answered)
            exact ofProjection projected alone (List.mem_of_mem_filter selected)
          · split at answers
            · exact absurd answers (by simp)
            · obtain rfl := Except.ok.inj answers
              obtain ⟨row, selected, rfl⟩ := List.mem_map.mp (mem_of_mem_newest answered)
              exact ofProjection projected alone
                (Projection.mem_joinSearch.mp (List.mem_of_mem_filter selected)).1
  | some snapshot =>
      have beside : tables.searched.snapshot = some snapshot.searched := by simp [searched, present]
      have ofSnapshot {event : SnapshotEvent} (stored : event ∈ snapshot.searched.events)
          (accepted : request.acceptsSnapshot snapshot.searched event = true)
          : tables.Held (snapshot.searched.hit event) := by
        simp only [RemoteSearchRequest.acceptsSnapshot, Bool.and_eq_true] at accepted
        exact .inl (hit_mem_liveHits present stored accepted.1.1.1)
      unfold remoteSnapshotSearch at answers
      rw [beside] at answers
      dsimp only at answers
      split at answers
      · obtain rfl := Except.ok.inj answers
        obtain ⟨event, selected, rfl⟩ := List.mem_map.mp (mem_of_mem_newest answered)
        obtain ⟨stored, accepted⟩ := List.mem_filter.mp selected
        exact ofSnapshot stored accepted
      · split at answers
        · exact absurd answers (by simp)
        next matching _ =>
          have joined {hit : SearchHit}
              (answered : hit ∈ newestHits request.limit
                (((snapshot.searched.joinSearch matching).filter
                  (request.acceptsSnapshot snapshot.searched)).map snapshot.searched.hit))
              : tables.Held hit := by
            obtain ⟨event, selected, rfl⟩ := List.mem_map.mp (mem_of_mem_newest answered)
            obtain ⟨found, accepted⟩ := List.mem_filter.mp selected
            exact ofSnapshot (Snapshot.mem_joinSearch.mp found).1 accepted
          cases projected : tables.projection with
          | none =>
              simp only [searched, projected] at answers
              obtain rfl := Except.ok.inj answers
              exact joined answered
          | some projection =>
              simp only [searched, projected] at answers
              obtain rfl := Except.ok.inj answers
              rcases List.mem_append.mp (mem_of_mem_newest answered) with old | pushed
              · exact joined old
              · obtain ⟨row, selected, rfl⟩ := List.mem_map.mp (mem_of_mem_newest pushed)
                obtain ⟨found, accepted⟩ := List.mem_filter.mp selected
                have apart := (Bool.and_eq_true_iff.mp accepted).1
                refine .inr ⟨row, (mem_besideRows projected).mpr ⟨?_, fun other same => ?_⟩, rfl⟩
                · exact (Projection.mem_joinSearch.mp found).1
                · obtain rfl := Option.some.inj (beside.symm.trans same)
                  exact apart

-----------------------------------------------------------------------------------------
-- The event command
-----------------------------------------------------------------------------------------

section Commands

variable {isUuid : String → Bool}

/-- A text is a prefix of itself. -/
@[simp] theorem remoteIdMatch_self (id : String) : remoteIdMatch isUuid id id = true := by
  unfold remoteIdMatch
  split
  · exact decide_eq_true rfl
  · simpa using like_self_append id.toList []

/-- `remote_snapshot_event` looks an id up among the live events of the snapshot, and then among the
rows of the projection.
-/
theorem remoteSnapshotEvent_eq (id : String)
    : remoteSnapshotEvent isUuid tables id
      = match lookup (fun hit : SearchHit => remoteIdMatch isUuid id hit.eventId) tables.liveHits with
        | .only hit => .ok hit
        | .several => .error (.ambiguous .event id)
        | .missing =>
            match lookup (fun row : EventRow => remoteIdMatch isUuid id row.eventId) tables.rows with
            | .only row => .ok row.hit
            | .several => .error (.ambiguous .event id)
            | .missing => .error (.notFound .event id) := by
  have fallback
      : remoteProjectionEvent isUuid tables id
        = match lookup (fun row : EventRow => remoteIdMatch isUuid id row.eventId) tables.rows with
          | .only row => .ok row.hit
          | .several => .error (.ambiguous .event id)
          | .missing => .error (.notFound .event id) := by
    unfold remoteProjectionEvent rows
    cases tables.projection with
    | none => rfl
    | some projection =>
        cases found : lookup (fun row => remoteIdMatch isUuid id row.eventId) projection.events.rows
          <;> simp only [found]
  unfold remoteSnapshotEvent liveHits
  cases tables.snapshot with
  | none => exact fallback
  | some snapshot =>
      dsimp only
      rw [lookup_map, ← fallback]
      have same (event : SequencedEvent)
          : (snapshot.searched.hit event.toSnapshotEvent).eventId = event.id :=
        rfl
      simp only [same]
      cases lookup (fun event : SequencedEvent => remoteIdMatch isUuid id event.id)
        snapshot.liveEvents <;> rfl

/-- The id of an event picks that event: no other live event of the snapshot matches it, and, where the
snapshot has not the event, no other row of the projection.
-/
def EventPicked (tables : ShowTables) (isUuid : String → Bool) (id : String) : Prop :=
  (∀ hit ∈ tables.liveHits, remoteIdMatch isUuid id hit.eventId = true → hit.eventId = id)
  ∧ ((∀ hit ∈ tables.liveHits, hit.eventId ≠ id)
    → ∀ row ∈ tables.rows, remoteIdMatch isUuid id row.eventId = true → row.eventId = id)

/-- `remote_snapshot_event` returns an event that the database holds exactly if its id picks it. -/
theorem remoteSnapshotEvent_iff {hit : SearchHit} (held : tables.Held hit)
    : remoteSnapshotEvent isUuid tables hit.eventId = .ok hit
      ↔ tables.EventPicked isUuid hit.eventId := by
  rcases held with live | ⟨row, beside, rfl⟩
  · have shown
        : remoteSnapshotEvent isUuid tables hit.eventId = .ok hit
          ↔ lookup (fun other : SearchHit => remoteIdMatch isUuid hit.eventId other.eventId)
              tables.liveHits = .only hit := by
      rw [remoteSnapshotEvent_eq]
      cases found : lookup (fun other : SearchHit => remoteIdMatch isUuid hit.eventId other.eventId)
          tables.liveHits with
      | missing => simpa using lookup_eq_missing.mp found hit live
      | only other => simp
      | several => simp
    rw [shown, lookup_eq_only_iff_key nodup_liveHits live (remoteIdMatch_self _)]
    exact ⟨fun picked => ⟨picked, fun none => absurd rfl (none hit live)⟩, And.left⟩
  · have stored := besideRows_subset beside
    have apart : ∀ hit ∈ tables.liveHits, hit.eventId ≠ row.eventId :=
      fun hit live => eventId_ne_of_beside beside live
    change remoteSnapshotEvent isUuid tables row.eventId = _ ↔ tables.EventPicked isUuid row.eventId
    have shown
        : remoteSnapshotEvent isUuid tables row.eventId = .ok row.hit
          ↔ lookup (fun hit : SearchHit => remoteIdMatch isUuid row.eventId hit.eventId)
                tables.liveHits = .missing
            ∧ lookup (fun other : EventRow => remoteIdMatch isUuid row.eventId other.eventId)
                tables.rows = .only row := by
      rw [remoteSnapshotEvent_eq]
      cases found : lookup (fun hit : SearchHit => remoteIdMatch isUuid row.eventId hit.eventId)
          tables.liveHits with
      | several => simp
      | only other =>
          obtain ⟨live, -⟩ := (lookup_eq_only_iff nodup_liveHits.of_map).mp found
          refine iff_of_false (fun same => ?_) (by simp)
          exact apart other live (congrArg SearchHit.eventId (Except.ok.inj same))
      | missing =>
          cases found : lookup (fun other : EventRow => remoteIdMatch isUuid row.eventId other.eventId)
              tables.rows with
          | missing => simp
          | several => simp
          | only other =>
              obtain ⟨inside, -⟩ := (lookup_eq_only_iff nodup_rows.of_map).mp found
              refine ⟨fun same => ⟨rfl, congrArg _ ?_⟩, fun ⟨_, same⟩ => ?_⟩
              · exact row_eq_of_eventId inside stored
                  (congrArg SearchHit.eventId (Except.ok.inj same))
              · rw [Lookup.only.inj same]
    rw [shown, lookup_eq_missing, lookup_eq_only_iff_key nodup_rows stored (remoteIdMatch_self _)]
    constructor
    · rintro ⟨missing, picked⟩
      exact ⟨fun hit live matching => absurd matching (by simp [missing hit live]), fun _ => picked⟩
    · rintro ⟨picked, pickedRow⟩
      exact ⟨fun hit live => eq_false_of_ne_true fun matching =>
        apart hit live (picked hit live matching), pickedRow apart⟩

-----------------------------------------------------------------------------------------
-- The session command
-----------------------------------------------------------------------------------------

/-- A view of a session that lists certain events, each once and in time order. -/
structure Lists (session : String) (among : SearchHit → Prop) (view : SessionView) : Prop where
  id : view.id = session
  events : ∀ hit, hit ∈ view.events ↔ among hit
  once : (view.events.map (·.eventId)).Nodup
  inOrder : view.events.Pairwise fun earlier later => earlier.occurredAtMs ≤ later.occurredAtMs

/-- A view of a session of the database: the events of the session that it holds for a search. -/
def Views (tables : ShowTables) (session : String) (view : SessionView) : Prop :=
  Lists session (fun hit => tables.Held hit ∧ hit.sessionId = some session) view

/-- A list of events determines what it lists. -/
theorem Lists.iff {session other : String} {among amongToo : SearchHit → Prop} {view : SessionView}
    (lists : Lists session among view)
    : Lists other amongToo view ↔ session = other ∧ ∀ hit, among hit ↔ amongToo hit := by
  constructor
  · exact fun listsToo =>
      ⟨lists.id.symm.trans listsToo.id, fun hit => (lists.events hit).symm.trans (listsToo.events hit)⟩
  · rintro ⟨rfl, same⟩
    exact ⟨lists.id, fun hit => (lists.events hit).trans (same hit), lists.once, lists.inOrder⟩

/-- Sorting by time and a second key keeps time order. -/
theorem orderBy_time {Row Second : Type} [LinearOrder Second] (time : Row → Int)
    (second : Row → Second) (rows : List Row)
    : (orderBy (fun row => toLex (time row, second row)) rows).Pairwise fun earlier later =>
        time earlier ≤ time later := by
  refine (orderBy_sorted rows).imp fun {earlier later} ordered => ?_
  rcases Prod.Lex.toLex_le_toLex.mp ordered with before | ⟨same, -⟩
  · exact before.le
  · exact same.le

/-- The view of rows that are listed in time order. -/
theorem lists_orderBy {Row Second : Type} [LinearOrder Second] (view : SessionView)
    {hit : Row → SearchHit} {second : Row → Second} {rows : List Row} {among : SearchHit → Prop}
    (events : view.events
      = (orderBy (fun row => toLex ((hit row).occurredAtMs, second row)) rows).map hit)
    (once : (rows.map fun row => (hit row).eventId).Nodup)
    (listed : ∀ event, (∃ row ∈ rows, hit row = event) ↔ among event)
    : Lists view.id among view where
  id := rfl
  events event := by
    rw [events, ← listed]
    simp only [List.mem_map, mem_orderBy]
  once := by
    rw [events, List.map_map]
    exact ((orderBy_perm rows).map _).nodup_iff.mpr once
  inOrder := by
    rw [events]
    exact List.pairwise_map.mpr (orderBy_time _ second rows)

/-- The session ids of the projection, if there is one. -/
def projectionIds (tables : ShowTables) : List String :=
  (tables.rows.filterMap (·.sessionId)).dedup

theorem mem_projectionIds {session : String}
    : session ∈ tables.projectionIds ↔ ∃ row ∈ tables.rows, row.sessionId = some session := by
  simp only [projectionIds, List.mem_dedup, List.mem_filterMap]

/-- The events of a session in the projection. -/
def InProjection (tables : ShowTables) (session : String) (hit : SearchHit) : Prop :=
  ∃ row ∈ tables.rows, row.sessionId = some session ∧ row.hit = hit

/-- The live events of a session in the snapshot. -/
def InSnapshot (tables : ShowTables) (session : String) (hit : SearchHit) : Prop :=
  hit ∈ tables.liveHits ∧ hit.sessionId = some session

theorem lists_projectionView {projection : Projection}
    (projected : tables.projection = some projection) (session : String)
    : Lists session (tables.InProjection session) (projection.sessionView session) := by
  refine lists_orderBy (projection.sessionView session) rfl ?_ fun hit => ?_
  · exact projection.nodup_eventIds.sublist (List.filter_sublist.map _)
  · simp only [InProjection, rows, projected, List.mem_filter, decide_eq_true_eq, and_assoc]

theorem lists_snapshotView {snapshot : SnapshotTables} (present : tables.snapshot = some snapshot)
    (session : SessionRow)
    : Lists session.id (tables.InSnapshot session.id) (snapshot.sessionView session) := by
  have live : tables.liveHits
      = snapshot.liveEvents.map fun event => snapshot.searched.hit event.toSnapshotEvent := by
    simp only [liveHits, present]
  have once : (tables.liveHits.map (·.eventId)).Nodup := nodup_liveHits
  rw [live, List.map_map] at once
  refine lists_orderBy (snapshot.sessionView session) rfl ?_ fun hit => ?_
  · exact once.sublist (List.filter_sublist.map _)
  · simp only [InSnapshot, live, List.mem_filter, List.mem_map, decide_eq_true_eq]
    constructor
    · rintro ⟨event, ⟨member, ofSession⟩, rfl⟩
      exact ⟨⟨event, member, rfl⟩, ofSession⟩
    · rintro ⟨⟨event, member, rfl⟩, ofSession⟩
      exact ⟨event, ⟨member, ofSession⟩, rfl⟩

/-- `remote_projection_session` looks an id up in the projection. -/
theorem remoteProjectionSession_spec (isUuid : String → Bool) (tables : ShowTables) (id : String)
    : match lookup (remoteIdMatch isUuid id) tables.projectionIds with
      | .missing => remoteProjectionSession isUuid tables id = .error (.notFound .session id)
      | .several => remoteProjectionSession isUuid tables id = .error (.ambiguous .session id)
      | .only session =>
          ∃ view, remoteProjectionSession isUuid tables id = .ok view
            ∧ Lists session (tables.InProjection session) view := by
  unfold remoteProjectionSession
  cases projected : tables.projection with
  | none =>
      have ids : tables.projectionIds = [] := by simp [projectionIds, rows, projected]
      rw [ids]
      rfl
  | some projection =>
      have ids : tables.projectionIds = projection.sessionIds := by
        simp only [projectionIds, Projection.sessionIds, rows, projected]
      rw [ids]
      dsimp only
      cases lookup (remoteIdMatch isUuid id) projection.sessionIds with
      | missing => rfl
      | several => rfl
      | only session =>
          exact ⟨_, rfl, lists_projectionView projected session⟩

/-- `remote_snapshot_session` looks an id up among the live sessions of the snapshot, and then in the
projection.
-/
theorem remoteSnapshotSession_spec (isUuid : String → Bool) (tables : ShowTables) (id : String)
    : match lookup (fun session : SessionRow => remoteIdMatch isUuid id session.id)
        tables.liveSessions with
      | .missing =>
          remoteSnapshotSession isUuid tables id = remoteProjectionSession isUuid tables id
      | .several => remoteSnapshotSession isUuid tables id = .error (.ambiguous .session id)
      | .only session =>
          ∃ view, remoteSnapshotSession isUuid tables id = .ok view
            ∧ Lists session.id (tables.InSnapshot session.id) view := by
  unfold remoteSnapshotSession liveSessions
  cases present : tables.snapshot with
  | none => rfl
  | some snapshot =>
      dsimp only
      cases lookup (fun session : SessionRow => remoteIdMatch isUuid id session.id)
        snapshot.liveSessions with
      | missing => rfl
      | several => rfl
      | only session =>
          exact ⟨_, rfl, lists_snapshotView present session⟩

/-- The id of a session picks all of its events. Where the snapshot has the session, no other live
session matches the id and the projection has no event of it beside the snapshot. Elsewhere no live
session and no other session of the projection matches, and the projection has all of its events.
-/
inductive SessionPicked (tables : ShowTables) (isUuid : String → Bool) (session : String) : Prop
  | snapshot (live : SessionRow) (stored : live ∈ tables.liveSessions) (id : live.id = session)
      (picked
        : ∀ other ∈ tables.liveSessions, remoteIdMatch isUuid session other.id = true
          → other.id = session)
      (whole : ∀ row ∈ tables.besideRows, row.sessionId ≠ some session)
  | projection
      (none : ∀ live ∈ tables.liveSessions, remoteIdMatch isUuid session live.id = false)
      (picked
        : ∀ row ∈ tables.rows, ∀ other, row.sessionId = some other
          → remoteIdMatch isUuid session other = true → other = session)
      (whole
        : ∀ hit, hit.sessionId = some session → (tables.Held hit ↔ tables.InProjection session hit))

/-- A view of the session of an event of the database. -/
def ShowsSession (tables : ShowTables) (isUuid : String → Bool) (session : String) : Prop :=
  ∃ view, remoteSnapshotSession isUuid tables session = .ok view ∧ tables.Views session view

/-- What a view lists decides whether it is one of a session. -/
theorem showsSession_iff {session shown : String} {among : SearchHit → Prop}
    (spec : ∃ view, remoteSnapshotSession isUuid tables session = .ok view ∧ Lists shown among view)
    : tables.ShowsSession isUuid session
      ↔ shown = session ∧ ∀ hit, among hit ↔ tables.Held hit ∧ hit.sessionId = some session := by
  obtain ⟨view, ok, lists⟩ := spec
  constructor
  · rintro ⟨other, okToo, views⟩
    obtain rfl := Except.ok.inj (ok.symm.trans okToo)
    exact lists.iff.mp views
  · exact fun same => ⟨view, ok, lists.iff.mpr same⟩

/-- `remote_snapshot_session` shows the session of an event that the database holds exactly if its id
picks all of its events. Witness: by the layout in which the command finds the session.
-/
theorem remoteSnapshotSession_iff {hit : SearchHit} {session : String} (held : tables.Held hit)
    (ofSession : hit.sessionId = some session)
    : tables.ShowsSession isUuid session ↔ tables.SessionPicked isUuid session := by
  have refused {error : ShowError} (refuses : remoteSnapshotSession isUuid tables session = .error error)
      : ¬tables.ShowsSession isUuid session := by
    rintro ⟨view, ok, -⟩
    exact absurd (refuses.symm.trans ok) (by simp)
  have spec := remoteSnapshotSession_spec isUuid tables session
  cases found : lookup (fun live : SessionRow => remoteIdMatch isUuid session live.id)
      tables.liveSessions with
  | several =>
      rw [found] at spec
      obtain ⟨left, inLeft, right, inRight, leftMatches, rightMatches, different⟩ :=
        (lookup_eq_several_iff nodup_liveSessions.of_map).mp found
      refine iff_of_false (refused spec) ?_
      rintro (⟨-, -, -, picked, -⟩ | ⟨none, -, -⟩)
      · refine different (List.inj_on_of_nodup_map nodup_liveSessions inLeft inRight ?_)
        exact (picked left inLeft leftMatches).trans (picked right inRight rightMatches).symm
      · simp [none left inLeft] at leftMatches
  | only live =>
      rw [found] at spec
      obtain ⟨stored, matching, only⟩ := (lookup_eq_only_iff nodup_liveSessions.of_map).mp found
      rw [showsSession_iff spec]
      constructor
      · rintro ⟨rfl, same⟩
        refine .snapshot live stored rfl (fun other inside found => ?_) fun row beside ofRow => ?_
        · rw [only other inside found]
        · obtain ⟨inLive, -⟩ := (same row.hit).mpr ⟨.inr ⟨row, beside, rfl⟩, ofRow⟩
          exact eventId_ne_of_beside beside inLive rfl
      · rintro (⟨other, inside, rfl, -, whole⟩ | ⟨none, -, -⟩)
        · obtain rfl := only other inside (remoteIdMatch_self _)
          refine ⟨rfl, fun hit => ⟨fun ⟨live, ofHit⟩ => ⟨.inl live, ofHit⟩, ?_⟩⟩
          rintro ⟨live | ⟨row, beside, rfl⟩, ofHit⟩
          · exact ⟨live, ofHit⟩
          · exact absurd ofHit (whole row beside)
        · simp [none live stored] at matching
  | missing =>
      rw [found] at spec
      have missing := lookup_eq_missing.mp found
      have elsewhere
          : tables.SessionPicked isUuid session
            ↔ (∀ other ∈ tables.projectionIds,
                remoteIdMatch isUuid session other = true → other = session)
              ∧ ∀ hit, hit.sessionId = some session
                → (tables.Held hit ↔ tables.InProjection session hit) := by
        simp only [mem_projectionIds]
        constructor
        · rintro (⟨live, stored, rfl, -, -⟩ | ⟨-, picked, whole⟩)
          · simpa using missing live stored
          · exact ⟨fun other ⟨row, inside, ofRow⟩ => picked row inside other ofRow, whole⟩
        · rintro ⟨picked, whole⟩
          exact .projection missing (fun row inside other ofRow => picked other ⟨row, inside, ofRow⟩) whole
      have known
          (whole : ∀ hit, hit.sessionId = some session
            → (tables.Held hit ↔ tables.InProjection session hit))
          : session ∈ tables.projectionIds := by
        obtain ⟨row, inside, ofRow, -⟩ := (whole hit ofSession).mp held
        exact mem_projectionIds.mpr ⟨row, inside, ofRow⟩
      have fallback := remoteProjectionSession_spec isUuid tables session
      rw [elsewhere]
      cases found : lookup (remoteIdMatch isUuid session) tables.projectionIds with
      | missing =>
          rw [found] at fallback
          refine iff_of_false (refused (spec.trans fallback)) fun ⟨_, whole⟩ => ?_
          simpa using lookup_eq_missing.mp found session (known whole)
      | several =>
          rw [found] at fallback
          obtain ⟨left, inLeft, right, inRight, leftMatches, rightMatches, different⟩ :=
            (lookup_eq_several_iff (List.nodup_dedup _)).mp found
          refine iff_of_false (refused (spec.trans fallback)) fun ⟨picked, _⟩ => different ?_
          exact (picked left inLeft leftMatches).trans (picked right inRight rightMatches).symm
      | only other =>
          rw [found] at fallback
          obtain ⟨inside, matching, only⟩ := (lookup_eq_only_iff (List.nodup_dedup _)).mp found
          dsimp only at fallback
          rw [← spec] at fallback
          rw [showsSession_iff fallback]
          constructor
          · rintro ⟨rfl, same⟩
            refine ⟨only, fun hit ofHit => ?_⟩
            rw [same hit]
            exact ⟨fun held => ⟨held, ofHit⟩, And.left⟩
          · rintro ⟨picked, whole⟩
            obtain rfl := picked other inside matching
            refine ⟨rfl, fun hit => ⟨fun listed => ?_, fun ⟨held, ofHit⟩ => (whole hit ofHit).mp held⟩⟩
            have ofHit : hit.sessionId = some other := by
              obtain ⟨row, -, ofRow, rfl⟩ := listed
              exact ofRow
            exact ⟨(whole hit ofHit).mpr listed, ofHit⟩

-----------------------------------------------------------------------------------------
-- Prefixes
-----------------------------------------------------------------------------------------

/-- A prefix of a session in each layout is reported exactly if the snapshot alone has two sessions for
it: the projection is not asked once the snapshot has one.
-/
theorem remoteSnapshotSession_ambiguous_iff {id : String} (both : tables.MatchesBoth isUuid id)
    : remoteSnapshotSession isUuid tables id = .error (.ambiguous .session id)
      ↔ ∃ left ∈ tables.liveSessions, ∃ right ∈ tables.liveSessions,
          remoteIdMatch isUuid id left.id = true ∧ remoteIdMatch isUuid id right.id = true
          ∧ left ≠ right := by
  obtain ⟨session, stored, matching, -⟩ := both
  rw [← lookup_eq_several_iff nodup_liveSessions.of_map]
  have spec := remoteSnapshotSession_spec isUuid tables id
  cases found : lookup (fun session : SessionRow => remoteIdMatch isUuid id session.id)
      tables.liveSessions with
  | missing => simp [lookup_eq_missing.mp found session stored] at matching
  | several => simpa [found] using spec
  | only live =>
      rw [found] at spec
      obtain ⟨view, shown, -⟩ := spec
      simp [shown]

end Commands

end ShowTables

-----------------------------------------------------------------------------------------
-- Search and show
-----------------------------------------------------------------------------------------

/-- An event that a search answers. -/
def Answered (fts : Fts) (tables : ShowTables) (hit : SearchHit) : Prop :=
  ∃ request hits, remoteSnapshotSearch fts tables.searched request = .ok hits ∧ hit ∈ hits

/-- The show commands agree with the search: each event that a search answers is shown, its session is
shown with all of its events, and a prefix of a session in each layout is reported.
-/
structure ShowAgrees (isUuid : String → Bool) (fts : Fts) (tables : ShowTables) : Prop where
  event
    : ∀ hit, Answered fts tables hit → remoteSnapshotEvent isUuid tables hit.eventId = .ok hit
  session
    : ∀ hit, Answered fts tables hit
      → ∀ session, hit.sessionId = some session → tables.ShowsSession isUuid session
  prefixes
    : ∀ id, tables.MatchesBoth isUuid id
      → remoteSnapshotSession isUuid tables id = .error (.ambiguous .session id)

/-- The tables are split so that each lookup finds in the first layout all that both have. -/
structure ShowSplit (isUuid : String → Bool) (fts : Fts) (tables : ShowTables) : Prop where
  event : ∀ hit, Answered fts tables hit → tables.EventPicked isUuid hit.eventId
  session
    : ∀ hit, Answered fts tables hit
      → ∀ session, hit.sessionId = some session → tables.SessionPicked isUuid session
  prefixes
    : ∀ id, tables.MatchesBoth isUuid id
      → ∃ left ∈ tables.liveSessions, ∃ right ∈ tables.liveSessions,
          remoteIdMatch isUuid id left.id = true ∧ remoteIdMatch isUuid id right.id = true
          ∧ left ≠ right

/-- The show commands agree with the search exactly if the split lets them. Witness: what a search
answers is held in one of the layouts, and each command reads them one after the other.
-/
theorem showAgrees_iff (isUuid : String → Bool) (fts : Fts) (tables : ShowTables)
    : ShowAgrees isUuid fts tables ↔ ShowSplit isUuid fts tables := by
  have held {hit : SearchHit} (answered : Answered fts tables hit) : tables.Held hit := by
    obtain ⟨request, hits, answers, answered⟩ := answered
    exact ShowTables.held_of_search answers answered
  constructor
  · rintro ⟨event, session, prefixes⟩
    refine ⟨fun hit answered => ?_, fun hit answered id ofSession => ?_, fun id both => ?_⟩
    · exact (ShowTables.remoteSnapshotEvent_iff (held answered)).mp (event hit answered)
    · exact (ShowTables.remoteSnapshotSession_iff (held answered) ofSession).mp
        (session hit answered id ofSession)
    · exact (ShowTables.remoteSnapshotSession_ambiguous_iff both).mp (prefixes id both)
  · rintro ⟨event, session, prefixes⟩
    refine ⟨fun hit answered => ?_, fun hit answered id ofSession => ?_, fun id both => ?_⟩
    · exact (ShowTables.remoteSnapshotEvent_iff (held answered)).mpr (event hit answered)
    · exact (ShowTables.remoteSnapshotSession_iff (held answered) ofSession).mpr
        (session hit answered id ofSession)
    · exact (ShowTables.remoteSnapshotSession_ambiguous_iff both).mpr (prefixes id both)

/-- The hyphenated form that `uuid::Uuid::parse_str` accepts. -/
def hyphenated (text : String) : Bool :=
  text.length = 36
    && text.toList.zipIdx.all fun place =>
      if place.2 ∈ [8, 13, 18, 23] then place.1 = '-'
      else place.1.isDigit || 'a' ≤ place.1.toLower && place.1.toLower ≤ 'f'

/-- The session of an imported snapshot. -/
def importedSession : SessionRow where
  id := "019f4444-0000-7000-8000-000000000001"
  provider := "codex"
  externalSessionId := some "thread"
  startedAtMs := 1
  endedAtMs := none
  deletedAtMs := none

/-- An event of the session that the snapshot holds. -/
def importedEvent : SequencedEvent where
  id := "019f4444-0000-7000-8000-000000000002"
  sessionId := some importedSession.id
  role := some "user"
  eventType := "message"
  occurredAtMs := 1
  payloadJson := "text"
  dedupeKey := none
  deletedAtMs := none
  seq := 0

/-- An event of the session that was pushed after the snapshot was taken. -/
def pushedEvent : EventRow where
  eventId := "019f4444-0000-7000-8000-000000000003"
  sessionId := some importedSession.id
  provider := "codex"
  role := some "assistant"
  eventType := "message"
  occurredAtMs := 2
  dedupeKey := none
  payloadJson := "text"
  searchText := "text"

/-- A database with a snapshot of the session and the later event in the projection. -/
def continuedSession : ShowTables where
  projection :=
    some ⟨⟨[pushedEvent], List.pairwise_singleton _ _⟩, .empty, [pushedEvent.searchRow]⟩
  snapshot :=
    some
      { sessions := [importedSession]
        events := [importedEvent]
        eventSearch := [⟨importedEvent.id, "text"⟩]
        sessionIds := List.pairwise_singleton _ _
        ordered := List.pairwise_singleton _ _ }

/-- The pushed event is found, and its session is shown without it. -/
theorem continuedSession_not_showAgrees : ¬ShowAgrees hyphenated wordFts continuedSession := by
  intro agrees
  have answered : Answered wordFts continuedSession pushedEvent.hit :=
    ⟨textQuery.request, _, rfl, by decide⟩
  obtain ⟨view, shown, views⟩ := agrees.session _ answered importedSession.id rfl
  have listed := (views.events pushedEvent.hit).mpr ⟨.inr ⟨pushedEvent, by decide, rfl⟩, rfl⟩
  have whole
      : (remoteSnapshotSession hyphenated continuedSession importedSession.id).map
          (fun view => view.events.map (·.eventId))
        = .ok [importedEvent.id] := by
    decide
  rw [shown] at whole
  have ids : view.events.map (·.eventId) = [importedEvent.id] := Except.ok.inj whole
  have inside : pushedEvent.hit.eventId ∈ view.events.map (·.eventId) := List.mem_map_of_mem listed
  rw [ids] at inside
  exact absurd inside (by decide)

end CtxRemote.Turso
