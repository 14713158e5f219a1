import CtxRemote.Turso.PushPaging
import CtxRemote.Turso.Search

/-! What the two search entry points have in common, and what each of them selects from. -/

namespace CtxRemote.Turso
open CtxRemote.Library

/-- Blanks around a text add no word: in front by one empty piece each, behind likewise. -/
theorem splitWhitespace_blanks {lead text trail : List Char}
    (blankLead : ∀ c ∈ lead, isWhitespace c = true)
    (blankTrail : ∀ c ∈ trail, isWhitespace c = true)
    : splitWhitespace (lead ++ text ++ trail) = splitWhitespace text := by
  have front (blanks text : List Char) (blank : ∀ c ∈ blanks, isWhitespace c = true)
      : splitWhitespace (blanks ++ text) = splitWhitespace text := by
    induction blanks with
    | nil => rfl
    | cons c blanks ih =>
        have rest := ih fun d member => blank d (List.mem_cons_of_mem _ member)
        have split := List.splitOnP_append_cons [] (blanks ++ text)
          (blank c List.mem_cons_self)
        simp only [List.nil_append] at split
        simpa [splitWhitespace, split] using rest
  cases trail with
  | nil => simpa using front lead text blankLead
  | cons c trail =>
      have split := List.splitOnP_append_cons (lead ++ text) trail
        (blankTrail c List.mem_cons_self)
      have none : splitWhitespace trail = [] := by
        have blank := front trail [] fun d member =>
          blankTrail d (List.mem_cons_of_mem _ member)
        simpa [splitWhitespace] using blank
      have joined : splitWhitespace (lead ++ text ++ c :: trail)
          = splitWhitespace (lead ++ text) ++ splitWhitespace trail := by
        simp only [splitWhitespace, split, List.filter_append]
      rw [joined, none, List.append_nil]
      exact front lead text blankLead

/-- Trimming a text keeps its words. -/
theorem splitWhitespace_trim (text : List Char)
    : splitWhitespace (trim text) = splitWhitespace text := by
  have lead : ∀ c ∈ text.takeWhile isWhitespace, isWhitespace c = true :=
    List.all_eq_true.mp List.all_takeWhile
  have trail
      : ∀ c ∈ ((text.dropWhile isWhitespace).reverse.takeWhile isWhitespace).reverse,
          isWhitespace c = true :=
    fun c member => List.all_eq_true.mp List.all_takeWhile c (List.mem_reverse.mp member)
  have whole : text
      = text.takeWhile isWhitespace ++ trim text
        ++ ((text.dropWhile isWhitespace).reverse.takeWhile isWhitespace).reverse := by
    have tail := List.takeWhile_append_dropWhile (p := isWhitespace)
      (l := (text.dropWhile isWhitespace).reverse)
    have tail := congrArg List.reverse tail
    simp only [List.reverse_append, List.reverse_reverse] at tail
    simp only [trim, List.append_assoc, tail, List.takeWhile_append_dropWhile]
  conv_rhs => rw [whole]
  exact (splitWhitespace_blanks lead trail).symm

/-- The three replacements of `substring_pattern` escape the query. -/
theorem substringPattern_eq (query : List Char)
    : substringPattern query = '%' :: (escapeLike '\\' query ++ ['%']) := by
  have escaped
      : replaceChar '_' ['\\', '_']
            (replaceChar '%' ['\\', '%'] (replaceChar '\\' ['\\', '\\'] query))
        = escapeLike '\\' query := by
    simp only [replaceChar, escapeLike, List.flatMap_assoc]
    refine List.flatMap_congr fun c _ => ?_
    by_cases backslash : c = '\\'
    · simp [backslash]
    · by_cases percent : c = '%'
      · simp [percent]
      · by_cases underscore : c = '_'
        · simp [underscore]
        · simp [backslash, percent, underscore]
  simp only [substringPattern, escaped]

/-- The payload contains the query, up to ASCII letter case. -/
def ContainsText (query : List Char) (payload : String) : Prop :=
  ∃ before piece after,
    payload.toList = before ++ piece ++ after ∧ List.Forall₂ LikeEq query piece

/-- The `LIKE` of a snapshot search finds exactly the payloads that contain the query. -/
theorem like_substringPattern (query : List Char) (payload : String)
    : like (some '\\') (substringPattern query) payload.toList = true
      ↔ ContainsText query payload := by
  rw [substringPattern_eq]
  exact like_substring '\\' (by decide) query payload.toList

/-- A request with one nonblank query sends the same expression as `search`. -/
theorem RemoteSearchRequest.matchExpression_query (request : RemoteSearchRequest)
    (noTerms : request.terms = []) (nonblank : trim request.query ≠ [])
    : request.matchTerms = [ftsMatchQuery request.query]
      ∧ request.matchExpression = ftsMatchQuery request.query := by
  have same : ftsMatchQuery (trim request.query) = ftsMatchQuery request.query := by
    simp only [ftsMatchQuery, splitWhitespace_trim]
  have terms : request.matchTerms = [ftsMatchQuery request.query] := by
    simp [RemoteSearchRequest.matchTerms, noTerms, nonblank, same]
  exact ⟨terms, by simp [RemoteSearchRequest.matchExpression, terms]⟩

-----------------------------------------------------------------------------------------
-- Joins with the full-text tables
-----------------------------------------------------------------------------------------

theorem Projection.mem_joinSearch {db : Projection} {matching : String → Bool}
    {row : EventRow}
    : row ∈ db.joinSearch matching
      ↔ row ∈ db.events
        ∧ ∃ text ∈ db.search, text.eventId = row.eventId ∧ matching text.searchText = true := by
  simp only [Projection.joinSearch, List.mem_flatMap, List.mem_filter, decide_eq_true_eq]
  constructor
  · rintro ⟨text, ⟨inside, found⟩, member, same⟩
    exact ⟨member, text, inside, same.symm, found⟩
  · rintro ⟨member, text, inside, same, found⟩
    exact ⟨text, ⟨inside, found⟩, member, same.symm⟩

theorem Snapshot.mem_joinSearch {snapshot : Snapshot} {matching : String → Bool}
    {event : SnapshotEvent}
    : event ∈ snapshot.joinSearch matching
      ↔ event ∈ snapshot.events
        ∧ ∃ text ∈ snapshot.eventSearch,
            text.eventId = event.id ∧ matching text.searchText = true := by
  simp only [Snapshot.joinSearch, List.mem_flatMap, List.mem_filter, decide_eq_true_eq]
  constructor
  · rintro ⟨text, ⟨inside, found⟩, member, same⟩
    exact ⟨member, text, inside, same.symm, found⟩
  · rintro ⟨member, text, inside, same, found⟩
    exact ⟨text, ⟨inside, found⟩, member, same.symm⟩

/-- With one full-text row for each event, a join gives each event once. -/
theorem Projection.nodup_joinSearch {db : Projection} (matching : String → Bool)
    (once : (db.search.map (·.eventId)).Nodup)
    : ((db.joinSearch matching).map (·.eventId)).Nodup := by
  have ids : ((db.search.filter fun row => matching row.searchText).map (·.eventId)).Nodup :=
    once.sublist (List.filter_sublist.map _)
  refine ids.sublist ?_
  have found := lookup_sublist db.nodup_eventIds
    ((db.search.filter fun row => matching row.searchText).map (·.eventId))
  rwa [List.flatMap_map] at found

theorem Snapshot.nodup_joinSearch {snapshot : Snapshot} (matching : String → Bool)
    (once : (snapshot.eventSearch.map (·.eventId)).Nodup)
    : ((snapshot.joinSearch matching).map (·.id)).Nodup := by
  have ids
      : ((snapshot.eventSearch.filter fun row =>
          matching row.searchText).map (·.eventId)).Nodup :=
    once.sublist (List.filter_sublist.map _)
  have unique : (snapshot.events.map (·.id)).Nodup :=
    List.pairwise_map.mpr (snapshot.ordered.imp fun before => ne_of_lt before)
  refine ids.sublist ?_
  have found := lookup_sublist unique
    ((snapshot.eventSearch.filter fun row => matching row.searchText).map (·.eventId))
  rwa [List.flatMap_map] at found

-----------------------------------------------------------------------------------------
-- The two entry points
-----------------------------------------------------------------------------------------

/-- The request that asks `remote_snapshot_search` what `search` is asked. -/
def SearchArgs.request (args : SearchArgs) : RemoteSearchRequest where
  query := args.query
  terms := []
  limit := args.limit
  provider := args.provider
  session := none
  eventType := none

/-- Without a snapshot, both entry points run the same query on the projection. -/
theorem search_eq_remoteSnapshotSearch {fts : Fts} {tables : RemoteTables} {args : SearchArgs}
    (noSnapshot : tables.snapshot = none) (nonblank : trim args.query ≠ [])
    : search fts tables args = remoteSnapshotSearch fts tables args.request := by
  obtain ⟨terms, expression⟩ :=
    args.request.matchExpression_query rfl nonblank
  cases present : tables.projection with
  | none => simp [search, remoteSnapshotSearch, remoteProjectionSearch, noSnapshot, present]
  | some projection =>
      have accepts : args.request.accepts
          = fun row : EventRow => args.provider.all fun provider => row.provider = provider := by
        funext row
        simp [RemoteSearchRequest.accepts, SearchArgs.request]
      simp only [search, remoteSnapshotSearch, remoteProjectionSearch, noSnapshot, present,
        terms, expression, accepts, List.isEmpty_cons, Bool.false_eq_true, ↓reduceIte]
      rfl

/-- A hit of a full-text match in the projection, of the provider that the arguments name. -/
def SearchArgs.ProjectedHit (args : SearchArgs) (projection : Projection)
    (matching : String → Bool) (hit : SearchHit)
    : Prop :=
  ∃ row ∈ projection.events,
    (∃ text ∈ projection.search,
      text.eventId = row.eventId ∧ matching text.searchText = true)
    ∧ (∀ provider, args.provider = some provider → row.provider = provider)
    ∧ row.hit = hit

/-- Without a snapshot, `search` cuts the full-text matches of the projection to the newest. -/
theorem search_without_snapshot {fts : Fts} {tables : RemoteTables} (args : SearchArgs)
    {projection : Projection} {matching : String → Bool} (noSnapshot : tables.snapshot = none)
    (projected : tables.projection = some projection)
    (parsed : fts (ftsMatchQuery args.query) = some matching)
    : ∃ hits,
        search fts tables args = .ok (newestHits args.limit hits)
        ∧ (∀ hit, hit ∈ hits ↔ args.ProjectedHit projection matching hit)
        ∧ ((projection.search.map (·.eventId)).Nodup → (hits.map (·.eventId)).Nodup) := by
  simp only [search, noSnapshot, projected, parsed]
  refine ⟨_, rfl, fun hit => ?_, fun once => ?_⟩
  · simp only [List.mem_map, List.mem_filter, Projection.mem_joinSearch, Option.all_eq_true,
      decide_eq_true_eq, and_assoc, SearchArgs.ProjectedHit]
  · rw [List.map_map]
    exact (projection.nodup_joinSearch matching once).sublist (List.filter_sublist.map _)

/-- Snapshot hits have the ids of their events. -/
theorem Snapshot.nodup_hits (snapshot : Snapshot) {events : List SnapshotEvent}
    (once : (events.map (·.id)).Nodup)
    : ((events.map snapshot.hit).map (·.eventId)).Nodup := by
  rwa [List.map_map]

/-- With a snapshot, `search` cuts the live snapshot events whose payload contains the query,
each once, to the newest.
-/
theorem search_with_snapshot {fts : Fts} {tables : RemoteTables} (args : SearchArgs)
    {snapshot : Snapshot} (present : tables.snapshot = some snapshot)
    : ∃ hits,
        search fts tables args = .ok (newestHits args.limit hits)
        ∧ (hits.map (·.eventId)).Nodup
        ∧ ∀ hit,
            hit ∈ hits
            ↔ ∃ event ∈ snapshot.live,
                (∀ provider, args.provider = some provider
                  → snapshot.provider event = some provider)
                ∧ ContainsText args.query event.payloadJson
                ∧ snapshot.hit event = hit := by
  simp only [search, present]
  refine ⟨_, rfl, snapshot.nodup_hits ?_, fun hit => ?_⟩
  · have ordered := (snapshot.ordered.filter fun event => event.deletedAtMs.isNone).filter
      fun event =>
        (args.provider.all fun provider => snapshot.provider event = some provider)
          && like (some '\\') (substringPattern args.query) event.payloadJson.toList
    exact List.pairwise_map.mpr (ordered.imp fun before => ne_of_lt before)
  · simp only [List.mem_map, List.mem_filter, Bool.and_eq_true, like_substringPattern,
      Option.all_eq_true, decide_eq_true_eq, and_assoc]

/-- A hit of a full-text match in the snapshot that passes the filters of the request. -/
def RemoteSearchRequest.SnapshotHit (request : RemoteSearchRequest) (snapshot : Snapshot)
    (matching : String → Bool) (hit : SearchHit)
    : Prop :=
  ∃ event ∈ snapshot.events,
    (∃ text ∈ snapshot.eventSearch,
      text.eventId = event.id ∧ matching text.searchText = true)
    ∧ request.acceptsSnapshot snapshot event = true
    ∧ snapshot.hit event = hit

/-- A hit of a full-text match in the projection that passes the filters of the request, for an
event that the snapshot does not hold and that owns its dedupe key.
-/
def RemoteSearchRequest.ProjectionHit (request : RemoteSearchRequest) (snapshot : Snapshot)
    (projection : Projection) (matching : String → Bool) (hit : SearchHit)
    : Prop :=
  ∃ row ∈ projection.events,
    (∃ text ∈ projection.search,
      text.eventId = row.eventId ∧ matching text.searchText = true)
    ∧ (∀ event ∈ snapshot.events, event.id ≠ row.eventId)
    ∧ (∀ key, row.dedupeKey = some key → projection.keyOwner key = some row.eventId)
    ∧ request.accepts row = true
    ∧ row.hit = hit

section Beside

variable {request : RemoteSearchRequest} {snapshot : Snapshot} {matching : String → Bool}

/-- The matches of the snapshot that a request asks for. -/
theorem mem_snapshotHits {hit : SearchHit}
    : hit ∈ ((snapshot.joinSearch matching).filter
          (request.acceptsSnapshot snapshot)).map snapshot.hit
      ↔ request.SnapshotHit snapshot matching hit := by
  simp only [List.mem_map, List.mem_filter, Snapshot.mem_joinSearch, and_assoc,
    RemoteSearchRequest.SnapshotHit]

theorem nodup_snapshotHits (once : (snapshot.eventSearch.map (·.eventId)).Nodup)
    : ((((snapshot.joinSearch matching).filter
          (request.acceptsSnapshot snapshot)).map snapshot.hit).map (·.eventId)).Nodup :=
  snapshot.nodup_hits
    ((snapshot.nodup_joinSearch matching once).sublist (List.filter_sublist.map _))

variable {projection : Projection}

/-- The matches of the projection lookup beside the snapshot. -/
theorem mem_projectionHits {hit : SearchHit}
    : hit ∈ ((projection.joinSearch matching).filter fun row =>
          projection.beside snapshot row && request.accepts row).map EventRow.hit
      ↔ request.ProjectionHit snapshot projection matching hit := by
  simp only [List.mem_map, List.mem_filter, Projection.mem_joinSearch, Projection.beside,
    Bool.and_eq_true, List.all_eq_true, Option.all_eq_true, decide_eq_true_eq, and_assoc,
    RemoteSearchRequest.ProjectionHit]

theorem nodup_projectionHits (once : (projection.search.map (·.eventId)).Nodup)
    : ((((projection.joinSearch matching).filter fun row =>
          projection.beside snapshot row && request.accepts row).map EventRow.hit).map
            (·.eventId)).Nodup := by
  rw [List.map_map]
  exact (projection.nodup_joinSearch matching once).sublist (List.filter_sublist.map _)

end Beside

/-- With a snapshot, `remote_snapshot_search` cuts its matches, together with those of the projection
where there is one, to the newest. Witness: the two cut queries, merged and cut again, select what
one cut of all their matches selects.
-/
theorem remoteSnapshotSearch_with_snapshot {fts : Fts} {tables : RemoteTables}
    {request : RemoteSearchRequest} {snapshot : Snapshot} {matching : String → Bool}
    (present : tables.snapshot = some snapshot) (nonblank : request.matchTerms ≠ [])
    (parsed : fts request.matchExpression = some matching)
    : ∃ hits,
        remoteSnapshotSearch fts tables request = .ok (newestHits request.limit hits)
        ∧ (∀ hit,
            hit ∈ hits
            ↔ request.SnapshotHit snapshot matching hit
              ∨ ∃ projection, tables.projection = some projection
                ∧ request.ProjectionHit snapshot projection matching hit)
        ∧ ((snapshot.eventSearch.map (·.eventId)).Nodup
            → (∀ projection, tables.projection = some projection
                → (projection.search.map (·.eventId)).Nodup)
            → (hits.map (·.eventId)).Nodup) := by
  have some' : request.matchTerms.isEmpty = false := by
    simpa [List.isEmpty_eq_false_iff] using nonblank
  cases projected : tables.projection with
  | none =>
      simp only [remoteSnapshotSearch, present, projected, some', parsed, Bool.false_eq_true,
        ↓reduceIte]
      refine ⟨_, rfl, fun hit => ?_, fun once _ => nodup_snapshotHits once⟩
      rw [mem_snapshotHits]
      simp
  | some projection =>
      simp only [remoteSnapshotSearch, present, projected, some', parsed, Bool.false_eq_true,
        ↓reduceIte]
      refine ⟨_, congrArg Except.ok (newest_append _ _ _), fun hit => ?_, fun once twice => ?_⟩
      · rw [List.mem_append, mem_snapshotHits, mem_projectionHits]
        simp
      · rw [List.map_append]
        refine List.nodup_append.mpr
          ⟨nodup_snapshotHits once, nodup_projectionHits (twice projection rfl), ?_⟩
        intro id inSnapshot other inProjection same
        obtain ⟨hit, left, rfl⟩ := List.mem_map.mp inSnapshot
        obtain ⟨event, held, -, -, rfl⟩ := mem_snapshotHits.mp left
        obtain ⟨beside, right, rfl⟩ := List.mem_map.mp inProjection
        obtain ⟨row, -, -, apart, -, -, rfl⟩ := mem_projectionHits.mp right
        exact apart event held same

/-- What the two entry points select from. Without a snapshot they are the same query for every
nonblank text, and cut to the newest the full-text matches of the projection. With a snapshot,
`search` cuts to the newest the live snapshot events whose payload contains the text, and
`remote_snapshot_search` cuts to the newest the full-text matches of the snapshot together with those
of the projected events, if there are any, that the snapshot does not hold; each event is selected
once where the full-text tables hold it once.
-/
theorem search_layouts (fts : Fts) (tables : RemoteTables)
    : (∀ args : SearchArgs,
        tables.snapshot = none
        → trim args.query ≠ []
        → search fts tables args = remoteSnapshotSearch fts tables args.request
          ∧ ∀ (projection : Projection) (matching : String → Bool),
              tables.projection = some projection
              → fts (ftsMatchQuery args.query) = some matching
              → ∃ hits,
                  search fts tables args = .ok (newestHits args.limit hits)
                  ∧ (∀ hit, hit ∈ hits ↔ args.ProjectedHit projection matching hit)
                  ∧ ((projection.search.map (·.eventId)).Nodup
                      → (hits.map (·.eventId)).Nodup))
      ∧ (∀ (args : SearchArgs) (snapshot : Snapshot),
          tables.snapshot = some snapshot
          → ∃ hits,
              search fts tables args = .ok (newestHits args.limit hits)
              ∧ (hits.map (·.eventId)).Nodup
              ∧ ∀ hit,
                  hit ∈ hits
                  ↔ ∃ event ∈ snapshot.live,
                      (∀ provider, args.provider = some provider
                        → snapshot.provider event = some provider)
                      ∧ ContainsText args.query event.payloadJson
                      ∧ snapshot.hit event = hit)
      ∧ ∀ (request : RemoteSearchRequest) (snapshot : Snapshot) (matching : String → Bool),
          tables.snapshot = some snapshot
          → request.matchTerms ≠ []
          → fts request.matchExpression = some matching
          → ∃ hits,
              remoteSnapshotSearch fts tables request = .ok (newestHits request.limit hits)
              ∧ (∀ hit,
                  hit ∈ hits
                  ↔ request.SnapshotHit snapshot matching hit
                    ∨ ∃ projection, tables.projection = some projection
                      ∧ request.ProjectionHit snapshot projection matching hit)
              ∧ ((snapshot.eventSearch.map (·.eventId)).Nodup
                  → (∀ projection, tables.projection = some projection
                      → (projection.search.map (·.eventId)).Nodup)
                  → (hits.map (·.eventId)).Nodup) :=
  ⟨fun args noSnapshot nonblank =>
      ⟨search_eq_remoteSnapshotSearch noSnapshot nonblank, fun _ _ projected parsed =>
        search_without_snapshot args noSnapshot projected parsed⟩,
    fun args _ present => search_with_snapshot args present,
    fun _ _ _ present nonblank parsed =>
      remoteSnapshotSearch_with_snapshot present nonblank parsed⟩

/-- FTS5 on one-word documents and one-word expressions. -/
def wordFts : Fts := fun expression =>
  some fun document => expression = '"' :: (document.toList ++ ['"'])

/-- A snapshot of the event `e1` beside a projection to which the event `e2` was pushed. -/
def twoLayouts : RemoteTables where
  projection :=
    some
      (Projection.empty.commitBatch
        ((oneEventStore "e2" "text" "h1").events.map
          (exportRow (oneEventStore "e2" "text" "h1").pushContext)))
  snapshot := some (oneEventSnapshot "e1" "text")

/-- The query `text` for at most five results. -/
def textQuery : SearchArgs := ⟨"text".toList, none, 5⟩

/-- The tables, searched for `text` in the projection alone, in the snapshot alone and in both. -/
theorem search_layouts_twoLayouts
    : (∃ hits,
        remoteSnapshotSearch wordFts { twoLayouts with snapshot := none } textQuery.request
          = .ok (newestHits 5 hits)
        ∧ (hits.map (·.eventId)).Nodup)
      ∧ (∃ hits,
          remoteSnapshotSearch wordFts { twoLayouts with projection := none } textQuery.request
            = .ok (newestHits 5 hits)
          ∧ (hits.map (·.eventId)).Nodup)
      ∧ ∃ hits,
          remoteSnapshotSearch wordFts twoLayouts textQuery.request = .ok (newestHits 5 hits)
          ∧ (hits.map (·.eventId)).Nodup := by
  refine ⟨?_, ?_, ?_⟩
  · obtain ⟨same, finds⟩ :=
      (search_layouts wordFts { twoLayouts with snapshot := none }).1 textQuery rfl (by decide)
    obtain ⟨hits, found, -, once⟩ := finds _ _ rfl rfl
    exact ⟨hits, same.symm.trans found, once (by decide)⟩
  · obtain ⟨hits, found, -, once⟩ :=
      (search_layouts wordFts { twoLayouts with projection := none }).2.2 textQuery.request
        (oneEventSnapshot "e1" "text") _ rfl (by decide) rfl
    exact ⟨hits, found, once (by decide) fun _ absent => by cases absent⟩
  · obtain ⟨hits, found, -, once⟩ :=
      (search_layouts wordFts twoLayouts).2.2 textQuery.request
        (oneEventSnapshot "e1" "text") _ rfl (by decide) rfl
    exact ⟨hits, found, once (by decide) fun projection present =>
      Option.some.inj present ▸ (by decide)⟩

/-- The pushed event is found by `remote_snapshot_search` and not by `search`. -/
theorem pushed_event_not_searched
    : (search wordFts twoLayouts textQuery).map (·.map (·.eventId)) = .ok ["e1"]
      ∧ (remoteSnapshotSearch wordFts twoLayouts textQuery.request).map
          (·.map (·.eventId)) = .ok ["e1", "e2"] := by
  decide

end CtxRemote.Turso
