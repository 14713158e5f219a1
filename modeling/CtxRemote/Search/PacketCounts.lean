import CtxRemote.Library.Firsts
import CtxRemote.Search.Packets

/-! How many results a packet has: those of the event path and of the record path, by what the store
finds.
-/

namespace CtxRemote.Search
open CtxRemote.Library
open CtxRemote.Store (Uuid)
open CtxRemote.Turso (trim)

variable {F : Type} {floats : Floats F} {tables : SearchTables}

-----------------------------------------------------------------------------------------
-- Clusters
-----------------------------------------------------------------------------------------

/-- Whether results with one id are one result. -/
def SearchResultMode.once : SearchResultMode → Bool
  | .sessions => true
  | .events => false

/-- The id of the cluster that a candidate's result is in. -/
def Candidate.clusterId (candidate : Candidate F) : Uuid :=
  candidate.displaySessionId.getD (candidate.primaryEventId.getD candidate.recordId)

/-- The id of the cluster that a hit's result is in. -/
def EventSearchHit.clusterId (hit : EventSearchHit F) : Uuid := hit.sessionId.getD hit.eventId

theorem clusterIds_modify (results : List (SearchPacketResult F)) (index : Nat)
    : (results.modify index (noteMatch floats)).map (·.clusterId) = results.map (·.clusterId) := by
  apply List.ext_getElem?
  intro i
  rw [List.getElem?_map, List.getElem?_map, List.getElem?_modify]
  split <;> cases results[i]? <;> rfl

/-- One more result is one more id. -/
theorem clusterIds_addResult {opened : SearchPacketResult F → SearchPacketResult F}
    (same : ∀ result, (opened result).clusterId = result.clusterId) (mode : SearchResultMode)
    (results : List (SearchPacketResult F)) (result : SearchPacketResult F)
    : (addResult floats mode opened results result).map (·.clusterId)
      = addFirst mode.once (results.map (·.clusterId)) result.clusterId := by
  cases mode with
  | events =>
      rw [addFirst, if_neg (by simp [SearchResultMode.once]), addResult, List.map_append]
      rfl
  | sessions =>
      unfold addResult
      cases found : results.findIdx? (·.clusterId = result.clusterId) with
      | none =>
          have absent : result.clusterId ∉ results.map (·.clusterId) := by
            intro member
            obtain ⟨other, inside, equal⟩ := List.mem_map.mp member
            have different := List.findIdx?_eq_none_iff.mp found other inside
            simp [equal] at different
          rw [addFirst, if_neg (by simp [absent])]
          simp [same]
      | some index =>
          have member : result.clusterId ∈ results.map (·.clusterId) := by
            obtain ⟨inside, equal, _⟩ := List.findIdx?_eq_some_iff_getElem.mp found
            exact List.mem_map.mpr ⟨_, List.getElem_mem inside, by simpa using equal⟩
          rw [addFirst, if_pos ⟨rfl, member⟩]
          exact clusterIds_modify results index

theorem clusterId_openCandidate (result : SearchPacketResult F)
    : (openCandidate floats result).clusterId = result.clusterId := by
  unfold openCandidate
  split <;> rfl

/-- The results of candidates, by induction on the candidates. -/
theorem clusterIds_pushCandidateResults (options : PacketOptions)
    (results : List (SearchPacketResult F)) (candidates : List (Candidate F))
    : (pushCandidateResults floats options results candidates).map (·.clusterId)
      = fill options.resultMode.once options.limit (results.map (·.clusterId))
        (candidates.map (·.clusterId)) := by
  induction candidates generalizing results with
  | nil => rfl
  | cons candidate rest ih =>
      have one := @clusterIds_addResult F floats (openCandidate floats) clusterId_openCandidate
        options.resultMode results (candidateSearchResult floats candidate)
      have size := congrArg List.length one
      rw [List.length_map] at size
      rw [pushCandidateResults, List.map_cons, fill, size, apply_ite (List.map _), ih, one]
      rfl

variable {matching : EventSearchHit F → Bool}

/-- The ids of the clusters of the hits that match. -/
def hitIds (matching : EventSearchHit F → Bool) (hits : List (EventSearchHit F)) : List Uuid :=
  (hits.filter matching).map (·.clusterId)

/-- The results of the hits of a page, by induction on the hits. -/
theorem clusterIds_addHits (mode : SearchResultMode) (target : Nat)
    (results : List (SearchPacketResult F)) (hits : List (EventSearchHit F))
    : (addHits floats mode target matching results hits).map (·.clusterId)
      = fill mode.once target (results.map (·.clusterId)) (hitIds matching hits) := by
  induction hits generalizing results with
  | nil => rfl
  | cons hit rest ih =>
      rw [addHits, hitIds]
      by_cases matches' : matching hit = true
      · have one := @clusterIds_addResult F floats (openEvent floats) (fun _ => rfl) mode results
          (eventSearchResult floats hit)
        have size := congrArg List.length one
        rw [List.length_map] at size
        rw [if_neg (by simp [matches']), List.filter_cons_of_pos matches', List.map_cons, fill]
        dsimp only
        rw [size, apply_ite (List.map _), ih, one]
        rfl
      · rw [if_pos (by simpa using matches'), List.filter_cons_of_neg matches', ih]
        rfl

-----------------------------------------------------------------------------------------
-- Pages of hits
-----------------------------------------------------------------------------------------

theorem page_append {α : Type} (found : List α) (size offset : Nat)
    : found.take (offset + size) = found.take offset ++ page found size offset := by
  rw [page, List.take_add]

theorem length_page {α : Type} (found : List α) (size offset : Nat)
    : (page found size offset).length = min size (found.length - offset) := by
  rw [page, List.length_take, List.length_drop]

/-- The clusters of the first hits, in their order. -/
def hitClusters (mode : SearchResultMode) (matching : EventSearchHit F → Bool)
    (hits : List (EventSearchHit F)) (rows : Nat) : List Uuid :=
  firsts mode.once (hitIds matching (hits.take rows))

theorem hitClusters_isPrefix (mode : SearchResultMode) (hits : List (EventSearchHit F)) {fewer more : Nat}
    (le : fewer ≤ more)
    : hitClusters mode matching hits fewer <+: hitClusters mode matching hits more := by
  apply firsts_isPrefix
  exact ((List.take_prefix_take_left le).filter matching).map _

/-- The results behind one more page. -/
theorem clusterIds_addPage {mode : SearchResultMode} {target size offset : Nat}
    {hits : List (EventSearchHit F)} {results : List (SearchPacketResult F)}
    (so : results.map (·.clusterId) = hitClusters mode matching hits offset)
    (room : results.length < target)
    : (addHits floats mode target matching results (page hits size offset)).map (·.clusterId)
      = (hitClusters mode matching hits (offset + size)).take target := by
  have room' : (results.map (·.clusterId)).length < target := by rwa [List.length_map]
  rw [clusterIds_addHits, fill_eq_take room', so, hitClusters, hitClusters, ← firsts_append, page_append,
    hitIds, hitIds, hitIds, List.filter_append, List.map_append]

/-- Where the search may stop before the budget, the first clusters up to the target are there. -/
theorem take_hitClusters {mode : SearchResultMode} {target : Nat} {hits : List (EventSearchHit F)}
    {fewer more : Nat} (le : fewer ≤ more)
    (stops : target ≤ (hitClusters mode matching hits fewer).length ∨ hits.length ≤ fewer)
    : (hitClusters mode matching hits more).take target
      = (hitClusters mode matching hits fewer).take target := by
  rcases stops with enough | short
  · obtain ⟨rest, same⟩ := @hitClusters_isPrefix F matching mode hits _ _ le
    rw [← same, List.take_append_of_le_length enough]
  · rw [hitClusters, hitClusters, List.take_of_length_le short, List.take_of_length_le (short.trans le)]

/-- The pages that are read have the first clusters of the rows within the budget, up to the target, and
the budget is exhausted when these are too few and there are rows behind it; by induction on the pages.
-/
theorem scanEventPages_spec {mode : SearchResultMode} {target size : Nat} (positive : 0 < size)
    {onePage : Bool} {hits : List (EventSearchHit F)} {pages offset : Nat} (more : 0 < pages)
    {results : List (SearchPacketResult F)}
    (so : results.map (·.clusterId) = hitClusters mode matching hits offset)
    (room : results.length < target)
    : let scan := scanEventPages size onePage target (addHits floats mode target matching) hits pages
        offset results
      let budget := offset + (if onePage then 1 else pages) * size
      scan.1.map (·.clusterId) = (hitClusters mode matching hits budget).take target
        ∧ (scan.2 = true ↔ onePage = false ∧ (hitClusters mode matching hits budget).length < target
          ∧ budget ≤ hits.length) := by
  induction pages generalizing offset results with
  | zero => exact absurd more (Nat.lt_irrefl 0)
  | succ pages ih =>
      have next := @clusterIds_addPage F floats matching mode target size offset hits results so room
      have length := congrArg List.length next
      rw [List.length_map, List.length_take] at length
      have short := length_page hits size offset
      rw [scanEventPages, Nat.max_eq_left positive]
      dsimp only
      by_cases single : onePage = true
      · simp only [single, Bool.true_or, if_true, Nat.one_mul]
        exact ⟨next, by simp⟩
      · rw [Bool.not_eq_true] at single
        simp only [single, Bool.false_or, Bool.false_eq_true, if_false, true_and]
        have within : offset + size ≤ offset + (pages + 1) * size := by
          rw [Nat.succ_mul]
          omega
        have prefix' := (@hitClusters_isPrefix F matching mode hits _ _ within).length_le
        split
        next stops =>
            rw [Bool.or_eq_true, decide_eq_true_eq, decide_eq_true_eq, length, short] at stops
            have stops' : target ≤ (hitClusters mode matching hits (offset + size)).length
                ∨ hits.length ≤ offset + size := by
              omega
            refine ⟨next.trans (take_hitClusters within stops').symm, ?_⟩
            simp only [Bool.false_eq_true, false_iff, not_and, not_le]
            omega
        next goes =>
            rw [Bool.or_eq_true, decide_eq_true_eq, decide_eq_true_eq, length, short] at goes
            split
            next last =>
                subst last
                rw [Nat.zero_add, Nat.one_mul]
                refine ⟨next, ?_⟩
                simp only [true_iff]
                omega
            next further =>
                have all : (hitClusters mode matching hits (offset + size)).take target
                    = hitClusters mode matching hits (offset + size) :=
                  List.take_of_length_le (by omega)
                rw [all] at next
                have later := ih (Nat.pos_of_ne_zero further) next (by omega)
                have budget : offset + size + pages * size = offset + (pages + 1) * size := by
                  rw [Nat.succ_mul]
                  omega
                simp only [single, Bool.false_eq_true, if_false, true_and, budget] at later
                exact later

-----------------------------------------------------------------------------------------
-- Pages of records
-----------------------------------------------------------------------------------------

/-- The rows that pages read: those up to the end of the first page where the search stops. -/
def rowsRead (size : Nat) (stops : Nat → Bool) : Nat → Nat → Nat
  | 0, rows => rows
  | pages + 1, rows =>
      if stops (rows + size) then rows + size else rowsRead size stops pages (rows + size)

/-- Whether a search stops behind some rows: it has enough candidates, or there are no more rows. -/
def stopsAt (add : List Uuid × List (Candidate F) → Uuid → List Uuid × List (Candidate F))
    (records : List Uuid) (target rows : Nat) : Bool :=
  target ≤ ((records.take rows).foldl add ([], [])).2.length || records.length < rows

/-- The pages that are read have the candidates of their rows, and the budget is exhausted when the search
does not stop behind them; by induction on the pages.
-/
theorem scanRecordPages_spec {size target : Nat} (positive : 0 < size)
    {add : List Uuid × List (Candidate F) → Uuid → List Uuid × List (Candidate F)} {records : List Uuid}
    {pages offset : Nat} (more : 0 < pages)
    : let read := rowsRead size (stopsAt add records target) pages offset
      scanRecordPages size target add records pages offset ((records.take offset).foldl add ([], []))
        = ⟨((records.take read).foldl add ([], [])).2, !stopsAt add records target read⟩ := by
  induction pages generalizing offset with
  | zero => exact absurd more (Nat.lt_irrefl 0)
  | succ pages ih =>
      have found : (page records size offset).foldl add ((records.take offset).foldl add ([], []))
          = (records.take (offset + size)).foldl add ([], []) := by
        rw [page_append, List.foldl_append]
      have short := length_page records size offset
      have same : (decide (target ≤ ((records.take (offset + size)).foldl add ([], [])).2.length)
            || decide ((page records size offset).length < size))
          = stopsAt add records target (offset + size) := by
        have ended : (page records size offset).length < size ↔ records.length < offset + size := by
          omega
        rw [stopsAt, decide_eq_decide.mpr ended]
      rw [scanRecordPages, rowsRead]
      dsimp only
      rw [found, same]
      split
      next stops => rw [stops]; rfl
      next goes =>
          split
          next last =>
              subst last
              rw [rowsRead, Bool.eq_false_iff.mpr goes]
              rfl
          next further => exact ih (Nat.pos_of_ne_zero further)

-----------------------------------------------------------------------------------------
-- What matches
-----------------------------------------------------------------------------------------

section Matching

variable (tables) (store : SearchStore F) (query : List Char) (options : PacketOptions)

/-- The file scope of a search. -/
def fileScopeOf : Option FileTouchScope := options.filters.file.map store.fileTouchScope

/-- A search for a provider without data, or for files that nothing touched. -/
def matchesNothing : Bool :=
  options.filters.provider.any (!store.hasProviderData ·) || (fileScopeOf store options).any (·.isEmpty)

/-- Whether the results are those of events. -/
def takesEvents : Bool :=
  trim query ≠ [] && !hasHistorySourceFilter options.filters
    && store.hasAtLeastEvents largeEventCorpusThreshold

/-- All hits of a query. -/
def foundHits : List (EventSearchHit F) := store.searchEventHits options.filters.eventType.isNone query

/-- Whether one page has all hits that are needed. -/
def onePage : Bool := !hasFilters options.filters && options.resultMode ≠ .sessions

/-- The rows of hits in the scan budget. -/
def hitBudget : Nat :=
  if onePage options then (foundHits store query options).length
  else filteredSearchMaxPages * eventPageSize options

/-- All records of a query, or of its files if it has no terms. -/
def foundRecords : List Uuid :=
  if (queryTerms tables query).isEmpty then (fileScopeOf store options).elim [] (·.historyRecordIds)
  else if trim query = [] then []
  else store.searchRecords query

/-- Whether records are read by pages. -/
def readsPages : Bool := !(queryTerms tables query).isEmpty && hasFilters options.filters

/-- The test of a record's scope. -/
def inScope : Uuid → Bool :=
  if (queryTerms tables query).isEmpty then fun _ => true
  else if hasFilters options.filters then inRecordScope (fileScopeOf store options)
  else fun record => (fileScopeOf store options).all (·.historyRecordIds.contains record)

/-- The step over one record of a search. -/
def addFound : List Uuid × List (Candidate F) → Uuid → List Uuid × List (Candidate F) :=
  addRecord store (queryTerms tables query) options.filters (fileScopeOf store options)
    (inScope tables store query options)

/-- The candidates of the first records. -/
def candidatesOf (rows : Nat) : List (Candidate F) :=
  (((foundRecords tables store query options).take rows).foldl (addFound tables store query options)
    ([], [])).2

/-- The size of a page of records. -/
def recordPageSize : Nat := max filteredSearchPageSize (options.limit + 1)

/-- The rows of records in the scan budget. -/
def recordBudget : Nat :=
  if readsPages tables query options then filteredSearchMaxPages * recordPageSize options
  else (foundRecords tables store query options).length

/-- The rows of records that a search reads. -/
def recordRows : Nat :=
  if (queryTerms tables query).isEmpty then (foundRecords tables store query options).length
  else if hasFilters options.filters then
    rowsRead (recordPageSize options) (stopsAt (addFound tables store query options)
      (foundRecords tables store query options) (options.limit + 1)) filteredSearchMaxPages 0
  else options.limit + 1

/-- How many results match within the scan budget, where those of a session are one if they are clustered. -/
def matchingResults : Nat :=
  if matchesNothing store options then 0
  else if takesEvents store query options then
    (hitClusters options.resultMode
      (eventHitMatchesFilters tables · options.filters (fileScopeOf store options))
      (foundHits store query options) (hitBudget store query options)).length
  else
    (firsts options.resultMode.once
      ((candidatesOf tables store query options (recordBudget tables store query options)).map
        (·.clusterId))).length

end Matching

-----------------------------------------------------------------------------------------
-- Candidates in order
-----------------------------------------------------------------------------------------

theorem clusterIds_normalizeScores (candidates : List (Candidate F))
    : (normalizeScores floats candidates).map (·.clusterId) = candidates.map (·.clusterId) := by
  unfold normalizeScores
  dsimp only
  split <;> simp only [List.map_map] <;> rfl

/-- The candidates in order are those that were found, in clusters as before. -/
theorem clusterIds_rankCandidates (target : Nat) (candidates : List (Candidate F))
    : ∃ ids : List Uuid, ids.Perm (candidates.map (·.clusterId))
      ∧ (rankCandidates floats target candidates).map (·.clusterId) = ids.take target := by
  refine ⟨_, ?_, List.map_take⟩
  rw [← clusterIds_normalizeScores candidates]
  exact (List.perm_insertionSort (fun left right => compareCandidates floats left right ≠ .gt)
    (normalizeScores floats candidates)).map _

theorem length_rankCandidates (target : Nat) (candidates : List (Candidate F))
    : (rankCandidates floats target candidates).length = min target candidates.length := by
  obtain ⟨ids, perm, same⟩ := @clusterIds_rankCandidates F floats target candidates
  have length := congrArg List.length same
  rw [List.length_map, List.length_take, perm.length_eq, List.length_map] at length
  exact length

section Counts

variable (floats) (tables) (store : SearchStore F) (query : List Char) (options : PacketOptions)

/-- The candidates of a search are the best of the records that it reads. -/
theorem rankedCandidates_eq
    : rankedCandidates floats tables store query options (fileScopeOf store options)
      = ⟨rankCandidates floats (options.limit + 1)
          (candidatesOf tables store query options (recordRows tables store query options)),
        readsPages tables query options && !stopsAt (addFound tables store query options)
          (foundRecords tables store query options) (options.limit + 1)
          (recordRows tables store query options)⟩ := by
  unfold rankedCandidates candidatesOf recordRows readsPages addFound inScope foundRecords
  by_cases termless : (queryTerms tables query).isEmpty = true
  · cases fileScopeOf store options with
    | none =>
        have nothing : rankCandidates floats (options.limit + 1) [] = [] := by
          apply List.eq_nil_of_length_eq_zero
          rw [length_rankCandidates, List.length_nil, Nat.min_zero]
        simp [termless, nothing]
    | some scope => simp [termless]
  · by_cases filtered : hasFilters options.filters = true
    · have positive : 0 < recordPageSize options := by
        unfold recordPageSize
        omega
      have scan := @scanRecordPages_spec F (recordPageSize options) (options.limit + 1) positive
        (addRecord store (queryTerms tables query) options.filters (fileScopeOf store options)
          (inRecordScope (fileScopeOf store options)))
        (if trim query = [] then [] else store.searchRecords query) filteredSearchMaxPages 0 (by decide)
      dsimp only [List.take_zero, List.foldl_nil] at scan
      have size : max filteredSearchPageSize (options.limit + 1) = recordPageSize options := rfl
      simp only [termless, filtered, size, scan]
      simp
    · simp [termless, filtered, page]

/-- The packet of the record path has a result for each cluster of its candidates, up to the limit. -/
theorem length_recordSearchPacket (some' : 0 < options.limit)
    : (recordSearchPacket floats tables store query options (fileScopeOf store options)).results.length
      = min options.limit (firsts options.resultMode.once
        ((rankedCandidates floats tables store query options
          (fileScopeOf store options)).candidates.map (·.clusterId))).length := by
  have ids := @clusterIds_pushCandidateResults F floats options []
    (rankedCandidates floats tables store query options (fileScopeOf store options)).candidates
  rw [List.map_nil, fill_eq_take (by simpa using some')] at ids
  have length := congrArg List.length ids
  rw [List.length_map, List.length_take] at length
  exact length

/-- The rows of hits that a search may read. -/
def hitRows : Nat := (if onePage options then 1 else filteredSearchMaxPages) * eventPageSize options

/-- The clusters of the hits that a search may read. -/
def clustersRead : List Uuid :=
  hitClusters options.resultMode (eventHitMatchesFilters tables · options.filters (fileScopeOf store options))
    (foundHits store query options) (hitRows options)

theorem eventPageSize_pos : 0 < eventPageSize options := by
  unfold eventPageSize
  dsimp only
  split
  next => omega
  next => split <;> omega

theorem length_normalizeSearchResultRanks (results : List (SearchPacketResult F))
    : (normalizeSearchResultRanks floats results).length = results.length := by
  unfold normalizeSearchResultRanks
  dsimp only
  split
  next => rfl
  next => rw [List.length_map]

theorem not_takesEvents
    : (decide (trim query = []) || hasHistorySourceFilter options.filters
        || !store.hasAtLeastEvents largeEventCorpusThreshold)
      = !takesEvents store query options := by
  unfold takesEvents
  by_cases blank : trim query = []
  · simp [blank]
  · simp [blank, Bool.not_and]

theorem fastEventSearchPacket_eq_none (refuses : takesEvents store query options = false)
    : fastEventSearchPacket floats tables store query options (fileScopeOf store options) = none := by
  have refused := not_takesEvents store query options
  rw [refuses] at refused
  exact if_pos refused

/-- The packet of the event path has a result for each cluster of the hits, up to the limit, and says that
there is more when there are more clusters, or when the rows of the scan budget are used up.
-/
theorem fastEventSearchPacket_spec (takes : takesEvents store query options = true)
    : ∃ packet, fastEventSearchPacket floats tables store query options (fileScopeOf store options)
        = some packet
      ∧ packet.results.length = min options.limit (clustersRead tables store query options).length
      ∧ packet.truncation.truncated = packet.pagination.hasMore
      ∧ (packet.truncation.reason = some "scan_budget" ↔ onePage options = false
        ∧ (clustersRead tables store query options).length ≤ options.limit
        ∧ hitRows options ≤ (foundHits store query options).length)
      ∧ (packet.pagination.hasMore = true
        ↔ options.limit < (clustersRead tables store query options).length
          ∨ packet.truncation.reason = some "scan_budget") := by
  have start : ([] : List (SearchPacketResult F)).map (·.clusterId)
      = hitClusters options.resultMode
        (eventHitMatchesFilters tables · options.filters (fileScopeOf store options))
        (foundHits store query options) 0 :=
    rfl
  have scan := @scanEventPages_spec F floats _ _ (options.limit + 1) _ (eventPageSize_pos options)
    (onePage options) _ filteredSearchMaxPages 0 (by decide) [] start (Nat.succ_pos _)
  have single : (!hasFilters options.filters && decide (options.resultMode ≠ .sessions))
      = onePage options :=
    rfl
  have hits : store.searchEventHits options.filters.eventType.isNone query
      = foundHits store query options :=
    rfl
  have goes := not_takesEvents store query options
  rw [takes] at goes
  rw [Nat.zero_add] at scan
  unfold fastEventSearchPacket
  rw [if_neg (by rw [goes]; exact Bool.false_ne_true)]
  dsimp only at scan ⊢
  rw [single, hits]
  generalize scanEventPages (eventPageSize options) (onePage options) (options.limit + 1) _ _ _ _ _ = result
    at scan ⊢
  obtain ⟨found, exhausted⟩ := result
  obtain ⟨ids, budget⟩ := scan
  have length := congrArg List.length ids
  rw [List.length_map, List.length_take] at length
  change found.length = min (options.limit + 1) (clustersRead tables store query options).length at length
  change exhausted = true ↔ onePage options = false
    ∧ (clustersRead tables store query options).length < options.limit + 1
    ∧ hitRows options ≤ (foundHits store query options).length at budget
  rw [Nat.lt_succ_iff] at budget
  have more : options.limit < found.length
      ↔ options.limit < (clustersRead tables store query options).length := by
    omega
  refine ⟨_, rfl, ?_, ?_, ?_, ?_⟩
  · rw [length_normalizeSearchResultRanks, List.length_take, length]
    omega
  · cases exhausted with
    | true => simp [pagination]
    | false => by_cases full : options.limit < found.length <;> simp [pagination, full]
  · rw [← budget]
    cases exhausted with
    | true => simp
    | false => by_cases full : options.limit < found.length <;> simp [full]
  · rw [← more]
    cases exhausted with
    | true => simp [pagination]
    | false => by_cases full : options.limit < found.length <;> simp [pagination, full]

theorem limit_normalizedOptions
    : 0 < (normalizedOptions options).limit ∧ (normalizedOptions options).limit ≤ maxResultLimit := by
  have size : maxResultLimit = 200 := rfl
  change 0 < min (max options.limit 1) maxResultLimit ∧ min (max options.limit 1) maxResultLimit ≤ _
  omega

theorem searchPacket_of_matchesNothing (nothing : matchesNothing store (normalizedOptions options) = true)
    : searchPacket floats tables store query options
      = emptySearchPacket query (normalizedOptions options) := by
  unfold matchesNothing at nothing
  rw [Bool.or_eq_true] at nothing
  unfold searchPacket
  dsimp only
  split
  next => rfl
  next data =>
      exact if_pos (nothing.resolve_left data)

theorem searchPacket_of_takesEvents (something : matchesNothing store (normalizedOptions options) = false)
    {packet : SearchPacket F}
    (fast : fastEventSearchPacket floats tables store query (normalizedOptions options)
      (fileScopeOf store (normalizedOptions options)) = some packet)
    : searchPacket floats tables store query options = packet := by
  unfold matchesNothing at something
  rw [Bool.or_eq_false_iff] at something
  unfold searchPacket
  dsimp only
  rw [if_neg (by rw [something.1]; exact Bool.false_ne_true)]
  change (if (fileScopeOf store (normalizedOptions options)).any (·.isEmpty) then _
    else (fastEventSearchPacket floats tables store query (normalizedOptions options)
      (fileScopeOf store (normalizedOptions options))).getD _) = _
  rw [something.2, fast]
  rfl

theorem searchPacket_of_records (something : matchesNothing store (normalizedOptions options) = false)
    (refuses : takesEvents store query (normalizedOptions options) = false)
    : searchPacket floats tables store query options
      = recordSearchPacket floats tables store query (normalizedOptions options)
        (fileScopeOf store (normalizedOptions options)) := by
  have none := fastEventSearchPacket_eq_none floats tables store query _ refuses
  unfold matchesNothing at something
  rw [Bool.or_eq_false_iff] at something
  unfold searchPacket
  dsimp only
  rw [if_neg (by rw [something.1]; exact Bool.false_ne_true)]
  change (if (fileScopeOf store (normalizedOptions options)).any (·.isEmpty) then _
    else (fastEventSearchPacket floats tables store query (normalizedOptions options)
      (fileScopeOf store (normalizedOptions options))).getD
        (recordSearchPacket floats tables store query (normalizedOptions options)
          (fileScopeOf store (normalizedOptions options)))) = _
  rw [something.2, none]
  rfl

end Counts

end CtxRemote.Search
