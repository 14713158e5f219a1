import CtxRemote.Search.PacketCounts

/-! When a packet is filled: as many results as are asked for, where as many match within the scan budget. -/

namespace CtxRemote.Search
open CtxRemote.Library
open CtxRemote.Store (Uuid)

variable {F : Type} (floats : Floats F) (tables : SearchTables) (store : SearchStore F)
  (query : List Char) (options : PacketOptions)

-----------------------------------------------------------------------------------------
-- The event path
-----------------------------------------------------------------------------------------

/-- Without filters every hit matches. -/
theorem eventHitMatchesFilters_of_unfiltered {filters : SearchFilters} (plain : hasFilters filters = false)
    (hit : EventSearchHit F) (scope : String → FileTouchScope)
    : eventHitMatchesFilters tables hit filters (filters.file.map scope) = true := by
  simp only [hasFilters, Bool.or_eq_false_iff, Option.isSome_eq_false_iff, Option.isNone_iff_eq_none,
    Bool.not_eq_false'] at plain
  obtain ⟨⟨⟨⟨⟨⟨⟨⟨⟨session, provider⟩, repo⟩, since⟩, primary⟩, subagents⟩, event⟩, file⟩, excluded⟩, -⟩ := plain
  simp [eventHitMatchesFilters, eventHitMatchesExcludedProviderSession, eventHitMatchesAgentScope, session,
    provider, repo, since, primary, subagents, event, file, excluded]

/-- The results of unclustered hits that all match. -/
theorem length_hitClusters_all {matching : EventSearchHit F → Bool} (all : ∀ hit, matching hit = true)
    (hits : List (EventSearchHit F)) (rows : Nat)
    : (hitClusters .events matching hits rows).length = min rows hits.length := by
  rw [hitClusters, hitIds, List.filter_eq_self.mpr fun hit _ => all hit]
  rw [show SearchResultMode.events.once = false from rfl, firsts_false, List.length_map, List.length_take]

/-- One page is enough where nothing is filtered or clustered. -/
theorem plain_of_onePage (single : onePage options = true)
    : hasFilters options.filters = false ∧ options.resultMode = .events
      ∧ eventPageSize options = options.limit + 1 := by
  unfold onePage at single
  unfold eventPageSize
  cases mode : options.resultMode <;> simp_all

/-- The clusters that are read where one page is enough. -/
theorem length_clustersRead_of_onePage (single : onePage options = true)
    : (clustersRead tables store query options).length
      = min (options.limit + 1) (foundHits store query options).length := by
  obtain ⟨plain, mode, size⟩ := plain_of_onePage options single
  have all (hit : EventSearchHit F)
      : eventHitMatchesFilters tables hit options.filters (fileScopeOf store options) = true :=
    eventHitMatchesFilters_of_unfiltered tables plain hit store.fileTouchScope
  rw [clustersRead, mode, length_hitClusters_all all, hitRows, if_pos single, size, Nat.one_mul]

/-- The rows that the event path may read have enough clusters if those in the budget have. -/
theorem le_clustersRead
    (enough : options.limit ≤ (hitClusters options.resultMode
      (eventHitMatchesFilters tables · options.filters (fileScopeOf store options))
      (foundHits store query options) (hitBudget store query options)).length)
    : options.limit ≤ (clustersRead tables store query options).length := by
  by_cases single : onePage options = true
  · obtain ⟨plain, mode, -⟩ := plain_of_onePage options single
    have all (hit : EventSearchHit F)
        : eventHitMatchesFilters tables hit options.filters (fileScopeOf store options) = true :=
      eventHitMatchesFilters_of_unfiltered tables plain hit store.fileTouchScope
    rw [mode, length_hitClusters_all all, hitBudget, if_pos single] at enough
    rw [length_clustersRead_of_onePage tables store query options single]
    omega
  · rw [hitBudget, if_neg single] at enough
    rw [clustersRead, hitRows, if_neg single]
    exact enough

-----------------------------------------------------------------------------------------
-- The record path
-----------------------------------------------------------------------------------------

theorem candidatesOf_isPrefix {fewer more : Nat} (le : fewer ≤ more)
    : candidatesOf tables store query options fewer <+: candidatesOf tables store query options more := by
  have grows (found : List Uuid × List (Candidate F)) (records : List Uuid)
      : found.2 <+: (records.foldl (addFound tables store query options) found).2 := by
    induction records generalizing found with
    | nil => exact List.prefix_refl _
    | cons record rest ih =>
        refine List.IsPrefix.trans ?_ (ih _)
        unfold addFound addRecord
        split
        next => exact List.prefix_refl _
        next => split <;> simp
  obtain ⟨rest, same⟩ := List.take_prefix_take_left (l := foundRecords tables store query options) le
  rw [candidatesOf, candidatesOf, ← same, List.foldl_append]
  exact grows _ rest

/-- The rows that have all records have all candidates. -/
theorem length_candidatesOf_le {rows : Nat}
    (ended : (foundRecords tables store query options).length ≤ rows) (other : Nat)
    : (candidatesOf tables store query options other).length
      ≤ (candidatesOf tables store query options rows).length := by
  have part := @candidatesOf_isPrefix F tables store query options _ _ (Nat.le_max_left other rows)
  refine part.length_le.trans_eq ?_
  rw [candidatesOf, candidatesOf, List.take_of_length_le ended,
    List.take_of_length_le (ended.trans (Nat.le_max_right _ _))]

/-- Pages are read up to where the search stops, or up to the end of the budget. -/
theorem rowsRead_cases (size : Nat) (stops : Nat → Bool) {pages : Nat} (more : 0 < pages) (rows : Nat)
    : stops (rowsRead size stops pages rows) = true
      ∨ rowsRead size stops pages rows = rows + pages * size := by
  induction pages generalizing rows with
  | zero => exact absurd more (Nat.lt_irrefl 0)
  | succ pages ih =>
      rw [rowsRead]
      split
      next here => exact .inl here
      next goes =>
          cases pages with
          | zero =>
              right
              rw [rowsRead, Nat.zero_add, Nat.one_mul]
          | succ pages =>
              rcases ih (Nat.succ_pos pages) (rows + size) with there | last
              · exact .inl there
              · right
                rw [last, Nat.succ_mul (pages + 1)]
                omega

/-- Pages that are read have enough candidates if those in the budget have. -/
theorem le_candidatesOf_recordRows (pages : readsPages tables query options = true)
    (enough : options.limit
      ≤ (candidatesOf tables store query options (recordBudget tables store query options)).length)
    : options.limit
      ≤ (candidatesOf tables store query options (recordRows tables store query options)).length := by
  unfold recordBudget at enough
  rw [if_pos pages] at enough
  rw [readsPages, Bool.and_eq_true, Bool.not_eq_true'] at pages
  have rows : recordRows tables store query options
      = rowsRead (recordPageSize options) (stopsAt (addFound tables store query options)
        (foundRecords tables store query options) (options.limit + 1)) filteredSearchMaxPages 0 := by
    rw [recordRows, if_neg (by rw [pages.1]; exact Bool.false_ne_true), if_pos pages.2]
  have cases' := rowsRead_cases (recordPageSize options) (stopsAt (addFound tables store query options)
    (foundRecords tables store query options) (options.limit + 1))
    (show 0 < filteredSearchMaxPages by decide) 0
  rw [← rows, Nat.zero_add] at cases'
  rcases cases' with stops | last
  · rw [stopsAt, Bool.or_eq_true, decide_eq_true_eq, decide_eq_true_eq] at stops
    rcases stops with full | ended
    · exact (Nat.le_succ _).trans full
    · exact enough.trans (length_candidatesOf_le tables store query options (Nat.le_of_lt ended) _)
  · rw [last]
    exact enough

/-- The first candidates of the records that a search reads, one more than the limit: in the order of
their scores, with the newest first among equal ones, then by title and id.
-/
def bestCandidates : List (Candidate F) :=
  ((normalizeScores floats
      (candidatesOf tables store query options (recordRows tables store query options))).insertionSort
    fun left right => compareCandidates floats left right ≠ .gt).take (options.limit + 1)

/-- Where results come from records, the candidates are spread over enough of them: clustered by session,
the best ones, one more than the limit, are of at least so many sessions as the limit; else, where only the
first records are read, one more than the limit, at least so many of these are candidates.
-/
def SpreadOut : Prop :=
  matchesNothing store options = false → takesEvents store query options = false →
    options.limit ≤ matchingResults tables store query options →
      match options.resultMode with
      | .sessions =>
          options.limit
            ≤ (firsts true ((bestCandidates floats tables store query options).map (·.clusterId))).length
      | .events =>
          (queryTerms tables query).isEmpty = false → hasFilters options.filters = false →
            options.limit ≤ (candidatesOf tables store query options (options.limit + 1)).length

/-- The results of records that are not clustered. -/
theorem length_records_of_events (some' : 0 < options.limit) (mode : options.resultMode = .events)
    : (recordSearchPacket floats tables store query options (fileScopeOf store options)).results.length
      = min options.limit
        (candidatesOf tables store query options (recordRows tables store query options)).length := by
  rw [length_recordSearchPacket floats tables store query options some', rankedCandidates_eq, mode]
  rw [show SearchResultMode.events.once = false from rfl, firsts_false, List.length_map,
    length_rankCandidates]
  omega

/-- The packet of the record path is filled exactly where the candidates are spread over enough results. -/
theorem records_fill_iff (some' : 0 < options.limit) (something : matchesNothing store options = false)
    (refuses : takesEvents store query options = false)
    : (options.limit ≤ matchingResults tables store query options →
          options.limit ≤ (recordSearchPacket floats tables store query options
            (fileScopeOf store options)).results.length)
      ↔ SpreadOut floats tables store query options := by
  unfold SpreadOut
  simp only [something, refuses, true_imp_iff]
  apply imp_congr_right
  intro enough
  cases mode : options.resultMode with
  | sessions =>
      rw [length_recordSearchPacket floats tables store query options some', rankedCandidates_eq, mode,
        Nat.le_min]
      exact and_iff_right (Nat.le_refl _)
  | events =>
      rw [length_records_of_events floats tables store query options some' mode, Nat.le_min,
        and_iff_right (Nat.le_refl _)]
      dsimp only
      have found : matchingResults tables store query options
          = (candidatesOf tables store query options (recordBudget tables store query options)).length := by
        rw [matchingResults, something, refuses, mode]
        rw [show SearchResultMode.events.once = false from rfl, firsts_false, List.length_map]
        rfl
      rw [found] at enough
      by_cases termless : (queryTerms tables query).isEmpty = true
      · have rows : recordRows tables store query options = recordBudget tables store query options := by
          rw [recordRows, if_pos termless, recordBudget, if_neg (by simp [readsPages, termless])]
        rw [rows]
        exact iff_of_true enough fun terms => absurd (termless.symm.trans terms) Bool.false_ne_true.symm
      · by_cases filtered : hasFilters options.filters = true
        · have pages : readsPages tables query options = true := by
            simp [readsPages, termless, filtered]
          have read := le_candidatesOf_recordRows tables store query options pages enough
          exact iff_of_true read fun _ plain => absurd (filtered.symm.trans plain) Bool.false_ne_true.symm
        · have rows : recordRows tables store query options = options.limit + 1 := by
            rw [recordRows, if_neg termless, if_neg filtered]
          simp [rows, termless, filtered]

/-- For every store, query and options, a packet has as many results as the limit, where as many match
within the scan budget, exactly when its results come from events or the candidates of its records are
spread over enough results.
-/
theorem searchPacket_fills_iff
    : ((normalizedOptions options).limit ≤ matchingResults tables store query (normalizedOptions options) →
        (normalizedOptions options).limit
          ≤ (searchPacket floats tables store query options).results.length)
      ↔ SpreadOut floats tables store query (normalizedOptions options) := by
  obtain ⟨some', -⟩ := limit_normalizedOptions options
  by_cases nothing : matchesNothing store (normalizedOptions options) = true
  · have none : matchingResults tables store query (normalizedOptions options) = 0 := by
      rw [matchingResults, if_pos nothing]
    refine iff_of_true (fun enough => ?_) (fun something => ?_)
    · rw [none] at enough
      omega
    · rw [nothing] at something
      cases something
  · rw [Bool.not_eq_true] at nothing
    by_cases takes : takesEvents store query (normalizedOptions options) = true
    · obtain ⟨packet, fast, length, -⟩ := fastEventSearchPacket_spec floats tables store query _ takes
      rw [searchPacket_of_takesEvents floats tables store query options nothing fast, length]
      refine iff_of_true (fun enough => ?_) (fun _ refuses => ?_)
      · rw [matchingResults, nothing, takes] at enough
        have read := le_clustersRead tables store query _ enough
        omega
      · rw [takes] at refuses
        cases refuses
    · rw [Bool.not_eq_true] at takes
      rw [searchPacket_of_records floats tables store query options nothing takes]
      exact records_fill_iff floats tables store query _ some' nothing takes

/-- The arithmetic of a search whose scores are whole numbers that divide. -/
def wholeFloats : Floats Nat where
  zero := 0
  one := 1
  add := (· + ·)
  mul := (· * ·)
  div := (· / ·)
  max := max
  ofNat := id
  isPositive := (0 < ·)
  clamp := (min · 1)
  totalCmp := compare
  eventRank := id
  coverageBoost _ := 0

/-- A record with one matched term and a score of one. -/
def oneMatch (recordId sessionId : Uuid) (updatedAt : Int) : Candidate Nat where
  recordId
  updatedAt := ⟨updatedAt⟩
  title := "needle"
  score := 1
  matchedTermCount := 1
  primaryEventId := none
  displaySessionId := some sessionId
  displayEventId := none

/-- A store with four records of two sessions, of which the first session has the three newest. -/
def clusteredStore : SearchStore Nat :=
  let first : Uuid := ⟨"0198b6c1-10aa-7f01-8a11-3d5e7f901b2c", by decide, by decide⟩
  let second : Uuid := ⟨"0198b6c1-10aa-7f02-8a11-3d5e7f901b2c", by decide, by decide⟩
  let third : Uuid := ⟨"0198b6c1-10aa-7f03-8a11-3d5e7f901b2c", by decide, by decide⟩
  let fourth : Uuid := ⟨"0198b6c1-10aa-7f04-8a11-3d5e7f901b2c", by decide, by decide⟩
  let large : Uuid := ⟨"0198b6c1-20bb-7f05-8a11-3d5e7f901b2c", by decide, by decide⟩
  let small : Uuid := ⟨"0198b6c1-20bb-7f06-8a11-3d5e7f901b2c", by decide, by decide⟩
  {
    hasProviderData _ := true
    fileTouchScope _ := ⟨[], [], [], [], []⟩
    hasAtLeastEvents _ := false
    searchRecords _ := [first, second, third, fourth]
    searchEventHits _ _ := []
    candidateForRecord record _ _ _ :=
      some (oneMatch record (if record = fourth then small else large)
        (if record = fourth then 1000000000 else 2000000000))
  }

/-- Two sessions match, and two results are asked for, but the best three records are of one session. -/
theorem searchPacket_underfills
    : ¬((normalizedOptions ⟨2, 320, {}, .sessions⟩).limit
          ≤ matchingResults ⟨⟨fun c => [c.toLower], Char.isAlpha, fun _ => false⟩, Char.isAlphanum⟩
            clusteredStore "needle".toList (normalizedOptions ⟨2, 320, {}, .sessions⟩) →
        (normalizedOptions ⟨2, 320, {}, .sessions⟩).limit
          ≤ (searchPacket wholeFloats
            ⟨⟨fun c => [c.toLower], Char.isAlpha, fun _ => false⟩, Char.isAlphanum⟩
            clusteredStore "needle".toList ⟨2, 320, {}, .sessions⟩).results.length) := by
  decide +kernel

end CtxRemote.Search
