import CtxRemote.Library.Stopping
import CtxRemote.Search.PacketCounts

/-! What the results of a packet are: one for each hit or candidate that is read, or one for each cluster
of these, with the number of its other matches.
-/

namespace CtxRemote.Search
open CtxRemote.Library
open CtxRemote.Store (Uuid)

variable {F : Type} {floats : Floats F} {tables : SearchTables}

-----------------------------------------------------------------------------------------
-- Groups
-----------------------------------------------------------------------------------------

/-- How many of some results are in a cluster. -/
def matchCount (id : Uuid) (results : List (SearchPacketResult F)) : Nat :=
  results.countP (·.clusterId = id)

/-- The results of matches. Each match is one where results are not clustered. Otherwise the first match of
a cluster is opened, and those behind it are counted.
-/
def groupedResults (floats : Floats F) (mode : SearchResultMode)
    (opened : SearchPacketResult F → SearchPacketResult F)
    : List (SearchPacketResult F) → List (SearchPacketResult F)
  | [] => []
  | found :: rest =>
      match mode with
      | .events => found :: groupedResults floats mode opened rest
      | .sessions =>
          (noteMatch floats)^[matchCount found.clusterId rest] (opened found)
            :: (groupedResults floats mode opened rest).filter (·.clusterId ≠ found.clusterId)

theorem noteMatch_clusterId (result : SearchPacketResult F)
    : (noteMatch floats result).clusterId = result.clusterId :=
  rfl

variable {opened : SearchPacketResult F → SearchPacketResult F}

/-- A match is counted at the first result of its cluster. -/
theorem addResult_cons (first : SearchPacketResult F) (rest : List (SearchPacketResult F))
    (found : SearchPacketResult F)
    : addResult floats .sessions opened (first :: rest) found
      = if first.clusterId = found.clusterId then noteMatch floats first :: rest
        else first :: addResult floats .sessions opened rest found := by
  unfold addResult
  dsimp only
  rw [List.findIdx?_cons]
  by_cases same : first.clusterId = found.clusterId
  · simp [same]
  · simp only [same, decide_false, Bool.false_eq_true, if_false]
    cases rest.findIdx? (·.clusterId = found.clusterId) <;> rfl

/-- The results outside of a cluster, after one more match. -/
theorem filter_addResult (same : ∀ result, (opened result).clusterId = result.clusterId) (id : Uuid)
    (results : List (SearchPacketResult F)) (found : SearchPacketResult F)
    : (addResult floats .sessions opened results found).filter (·.clusterId ≠ id)
      = if found.clusterId = id then results.filter (·.clusterId ≠ id)
        else addResult floats .sessions opened (results.filter (·.clusterId ≠ id)) found := by
  induction results with
  | nil =>
      change [opened found].filter _ = if _ then [] else [opened found]
      by_cases inside : found.clusterId = id <;> simp [same, inside]
  | cons first rest ih =>
      rw [addResult_cons]
      by_cases counted : first.clusterId = found.clusterId
      · rw [if_pos counted]
        by_cases inside : found.clusterId = id
        · rw [if_pos inside, List.filter_cons_of_neg (by simp [noteMatch_clusterId, counted, inside]),
            List.filter_cons_of_neg (by simp [counted, inside])]
        · rw [if_neg inside, List.filter_cons_of_pos (by simp [noteMatch_clusterId, counted, inside]),
            List.filter_cons_of_pos (by simp [counted, inside]), addResult_cons, if_pos counted]
      · rw [if_neg counted]
        by_cases dropped : first.clusterId = id
        · rw [List.filter_cons_of_neg (by simp [dropped]), List.filter_cons_of_neg (by simp [dropped]), ih]
        · rw [List.filter_cons_of_pos (by simp [dropped]), List.filter_cons_of_pos (by simp [dropped]), ih,
            addResult_cons, if_neg counted, apply_ite (List.cons first)]

/-- One more match, by induction on the matches before it. -/
theorem groupedResults_concat (same : ∀ result, (opened result).clusterId = result.clusterId)
    (mode : SearchResultMode) (matches' : List (SearchPacketResult F)) (found : SearchPacketResult F)
    : groupedResults floats mode opened (matches' ++ [found])
      = addResult floats mode opened (groupedResults floats mode opened matches') found := by
  induction matches' with
  | nil => cases mode <;> rfl
  | cons first rest ih =>
      cases mode with
      | events =>
          rw [List.cons_append, groupedResults, groupedResults, ih]
          rfl
      | sessions =>
          rw [List.cons_append, groupedResults, groupedResults, addResult_cons, ih, filter_addResult same]
          have head (count : Nat)
              : ((noteMatch floats)^[count] (opened first)).clusterId = first.clusterId := by
            induction count with
            | zero => exact same first
            | succ count ih => rwa [Function.iterate_succ_apply', noteMatch_clusterId]
          rw [head, matchCount, List.countP_append]
          by_cases counted : first.clusterId = found.clusterId
          · rw [if_pos counted.symm, if_pos counted, List.countP_singleton, counted,
              if_pos (by simp), Function.iterate_succ_apply']
            rfl
          · rw [if_neg (Ne.symm counted), if_neg counted, List.countP_singleton,
              if_neg (by simp [Ne.symm counted])]
            rfl

/-- The loop over matches collects their groups, by induction on the matches from the last one. -/
theorem foldl_addResult (same : ∀ result, (opened result).clusterId = result.clusterId)
    (mode : SearchResultMode) (matches' : List (SearchPacketResult F))
    : matches'.foldl (addResult floats mode opened) [] = groupedResults floats mode opened matches' := by
  induction matches' using List.reverseRecOn with
  | nil => cases mode <;> rfl
  | append_singleton before found ih =>
      rw [List.foldl_append, ih, groupedResults_concat same]
      rfl

-----------------------------------------------------------------------------------------
-- What a loop collects
-----------------------------------------------------------------------------------------

/-- Whether there are as many results as are wanted. -/
def hasResults (target : Nat) (results : List (SearchPacketResult F)) : Bool := target ≤ results.length

/-- Some results are the groups of the first matches, up to the one that makes them as many as are wanted,
or of all matches if they are not as many.
-/
def Collects (floats : Floats F) (mode : SearchResultMode)
    (opened : SearchPacketResult F → SearchPacketResult F) (target : Nat)
    (found results : List (SearchPacketResult F)) : Prop :=
  ∃ read, read <+: found
    ∧ results = groupedResults floats mode opened read
    ∧ (read = found ∨ target ≤ results.length)
    ∧ ∀ shorter, shorter <+: read → shorter ≠ read
      → (groupedResults floats mode opened shorter).length < target

/-- The loop that adds matches until it has enough results collects their groups. -/
theorem collects_stopping (same : ∀ result, (opened result).clusterId = result.clusterId)
    (mode : SearchResultMode) {target : Nat} (positive : 0 < target)
    (found : List (SearchPacketResult F))
    : Collects floats mode opened target found
      (stopping (addResult floats mode opened) (hasResults target) [] found) := by
  have start : hasResults target ([] : List (SearchPacketResult F)) = false :=
    decide_eq_false (Nat.not_le_of_lt positive)
  refine ⟨readUntil (addResult floats mode opened) (hasResults target) [] found,
    readUntil_isPrefix _ found, ?_, ?_, ?_⟩
  · rw [stopping_eq_foldl, foldl_addResult same]
  · cases full : hasResults target
        (stopping (addResult floats mode opened) (hasResults target) [] found) with
    | true => exact .inr (of_decide_eq_true full)
    | false => exact .inl (readUntil_of_not_enough full)
  · intro shorter part strict
    have short := not_enough_of_isPrefix start part strict
    rw [foldl_addResult same] at short
    exact Nat.lt_of_not_le (of_decide_eq_false short)

-----------------------------------------------------------------------------------------
-- The event path
-----------------------------------------------------------------------------------------

/-- The loop over hits, on those that match. -/
def collectHits (floats : Floats F) (mode : SearchResultMode) (target : Nat)
    (matching : EventSearchHit F → Bool) (results : List (SearchPacketResult F))
    (hits : List (EventSearchHit F)) : List (SearchPacketResult F) :=
  stopping (addResult floats mode (openEvent floats)) (hasResults target) results
    ((hits.filter matching).map (eventSearchResult floats))

variable {matching : EventSearchHit F → Bool}

theorem clusterId_openEvent (result : SearchPacketResult F)
    : (openEvent floats result).clusterId = result.clusterId :=
  rfl

theorem addHits_eq (mode : SearchResultMode) (target : Nat) (results : List (SearchPacketResult F))
    (hits : List (EventSearchHit F))
    : addHits floats mode target matching results hits
      = collectHits floats mode target matching results hits := by
  induction hits generalizing results with
  | nil => rfl
  | cons hit rest ih =>
      rw [addHits, collectHits]
      by_cases matches' : matching hit = true
      · rw [if_neg (by simp [matches']), List.filter_cons_of_pos matches', List.map_cons, stopping]
        by_cases full : target
            ≤ (addResult floats mode (openEvent floats) results (eventSearchResult floats hit)).length
        · exact (if_pos full).trans (if_pos (decide_eq_true full)).symm
        · refine (if_neg full).trans ((ih _).trans (if_neg ?_).symm)
          exact fun there => full (of_decide_eq_true there)
      · rw [if_pos (by simpa using matches'), List.filter_cons_of_neg matches', ih]
        rfl

/-- A loop that has enough is done with the rows behind. -/
theorem collectHits_take {mode : SearchResultMode} {target fewer more : Nat} (le : fewer ≤ more)
    (positive : 0 < target) {hits : List (EventSearchHit F)}
    (stops : target ≤ (collectHits floats mode target matching [] (hits.take fewer)).length
      ∨ hits.length ≤ fewer)
    : collectHits floats mode target matching [] (hits.take more)
      = collectHits floats mode target matching [] (hits.take fewer) := by
  rcases stops with enough | short
  · obtain ⟨rest, same⟩ := List.take_prefix_take_left (l := hits) le
    rw [← same, collectHits, List.filter_append, List.map_append]
    apply stopping_append_of_enough
    · exact decide_eq_false (Nat.not_le_of_lt positive)
    · exact decide_eq_true enough
  · rw [List.take_of_length_le short, List.take_of_length_le (short.trans le)]

/-- The loop over pages is the loop over their rows, by induction on the pages. -/
theorem scanEventPages_eq {mode : SearchResultMode} {target size : Nat} (positive : 0 < target)
    (sized : 0 < size) {onePage : Bool} {hits : List (EventSearchHit F)} {pages offset : Nat}
    (more : 0 < pages) {results : List (SearchPacketResult F)}
    (so : results = collectHits floats mode target matching [] (hits.take offset))
    (room : results.length < target)
    : (scanEventPages size onePage target (addHits floats mode target matching) hits pages offset
        results).1
      = collectHits floats mode target matching []
        (hits.take (offset + (if onePage then 1 else pages) * size)) := by
  induction pages generalizing offset results with
  | zero => exact absurd more (Nat.lt_irrefl 0)
  | succ pages ih =>
      have next : addHits floats mode target matching results (page hits size offset)
          = collectHits floats mode target matching [] (hits.take (offset + size)) := by
        rw [addHits_eq, page_append, collectHits, collectHits, List.filter_append,
          List.map_append, stopping_append, so]
        · rfl
        · rw [so] at room
          exact decide_eq_false (Nat.not_le_of_lt room)
      have short := length_page hits size offset
      have within : offset + size ≤ offset + (pages + 1) * size := by
        rw [Nat.succ_mul]
        omega
      rw [scanEventPages, Nat.max_eq_left sized, next]
      by_cases single : onePage = true
      · simp only [single, Bool.true_or, if_true, Nat.one_mul]
      · rw [Bool.not_eq_true] at single
        simp only [single, Bool.false_or, Bool.false_eq_true, if_false]
        split
        next stops =>
            rw [Bool.or_eq_true, decide_eq_true_eq, decide_eq_true_eq, short] at stops
            have stops' : target
                ≤ (collectHits floats mode target matching [] (hits.take (offset + size))).length
                ∨ hits.length ≤ offset + size := by
              omega
            exact (collectHits_take within positive stops').symm
        next goes =>
            rw [Bool.or_eq_true, decide_eq_true_eq, decide_eq_true_eq] at goes
            split
            next last =>
                subst last
                rw [Nat.zero_add, Nat.one_mul]
            next further =>
                have later := @ih (offset + size) (Nat.pos_of_ne_zero further) _ rfl (by omega)
                have budget : offset + size + pages * size = offset + (pages + 1) * size := by
                  rw [Nat.succ_mul]
                  omega
                simp only [single, Bool.false_eq_true, if_false, budget] at later
                exact later

-----------------------------------------------------------------------------------------
-- The record path
-----------------------------------------------------------------------------------------

theorem pushCandidateResults_eq (options : PacketOptions) (results : List (SearchPacketResult F))
    (candidates : List (Candidate F))
    : pushCandidateResults floats options results candidates
      = stopping (addResult floats options.resultMode (openCandidate floats))
        (hasResults options.limit) results (candidates.map (candidateSearchResult floats)) := by
  induction candidates generalizing results with
  | nil => rfl
  | cons candidate rest ih =>
      rw [pushCandidateResults, List.map_cons, stopping]
      by_cases full : options.limit ≤ (addResult floats options.resultMode (openCandidate floats) results
          (candidateSearchResult floats candidate)).length
      · exact (if_pos full).trans (if_pos (decide_eq_true full)).symm
      · refine (if_neg full).trans ((ih _).trans (if_neg ?_).symm)
        exact fun there => full (of_decide_eq_true there)

-----------------------------------------------------------------------------------------
-- The answer
-----------------------------------------------------------------------------------------

section Answer

variable (floats) (tables) (store : SearchStore F) (query : List Char) (options : PacketOptions)

/-- The results of the hits in the scan budget that match. -/
def hitMatches : List (SearchPacketResult F) :=
  (((foundHits store query options).take (hitRows options)).filter
    (eventHitMatchesFilters tables · options.filters (fileScopeOf store options))).map
      (eventSearchResult floats)

/-- The results of the best candidates in the scan budget, in their order. -/
def candidateMatches : List (SearchPacketResult F) :=
  (rankCandidates floats (options.limit + 1)
    (candidatesOf tables store query options (recordRows tables store query options))).map
      (candidateSearchResult floats)

/-- The results of the event path. -/
theorem results_fastEventSearchPacket (takes : takesEvents store query options = true)
    : ∃ packet, fastEventSearchPacket floats tables store query options (fileScopeOf store options)
        = some packet
      ∧ packet.results = normalizeSearchResultRanks floats
        ((stopping (addResult floats options.resultMode (openEvent floats))
          (hasResults (options.limit + 1)) []
          (hitMatches floats tables store query options)).take options.limit) := by
  have scan := @scanEventPages_eq F floats
    (eventHitMatchesFilters tables · options.filters (fileScopeOf store options)) options.resultMode
    (options.limit + 1) _ (Nat.succ_pos _) (eventPageSize_pos options) (onePage options)
    (foundHits store query options) filteredSearchMaxPages 0 (by decide) [] rfl (Nat.succ_pos _)
  have goes := not_takesEvents store query options
  rw [takes] at goes
  rw [Nat.zero_add] at scan
  refine ⟨_, if_neg (by rw [goes]; exact Bool.false_ne_true), ?_⟩
  exact congrArg (fun found => normalizeSearchResultRanks floats (found.take options.limit)) scan

/-- A search without anything to match has no results. One that takes events has the first groups of the
hits that match, up to the limit, with their ranks normalized; any other one has those of the best
candidates. A search reads no further than the match that decides it, and so counts no match behind this.
-/
def SearchAnswer (results : List (SearchPacketResult F)) : Prop :=
  if matchesNothing store options = true then results = []
  else if takesEvents store query options = true then
    ∃ collected, Collects floats options.resultMode (openEvent floats) (options.limit + 1)
        (hitMatches floats tables store query options) collected
      ∧ results = normalizeSearchResultRanks floats (collected.take options.limit)
  else
    Collects floats options.resultMode (openCandidate floats) options.limit
      (candidateMatches floats tables store query options) results

/-- What a search answers. -/
theorem searchPacket_answer
    : SearchAnswer floats tables store query (normalizedOptions options)
        (searchPacket floats tables store query options).results := by
  unfold SearchAnswer
  cases nothing : matchesNothing store (normalizedOptions options) with
  | true => rw [if_pos rfl, searchPacket_of_matchesNothing _ _ _ _ _ nothing]; rfl
  | false =>
      rw [if_neg Bool.false_ne_true]
      cases takes : takesEvents store query (normalizedOptions options) with
      | true =>
          obtain ⟨packet, fast, same⟩ := results_fastEventSearchPacket floats tables store query
            (normalizedOptions options) takes
          rw [if_pos rfl, searchPacket_of_takesEvents _ _ _ _ _ nothing fast]
          exact ⟨_, collects_stopping clusterId_openEvent _ (Nat.succ_pos _) _, same⟩
      | false =>
          have limit := (limit_normalizedOptions options).1
          rw [if_neg Bool.false_ne_true, searchPacket_of_records _ _ _ _ _ nothing takes,
            recordSearchPacket]
          dsimp only
          rw [rankedCandidates_eq, pushCandidateResults_eq]
          exact collects_stopping clusterId_openCandidate _ limit _

end Answer

end CtxRemote.Search
