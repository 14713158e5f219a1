import CtxRemote.Search.PacketFill

/-! What the flag of a packet says of larger limits. The limit has a maximum, and a search reads no more
rows than its budget has; up to these, the flag is exact for results of events, and for those of records
of which none collapses with another one or drops out.
-/

namespace CtxRemote.Search
open CtxRemote.Library
open CtxRemote.Store (Uuid)

variable {F : Type} (floats : Floats F) (tables : SearchTables) (store : SearchStore F)
  (query : List Char) (options : PacketOptions)

/-- The same options with another limit. -/
def PacketOptions.withLimit (limit : Nat) : PacketOptions := { options with limit }

/-- The flag of a packet says whether a larger limit has more results, unless the rows of the scan budget
are used up or the limit is the maximum.
-/
structure FlagExact : Prop where
  same : (searchPacket floats tables store query options).truncation.truncated
    = (searchPacket floats tables store query options).pagination.hasMore
  clear : (searchPacket floats tables store query options).pagination.hasMore = false →
    ∀ limit > options.limit,
      (searchPacket floats tables store query (options.withLimit limit)).results.length
        ≤ (searchPacket floats tables store query options).results.length
  set : (searchPacket floats tables store query options).pagination.hasMore = true →
    (searchPacket floats tables store query options).truncation.reason = some "scan_budget"
      ∨ maxResultLimit ≤ options.limit
      ∨ ∃ limit > options.limit, (searchPacket floats tables store query options).results.length
          < (searchPacket floats tables store query (options.withLimit limit)).results.length

-----------------------------------------------------------------------------------------
-- Counted results
-----------------------------------------------------------------------------------------

/-- The packets of a search have as many results as there are, up to the limit, and say that there is more
where there is, or where the rows of the budget are used up. A larger limit finds no fewer, and no more
than all that there are.
-/
structure Counted (count : Nat → Nat) : Prop where
  length : ∀ limit, (searchPacket floats tables store query (options.withLimit limit)).results.length
    = min (normalizedOptions (options.withLimit limit)).limit
      (count (normalizedOptions (options.withLimit limit)).limit)
  same : (searchPacket floats tables store query options).truncation.truncated
    = (searchPacket floats tables store query options).pagination.hasMore
  more : (searchPacket floats tables store query options).pagination.hasMore = true
    ↔ (normalizedOptions options).limit < count (normalizedOptions options).limit
      ∨ (searchPacket floats tables store query options).truncation.reason = some "scan_budget"
  grows : (normalizedOptions options).limit < maxResultLimit →
    count (normalizedOptions options).limit ≤ count ((normalizedOptions options).limit + 1)
  ended : (searchPacket floats tables store query options).truncation.reason ≠ some "scan_budget" →
    count (normalizedOptions options).limit ≤ (normalizedOptions options).limit →
      ∀ limit, (normalizedOptions options).limit ≤ limit →
        count limit ≤ count (normalizedOptions options).limit

theorem limit_withLimit (limit : Nat)
    : (normalizedOptions (options.withLimit limit)).limit = min (max limit 1) maxResultLimit :=
  rfl

variable {options}

/-- A flag that goes by a count is exact. -/
theorem FlagExact.of_counted {count : Nat → Nat} (counted : Counted floats tables store query options count)
    : FlagExact floats tables store query options := by
  have cap : maxResultLimit = 200 := rfl
  have effective : (normalizedOptions options).limit = min (max options.limit 1) maxResultLimit := rfl
  have length := counted.length options.limit
  change (searchPacket floats tables store query options).results.length
    = min (normalizedOptions options).limit (count (normalizedOptions options).limit) at length
  refine ⟨counted.same, ?_, ?_⟩
  · intro clear limit larger
    rw [Bool.eq_false_iff, Ne, counted.more, not_or, Nat.not_lt] at clear
    have other := limit_withLimit options limit
    have all := counted.ended clear.2 clear.1 (normalizedOptions (options.withLimit limit)).limit (by omega)
    rw [counted.length limit, length]
    omega
  · intro set
    by_cases spent : (searchPacket floats tables store query options).truncation.reason = some "scan_budget"
    · exact .inl spent
    · right
      by_cases top : maxResultLimit ≤ options.limit
      · exact .inl top
      · right
        have below : (normalizedOptions options).limit < maxResultLimit := by omega
        have there := (counted.more.mp set).resolve_right spent
        have grows := counted.grows below
        have other := limit_withLimit options ((normalizedOptions options).limit + 1)
        have same : (normalizedOptions (options.withLimit ((normalizedOptions options).limit + 1))).limit
            = (normalizedOptions options).limit + 1 := by
          omega
        refine ⟨(normalizedOptions options).limit + 1, by omega, ?_⟩
        rw [counted.length, length, same]
        omega

variable (options)

-----------------------------------------------------------------------------------------
-- Results of events
-----------------------------------------------------------------------------------------

section Events

variable {limit : Nat} (larger : options.limit ≤ limit)
include larger

theorem hitRows_le : hitRows options ≤ hitRows (options.withLimit limit) := by
  have size : eventPageSize options ≤ eventPageSize (options.withLimit limit) := by
    obtain ⟨smaller, snippetChars, filters, mode⟩ := options
    change smaller ≤ limit at larger
    cases mode with
    | sessions =>
        change max filteredSearchPageSize (max ((smaller + 1) * 8) 50)
          ≤ max filteredSearchPageSize (max ((limit + 1) * 8) 50)
        omega
    | events =>
        change (if hasFilters filters then max filteredSearchPageSize (smaller + 1) else smaller + 1)
          ≤ if hasFilters filters then max filteredSearchPageSize (limit + 1) else limit + 1
        split <;> omega
  exact Nat.mul_le_mul_left _ size

/-- A larger limit reads at least the clusters of a smaller one. -/
theorem clustersRead_isPrefix
    : clustersRead tables store query options <+: clustersRead tables store query (options.withLimit limit) :=
  hitClusters_isPrefix _ _ (hitRows_le options larger)

/-- Where neither the rows nor the clusters are used up, a larger limit reads no more clusters. -/
theorem length_clustersRead_le (few : (clustersRead tables store query options).length ≤ options.limit)
    (ended : ¬(onePage options = false ∧ hitRows options ≤ (foundHits store query options).length))
    : (clustersRead tables store query (options.withLimit limit)).length
      ≤ (clustersRead tables store query options).length := by
  by_cases single : onePage options = true
  · have less := length_clustersRead_of_onePage tables store query options single
    have more := length_clustersRead_of_onePage tables store query (options.withLimit limit) single
    have found : foundHits store query (options.withLimit limit) = foundHits store query options := rfl
    rw [found] at more
    omega
  · rw [Bool.not_eq_true] at single
    have rows := hitRows_le options larger
    have short : (foundHits store query options).length ≤ hitRows options := by
      have fewer := not_and.mp ended single
      omega
    unfold clustersRead hitClusters
    change (firsts options.resultMode.once (hitIds _ ((foundHits store query options).take _))).length ≤ _
    rw [List.take_of_length_le short, List.take_of_length_le (short.trans rows)]
    exact Nat.le_refl _

end Events

/-- The packets of the event path go by the clusters that are read. -/
theorem counted_of_takesEvents (something : matchesNothing store (normalizedOptions options) = false)
    (takes : takesEvents store query (normalizedOptions options) = true)
    : Counted floats tables store query options
      (fun limit => (clustersRead tables store query ((normalizedOptions options).withLimit limit)).length) := by
  have spec (limit : Nat) := fastEventSearchPacket_spec floats tables store query
    (normalizedOptions (options.withLimit limit)) takes
  have packets (limit : Nat) {packet : SearchPacket F} := @searchPacket_of_takesEvents F floats tables store
    query (options.withLimit limit) something packet
  obtain ⟨packet, fast, length, same, spent, more⟩ := spec options.limit
  have here := packets options.limit fast
  change searchPacket floats tables store query options = packet at here
  refine ⟨?_, ?_, ?_, ?_, ?_⟩
  · intro limit
    obtain ⟨packet, fast, length, -⟩ := spec limit
    rw [packets limit fast, length]
    rfl
  · rw [here]
    exact same
  · rw [here]
    exact more
  · intro _
    exact (clustersRead_isPrefix tables store query (normalizedOptions options) (Nat.le_succ _)).length_le
  · intro left few limit larger
    rw [here] at left
    refine length_clustersRead_le tables store query (normalizedOptions options) larger few ?_
    intro used
    exact left (spent.mpr ⟨used.1, few, used.2⟩)

-----------------------------------------------------------------------------------------
-- Results of records
-----------------------------------------------------------------------------------------

/-- A search that stops later reads no fewer rows, by induction on the pages. -/
theorem rowsRead_mono (size : Nat) {sooner later : Nat → Bool} (le : ∀ rows, later rows → sooner rows)
    (pages rows : Nat)
    : rowsRead size sooner pages rows ≤ rowsRead size later pages rows := by
  have behind (pages rows : Nat) : rows ≤ rowsRead size later pages rows := by
    induction pages generalizing rows with
    | zero => exact Nat.le_refl rows
    | succ pages ih =>
        rw [rowsRead]
        split
        next => exact Nat.le_add_right rows size
        next => exact (Nat.le_add_right rows size).trans (ih _)
  induction pages generalizing rows with
  | zero => exact Nat.le_refl rows
  | succ pages ih =>
      rw [rowsRead, rowsRead]
      by_cases stops : sooner (rows + size) = true
      · rw [if_pos stops]
        split
        next => exact Nat.le_refl _
        next => exact behind _ _
      · have goes : ¬later (rows + size) = true := fun there => stops (le _ there)
        rw [if_neg stops, if_neg goes]
        exact ih _

/-- A larger limit reads no fewer records, up to the size of a page. -/
theorem recordRows_le (below : options.limit < maxResultLimit)
    : recordRows tables store query options
      ≤ recordRows tables store query (options.withLimit (options.limit + 1)) := by
  unfold recordRows
  by_cases termless : (queryTerms tables query).isEmpty = true
  · rw [if_pos termless, if_pos termless]
    exact Nat.le_refl _
  · rw [if_neg termless, if_neg termless]
    by_cases filtered : hasFilters options.filters = true
    · have filtered' : hasFilters (options.withLimit (options.limit + 1)).filters = true := filtered
      have cap : maxResultLimit = 200 := rfl
      have page : filteredSearchPageSize = 500 := rfl
      have size : recordPageSize (options.withLimit (options.limit + 1)) = recordPageSize options := by
        change max filteredSearchPageSize (options.limit + 1 + 1)
          = max filteredSearchPageSize (options.limit + 1)
        omega
      rw [if_pos filtered, if_pos filtered', size]
      apply rowsRead_mono
      intro rows stops
      unfold stopsAt at stops ⊢
      rw [Bool.or_eq_true, decide_eq_true_eq, decide_eq_true_eq] at stops ⊢
      exact stops.imp_left (Nat.le_trans (Nat.le_succ _))
    · have plain : ¬hasFilters (options.withLimit (options.limit + 1)).filters = true := filtered
      rw [if_neg filtered, if_neg plain]
      exact Nat.le_succ _

/-- The packet of the record path says that there is more when there are more candidates than results, or
when the rows of the scan budget are used up.
-/
theorem flags_recordSearchPacket
    : let packet := recordSearchPacket floats tables store query options (fileScopeOf store options)
      packet.truncation.truncated = packet.pagination.hasMore
      ∧ (packet.truncation.reason = some "scan_budget"
        ↔ readsPages tables query options = true
          ∧ stopsAt (addFound tables store query options) (foundRecords tables store query options)
            (options.limit + 1) (recordRows tables store query options) = false)
      ∧ (packet.pagination.hasMore = true
        ↔ packet.results.length
            < min (options.limit + 1)
              (candidatesOf tables store query options (recordRows tables store query options)).length
          ∨ packet.truncation.reason = some "scan_budget") := by
  unfold recordSearchPacket
  dsimp only
  rw [rankedCandidates_eq]
  dsimp only
  rw [length_rankCandidates]
  generalize pushCandidateResults floats options [] _ = results
  generalize (candidatesOf tables store query options (recordRows tables store query options)).length = found
  generalize readsPages tables query options = pages
  generalize stopsAt _ _ _ _ = stops
  by_cases more : results.length < min (options.limit + 1) found <;> cases pages <;> cases stops
    <;> simp [pagination, more]

/-- In a search that is clustered by session, no two candidates within the scan budget are of one session. -/
def CollapsesNone : Prop :=
  options.resultMode = .sessions →
    ((candidatesOf tables store query options (recordBudget tables store query options)).map
      (·.clusterId)).Nodup

/-- In a search that reads the first records only, one more than the limit, these are found once each, and
all of them are candidates.
-/
def DropsNone : Prop :=
  (queryTerms tables query).isEmpty = false → hasFilters options.filters = false →
    ((foundRecords tables store query options).take (options.limit + 1)).Nodup
      ∧ ∀ record ∈ (foundRecords tables store query options).take (options.limit + 1),
          inScope tables store query options record = true
          ∧ (store.candidateForRecord record (queryTerms tables query) options.filters
            (fileScopeOf store options)).isSome = true

/-- Records that are new, in scope and candidates are all kept, by induction on them. -/
theorem length_foldl_addFound {records : List Uuid} {found : List Uuid × List (Candidate F)}
    (once : records.Nodup) (unseen : ∀ record ∈ records, record ∉ found.1)
    (candidates
      : ∀ record ∈ records,
          inScope tables store query options record = true
          ∧ (store.candidateForRecord record (queryTerms tables query) options.filters
            (fileScopeOf store options)).isSome = true)
    : (records.foldl (addFound tables store query options) found).2.length
      = found.2.length + records.length := by
  induction records generalizing found with
  | nil => rfl
  | cons record rest ih =>
      obtain ⟨notLater, once⟩ := List.nodup_cons.mp once
      obtain ⟨inside, isCandidate⟩ := candidates record List.mem_cons_self
      obtain ⟨candidate, made⟩ := Option.isSome_iff_exists.mp isCandidate
      have added : addFound tables store query options found record
          = (found.1 ++ [record], found.2 ++ [candidate]) := by
        have new : ¬found.1.contains record = true := by
          simpa using unseen record List.mem_cons_self
        unfold addFound addRecord
        rw [if_neg new, if_neg (by simp [inside]), made]
        rfl
      rw [List.foldl_cons, added, ih once]
      · rw [List.length_append, List.length_singleton, List.length_cons]
        omega
      · intro other member
        rw [List.mem_append, List.mem_singleton, not_or]
        refine ⟨unseen other (List.mem_cons_of_mem _ member), ?_⟩
        rintro rfl
        exact notLater member
      · exact fun other member => candidates other (List.mem_cons_of_mem _ member)

/-- Where none of the first records drops out, there are as many candidates. -/
theorem length_candidatesOf_of_dropsNone (drops : DropsNone tables store query options)
    (terms : (queryTerms tables query).isEmpty = false) (plain : hasFilters options.filters = false)
    : (candidatesOf tables store query options (options.limit + 1)).length
      = min (options.limit + 1) (foundRecords tables store query options).length := by
  obtain ⟨once, candidates⟩ := drops terms plain
  rw [candidatesOf, length_foldl_addFound tables store query options once
    (fun _ _ => List.not_mem_nil) candidates, List.length_nil, Nat.zero_add, List.length_take]

/-- Pages are read within the budget. -/
theorem rowsRead_le (size : Nat) (stops : Nat → Bool) (pages rows : Nat)
    : rowsRead size stops pages rows ≤ rows + pages * size := by
  induction pages generalizing rows with
  | zero => exact Nat.le_add_right rows _
  | succ pages ih =>
      rw [rowsRead, Nat.succ_mul]
      split
      next => omega
      next =>
          have later := ih (rows + size)
          omega

/-- The candidates that a search with some limit reads are among those of the scan budget. -/
theorem candidatesOf_within_budget {limit : Nat} (small : options.limit ≤ maxResultLimit)
    (below : limit ≤ maxResultLimit)
    : candidatesOf tables store query options (recordRows tables store query (options.withLimit limit))
      <+: candidatesOf tables store query options (recordBudget tables store query options) := by
  by_cases pages : readsPages tables query options = true
  · apply candidatesOf_isPrefix
    have cap : maxResultLimit = 200 := rfl
    have page : filteredSearchPageSize = 500 := rfl
    have size : recordPageSize (options.withLimit limit) = recordPageSize options := by
      change max filteredSearchPageSize (limit + 1) = max filteredSearchPageSize (options.limit + 1)
      omega
    have filtered := pages
    rw [readsPages, Bool.and_eq_true, Bool.not_eq_true'] at filtered
    have filtered' : hasFilters (options.withLimit limit).filters = true := filtered.2
    rw [recordBudget, if_pos pages, recordRows, if_neg (by rw [filtered.1]; exact Bool.false_ne_true),
      if_pos filtered', size]
    exact (rowsRead_le _ _ _ _).trans_eq (Nat.zero_add _)
  · -- the budget has all records
    have whole : recordBudget tables store query options
        = (foundRecords tables store query options).length := if_neg pages
    rw [whole]
    refine (candidatesOf_isPrefix tables store query options
      (Nat.le_max_left _ (foundRecords tables store query options).length)).trans ?_
    rw [candidatesOf, candidatesOf, List.take_of_length_le (Nat.le_max_right _ _), List.take_length]

/-- A search whose candidates do not collapse has one result for each of them, up to the limit. -/
theorem length_records_of_collapsesNone (collapses : CollapsesNone tables store query options)
    (small : options.limit ≤ maxResultLimit) {limit : Nat} (some' : 0 < limit)
    (below : limit ≤ maxResultLimit)
    : (recordSearchPacket floats tables store query (options.withLimit limit)
        (fileScopeOf store options)).results.length
      = min limit (candidatesOf tables store query options
          (recordRows tables store query (options.withLimit limit))).length := by
  cases mode : options.resultMode with
  | events =>
      exact length_records_of_events floats tables store query (options.withLimit limit) some' mode
  | sessions =>
      have within := candidatesOf_within_budget tables store query options small below
      have apart := (collapses mode).sublist (within.sublist.map (·.clusterId))
      have mode' : (options.withLimit limit).resultMode = .sessions := mode
      have length := length_recordSearchPacket floats tables store query (options.withLimit limit) some'
      rw [rankedCandidates_eq, mode'] at length
      dsimp only at length
      obtain ⟨ids, perm, ranked⟩ := @clusterIds_rankCandidates F floats (limit + 1)
        (candidatesOf tables store query options
          (recordRows tables store query (options.withLimit limit)))
      have once : (ids.take (limit + 1)).Nodup :=
        (perm.nodup_iff.mpr apart).sublist (List.take_sublist _ _)
      change _ = min limit (firsts true ((rankCandidates floats (limit + 1)
        (candidatesOf tables store query options
          (recordRows tables store query (options.withLimit limit)))).map (·.clusterId))).length at length
      rw [ranked, length_firsts_true, List.toFinset_card_of_nodup once, List.length_take,
        perm.length_eq, List.length_map] at length
      refine length.trans ?_
      omega

/-- The packets of records of which none collapses or drops out go by the candidates. -/
theorem counted_of_records (something : matchesNothing store (normalizedOptions options) = false)
    (refuses : takesEvents store query (normalizedOptions options) = false)
    (collapses : CollapsesNone tables store query (normalizedOptions options))
    (drops : DropsNone tables store query (normalizedOptions options))
    : Counted floats tables store query options
      (fun limit => (candidatesOf tables store query (normalizedOptions options)
        (recordRows tables store query ((normalizedOptions options).withLimit limit))).length) := by
  have packets (limit : Nat) := searchPacket_of_records floats tables store query (options.withLimit limit)
    something refuses
  have highest := (limit_normalizedOptions options).2
  have length (limit : Nat) := length_records_of_collapsesNone floats tables store query
    (normalizedOptions options) collapses highest (limit_normalizedOptions (options.withLimit limit)).1
    (limit_normalizedOptions (options.withLimit limit)).2
  obtain ⟨same, spent, more⟩ := flags_recordSearchPacket floats tables store query (normalizedOptions options)
  have here := packets options.limit
  change searchPacket floats tables store query options = recordSearchPacket floats tables store query
    (normalizedOptions options) (fileScopeOf store (normalizedOptions options)) at here
  refine ⟨?_, ?_, ?_, ?_, ?_⟩
  · intro limit
    rw [packets limit]
    exact length limit
  · rw [here]
    exact same
  · rw [here, more]
    have results := length options.limit
    change (recordSearchPacket floats tables store query (normalizedOptions options)
      (fileScopeOf store (normalizedOptions options))).results.length = min (normalizedOptions options).limit
        (candidatesOf tables store query (normalizedOptions options)
          (recordRows tables store query (normalizedOptions options))).length at results
    rw [results]
    change (_ < _ ∨ _) ↔ (normalizedOptions options).limit < (candidatesOf tables store query
      (normalizedOptions options) (recordRows tables store query (normalizedOptions options))).length ∨ _
    apply or_congr_left
    omega
  · intro below
    exact (candidatesOf_isPrefix tables store query (normalizedOptions options)
      (recordRows_le tables store query (normalizedOptions options) below)).length_le
  · intro left few limit larger
    rw [here, Ne, spent, not_and, Bool.not_eq_false] at left
    change (candidatesOf tables store query (normalizedOptions options) (recordRows tables store query
      (normalizedOptions options))).length ≤ (normalizedOptions options).limit at few
    apply length_candidatesOf_le
    change (foundRecords tables store query (normalizedOptions options)).length ≤ recordRows tables store
      query (normalizedOptions options)
    by_cases termless : (queryTerms tables query).isEmpty = true
    · rw [recordRows, if_pos termless]
    · by_cases filtered : hasFilters (normalizedOptions options).filters = true
      · have pages : readsPages tables query (normalizedOptions options) = true := by
          simp [readsPages, termless, filtered]
        have stops := left pages
        rw [stopsAt, Bool.or_eq_true, decide_eq_true_eq, decide_eq_true_eq] at stops
        rcases stops with full | ended
        · exact absurd (full.trans few) (Nat.not_succ_le_self _)
        · exact Nat.le_of_lt ended
      · -- the first records are candidates, and fewer than are read
        rw [Bool.not_eq_true] at termless filtered
        have rows : recordRows tables store query (normalizedOptions options)
            = (normalizedOptions options).limit + 1 := by
          simp [recordRows, termless, filtered]
        have all := length_candidatesOf_of_dropsNone tables store query (normalizedOptions options) drops
          termless filtered
        rw [rows] at few ⊢
        omega

/-- Searches whose flag goes by the results: those that can match nothing, those that take their results
from events, and those of records of which none collapses with another one or drops out.
-/
def CountsResults : Prop :=
  matchesNothing store (normalizedOptions options) = true
    ∨ takesEvents store query (normalizedOptions options) = true
    ∨ CollapsesNone tables store query (normalizedOptions options)
      ∧ DropsNone tables store query (normalizedOptions options)

/-- The packets of a search that can match nothing have nothing. -/
theorem counted_of_matchesNothing (nothing : matchesNothing store (normalizedOptions options) = true)
    : Counted floats tables store query options fun _ => 0 := by
  have packets (limit : Nat) := searchPacket_of_matchesNothing floats tables store query
    (options.withLimit limit) nothing
  have here := packets options.limit
  change searchPacket floats tables store query options = _ at here
  refine ⟨fun limit => ?_, ?_, ?_, fun _ => Nat.le_refl 0, fun _ _ _ _ => Nat.le_refl 0⟩
  · rw [packets limit, Nat.min_zero]
    rfl
  · rw [here]
    rfl
  · rw [here]
    simp [emptySearchPacket, pagination]

/-- For every store, query and options of such a search, the flag says whether a larger limit has more
results, unless the rows of the scan budget are used up or the limit is the maximum.
-/
theorem flagExact_searchPacket (counts : CountsResults tables store query options)
    : FlagExact floats tables store query options := by
  by_cases nothing : matchesNothing store (normalizedOptions options) = true
  · exact .of_counted floats tables store query
      (counted_of_matchesNothing floats tables store query options nothing)
  · have something := Bool.not_eq_true _ ▸ nothing
    by_cases takes : takesEvents store query (normalizedOptions options) = true
    · exact .of_counted floats tables store query
        (counted_of_takesEvents floats tables store query options something takes)
    · have refuses := Bool.not_eq_true _ ▸ takes
      obtain ⟨collapses, drops⟩ := (counts.resolve_left nothing).resolve_left takes
      exact .of_counted floats tables store query
        (counted_of_records floats tables store query options something refuses collapses drops)

/-- Letters and digits, as ASCII has them. -/
def asciiTables : SearchTables := ⟨⟨fun c => [c.toLower], Char.isAlpha, fun _ => false⟩, Char.isAlphanum⟩

/-- The records of `clusteredStore`, each of a session of its own. -/
def spreadStore : SearchStore Nat :=
  { clusteredStore with candidateForRecord record _ _ _ := some (oneMatch record record 1000000000) }

/-- Two of four sessions are asked for, and the flag says rightly that there are more. -/
theorem flagExact_spreadStore
    : FlagExact wholeFloats asciiTables spreadStore "needle".toList ⟨2, 320, {}, .sessions⟩
      ∧ (searchPacket wholeFloats asciiTables spreadStore "needle".toList
          ⟨2, 320, {}, .sessions⟩).pagination.hasMore = true
      ∧ (searchPacket wholeFloats asciiTables spreadStore "needle".toList
          ⟨3, 320, {}, .sessions⟩).results.length = 3 := by
  refine ⟨flagExact_searchPacket wholeFloats asciiTables spreadStore "needle".toList
    ⟨2, 320, {}, .sessions⟩ (.inr (.inr ⟨fun _ => ?_, fun _ _ => ?_⟩)), ?_, ?_⟩
  all_goals decide +kernel

/-- The id with a number of four digits. -/
def numberedId (number : Nat) : Uuid where
  text := String.ofList ("018f45d0-0000-7000-8002-00000000".toList
    ++ [number / 1000, number / 100, number / 10, number].map fun n => Nat.digitChar (n % 10))
  length := by
    rw [String.toList_ofList, List.length_append, List.length_map]
    rfl
  digits := by
    have digit (n : Nat) : "0123456789abcdef-".toList.contains (Nat.digitChar (n % 10)) = true := by
      have all : ∀ k < 10, "0123456789abcdef-".toList.contains (Nat.digitChar k) = true := by decide
      exact all _ (Nat.mod_lt n (by decide))
    have front : "018f45d0-0000-7000-8002-00000000".toList.all ("0123456789abcdef-".toList.contains ·)
        = true := by
      decide
    rw [String.toList_ofList, List.all_append, front, List.all_map]
    simp only [List.all_cons, List.all_nil, Function.comp_apply, digit, Bool.and_self]

/-- An event of a session of a subagent. -/
def subagentHit (number : Nat) : EventSearchHit Nat where
  eventId := numberedId number
  historyRecordId := none
  sessionId := none
  runId := none
  eventType := .message
  occurredAt := ⟨1000000000⟩
  score := 1
  provider := none
  sessionExternalSessionId := none
  sessionParentSessionId := none
  sessionRootSessionId := none
  agentType := some .subagent
  sessionIsPrimary := some false
  cwd := none
  rawSourcePath := none
  recordWorkspace := none

/-- A large store where ten thousand events of subagents match a query. -/
def subagentStore : SearchStore Nat where
  hasProviderData _ := true
  fileTouchScope _ := ⟨[], [], [], [], []⟩
  hasAtLeastEvents _ := true
  searchRecords _ := []
  searchEventHits _ _ := (List.range 10000).map subagentHit
  candidateForRecord _ _ _ _ := none

theorem foundHits_subagentStore (query : List Char) (options : PacketOptions)
    : foundHits subagentStore query options = (List.range 10000).map subagentHit := by
  simp only [foundHits, subagentStore]

theorem length_foundHits_subagentStore (query : List Char) (options : PacketOptions)
    : (foundHits subagentStore query options).length = 10000 := by
  rw [foundHits_subagentStore, List.length_map, List.length_range]

/-- No event passes a filter for primary sessions. -/
theorem clustersRead_subagentStore (query : List Char) {options : PacketOptions}
    (primary : options.filters = { primaryOnly := true })
    : clustersRead asciiTables subagentStore query options = [] := by
  have none : ∀ hit ∈ foundHits subagentStore query options, eventHitMatchesFilters asciiTables hit
      options.filters (fileScopeOf subagentStore options) = false := by
    intro hit member
    rw [foundHits_subagentStore] at member
    obtain ⟨number, -, rfl⟩ := List.mem_map.mp member
    rw [primary]
    simp [eventHitMatchesFilters, eventHitMatchesAgentScope, subagentHit]
  have empty : hitIds (eventHitMatchesFilters asciiTables · options.filters (fileScopeOf subagentStore options))
      ((foundHits subagentStore query options).take (hitRows options)) = [] := by
    rw [hitIds, List.filter_eq_nil_iff.mpr, List.map_nil]
    intro hit member
    rw [none hit (List.mem_of_mem_take member)]
    exact Bool.false_ne_true
  rw [clustersRead, hitClusters, empty]
  rfl

section Subagents

variable (options : PacketOptions)

/-- At the maximum of the limit the flag is set, where there are more events. -/
theorem flat_at_maximum (single : onePage (normalizedOptions options) = true)
    (takes : hasHistorySourceFilter (normalizedOptions options).filters = false)
    (something : matchesNothing subagentStore (normalizedOptions options) = false)
    (top : (normalizedOptions options).limit = maxResultLimit)
    : (searchPacket wholeFloats asciiTables subagentStore "needle".toList options).pagination.hasMore = true
      ∧ ∀ limit, (searchPacket wholeFloats asciiTables subagentStore "needle".toList
          (options.withLimit limit)).results.length
        ≤ (searchPacket wholeFloats asciiTables subagentStore "needle".toList options).results.length := by
  have cap : maxResultLimit = 200 := rfl
  have events : takesEvents subagentStore "needle".toList (normalizedOptions options) = true := by
    rw [takesEvents, takes]
    decide
  have counted := counted_of_takesEvents wholeFloats asciiTables subagentStore "needle".toList options
    something events
  have clusters := length_clustersRead_of_onePage asciiTables subagentStore "needle".toList
    (normalizedOptions options) single
  rw [length_foundHits_subagentStore, top] at clusters
  have here := counted.length options.limit
  change (searchPacket wholeFloats asciiTables subagentStore "needle".toList options).results.length
    = min (normalizedOptions options).limit
      (clustersRead asciiTables subagentStore "needle".toList (normalizedOptions options)).length at here
  constructor
  · apply counted.more.mpr
    left
    change (normalizedOptions options).limit
      < (clustersRead asciiTables subagentStore "needle".toList (normalizedOptions options)).length
    omega
  · intro limit
    have highest := (limit_normalizedOptions (options.withLimit limit)).2
    rw [counted.length limit, here]
    omega

/-- Where all events of the scan budget are of subagents, and primary sessions are asked for, the flag is
set.
-/
theorem flat_of_primaryOnly (primary : (normalizedOptions options).filters = { primaryOnly := true })
    (rows : hitRows (normalizedOptions options) ≤ 10000)
    : (searchPacket wholeFloats asciiTables subagentStore "needle".toList options).pagination.hasMore = true
      ∧ ∀ limit, (searchPacket wholeFloats asciiTables subagentStore "needle".toList
          (options.withLimit limit)).results.length
        ≤ (searchPacket wholeFloats asciiTables subagentStore "needle".toList options).results.length := by
  have something : matchesNothing subagentStore (normalizedOptions options) = false := by
    rw [matchesNothing, fileScopeOf, primary]
    rfl
  have events : takesEvents subagentStore "needle".toList (normalizedOptions options) = true := by
    rw [takesEvents, primary]
    decide
  have counted := counted_of_takesEvents wholeFloats asciiTables subagentStore "needle".toList options
    something events
  obtain ⟨packet, fast, -, -, spent, set⟩ := fastEventSearchPacket_spec wholeFloats asciiTables
    subagentStore "needle".toList (normalizedOptions options) events
  constructor
  · rw [searchPacket_of_takesEvents wholeFloats asciiTables subagentStore "needle".toList options something
      fast]
    apply set.mpr
    right
    apply spent.mpr
    rw [clustersRead_subagentStore _ primary, length_foundHits_subagentStore]
    refine ⟨?_, Nat.zero_le _, rows⟩
    rw [onePage, primary]
    rfl
  · intro limit
    have none : clustersRead asciiTables subagentStore "needle".toList
        ((normalizedOptions options).withLimit (normalizedOptions (options.withLimit limit)).limit) = [] :=
      clustersRead_subagentStore _ primary
    rw [counted.length limit, none, List.length_nil, Nat.min_zero]
    exact Nat.zero_le _

end Subagents

/-- At the maximum of the limit, and where no event of the scan budget passes the filters, the flag is set
and no larger limit has more results.
-/
theorem flag_without_more
    : ¬((searchPacket wholeFloats asciiTables subagentStore "needle".toList
            ⟨200, 320, { includeSubagents := true }, .events⟩).pagination.hasMore = true →
          ∃ limit > 200, (searchPacket wholeFloats asciiTables subagentStore "needle".toList
              ⟨200, 320, { includeSubagents := true }, .events⟩).results.length
            < (searchPacket wholeFloats asciiTables subagentStore "needle".toList
              ⟨limit, 320, { includeSubagents := true }, .events⟩).results.length)
      ∧ ¬((searchPacket wholeFloats asciiTables subagentStore "needle".toList
            ⟨20, 320, { primaryOnly := true }, .events⟩).pagination.hasMore = true →
          ∃ limit > 20, (searchPacket wholeFloats asciiTables subagentStore "needle".toList
              ⟨20, 320, { primaryOnly := true }, .events⟩).results.length
            < (searchPacket wholeFloats asciiTables subagentStore "needle".toList
              ⟨limit, 320, { primaryOnly := true }, .events⟩).results.length) := by
  constructor
  · intro more
    have flat := flat_at_maximum ⟨200, 320, { includeSubagents := true }, .events⟩ (by decide) (by decide)
      (by decide) (by decide)
    obtain ⟨limit, -, fewer⟩ := more flat.1
    exact absurd (flat.2 limit) (Nat.not_le_of_lt fewer)
  · intro more
    have flat := flat_of_primaryOnly ⟨20, 320, { primaryOnly := true }, .events⟩ (by decide) (by decide)
    obtain ⟨limit, -, fewer⟩ := more flat.1
    exact absurd (flat.2 limit) (Nat.not_le_of_lt fewer)

end CtxRemote.Search
