import CtxRemote.Search.Snippets
import CtxRemote.Store.EventSearch
import CtxRemote.Store.SessionSources
import Mathlib.Data.List.Infix

/-! `search_packet`. It fills a packet with results from the events of a large store, and otherwise from
the records; results of one session are clustered into one where sessions are asked for.

What the store answers to a query, how a record is matched with the terms and the filters, and the
arithmetic of `f32` are left open.
-/

namespace CtxRemote.Search
open CtxRemote.Store (Uuid CaptureProvider DateTime EventType AgentType)
open CtxRemote.Turso (isWhitespace trim)

-----------------------------------------------------------------------------------------
-- Options
-----------------------------------------------------------------------------------------

/-- `ProviderSessionFilter`. -/
structure ProviderSessionFilter where
  provider : CaptureProvider
  providerSessionId : String
  sessionId : Option Uuid := none
deriving DecidableEq

/-- `SearchFilters`, with its `Default`. -/
structure SearchFilters where
  session : Option Uuid := none
  provider : Option CaptureProvider := none
  historySource : Option String := none
  providerKey : Option String := none
  sourceId : Option String := none
  sourceFormat : Option String := none
  repo : Option String := none
  since : Option DateTime := none
  primaryOnly : Bool := false
  includeSubagents : Bool := false
  eventType : Option EventType := none
  file : Option String := none
  excludeProviderSession : Option ProviderSessionFilter := none
deriving DecidableEq

/-- `SearchResultMode`. -/
inductive SearchResultMode where
  | sessions
  | events
deriving DecidableEq

/-- `PacketOptions`. -/
structure PacketOptions where
  limit : Nat
  snippetChars : Nat
  filters : SearchFilters
  resultMode : SearchResultMode

def maxResultLimit : Nat := 200
def largeEventCorpusThreshold : Nat := 1024
def filteredSearchPageSize : Nat := 500
def filteredSearchMaxPages : Nat := 20

/-- `normalized_text_filter`. -/
def normalizedTextFilter (value : Option String) : Option String :=
  (value.map fun text => String.ofList (trim text.toList)).filter (· ≠ "")

/-- `SearchFilters::normalized`. -/
def SearchFilters.normalized (filters : SearchFilters) : SearchFilters :=
  { filters with repo := normalizedTextFilter filters.repo, file := normalizedTextFilter filters.file }

/-- `normalized_options`. -/
def normalizedOptions (options : PacketOptions) : PacketOptions where
  limit := min (max options.limit 1) maxResultLimit
  snippetChars := min (max options.snippetChars 32) 2000
  filters := options.filters.normalized
  resultMode := options.resultMode

/-- A filter of a source that is not blank. -/
def isGiven (value : Option String) : Bool := value.any fun text => trim text.toList ≠ []

/-- `has_history_source_filter`. -/
def hasHistorySourceFilter (filters : SearchFilters) : Bool :=
  isGiven filters.historySource || isGiven filters.providerKey || isGiven filters.sourceId
    || isGiven filters.sourceFormat

/-- `has_filters`. -/
def hasFilters (filters : SearchFilters) : Bool :=
  filters.session.isSome || filters.provider.isSome || filters.repo.isSome || filters.since.isSome
    || filters.primaryOnly || !filters.includeSubagents || filters.eventType.isSome
    || filters.file.isSome || filters.excludeProviderSession.isSome || hasHistorySourceFilter filters

-----------------------------------------------------------------------------------------
-- The store
-----------------------------------------------------------------------------------------

/-- `FileTouchScope`, each set by its elements in their order. -/
structure FileTouchScope where
  historyRecordIds : List Uuid
  sessionIds : List Uuid
  runIds : List Uuid
  eventIds : List Uuid
  sourceIds : List Uuid
deriving DecidableEq

/-- `FileTouchScope::is_empty`. -/
def FileTouchScope.isEmpty (scope : FileTouchScope) : Bool :=
  scope.historyRecordIds.isEmpty && scope.sessionIds.isEmpty && scope.runIds.isEmpty
    && scope.eventIds.isEmpty && scope.sourceIds.isEmpty

/-- `EventSearchHit`, as far as a search goes by it. -/
structure EventSearchHit (F : Type) where
  eventId : Uuid
  historyRecordId : Option Uuid
  sessionId : Option Uuid
  runId : Option Uuid
  eventType : EventType
  occurredAt : DateTime
  score : F
  provider : Option CaptureProvider
  sessionExternalSessionId : Option String
  sessionParentSessionId : Option Uuid
  sessionRootSessionId : Option Uuid
  agentType : Option AgentType
  sessionIsPrimary : Option Bool
  cwd : Option String
  rawSourcePath : Option String
  recordWorkspace : Option String

/-- `Candidate`, as far as a search goes by it: its record, its score, the event of its primary hit, and
the session and the event of the hit that `candidate_display_hit` picks.
-/
structure Candidate (F : Type) where
  recordId : Uuid
  updatedAt : DateTime
  title : String
  score : F
  matchedTermCount : Nat
  primaryEventId : Option Uuid
  displaySessionId : Option Uuid
  displayEventId : Option Uuid

/-- What a store whose reads succeed answers: each search by all that it finds, of which a page is a part,
and `candidate_for_record` by the id of the record.
-/
structure SearchStore (F : Type) where
  hasProviderData : CaptureProvider → Bool
  fileTouchScope : String → FileTouchScope
  hasAtLeastEvents : Nat → Bool
  searchRecords : List Char → List Uuid
  searchEventHits : Bool → List Char → List (EventSearchHit F)
  candidateForRecord : Uuid → List (List Char) → SearchFilters → Option FileTouchScope
    → Option (Candidate F)

/-- A page of what a search finds. -/
def page {α : Type} (found : List α) (limit offset : Nat) : List α := (found.drop offset).take limit

/-- `f32`: its constants and operations, the order of `total_cmp`, `clamp(0.0, 1.0)`, the rank of a hit
from its score, and the boost of `session_importance`.
-/
structure Floats (F : Type) where
  zero : F
  one : F
  add : F → F → F
  mul : F → F → F
  div : F → F → F
  max : F → F → F
  ofNat : Nat → F
  isPositive : F → Bool
  clamp : F → F
  totalCmp : F → F → Ordering
  eventRank : F → F
  coverageBoost : Nat → F

/-- The tables of Unicode that a search goes by. -/
structure SearchTables extends CaseTables where
  isAlphanumeric : Char → Bool

variable {F : Type} (floats : Floats F) (tables : SearchTables)

-----------------------------------------------------------------------------------------
-- Filters
-----------------------------------------------------------------------------------------

/-- `excluded_session_tree_matches`. -/
def excludedSessionTreeMatches (excluded : ProviderSessionFilter)
    (sessionId parentSessionId rootSessionId : Option Uuid) : Bool :=
  excluded.sessionId.any fun id =>
    sessionId = some id || parentSessionId = some id || rootSessionId = some id

/-- `event_hit_matches_excluded_provider_session`. -/
def eventHitMatchesExcludedProviderSession (hit : EventSearchHit F) (filters : SearchFilters) : Bool :=
  filters.excludeProviderSession.any fun excluded =>
    (hit.provider = some excluded.provider
      && hit.sessionExternalSessionId = some excluded.providerSessionId)
    || excludedSessionTreeMatches excluded hit.sessionId hit.sessionParentSessionId
      hit.sessionRootSessionId

/-- `event_hit_matches_agent_scope`. -/
def eventHitMatchesAgentScope (hit : EventSearchHit F) (filters : SearchFilters) : Bool :=
  if filters.session.isSome && filters.session = hit.sessionId then true
  else if filters.includeSubagents && !filters.primaryOnly then true
  else if hit.sessionIsPrimary = some true || hit.agentType = some .primary then true
  else if filters.primaryOnly then false
  else hit.sessionIsPrimary.isNone && hit.agentType.isNone

/-- `file_scope_matches_hit`. -/
def fileScopeMatchesHit (scope : FileTouchScope) (hit : EventSearchHit F) : Bool :=
  scope.eventIds.contains hit.eventId || hit.runId.any scope.runIds.contains
    || hit.sessionId.any scope.sessionIds.contains
    || hit.historyRecordId.any scope.historyRecordIds.contains

/-- `str::contains`, of texts in lowercase. -/
def containsLower (text : String) (part : List Char) : Bool :=
  (toLowercase tables.toCaseTables text.toList).tails.any part.isPrefixOf

/-- `event_hit_matches_filters`. -/
def eventHitMatchesFilters (hit : EventSearchHit F) (filters : SearchFilters)
    (fileScope : Option FileTouchScope) : Bool :=
  filters.session.all (hit.sessionId = some ·)
  && !eventHitMatchesExcludedProviderSession hit filters
  && filters.provider.all (hit.provider = some ·)
  && filters.since.all (·.nanos ≤ hit.occurredAt.nanos)
  && eventHitMatchesAgentScope hit filters
  && filters.eventType.all (hit.eventType = ·)
  && (filters.repo.all fun repo =>
      ([hit.cwd, hit.rawSourcePath, hit.recordWorkspace].filterMap id).any fun value =>
        containsLower tables value (toLowercase tables.toCaseTables repo.toList))
  && fileScope.all (fileScopeMatchesHit · hit)

/-- The parts of a query between characters that are not of a term. -/
def termParts : List Char → List Char → List (List Char)
  | part, [] => [part]
  | part, ch :: rest =>
      if !tables.isAlphanumeric ch && ch ≠ '_' && ch ≠ '-' then part :: termParts [] rest
      else termParts (part ++ [ch]) rest

/-- `query_terms`. -/
def queryTerms (query : List Char) : List (List Char) :=
  ((termParts tables [] query).map fun part => toLowercase tables.toCaseTables (trim part)).foldl
    (fun terms term =>
      if term.isEmpty || !term.any tables.isAlphanumeric || terms.contains term then terms
      else terms ++ [term])
    []

-----------------------------------------------------------------------------------------
-- Results
-----------------------------------------------------------------------------------------

/-- `SearchResultScope`. -/
inductive SearchResultScope where
  | session
  | event
deriving DecidableEq

/-- `SearchPacketResult`, as far as a search goes by it. -/
structure SearchPacketResult (F : Type) where
  recordId : Uuid
  sessionId : Option Uuid
  eventId : Option Uuid
  rank : F
  resultScope : SearchResultScope := .event
  moreMatchesInSession : Nat := 0
  sessionImportance : F

/-- The id that the results of one cluster share. -/
def SearchPacketResult.clusterId (result : SearchPacketResult F) : Uuid :=
  result.sessionId.getD result.recordId

/-- `session_importance`. -/
def sessionImportance (rank : F) (moreMatchesInSession : Nat) : F :=
  floats.clamp (floats.add rank (floats.coverageBoost moreMatchesInSession))

/-- A result with one more match in its session. -/
def noteMatch (existing : SearchPacketResult F) : SearchPacketResult F :=
  { existing with
    moreMatchesInSession := existing.moreMatchesInSession + 1
    sessionImportance := sessionImportance floats existing.rank (existing.moreMatchesInSession + 1) }

/-- One result after others, which `clustered_index` finds by their ids. The first one of a session is
opened, and a later one is counted.
-/
def addResult (mode : SearchResultMode) (opened : SearchPacketResult F → SearchPacketResult F)
    (results : List (SearchPacketResult F)) (result : SearchPacketResult F)
    : List (SearchPacketResult F) :=
  match mode with
  | .events => results ++ [result]
  | .sessions =>
      match results.findIdx? (·.clusterId = result.clusterId) with
      | some index => results.modify index (noteMatch floats)
      | none => results ++ [opened result]

/-- `candidate_search_result`. -/
def candidateSearchResult (candidate : Candidate F) : SearchPacketResult F where
  recordId := candidate.primaryEventId.getD candidate.recordId
  sessionId := candidate.displaySessionId
  eventId := candidate.displayEventId
  rank := candidate.score
  sessionImportance := floats.zero

/-- The first result of a session, or one without a session, of a record. -/
def openCandidate (result : SearchPacketResult F) : SearchPacketResult F :=
  if result.sessionId.isSome then
    { result with resultScope := .session, sessionImportance := sessionImportance floats result.rank 0 }
  else result

/-- The loop of `push_candidate_results`. -/
def pushCandidateResults (options : PacketOptions)
    : List (SearchPacketResult F) → List (Candidate F) → List (SearchPacketResult F)
  | results, [] => results
  | results, candidate :: rest =>
      let results := addResult floats options.resultMode (openCandidate floats) results
        (candidateSearchResult floats candidate)
      if options.limit ≤ results.length then results else pushCandidateResults options results rest

/-- `event_search_result`. -/
def eventSearchResult (hit : EventSearchHit F) : SearchPacketResult F where
  recordId := hit.eventId
  sessionId := hit.sessionId
  eventId := some hit.eventId
  rank := floats.eventRank hit.score
  sessionImportance := floats.zero

/-- The first result of a session, or one without a session, of an event. -/
def openEvent (result : SearchPacketResult F) : SearchPacketResult F :=
  { result with
    resultScope := if result.sessionId.isSome then .session else .event
    sessionImportance := sessionImportance floats result.rank 0 }

/-- `normalize_search_result_ranks`. -/
def normalizeSearchResultRanks (results : List (SearchPacketResult F)) : List (SearchPacketResult F) :=
  let maxRank := (results.map (·.rank)).foldl floats.max floats.zero
  if !floats.isPositive maxRank then results
  else
    results.map fun result =>
      let rank := floats.clamp (floats.div result.rank maxRank)
      { result with
        rank
        sessionImportance :=
          if result.resultScope = .session then
            sessionImportance floats rank result.moreMatchesInSession
          else floats.zero }

-----------------------------------------------------------------------------------------
-- Candidates
-----------------------------------------------------------------------------------------

/-- `normalize_scores`. -/
def normalizeScores (candidates : List (Candidate F)) : List (Candidate F) :=
  let coverageStride := floats.add ((candidates.map (·.score)).foldl floats.max floats.zero) floats.one
  let covered := candidates.map fun candidate =>
    { candidate with
      score := floats.add candidate.score
        (floats.mul (floats.ofNat candidate.matchedTermCount) coverageStride) }
  let maxScore := (covered.map (·.score)).foldl floats.max floats.zero
  if !floats.isPositive maxScore then covered
  else
    covered.map fun candidate =>
      { candidate with score := floats.clamp (floats.div candidate.score maxScore) }

/-- `compare_candidates`. -/
def compareCandidates (left right : Candidate F) : Ordering :=
  (((floats.totalCmp right.score left.score).then
    (compare right.updatedAt.nanos left.updatedAt.nanos)).then
      (compare left.title right.title)).then (compare left.recordId.text right.recordId.text)

/-- The scores normalized, the candidates in order, and no more than the target. -/
def rankCandidates (target : Nat) (candidates : List (Candidate F)) : List (Candidate F) :=
  ((normalizeScores floats candidates).insertionSort fun left right =>
    compareCandidates floats left right ≠ .gt).take target

/-- `CandidateSearch`. -/
structure CandidateSearch (F : Type) where
  candidates : List (Candidate F)
  scanBudgetExhausted : Bool

variable (store : SearchStore F)

/-- One record of the loops of `ranked_candidates`, with the records that have been seen. -/
def addRecord (terms : List (List Char)) (filters : SearchFilters) (fileScope : Option FileTouchScope)
    (inScope : Uuid → Bool) (found : List Uuid × List (Candidate F)) (record : Uuid)
    : List Uuid × List (Candidate F) :=
  if found.1.contains record then found
  else if !inScope record then (found.1 ++ [record], found.2)
  else
    (found.1 ++ [record],
      found.2 ++ (store.candidateForRecord record terms filters fileScope).toList)

/-- The loop over the pages of records, with the pages left in the scan budget. -/
def scanRecordPages (pageSize target : Nat)
    (add : List Uuid × List (Candidate F) → Uuid → List Uuid × List (Candidate F)) (records : List Uuid)
    : Nat → Nat → List Uuid × List (Candidate F) → CandidateSearch F
  | 0, _, found => ⟨found.2, true⟩
  | pages + 1, offset, found =>
      let records' := page records pageSize offset
      let found := records'.foldl add found
      if target ≤ found.2.length || records'.length < pageSize then ⟨found.2, false⟩
      else if pages = 0 then ⟨found.2, true⟩
      else scanRecordPages pageSize target add records pages (offset + pageSize) found

/-- Whether a record is in the scope of files, where the scope has records. -/
def inRecordScope (fileScope : Option FileTouchScope) (record : Uuid) : Bool :=
  fileScope.all fun scope =>
    scope.historyRecordIds.isEmpty || scope.historyRecordIds.contains record

/-- `ranked_candidates`. -/
def rankedCandidates (query : List Char) (options : PacketOptions) (fileScope : Option FileTouchScope)
    : CandidateSearch F :=
  let target := options.limit + 1
  let terms := queryTerms tables query
  let add := addRecord store terms options.filters fileScope
  let records := if trim query = [] then [] else store.searchRecords query
  if terms.isEmpty then
    match fileScope with
    | none => ⟨[], false⟩
    | some scope =>
        let found := scope.historyRecordIds.foldl (add fun _ => true) ([], [])
        ⟨rankCandidates floats target found.2, false⟩
  else if hasFilters options.filters then
    let found := scanRecordPages (max filteredSearchPageSize target) target
      (add (inRecordScope fileScope)) records filteredSearchMaxPages 0 ([], [])
    { found with candidates := rankCandidates floats target found.candidates }
  else
    let inScope (record : Uuid) := fileScope.all fun scope => scope.historyRecordIds.contains record
    let found := (page records target 0).foldl (add inScope) ([], [])
    ⟨rankCandidates floats target found.2, false⟩

-----------------------------------------------------------------------------------------
-- Packets
-----------------------------------------------------------------------------------------

/-- `ContextTruncation`, with its `Default`. -/
structure ContextTruncation where
  truncated : Bool := false
  omittedResults : Nat := 0
  reason : Option String := none
deriving DecidableEq

/-- `ContextPagination`. -/
structure ContextPagination where
  cursor : Option String
  hasMore : Bool
deriving DecidableEq

/-- `SearchPacket`, without the version and the time. -/
structure SearchPacket (F : Type) where
  query : List Char
  filters : SearchFilters
  results : List (SearchPacketResult F)
  pagination : ContextPagination
  truncation : ContextTruncation

/-- `pagination`. -/
def pagination (cursorBase : Nat) (hasMore : Bool) : ContextPagination where
  cursor := if hasMore then some ("offset:" ++ cursorBase.repr) else none
  hasMore

/-- `empty_search_packet`. -/
def emptySearchPacket (query : List Char) (options : PacketOptions) : SearchPacket F where
  query
  filters := options.filters
  results := []
  pagination := pagination 0 false
  truncation := {}

/-- The loop over the hits of a page. -/
def addHits (mode : SearchResultMode) (target : Nat) (matching : EventSearchHit F → Bool)
    : List (SearchPacketResult F) → List (EventSearchHit F) → List (SearchPacketResult F)
  | results, [] => results
  | results, hit :: rest =>
      if !matching hit then addHits mode target matching results rest
      else
        let results := addResult floats mode (openEvent floats) results (eventSearchResult floats hit)
        if target ≤ results.length then results else addHits mode target matching results rest

/-- The loop over the pages of hits, with the pages left in the scan budget. -/
def scanEventPages (pageSize : Nat) (onePage : Bool) (target : Nat)
    (add : List (SearchPacketResult F) → List (EventSearchHit F) → List (SearchPacketResult F))
    (hits : List (EventSearchHit F))
    : Nat → Nat → List (SearchPacketResult F) → List (SearchPacketResult F) × Bool
  | 0, _, results => (results, true)
  | pages + 1, offset, results =>
      let hits' := page hits (max pageSize 1) offset
      let results := add results hits'
      if onePage || target ≤ results.length || hits'.length < pageSize then (results, false)
      else if pages = 0 then (results, true)
      else scanEventPages pageSize onePage target add hits pages (offset + pageSize) results

/-- The size of a page of hits. -/
def eventPageSize (options : PacketOptions) : Nat :=
  let target := options.limit + 1
  match options.resultMode with
  | .sessions => max filteredSearchPageSize (max (target * 8) 50)
  | .events => if hasFilters options.filters then max filteredSearchPageSize target else target

/-- `fast_event_search_packet`. -/
def fastEventSearchPacket (query : List Char) (options : PacketOptions)
    (fileScope : Option FileTouchScope) : Option (SearchPacket F) :=
  if trim query = [] || hasHistorySourceFilter options.filters
    || !store.hasAtLeastEvents largeEventCorpusThreshold
  then none
  else
    let target := options.limit + 1
    let onePage := !hasFilters options.filters && options.resultMode ≠ .sessions
    let matching := (eventHitMatchesFilters tables · options.filters fileScope)
    let hits := store.searchEventHits options.filters.eventType.isNone query
    let (found, scanBudgetExhausted) := scanEventPages (eventPageSize options) onePage target
      (addHits floats options.resultMode target matching) hits filteredSearchMaxPages 0 []
    let hasMore := options.limit < found.length || scanBudgetExhausted
    let results := normalizeSearchResultRanks floats (found.take options.limit)
    some {
      query
      filters := options.filters
      results
      pagination := pagination results.length hasMore
      truncation :=
        if scanBudgetExhausted then ⟨true, 1, some "scan_budget"⟩
        else if hasMore then ⟨true, 1, some "limit"⟩
        else {}
    }

/-- `search_packet` from the records. -/
def recordSearchPacket (query : List Char) (options : PacketOptions)
    (fileScope : Option FileTouchScope) : SearchPacket F :=
  let search := rankedCandidates floats tables store query options fileScope
  let results := pushCandidateResults floats options [] search.candidates
  {
    query
    filters := options.filters
    results
    pagination := pagination results.length
      (results.length < search.candidates.length || search.scanBudgetExhausted)
    truncation :=
      if search.scanBudgetExhausted then ⟨true, 1, some "scan_budget"⟩
      else if results.length < search.candidates.length then
        ⟨true, search.candidates.length - results.length, some "limit"⟩
      else {}
  }

/-- `search_packet`. -/
def searchPacket (query : List Char) (options : PacketOptions) : SearchPacket F :=
  let options := normalizedOptions options
  if options.filters.provider.any fun provider => !store.hasProviderData provider then
    emptySearchPacket query options
  else
    let fileScope := options.filters.file.map store.fileTouchScope
    if fileScope.any (·.isEmpty) then emptySearchPacket query options
    else
      (fastEventSearchPacket floats tables store query options fileScope).getD
        (recordSearchPacket floats tables store query options fileScope)

end CtxRemote.Search
