import CtxRemote.Store.Analyzer
import CtxRemote.Store.Events
import Mathlib.Data.List.Dedup
import Mathlib.Data.List.Sort
import Mathlib.Data.String.Basic

/-! The searches for events: `search_event_hits_page` over the full-text tables of the projection, and
the events that a semantic search may return. A hit has what it takes from its projection row and its
event; numbers and times are as stored.
-/

namespace CtxRemote.Store

-----------------------------------------------------------------------------------------
-- Full-text search
-----------------------------------------------------------------------------------------

/-- What SQLite does: whether a text matches a clause, `bm25` of a row among those of its table, `MIN`,
`SUM` and `<` of scores, `score + 0.35`, and `score - ABS(score) * 0.15`.
-/
structure FullText (Score : Type) where
  isMatch : List Char → String → Bool
  bm25 : List SearchRow → List Char → SearchRow → Score
  least : List Score → Score
  sum : List Score → Score
  less : Score → Score → Bool
  plus : Score → Score
  preferred : Score → Score

/-- A search for a page of events. -/
structure EventQuery where
  query : List Char
  limit : Nat
  offset : Nat
  preferConversation : Bool

/-- A row of `ranked`, with the preview that it is joined to. -/
structure RankedEvent (Score : Type) where
  eventId : Uuid
  previewText : String
  matchedTerms : Nat
  score : Score

/-- `EventSearchHit`, as far as events and the projection determine it. -/
structure EventSearchHit (Score : Type) where
  eventId : Uuid
  runId : Option Uuid
  seq : Int
  eventType : EventType
  role : Option EventRole
  occurredAtMs : Int
  preview : String
  score : Score
  cursor : Option String

variable (externals : Externals) (unicode : Unicode) {Score : Type} (fullText : FullText Score)

/-- `fts_match_clauses`. -/
def ftsMatchClauses (query : List Char) : List (List Char) :=
  (lexicalQueryTerms unicode query).map quotedFtsTerm

def SearchTable.rowsOf (projection : List SearchRow) (table : SearchTable) : List SearchRow :=
  projection.filter fun row => row.table = table

/-- `SELECT …, {term_index}, bm25(…) FROM … WHERE … MATCH ?`, for every clause. -/
def clauseMatches (rows : List SearchRow) (clauses : List (Nat × List Char))
    : List (SearchRow × Nat × Score) :=
  clauses.flatMap fun (termIndex, clause) =>
    (rows.filter fun row => fullText.isMatch clause row.text).map fun row =>
      (row, termIndex, fullText.bm25 rows clause row)

/-- `ranked` of `lexical_event_search_query`. -/
def rankedLexical (projection : List SearchRow) (clauses : List (Nat × List Char))
    : List (RankedEvent Score) :=
  let matched := clauseMatches fullText (SearchTable.rowsOf projection .eventSearch) clauses
  (matched.map fun found => found.1.eventId).dedup.map fun eventId =>
    let own := matched.filter fun found => found.1.eventId = eventId
    { eventId
      previewText := ((own.map fun found => found.1.text).min?).getD ""
      matchedTerms := own.length
      score := fullText.sum (own.map fun found => found.2.2) }

/-- `ranked JOIN event_search` of `search_event_hits_page_with_ranking`. -/
def rankedScriptgram (projection : List SearchRow)
    (clauses scriptgramClauses : List (Nat × List Char))
    : List (RankedEvent Score) :=
  let rows := SearchTable.rowsOf projection .eventSearch
  let lexical := clauseMatches fullText rows clauses
  let grams := clauseMatches fullText (SearchTable.rowsOf projection .eventSearchScriptgram)
    scriptgramClauses
  let matched := lexical ++ grams.map fun (row, termIndex, score) =>
    (row, termIndex, fullText.plus score)
  rows.filterMap fun row =>
    let own := matched.filter fun found => found.1.eventId = row.eventId
    let terms := (own.map fun found => found.2.1).dedup
    let termScore (term : Nat) : Score :=
      fullText.least ((own.filter fun found => found.2.1 = term).map fun found => found.2.2)
    if own.isEmpty then none
    else
      some
        { eventId := row.eventId
          previewText := row.text
          matchedTerms := terms.length
          score := fullText.sum (terms.map termScore) }

/-- The ranked rows of either form of the query. -/
def rankedEvents (projection : List SearchRow) (query : List Char) : List (RankedEvent Score) :=
  let clauses := (ftsMatchClauses unicode query).zipIdx.map fun (clause, index) => (index, clause)
  match scriptgramMatchClauses unicode query with
  | [] => rankedLexical fullText projection clauses
  | scriptgramClauses => rankedScriptgram fullText projection clauses scriptgramClauses

/-- `event_search_cursor`, of the event's payload. -/
def eventSearchCursor (payloadJson : String) : Option String := do
  let payload ← externals.fromStr payloadJson
  ((payload.get "cursor").bind Json.asStr).or
    (((payload.get "body").bind (·.get "cursor")).bind Json.asStr)

/-- `event_search_score`. -/
def eventSearchScore (preferConversation : Bool) (event : EventRow) (score : Score) : Score :=
  if preferConversation && (event.eventType = .message || event.eventType = .summary) then
    fullText.preferred score
  else score

/-- `event_search_hit_from_row`. -/
def eventSearchHit (preferConversation : Bool) (ranked : RankedEvent Score) (event : EventRow)
    : EventSearchHit Score where
  eventId := ranked.eventId
  runId := event.runId
  seq := event.seq
  eventType := event.eventType
  role := event.role
  occurredAtMs := event.occurredAtMs
  preview := ranked.previewText
  score := eventSearchScore fullText preferConversation event ranked.score
  cursor := eventSearchCursor externals event.payloadJson

/-- `ORDER BY matched_terms DESC, search_score, occurred_at_ms DESC, seq DESC, event_id`. -/
def hitBefore (left right : Nat × EventSearchHit Score) : Bool :=
  right.1 < left.1
  || (left.1 = right.1
    && (fullText.less left.2.score right.2.score
      || (!fullText.less right.2.score left.2.score
        && (right.2.occurredAtMs < left.2.occurredAtMs
          || (left.2.occurredAtMs = right.2.occurredAtMs
            && (right.2.seq < left.2.seq
              || (left.2.seq = right.2.seq && left.2.eventId.text ≤ right.2.eventId.text)))))))

/-- `search_event_hits_page_with_ranking`. -/
def searchEventHits (db : Database) (query : EventQuery) : List (EventSearchHit Score) :=
  let joined := (rankedEvents unicode fullText db.projection query.query).filterMap fun ranked =>
    (db.eventById ranked.eventId).map fun event =>
      (ranked.matchedTerms, eventSearchHit externals fullText query.preferConversation ranked event)
  (((joined.insertionSort fun left right => hitBefore fullText left right).drop query.offset).take (max query.limit 1)).map
    (·.2)

/-- `semantic_eligible_event_ids`. -/
def semanticEligibleEventIds (db : Database) (eventIds : List Uuid) : List Uuid :=
  (db.events.rows.filter fun anchor =>
    anchor.id ∈ eventIds && !(anchorMatches db.projection anchor).isEmpty).map (·.id)

-----------------------------------------------------------------------------------------
-- What a search reads
-----------------------------------------------------------------------------------------

variable {unicode fullText}

theorem mem_of_clauseMatches {rows : List SearchRow} {clauses : List (Nat × List Char)}
    {found : SearchRow × Nat × Score} (member : found ∈ clauseMatches fullText rows clauses)
    : found.1 ∈ rows := by
  obtain ⟨clause, -, inClause⟩ := List.mem_flatMap.mp member
  obtain ⟨row, matching, rfl⟩ := List.mem_map.mp inClause
  exact (List.mem_filter.mp matching).1

/-- A ranked event has a row in the projection. -/
theorem exists_row_of_rankedEvents {projection : List SearchRow} {query : List Char}
    {ranked : RankedEvent Score} (member : ranked ∈ rankedEvents unicode fullText projection query)
    : ∃ row ∈ projection, row.eventId = ranked.eventId := by
  unfold rankedEvents at member
  split at member
  next =>
    obtain ⟨eventId, among, rfl⟩ := List.mem_map.mp member
    obtain ⟨found, matching, rfl⟩ := List.mem_map.mp (List.mem_dedup.mp among)
    exact ⟨found.1, (List.mem_filter.mp (mem_of_clauseMatches matching)).1, rfl⟩
  next =>
    obtain ⟨row, inTable, kept⟩ := List.mem_filterMap.mp member
    refine ⟨row, (List.mem_filter.mp inTable).1, ?_⟩
    dsimp only at kept
    split at kept
    · exact absurd kept (by simp)
    · obtain rfl := Option.some.inj kept
      rfl

end CtxRemote.Store
