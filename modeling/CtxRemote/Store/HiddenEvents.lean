import CtxRemote.Store.EventSearch
import CtxRemote.Store.HashConflicts
import CtxRemote.Store.SearchProjection

/-! What the event searches show of deleted events. Event writes leave them out of the projection; the
rebuilds, which imports, repairs and opens start, project every row of `events`.
-/

namespace CtxRemote.Store
open CtxRemote.Library
open CtxRemote.Turso (trim Visibility SyncState)

-----------------------------------------------------------------------------------------
-- Hidden events
-----------------------------------------------------------------------------------------

/-- A deleted or withheld event. -/
def EventRow.hidden (row : EventRow) : Bool :=
  row.deletedAtMs.isSome || row.visibility = .withheld || row.syncState = .withheld

/-- No projection row is one of a hidden event. -/
def NoHiddenRows (db : Database) : Prop :=
  ∀ row ∈ db.projection, ∀ event ∈ db.events.rows, event.id = row.eventId → event.hidden = false

/-- Rows that differ at most in the payload of a hidden event. -/
def AlikeButHidden (left right : EventRow) : Prop :=
  left = right ∨ left.hidden = true ∧ right = { left with payloadJson := right.payloadJson }

/-- Databases that differ at most in the payloads of hidden events. -/
structure SameButHidden (db other : Database) : Prop where
  references : db.references = other.references
  projection : db.projection = other.projection
  searchableItems : db.searchableItems = other.searchableItems
  events : List.Forall₂ AlikeButHidden db.events.rows other.events.rows

/-- The projection has no row of a hidden event, and no search tells two payloads of one apart. -/
def SearchesHide (externals : Externals) (db : Database) : Prop :=
  NoHiddenRows db
  ∧ ∀ other, SameButHidden db other →
      (∀ (unicode : Unicode) (Score : Type) (fullText : FullText Score) (query : EventQuery),
        searchEventHits externals unicode fullText other query
          = searchEventHits externals unicode fullText db query)
      ∧ ∀ eventIds, semanticEligibleEventIds other eventIds = semanticEligibleEventIds db eventIds

-----------------------------------------------------------------------------------------
-- Searches
-----------------------------------------------------------------------------------------

theorem AlikeButHidden.id_eq {left right : EventRow} (alike : AlikeButHidden left right)
    : left.id = right.id := by
  rcases alike with rfl | ⟨-, same⟩
  · rfl
  · rw [same]

/-- A search by id finds alike rows. -/
theorem SameButHidden.eventById {db other : Database} (same : SameButHidden db other) (id : Uuid)
    : Option.Rel AlikeButHidden (db.eventById id) (other.eventById id) := by
  have events := same.events
  unfold Database.eventById
  generalize db.events.rows = rows at events
  generalize other.events.rows = others at events
  induction events with
  | nil => exact .none
  | @cons left right _ _ alike _ ih =>
      have ids := alike.id_eq
      by_cases here : left.id = id
      · simpa [here, ids ▸ here] using Option.Rel.some alike
      · simpa [here, ids ▸ here] using ih

/-- A hidden event is not eligible for semantic searches. -/
theorem anchorMatches_of_hidden {projection : List SearchRow} {anchor : EventRow}
    (hidden : anchor.hidden = true)
    : anchorMatches projection anchor = [] := by
  have ineligible (search : SearchRow) : anchorEligible anchor search = false := by
    simp only [EventRow.hidden, Bool.or_eq_true, decide_eq_true_eq] at hidden
    rcases hidden with (deleted | withheld) | withheld
    · obtain ⟨ms, deleted⟩ := Option.isSome_iff_exists.mp deleted
      simp [anchorEligible, deleted]
    · simp [anchorEligible, withheld]
    · simp [anchorEligible, withheld]
  simp [anchorMatches, ineligible]

theorem SameButHidden.semanticEligibleEventIds {db other : Database}
    (same : SameButHidden db other) (eventIds : List Uuid)
    : semanticEligibleEventIds other eventIds = semanticEligibleEventIds db eventIds := by
  have events := same.events
  unfold CtxRemote.Store.semanticEligibleEventIds
  rw [same.projection]
  generalize db.events.rows = rows at events
  generalize other.events.rows = others at events
  induction events with
  | nil => rfl
  | @cons left right _ _ alike _ ih =>
      rcases alike with rfl | ⟨hidden, payload⟩
      · simp only [List.filter_cons]
        split
        · simp [ih]
        · exact ih
      · have hiddenToo : right.hidden = true := by rw [payload]; exact hidden
        simpa [List.filter_cons, anchorMatches_of_hidden hidden,
          anchorMatches_of_hidden hiddenToo] using ih

theorem mem_and_id_of_eventById {db : Database} {id : Uuid} {event : EventRow}
    (found : db.eventById id = some event)
    : event ∈ db.events.rows ∧ event.id = id :=
  ⟨List.mem_of_find?_eq_some found, by simpa using List.find?_some found⟩

/-- A hit is of an event that is not hidden, where no hidden event is in the projection. -/
theorem SameButHidden.searchEventHits {externals : Externals} {db other : Database}
    (same : SameButHidden db other) (shown : NoHiddenRows db) (unicode : Unicode) {Score : Type}
    (fullText : FullText Score) (query : EventQuery)
    : searchEventHits externals unicode fullText other query
      = searchEventHits externals unicode fullText db query := by
  have joined
      : ∀ ranked ∈ rankedEvents unicode fullText db.projection query.query,
          other.eventById ranked.eventId = db.eventById ranked.eventId := by
    intro ranked member
    obtain ⟨row, projected, ids⟩ := exists_row_of_rankedEvents member
    have alike := same.eventById ranked.eventId
    cases found : db.eventById ranked.eventId with
    | none =>
        rw [found] at alike
        generalize other.eventById ranked.eventId = there at alike
        cases alike
        rfl
    | some event =>
        rw [found] at alike
        generalize other.eventById ranked.eventId = there at alike
        obtain ⟨stored, id⟩ := mem_and_id_of_eventById found
        have visible := shown row projected event stored (id.trans ids.symm)
        cases alike with
        | some either =>
            rcases either with rfl | ⟨hidden, -⟩
            · rfl
            · exact absurd hidden (by simp [visible])
  unfold CtxRemote.Store.searchEventHits
  rw [← same.projection]
  have hits := List.filterMap_congr (fun ranked member =>
    congrArg (Option.map fun event => (ranked.matchedTerms,
      eventSearchHit externals fullText query.preferConversation ranked event))
      (joined ranked member))
  simp only [hits]

/-- Where no hidden event is in the projection, searches hide them. Witness: each hit joins a row of the
projection to its event, and semantic searches leave hidden anchors out themselves.
-/
theorem searchesHide_iff {externals : Externals} {db : Database}
    : SearchesHide externals db ↔ NoHiddenRows db := by
  refine ⟨And.left, fun shown => ⟨shown, fun other same => ⟨?_, ?_⟩⟩⟩
  · exact fun unicode Score fullText query => same.searchEventHits shown unicode fullText query
  · exact same.semanticEligibleEventIds

-----------------------------------------------------------------------------------------
-- Rebuilds and opens
-----------------------------------------------------------------------------------------

section Actions

variable (externals : Externals)

/-- `rebuild_event_search_lookup_projection`. -/
def rebuildEventSearchLookupProjection (db : Database) : Database :=
  { db with
    projection :=
      (db.projection.filter fun row => row.table ≠ .eventSearchLookup)
        ++ (interruptedSearchProjection externals db).filter fun row =>
          row.table = .eventSearchLookup }

/-- `event_search_lookup_candidate_count`. -/
def eventSearchLookupCandidateCount (db : Database) : Nat :=
  let rows := SearchTable.rowsOf db.projection .eventSearch
  if 0 < rows.length then
    rows.countP fun row =>
      row.rankBucket = "message" && (row.role = some .user || row.role = some .assistant)
  else
    db.events.rows.countP fun event =>
      event.eventType = .message && (event.role = some .user || event.role = some .assistant)
      && event.deletedAtMs.isNone && event.visibility ≠ .withheld && event.syncState ≠ .withheld
      && 2 < sqlLength (sqlTrim event.payloadJson.toList)

/-- What `ensure_search_projection_initialized` does with a database; `recordRows` is the number of rows
in the search tables of records and artifacts.
-/
inductive Initialization where
  | rebuildAll
  | rebuildLookup
  | refreshStats
  | nothing

def initialization (recordRows : Nat) (db : Database) : Initialization :=
  if 0 < recordRows + db.projection.length then
    if (SearchTable.rowsOf db.projection .eventSearchLookup).length = 0
        ∧ 0 < eventSearchLookupCandidateCount db then .rebuildLookup
    else if db.searchableItems.isNone then .refreshStats
    else .nothing
  else if 0 < db.references.historyRecords.length ∨ 0 < db.events.rows.length then .rebuildAll
  else .nothing

/-- `ensure_search_projection_initialized`. -/
def ensureSearchProjectionInitialized (recordRows : Nat) (db : Database) : Database :=
  match initialization recordRows db with
  | .rebuildAll => (rebuildAfterImport externals db).2
  | .rebuildLookup => rebuildEventSearchLookupProjection externals db
  | .refreshStats => refreshSemanticSearchableItemStats db
  | .nothing => db

/-- What happens to a store. `refer` stands for the writes to the tables that events refer to. -/
inductive StoreAction (Entities : Type) where
  | write (call : EventWrite)
  | refer (references : References)
  | importArchive (archive : SessionHistoryArchive Entities) (overwrite : Bool)
  | rebuild
  | rebuildLookup
  | reopen (recordRows : Nat)

variable {Entities : Type} (imports : EntityImport Entities)

/-- The database after an action, whether it succeeds or not. -/
def StoreAction.perform (db : Database) : StoreAction Entities → Database
  | .write call => call.perform externals db
  | .refer references => { db with references := references }
  | .importArchive archive overwrite =>
      (CtxRemote.Store.importArchive externals imports db archive overwrite).2
  | .rebuild => (rebuildAfterImport externals db).2
  | .rebuildLookup => rebuildEventSearchLookupProjection externals db
  | .reopen recordRows => ensureSearchProjectionInitialized externals recordRows db

def StoreAction.step (db : Database) (action : StoreAction Entities) : Option Database :=
  some (action.perform externals imports db)

-----------------------------------------------------------------------------------------
-- The condition
-----------------------------------------------------------------------------------------

/-- The events that a rebuild reads: all up to the first whose payload is not JSON. -/
def rebuildReads (db : Database) : List EventRow :=
  (db.events.rows.insertionSort EventRow.before).takeWhile fun row =>
    (externals.fromStr row.payloadJson).isSome

/-- The stored payload of an event has nothing to preview. -/
def Unpreviewed (event : EventRow) : Prop :=
  ∀ payload, externals.fromStr event.payloadJson = some payload
    → Blank (eventSearchPreviewFromPayload event.eventType event.role payload .safePreview)

/-- No hidden event that a rebuild of all tables reads has a preview. -/
def RebuildHides (db : Database) : Prop :=
  ∀ event ∈ rebuildReads externals db, event.hidden = true → Unpreviewed externals event

/-- The same for a rebuild of the lookup table, which has messages of users and assistants only. -/
def LookupRebuildHides (db : Database) : Prop :=
  ∀ event ∈ rebuildReads externals db,
    event.hidden = true → semanticLookupEventParts event.eventType event.role = true
    → Unpreviewed externals event

instance (event : EventRow) : Decidable (Unpreviewed externals event) :=
  decidable_of_iff
    ((externals.fromStr event.payloadJson).all fun payload =>
      (trim (eventSearchPreviewFromPayload event.eventType event.role payload .safePreview).toList).isEmpty)
    (by simp [Unpreviewed, Blank, Option.all_eq_true])

instance (db : Database) : Decidable (RebuildHides externals db) :=
  inferInstanceAs
    (Decidable (∀ event ∈ rebuildReads externals db, event.hidden = true → Unpreviewed externals event))

/-- The condition under which an action hides what is hidden. -/
def StoreAction.Hides (db : Database) : StoreAction Entities → Prop
  | .write _ => True
  | .refer _ => True
  | .importArchive archive overwrite =>
      ∀ committed, importTransaction externals imports db archive overwrite = .ok committed
        → RebuildHides externals committed
  | .rebuild => RebuildHides externals db
  | .rebuildLookup => LookupRebuildHides externals db
  | .reopen recordRows =>
      match initialization recordRows db with
      | .rebuildAll => RebuildHides externals db
      | .rebuildLookup => LookupRebuildHides externals db
      | _ => True

-----------------------------------------------------------------------------------------
-- What a rebuild projects
-----------------------------------------------------------------------------------------

variable {externals}

section Rows

variable {eventId : Uuid} {historyRecordId sessionId : Option Uuid} {role : Option EventRole}
  {eventType : EventType} {preview : String}

/-- An event has a row in the full-text table unless its preview is blank. -/
theorem searchRows_eq_nil_iff (externals : Externals)
    : searchRows externals eventId historyRecordId sessionId role eventType preview = []
      ↔ Blank preview := by
  refine ⟨fun none => ?_, fun blank => if_pos blank⟩
  by_contra filled
  unfold searchRows at none
  rw [if_neg (show ¬(trim preview.toList).isEmpty = true from filled)] at none
  simp at none

/-- A message of a user or an assistant has a row in the lookup table unless its preview is blank. -/
theorem searchRows_lookup_iff
    : (∀ row ∈ searchRows externals eventId historyRecordId sessionId role eventType preview,
        row.table ≠ .eventSearchLookup)
      ↔ (semanticLookupEventParts eventType role = true → Blank preview) := by
  constructor
  · intro none looked
    by_contra filled
    refine none ⟨.eventSearchLookup, eventId, historyRecordId, sessionId, role, preview,
      eventType.asStr⟩ ?_ rfl
    unfold searchRows
    rw [if_neg (show ¬(trim preview.toList).isEmpty = true from filled)]
    simp [looked]
  · intro blank row member table
    unfold searchRows at member
    split at member
    · cases member
    next filled =>
      have plain : semanticLookupEventParts eventType role = false := by
        by_contra looked
        exact filled (blank (by simpa using looked))
      simp only [plain, List.mem_append, List.mem_ite_nil_left, List.mem_singleton] at member
      rcases member with (rfl | ⟨-, rfl⟩) | none
      · cases table
      · cases table
      · simp at none

end Rows

/-- What a rebuild inserts comes from the events that it reads. -/
theorem mem_interruptedSearchProjection {db : Database} {row : SearchRow}
    : row ∈ interruptedSearchProjection externals db
      ↔ ∃ event ∈ rebuildReads externals db, ∃ payload,
          externals.fromStr event.payloadJson = some payload
          ∧ row ∈ searchRows externals event.id (coalescedRecordId db.references event)
              event.sessionId event.role event.eventType
              (eventSearchPreviewFromPayload event.eventType event.role payload .safePreview) := by
  have readable (event : EventRow)
      : (rebuiltSearchRows externals db.references event).isSome
        = (externals.fromStr event.payloadJson).isSome := by
    cases parsed : externals.fromStr event.payloadJson <;> simp [rebuiltSearchRows, parsed]
  simp only [interruptedSearchProjection, readable, List.mem_flatMap]
  refine exists_congr fun event => and_congr_right fun reads => ?_
  cases parsed : externals.fromStr event.payloadJson <;> simp [rebuiltSearchRows, parsed]

/-- A rebuild leaves what it inserted until it ended, and touches nothing but the projection and the
cached count.
-/
theorem rebuildAfterImport_eq (externals : Externals) (db : Database)
    : (rebuildAfterImport externals db).2.events = db.events
      ∧ (rebuildAfterImport externals db).2.projection = interruptedSearchProjection externals db := by
  unfold rebuildAfterImport
  cases rebuilt : rebuildSearchProjection externals db with
  | none => exact ⟨rfl, rfl⟩
  | some projection =>
      refine ⟨rfl, ?_⟩
      obtain ⟨readable, whole⟩ := foldlM_append_eq_some_iff.mp rebuilt
      have all
          : (db.events.rows.insertionSort EventRow.before).takeWhile
              (fun row => (rebuiltSearchRows externals db.references row).isSome)
            = db.events.rows.insertionSort EventRow.before :=
        List.takeWhile_eq_self_iff.mpr readable
      rw [interruptedSearchProjection, all]
      simpa [refreshSemanticSearchableItemStats] using whole

instance : Std.Symm EventRow.Clash where
  symm _ _ clash := by
    rcases clash with id | seq | ⟨present, key⟩
    · exact .inl id.symm
    · exact .inr (.inl seq.symm)
    · exact .inr (.inr ⟨key ▸ present, key.symm⟩)

theorem event_eq_of_id {db : Database} {event other : EventRow} (stored : event ∈ db.events.rows)
    (storedToo : other ∈ db.events.rows) (same : event.id = other.id)
    : event = other :=
  @Table.eq_of_clash _ _ _ db.events _ _ stored storedToo (.inl same)

theorem mem_of_rebuildReads {db : Database} {event : EventRow}
    (reads : event ∈ rebuildReads externals db)
    : event ∈ db.events.rows :=
  (List.mem_insertionSort _).mp (List.takeWhile_subset _ reads)

/-- The rows of a rebuild are of hidden events exactly if one of these has a preview. -/
theorem rebuild_shows_iff (externals : Externals) (db : Database) (tables : SearchRow → Prop)
    : (∀ row ∈ interruptedSearchProjection externals db, tables row
        → ∀ event ∈ db.events.rows, event.id = row.eventId → event.hidden = false)
      ↔ ∀ event ∈ rebuildReads externals db, event.hidden = true
        → ∀ payload, externals.fromStr event.payloadJson = some payload
          → ∀ row ∈ searchRows externals event.id (coalescedRecordId db.references event)
              event.sessionId event.role event.eventType
              (eventSearchPreviewFromPayload event.eventType event.role payload .safePreview),
            ¬tables row := by
  constructor
  · intro shown event reads hidden payload parsed row member inTables
    have visible := shown row
      (mem_interruptedSearchProjection.mpr ⟨event, reads, payload, parsed, member⟩) inTables event
      (mem_of_rebuildReads reads) (eventId_of_mem_searchRows member).symm
    exact absurd hidden (by simp [visible])
  · intro hides row member inTables event stored id
    obtain ⟨source, reads, payload, parsed, member⟩ := mem_interruptedSearchProjection.mp member
    obtain rfl : source = event :=
      event_eq_of_id (mem_of_rebuildReads reads) stored
        ((eventId_of_mem_searchRows member).symm.trans id.symm)
    by_contra hidden
    exact hides source reads (by simpa using hidden) payload parsed row member inTables

theorem noHiddenRows_rebuild {db : Database}
    : NoHiddenRows (rebuildAfterImport externals db).2 ↔ RebuildHides externals db := by
  obtain ⟨events, projection⟩ := rebuildAfterImport_eq externals db
  unfold NoHiddenRows RebuildHides Unpreviewed
  rw [events, projection]
  have shows := rebuild_shows_iff externals db fun _ => True
  simp only [true_imp_iff, not_true] at shows
  rw [shows]
  refine forall₅_congr fun event _ _ payload _ => ?_
  rw [← searchRows_eq_nil_iff externals, List.eq_nil_iff_forall_not_mem]

theorem noHiddenRows_rebuildLookup {db : Database} (shown : NoHiddenRows db)
    : NoHiddenRows (rebuildEventSearchLookupProjection externals db)
      ↔ LookupRebuildHides externals db := by
  have shows := rebuild_shows_iff externals db fun row => row.table = .eventSearchLookup
  have kept
      : NoHiddenRows (rebuildEventSearchLookupProjection externals db)
        ↔ ∀ row ∈ interruptedSearchProjection externals db, row.table = .eventSearchLookup
          → ∀ event ∈ db.events.rows, event.id = row.eventId → event.hidden = false := by
    unfold NoHiddenRows rebuildEventSearchLookupProjection
    simp only [List.mem_append, List.mem_filter, decide_eq_true_eq]
    constructor
    · exact fun all row member table => all row (.inr ⟨member, table⟩)
    · rintro new row (⟨old, -⟩ | ⟨member, table⟩)
      · exact shown row old
      · exact new row member table
  rw [kept, shows]
  refine forall₃_congr fun event _ _ => ?_
  simp only [← ne_eq, searchRows_lookup_iff, Unpreviewed]
  exact ⟨fun all looked payload parsed => all payload parsed looked,
    fun all payload parsed looked => all looked payload parsed⟩

-----------------------------------------------------------------------------------------
-- Runs
-----------------------------------------------------------------------------------------

/-- Every row of the projection is one of a stored event. -/
def ProjectionKnown (db : Database) : Prop :=
  ∀ row ∈ db.projection, ∃ event ∈ db.events.rows, event.id = row.eventId

/-- What a rebuild projects is stored. -/
theorem exists_event_of_interrupted {db : Database} {row : SearchRow}
    (member : row ∈ interruptedSearchProjection externals db)
    : ∃ event ∈ db.events.rows, event.id = row.eventId := by
  obtain ⟨event, reads, payload, -, member⟩ := mem_interruptedSearchProjection.mp member
  exact ⟨event, mem_of_rebuildReads reads, (eventId_of_mem_searchRows member).symm⟩

theorem projectionKnown_rebuild (db : Database)
    : ProjectionKnown (rebuildAfterImport externals db).2 := by
  obtain ⟨events, projection⟩ := rebuildAfterImport_eq externals db
  intro row member
  rw [projection] at member
  rw [events]
  exact exists_event_of_interrupted member

theorem ProjectionKnown.rebuildLookup {db : Database} (known : ProjectionKnown db)
    : ProjectionKnown (rebuildEventSearchLookupProjection externals db) := by
  intro row member
  rcases List.mem_append.mp member with old | new
  · exact known row (List.mem_filter.mp old).1
  · exact exists_event_of_interrupted (List.mem_filter.mp new).1

/-- An event that a writer projects is not hidden. -/
theorem hidden_of_mem_insertedSearchRows {event : Event} {row : SearchRow}
    (member : row ∈ insertedSearchRows externals event.id event)
    : row.eventId = event.id ∧ event.row.hidden = false := by
  unfold insertedSearchRows at member
  split at member
  · cases member
  next searchable =>
    refine ⟨eventId_of_mem_searchRows member, ?_⟩
    by_contra hidden
    refine searchable ?_
    rw [EventRow.hidden, Bool.not_eq_false, Bool.or_eq_true, Bool.or_eq_true] at hidden
    simp only [Event.row, Option.isSome_map] at hidden
    rcases hidden with (deleted | withheld) | withheld <;>
      simp_all [eventSearchableEventParts]

/-- The rows that a write leaves are of other stored events. -/
theorem mem_kept {db : Database} (known : ProjectionKnown db) {id : Uuid} {kept : List SearchRow}
    (without
      : kept = db.projection.filter (fun row => row.eventId ≠ id)
        ∨ (kept = db.projection ∧ db.eventById id = none))
    {row : SearchRow} (member : row ∈ kept)
    : row ∈ db.projection ∧ row.eventId ≠ id := by
  rcases without with rfl | ⟨rfl, fresh⟩
  · exact ⟨(List.mem_filter.mp member).1, of_decide_eq_true (List.mem_filter.mp member).2⟩
  · refine ⟨member, fun same => ?_⟩
    obtain ⟨event, stored, ids⟩ := known row member
    have absent := List.find?_eq_none.mp fresh event stored
    exact absent (by simpa using ids.trans same)

section Write

variable {db : Database} {write : EventWrite}

/-- What an accepted write does to the two tables, by rows. -/
theorem mem_of_accepted (known : ProjectionKnown db)
    (accepted : write.accepted externals db = true)
    : (∀ event, event ∈ (write.perform externals db).events.rows
        ↔ (event ∈ db.events.rows ∧ event.id ≠ write.event.id) ∨ event = write.event.row)
      ∧ ∀ row ∈ (write.perform externals db).projection,
          (row ∈ db.projection ∧ row.eventId ≠ write.event.id)
          ∨ row.eventId = write.event.id ∧ write.event.row.hidden = false := by
  obtain ⟨previous, events, kept, -, -, -, rows, without, performed⟩ :=
    EventWrite.perform_accepted accepted
  rw [performed]
  simp only [events_adjustStats, projection_adjustStats, List.mem_append]
  refine ⟨fun event => by simp [rows, Table.others], ?_⟩
  rintro row (old | new)
  · exact .inl (mem_kept known without old)
  · exact .inr (hidden_of_mem_insertedSearchRows new)

theorem projectionKnown_write (known : ProjectionKnown db)
    : ProjectionKnown (write.perform externals db) := by
  cases accepted : write.accepted externals db with
  | false => rwa [EventWrite.perform_refused accepted]
  | true =>
      obtain ⟨stored, projected⟩ := mem_of_accepted known accepted
      intro row member
      rcases projected row member with ⟨old, different⟩ | ⟨ids, -⟩
      · obtain ⟨event, there, ids⟩ := known row old
        exact ⟨event, (stored event).mpr (.inl ⟨there, ids ▸ different⟩), ids⟩
      · exact ⟨write.event.row, (stored _).mpr (.inr rfl), ids.symm⟩

/-- A write keeps hidden events out. Witness: it replaces the rows of its own event and leaves those of
others, and a new event has none yet.
-/
theorem noHiddenRows_write (known : ProjectionKnown db) (shown : NoHiddenRows db)
    : NoHiddenRows (write.perform externals db) := by
  cases accepted : write.accepted externals db with
  | false => rwa [EventWrite.perform_refused accepted]
  | true =>
      obtain ⟨stored, projected⟩ := mem_of_accepted known accepted
      intro row member event there ids
      rcases projected row member with ⟨old, different⟩ | ⟨rowId, visible⟩
      · rcases (stored event).mp there with ⟨there, -⟩ | rfl
        · exact shown row old event there ids
        · exact absurd ids.symm different
      · rcases (stored event).mp there with ⟨-, different⟩ | rfl
        · exact absurd (ids.trans rowId) different
        · exact visible

end Write

section Run

variable {imports : EntityImport Entities} {db : Database} {action : StoreAction Entities}

theorem projectionKnown_perform (known : ProjectionKnown db)
    : ProjectionKnown (action.perform externals imports db) := by
  cases action with
  | write call => exact projectionKnown_write known
  | refer references => exact known
  | importArchive archive overwrite =>
      simp only [StoreAction.perform, CtxRemote.Store.importArchive]
      split
      · exact known
      · exact projectionKnown_rebuild _
  | rebuild => exact projectionKnown_rebuild db
  | rebuildLookup => exact known.rebuildLookup
  | reopen recordRows =>
      simp only [StoreAction.perform, ensureSearchProjectionInitialized]
      split
      · exact projectionKnown_rebuild db
      · exact known.rebuildLookup
      · exact known
      · exact known

/-- An action keeps hidden events out of the projection exactly under its condition. -/
theorem noHiddenRows_perform_iff (known : ProjectionKnown db) (shown : NoHiddenRows db)
    : NoHiddenRows (action.perform externals imports db) ↔ action.Hides externals imports db := by
  cases action with
  | write call => exact iff_of_true (noHiddenRows_write known shown) trivial
  | refer references => exact iff_of_true shown trivial
  | importArchive archive overwrite =>
      simp only [StoreAction.perform, CtxRemote.Store.importArchive, StoreAction.Hides]
      split
      next failed => exact iff_of_true shown fun committed done => by simp [failed] at done
      next committed done =>
        rw [noHiddenRows_rebuild]
        exact ⟨fun hides other same => Except.ok.inj (done.symm.trans same) ▸ hides,
          fun all => all committed done⟩
  | rebuild => exact noHiddenRows_rebuild
  | rebuildLookup => exact noHiddenRows_rebuildLookup shown
  | reopen recordRows =>
      simp only [StoreAction.perform, ensureSearchProjectionInitialized, StoreAction.Hides]
      cases initialization recordRows db with
      | rebuildAll => exact noHiddenRows_rebuild
      | rebuildLookup => exact noHiddenRows_rebuildLookup shown
      | refreshStats => exact iff_of_true shown trivial
      | nothing => exact iff_of_true shown trivial

/-- Searches hide what is hidden in every state of a run exactly when no rebuild of the run reads a hidden
event that has a preview.
-/
theorem allStates_searchesHide_iff {actions : List (StoreAction Entities)}
    (known : ProjectionKnown db) (hides : SearchesHide externals db)
    : AllStates (StoreAction.step externals imports) (SearchesHide externals) db actions
      ↔ AllSteps (StoreAction.step externals imports)
          (fun db action => action.Hides externals imports db) db actions := by
  refine allStates_iff_allSteps ProjectionKnown ?_ ?_ known hides
  · intro db action next known taken
    obtain rfl : action.perform externals imports db = next := Option.some.inj taken
    exact projectionKnown_perform known
  · intro db action next known hides taken
    obtain rfl : action.perform externals imports db = next := Option.some.inj taken
    rw [searchesHide_iff]
    exact noHiddenRows_perform_iff known (searchesHide_iff.mp hides)

end Run

end Actions

/-- `greeting`, deleted. -/
def deletedGreeting : Event := { greeting with sync := { deletedAt := some ⟨0⟩ } }

/-- `deletedGreeting`, with nothing left of its text. -/
def erasedGreeting : Event := { deletedGreeting with payload := .string "" }

/-- A found greeting is deleted beside the answer. An open finds the tables filled, and an import of the
greeting as it was is refused. Then its text is erased, and everything is rebuilt, by hand and by an import.
-/
def hiddenRun : List (StoreAction Unit) :=
  [.write (.upsert greeting), .write (.upsert farewell), .write (.upsert deletedGreeting), .reopen 0,
    .importArchive ⟨2, 2, [greeting], ()⟩ false, .write (.upsert erasedGreeting), .rebuild,
    .importArchive ⟨2, 2, [], ()⟩ false]

theorem hiddenRun_searchesHide
    : AllStates (StoreAction.step farewellExternals noEntities) (SearchesHide farewellExternals) .empty
        hiddenRun
      ∧ ∃ found hidden final,
          run (StoreAction.step farewellExternals noEntities) .empty (hiddenRun.take 1) = some found
          ∧ run (StoreAction.step farewellExternals noEntities) .empty (hiddenRun.take 3) = some hidden
          ∧ run (StoreAction.step farewellExternals noEntities) .empty hiddenRun = some final
          ∧ found.projection.map (·.eventId) = [greeting.id, greeting.id]
          ∧ deletedGreeting.row ∈ hidden.events.rows
          ∧ hidden.projection.map (·.eventId) = [farewell.id, farewell.id]
          ∧ erasedGreeting.row ∈ final.events.rows
          ∧ final.projection.map (·.eventId) = [farewell.id, farewell.id] := by
  have none : NoHiddenRows .empty := by simp [NoHiddenRows, Database.empty]
  have known : ProjectionKnown .empty := by simp [ProjectionKnown, Database.empty]
  refine ⟨(allStates_searchesHide_iff known (searchesHide_iff.mpr none)).mpr ?_,
    _, _, _, rfl, rfl, rfl, by decide, by decide, by decide, by decide, by decide⟩
  refine AllSteps.cons rfl trivial (AllSteps.cons rfl trivial (AllSteps.cons rfl trivial ?_))
  -- the open has nothing to do, and the first import does not commit
  refine AllSteps.cons rfl trivial (AllSteps.cons rfl (fun committed done => ?_) ?_)
  · cases done
  refine AllSteps.cons rfl trivial (AllSteps.cons rfl ?_ (AllSteps.cons rfl ?_ trivial))
  · show RebuildHides farewellExternals _
    decide
  · intro committed done
    cases done
    decide

/-- The greeting is deleted, and a rebuild makes it searchable. -/
theorem deletedGreeting_not_searchesHide
    : ¬AllStates (StoreAction.step greetingExternals noEntities) (SearchesHide greetingExternals) .empty
        [.write (.upsert deletedGreeting), .rebuild] := by
  intro hides
  have shown := (((hides.2 _ rfl).2 _ rfl).start).1
  have projected
      : ((StoreAction.perform greetingExternals noEntities
          (StoreAction.perform greetingExternals noEntities .empty
            (.write (.upsert deletedGreeting))) .rebuild).projection.any fun row =>
          deletedGreeting.row.id = row.eventId) = true := by
    decide
  obtain ⟨row, member, ids⟩ := List.any_eq_true.mp projected
  have stored
      : deletedGreeting.row ∈ (StoreAction.perform greetingExternals noEntities
          (StoreAction.perform greetingExternals noEntities .empty
            (.write (.upsert deletedGreeting))) .rebuild).events.rows := by
    decide
  exact absurd (shown row member _ stored (of_decide_eq_true ids)) (by decide)

end CtxRemote.Store
