import CtxRemote.Library.Loops
import CtxRemote.Store.Records

/-! The record search over sequences of record writes, event writes and deletions of orphan records. Each
row of its tables names a record as long as no record with a row in the script table is deleted, since a
deletion leaves that row behind.
-/

namespace CtxRemote.Store
open CtxRemote.Library
open CtxRemote.Turso (trim)

-----------------------------------------------------------------------------------------
-- Steps
-----------------------------------------------------------------------------------------

/-- An event write leaves the tables that events refer to. -/
theorem EventWrite.references_perform (externals : Externals) (db : Database) (write : EventWrite)
    : (write.perform externals db).references = db.references := by
  cases accepted : write.accepted externals db with
  | false => rw [perform_refused accepted]
  | true =>
      obtain ⟨_, _, _, _, _, _, _, _, done⟩ := perform_accepted accepted
      rw [done, references_adjustStats]

/-- A write to a store: of records, of an event, a deletion, or any write to its other tables. -/
inductive RecordWrite where
  | insertRecord (record : HistoryRecord)
  | upsertRecord (record : HistoryRecord)
  | upsertRecords (records : List HistoryRecord)
  | writeEvent (write : EventWrite)
  | deleteOrphanRecord (recordId : Uuid)
  | writeOthers (tables : OtherTables)

namespace RecordStore

variable (externals : Externals) (store : RecordStore)

/-- An event write. -/
def writeEvent (write : EventWrite) : RecordStore :=
  { store with
    database := write.perform externals store.database
    known := by rw [write.references_perform, store.known] }

/-- A write to other tables. -/
def writeOthers (tables : OtherTables) : RecordStore :=
  { store with
    database :=
      { store.database with
        references :=
          { historyRecords := store.database.references.historyRecords
            captureSources := tables.captureSources
            artifacts := tables.artifacts
            sessions := tables.sessions
            runs := tables.runs } }
    historyRecordLinks := tables.historyRecordLinks
    summaries := tables.summaries
    filesTouched := tables.filesTouched
    historyRecordTags := tables.historyRecordTags
    recordEdges := tables.recordEdges
    known := store.known }

/-- The store after a write; a failed one leaves it as it was. -/
def perform : RecordWrite → RecordStore
  | .insertRecord record =>
      match insertRecord externals store record with
      | .ok next => next
      | .error _ => store
  | .upsertRecord record => upsertRecord externals store record
  | .upsertRecords records => upsertRecords externals store records
  | .writeEvent write => store.writeEvent externals write
  | .deleteOrphanRecord recordId => (deleteOrphanRecord store recordId).2
  | .writeOthers tables => store.writeOthers tables

/-- Every write is possible in every store. -/
def step (write : RecordWrite) : Option RecordStore := some (store.perform externals write)

end RecordStore

-----------------------------------------------------------------------------------------
-- Invariants
-----------------------------------------------------------------------------------------

namespace RecordStore

/-- Events name records, and the rows of their projection name the record of a stored event. -/
structure Linked (store : RecordStore) : Prop where
  events
    : ∀ event ∈ store.database.events.rows, ∀ recordId,
        event.historyRecordId = some recordId → store.records.holds recordId = true
  projection
    : ∀ row ∈ store.database.projection, ∀ recordId,
        row.historyRecordId = some recordId
        → ∃ event ∈ store.database.events.rows,
            event.id = row.eventId ∧ event.historyRecordId = some recordId

/-- The rows of both search tables of records name records. -/
structure IndexesExist (store : RecordStore) : Prop where
  search : ∀ row ∈ store.recordSearch, store.records.holds row.recordId = true
  scriptgram : ∀ row ∈ store.recordScriptgram, store.records.holds row.recordId = true

/-- A write of a record keeps the records that there are. -/
theorem holds_put_of_holds {records : Keyed HistoryRecord HistoryRecord.id} {recordId : Uuid}
    (held : records.holds recordId = true) (record : HistoryRecord)
    : (records.put record).holds recordId = true := by
  rw [Keyed.holds_put, held, Bool.or_true]

theorem holds_keep_of_ne {records : Keyed HistoryRecord HistoryRecord.id} {recordId other : Uuid}
    (held : records.holds other = true) (apart : other ≠ recordId)
    : (records.keep (· ≠ recordId)).holds other = true := by
  unfold Keyed.holds at held ⊢
  rw [Keyed.find?_keep, if_pos (decide_eq_true apart)]
  exact held

theorem not_holds_keep {records : Keyed HistoryRecord HistoryRecord.id} {recordId : Uuid}
    : (records.keep (· ≠ recordId)).holds recordId = false := by
  unfold Keyed.holds
  rw [Keyed.find?_keep, if_neg (by simp)]
  rfl

variable {externals : Externals} {store : RecordStore}

-----------------------------------------------------------------------------------------
-- Record writes
-----------------------------------------------------------------------------------------

theorem Linked.upsertRecordRow (linked : store.Linked) (record : HistoryRecord)
    : (Store.upsertRecordRow store record).Linked where
  events event member recordId names := holds_put_of_holds (linked.events event member recordId names) record
  projection := linked.projection

theorem IndexesExist.upsertRecordRow (exist : store.IndexesExist) (record : HistoryRecord)
    : (Store.upsertRecordRow store record).IndexesExist where
  search row member := holds_put_of_holds (exist.search row member) record
  scriptgram row member := holds_put_of_holds (exist.scriptgram row member) record

theorem Linked.upsertRecordSearchProjection (linked : store.Linked) (record : HistoryRecord)
    : (Store.upsertRecordSearchProjection externals store record).Linked :=
  ⟨linked.events, linked.projection⟩

/-- The rows of a record that there is. -/
theorem IndexesExist.upsertRecordSearchProjection (exist : store.IndexesExist)
    {record : HistoryRecord} (held : store.records.holds record.id = true)
    : (Store.upsertRecordSearchProjection externals store record).IndexesExist where
  search row member := by
    rcases List.mem_append.mp member with kept | new
    · exact exist.search row (List.mem_of_mem_filter kept)
    · obtain rfl := List.mem_singleton.mp new
      exact held
  scriptgram row member := by
    rcases List.mem_append.mp member with kept | new
    · exact exist.scriptgram row (List.mem_of_mem_filter kept)
    · unfold HistoryRecord.scriptgramRows at new
      dsimp only at new
      split at new
      next => cases new
      next =>
          obtain rfl := List.mem_singleton.mp new
          exact held

theorem holds_upsertRecordRow (store : RecordStore) (record : HistoryRecord)
    : (Store.upsertRecordRow store record).records.holds record.id = true := by
  change (store.records.put record).holds record.id = true
  rw [Keyed.holds_put, decide_eq_true rfl, Bool.true_or]

theorem Linked.upsertRecords (linked : store.Linked) (records : List HistoryRecord)
    : (Store.upsertRecords externals store records).Linked := by
  have rows (written : List HistoryRecord) (store : RecordStore) (linked : store.Linked)
      : (written.foldl Store.upsertRecordRow store).Linked := by
    induction written generalizing store with
    | nil => exact linked
    | cons record written ih => exact ih _ (linked.upsertRecordRow record)
  have projections (written : List HistoryRecord) (store : RecordStore) (linked : store.Linked)
      : (written.foldl (Store.upsertRecordSearchProjection externals) store).Linked := by
    induction written generalizing store with
    | nil => exact linked
    | cons record written ih => exact ih _ (linked.upsertRecordSearchProjection record)
  exact projections records _ (rows records store linked)

/-- All rows are written, and then the projections of records that there are by then. -/
theorem IndexesExist.upsertRecords (exist : store.IndexesExist) (records : List HistoryRecord)
    : (Store.upsertRecords externals store records).IndexesExist := by
  have rows (written : List HistoryRecord) (store : RecordStore) (exist : store.IndexesExist)
      : (written.foldl Store.upsertRecordRow store).IndexesExist
        ∧ ∀ recordId, store.records.holds recordId = true ∨ recordId ∈ written.map (·.id) →
            (written.foldl Store.upsertRecordRow store).records.holds recordId = true := by
    induction written generalizing store with
    | nil => exact ⟨exist, fun recordId held => held.resolve_right List.not_mem_nil⟩
    | cons record written ih =>
        obtain ⟨there, holds⟩ := ih _ (exist.upsertRecordRow record)
        refine ⟨there, fun recordId held => holds recordId ?_⟩
        rcases held with before | named
        · exact .inl (holds_put_of_holds before record)
        · rcases List.mem_cons.mp named with rfl | later
          · exact .inl (holds_upsertRecordRow store record)
          · exact .inr later
  have projections (written : List HistoryRecord) (store : RecordStore) (exist : store.IndexesExist)
      (held : ∀ record ∈ written, store.records.holds record.id = true)
      : (written.foldl (Store.upsertRecordSearchProjection externals) store).IndexesExist := by
    induction written generalizing store with
    | nil => exact exist
    | cons record written ih =>
        exact ih _ (exist.upsertRecordSearchProjection (held record (.head _)))
          fun other later => held other (.tail _ later)
  obtain ⟨there, holds⟩ := rows records store exist
  exact projections records _ there fun record member =>
    holds record.id (.inr (List.mem_map_of_mem member))

-----------------------------------------------------------------------------------------
-- Event writes
-----------------------------------------------------------------------------------------

/-- The rows of an event name the event and its record. -/
theorem of_mem_insertedSearchRows {event : Event} {row : SearchRow}
    (member : row ∈ insertedSearchRows externals event.id event)
    : row.eventId = event.id ∧ row.historyRecordId = event.historyRecordId := by
  unfold insertedSearchRows searchRows at member
  split at member
  next => cases member
  next =>
      split at member
      next => cases member
      next =>
          simp only [List.mem_append, List.mem_ite_nil_left, List.mem_ite_nil_right,
            List.mem_singleton] at member
          rcases member with (rfl | ⟨_, rfl⟩) | ⟨_, rfl⟩ <;> exact ⟨rfl, rfl⟩

theorem Linked.writeEvent (linked : store.Linked) (write : EventWrite)
    : (store.writeEvent externals write).Linked := by
  cases accepted : write.accepted externals store.database with
  | false =>
      have same := EventWrite.perform_refused accepted
      constructor
      · dsimp only [RecordStore.writeEvent]
        rw [same]
        exact linked.events
      · dsimp only [RecordStore.writeEvent]
        rw [same]
        exact linked.projection
  | true =>
      obtain ⟨previous, events, kept, _, _, refers, rows, keeps, done⟩ :=
        EventWrite.perform_accepted accepted
      constructor
      · dsimp only [RecordStore.writeEvent]
        rw [done, events_adjustStats, rows]
        intro event member recordId names
        rcases List.mem_append.mp member with other | new
        · exact linked.events event (List.mem_of_mem_filter other) recordId names
        · obtain rfl := List.mem_singleton.mp new
          simp only [References.hold, Bool.and_eq_true] at refers
          have named := refers.1.1.1.1
          rw [names, Option.all_some, decide_eq_true_eq, store.known] at named
          obtain ⟨record, inside, same⟩ := List.mem_map.mp named
          exact Keyed.holds_iff.mpr ⟨record, inside, same⟩
      · dsimp only [RecordStore.writeEvent]
        rw [done, events_adjustStats, projection_adjustStats, rows]
        intro row member recordId names
        rcases List.mem_append.mp member with old | new
        · have before : row ∈ store.database.projection ∧ row.eventId ≠ write.event.id
              ∨ row ∈ store.database.projection
                ∧ store.database.eventById write.event.id = none := by
            rcases keeps with rfl | ⟨rfl, fresh⟩
            · exact .inl ⟨List.mem_of_mem_filter old,
                of_decide_eq_true (List.mem_filter.mp old).2⟩
            · exact .inr ⟨old, fresh⟩
          obtain ⟨event, inside, same, named⟩ :
              ∃ event ∈ store.database.events.rows, event.id = row.eventId
                ∧ event.historyRecordId = some recordId := by
            rcases before with ⟨held, _⟩ | ⟨held, _⟩ <;>
              exact linked.projection row held recordId names
          have apart : event.id ≠ write.event.id := by
            rcases before with ⟨_, other⟩ | ⟨_, fresh⟩
            · rw [same]
              exact other
            · have missing := List.find?_eq_none.mp fresh event inside
              simpa using missing
          refine ⟨event, List.mem_append_left _ ?_, same, named⟩
          exact List.mem_filter.mpr ⟨inside, decide_eq_true apart⟩
        · obtain ⟨owner, record⟩ := of_mem_insertedSearchRows new
          refine ⟨write.event.row, List.mem_append_right _ (List.mem_singleton_self _), owner.symm, ?_⟩
          rw [← names, record]
          rfl

-----------------------------------------------------------------------------------------
-- Deletions
-----------------------------------------------------------------------------------------

/-- `delete_orphan_record` deletes a record to which nothing refers. -/
def deletes (store : RecordStore) (recordId : Uuid) : Prop :=
  store.records.holds recordId = true ∧ store.isReferenced recordId = false

theorem deleteOrphanRecord_of_deletes {recordId : Uuid} (gone : store.deletes recordId)
    : (Store.deleteOrphanRecord store recordId).2
      = { store.withRecords (store.records.keep (· ≠ recordId)) with
          recordSearch := store.recordSearch.filter fun row => row.recordId ≠ recordId } := by
  rw [Store.deleteOrphanRecord, if_pos (by rw [gone.1, gone.2]; rfl)]

theorem deleteOrphanRecord_of_kept {recordId : Uuid} (stays : ¬store.deletes recordId)
    : (Store.deleteOrphanRecord store recordId).2 = store := by
  rw [Store.deleteOrphanRecord, if_neg]
  intro both
  rw [Bool.and_eq_true, Bool.not_eq_true'] at both
  exact stays both

/-- An event's record is not deleted. -/
theorem Linked.deleteOrphanRecord (linked : store.Linked) (recordId : Uuid)
    : (Store.deleteOrphanRecord store recordId).2.Linked := by
  by_cases gone : store.deletes recordId
  · rw [deleteOrphanRecord_of_deletes gone]
    refine ⟨fun event member other names => ?_, linked.projection⟩
    have held := linked.events event member other names
    refine holds_keep_of_ne held ?_
    rintro rfl
    have free := gone.2
    simp only [isReferenced, Bool.or_eq_false_iff] at free
    have none := List.any_eq_false.mp free.1.1.1.1.1.2 event member
    exact none (decide_eq_true names)
  · rw [deleteOrphanRecord_of_kept gone]
    exact linked

/-- A deletion leaves rows without a record exactly where the deleted record has one in the script table.
-/
theorem indexesExist_deleteOrphanRecord (exist : store.IndexesExist) (recordId : Uuid)
    : (Store.deleteOrphanRecord store recordId).2.IndexesExist
      ↔ (store.deletes recordId → ∀ row ∈ store.recordScriptgram, row.recordId ≠ recordId) := by
  by_cases gone : store.deletes recordId
  · rw [deleteOrphanRecord_of_deletes gone]
    constructor
    · rintro after - row member rfl
      have held := after.scriptgram row member
      rw [show RecordStore.records _ = store.records.keep (· ≠ row.recordId) from rfl,
        not_holds_keep] at held
      cases held
    · intro clean
      constructor
      · intro row member
        obtain ⟨inside, apart⟩ := List.mem_filter.mp member
        exact holds_keep_of_ne (exist.search row inside) (of_decide_eq_true apart)
      · intro row member
        exact holds_keep_of_ne (exist.scriptgram row member) (clean gone row member)
  · rw [deleteOrphanRecord_of_kept gone]
    exact iff_of_true exist fun impossible => absurd impossible gone

-----------------------------------------------------------------------------------------
-- The search
-----------------------------------------------------------------------------------------

/-- Every record that a search matches is read. -/
def FindsRecords (store : RecordStore) : Prop :=
  ∀ (unicode : Unicode) (Score : Type) (fullText : RecordFullText Score) (query : List Char)
    (limit offset : Nat),
    ∃ records, searchRecordsFts unicode fullText store query limit offset = .ok records

theorem Linked.eventMatches_hold {Score : Type} {fullText : RecordFullText Score}
    (linked : store.Linked) {table : SearchTable} {clauses : List (Nat × List Char)}
    {found : RecordMatch Score} (member : found ∈ eventMatches fullText store table clauses)
    : store.records.holds found.recordId = true := by
  obtain ⟨⟨row, termIndex, score⟩, inTable, named⟩ := List.mem_filterMap.mp member
  obtain ⟨recordId, names, rfl⟩ := Option.map_eq_some_iff.mp named
  have inside := List.mem_of_mem_filter (mem_of_clauseMatches inTable)
  obtain ⟨event, stored, -, same⟩ := linked.projection row inside recordId names
  exact linked.events event stored recordId same

theorem recordMatches_hold {Score : Type} {fullText : RecordFullText Score} (linked : store.Linked)
    (exist : store.IndexesExist) {clauses scriptgramClauses : List (Nat × List Char)}
    {found : RecordMatch Score}
    (member : found ∈ recordMatches fullText store clauses scriptgramClauses)
    : store.records.holds found.recordId = true := by
  unfold recordMatches at member
  simp only [List.mem_append] at member
  rcases member with ((records | events) | grams) | eventGrams
  · obtain ⟨clause, -, inClause⟩ := List.mem_flatMap.mp records
    obtain ⟨row, matching, rfl⟩ := List.mem_map.mp inClause
    exact exist.search row (List.mem_of_mem_filter matching)
  · exact linked.eventMatches_hold events
  · obtain ⟨clause, -, inClause⟩ := List.mem_flatMap.mp grams
    obtain ⟨row, matching, rfl⟩ := List.mem_map.mp inClause
    exact exist.scriptgram row (List.mem_of_mem_filter matching)
  · obtain ⟨matched, inTable, rfl⟩ := List.mem_map.mp eventGrams
    have held := linked.eventMatches_hold inTable
    exact held

/-- Where all rows name records, a search finds the record of every match. -/
theorem IndexesExist.findsRecords (exist : store.IndexesExist) (linked : store.Linked)
    : store.FindsRecords := by
  intro unicode Score fullText query limit offset
  unfold searchRecordsFts
  dsimp only
  split
  next => exact ⟨[], rfl⟩
  next =>
      refine ⟨_, mapM_ok fun rank member => ?_⟩
      have ranked := (List.mem_insertionSort _).mp (List.mem_of_mem_drop (List.mem_of_mem_take member))
      obtain ⟨recordId, among, rfl⟩ := List.mem_map.mp ranked
      obtain ⟨found, matched, rfl⟩ := List.mem_map.mp (List.mem_dedup.mp among)
      obtain ⟨record, here⟩ := Option.isSome_iff_exists.mp (recordMatches_hold linked exist matched)
      change (getRecord store found.recordId).isOk = true
      rw [getRecord, here]
      rfl

-----------------------------------------------------------------------------------------
-- Runs
-----------------------------------------------------------------------------------------

/-- An insertion is the write of a record that is new, or fails. -/
theorem perform_insertRecord (externals : Externals) (store : RecordStore) (record : HistoryRecord)
    : store.perform externals (.insertRecord record) = store
      ∨ store.perform externals (.insertRecord record) = upsertRecord externals store record := by
  dsimp only [RecordStore.perform]
  unfold insertRecord
  by_cases held : store.records.holds record.id = true
  · rw [if_pos held]
    exact .inl rfl
  · rw [if_neg held]
    exact .inr rfl

theorem Linked.upsertRecord (linked : store.Linked) (record : HistoryRecord)
    : (Store.upsertRecord externals store record).Linked :=
  (linked.upsertRecordRow record).upsertRecordSearchProjection record

theorem IndexesExist.upsertRecord (exist : store.IndexesExist) (record : HistoryRecord)
    : (Store.upsertRecord externals store record).IndexesExist :=
  (exist.upsertRecordRow record).upsertRecordSearchProjection (holds_upsertRecordRow store record)

/-- One case for each write. -/
theorem Linked.perform (linked : store.Linked) (externals : Externals) (write : RecordWrite)
    : (store.perform externals write).Linked := by
  cases write with
  | insertRecord record =>
      rcases perform_insertRecord externals store record with same | written
      · rw [same]
        exact linked
      · rw [written]
        exact linked.upsertRecord record
  | upsertRecord record => exact linked.upsertRecord record
  | upsertRecords records => exact linked.upsertRecords records
  | writeEvent write => exact linked.writeEvent write
  | deleteOrphanRecord recordId => exact linked.deleteOrphanRecord recordId
  | writeOthers tables => exact ⟨linked.events, linked.projection⟩

/-- A deletion of a record without a row in the script table; other writes are free. -/
def Clean (store : RecordStore) : RecordWrite → Prop
  | .deleteOrphanRecord recordId =>
      store.deletes recordId → ∀ row ∈ store.recordScriptgram, row.recordId ≠ recordId
  | _ => True

/-- One case for each write: only a deletion can leave a row without its record. -/
theorem IndexesExist.perform_iff (exist : store.IndexesExist) (externals : Externals)
    (write : RecordWrite)
    : (store.perform externals write).IndexesExist ↔ store.Clean write := by
  cases write with
  | insertRecord record =>
      refine iff_of_true ?_ trivial
      rcases perform_insertRecord externals store record with same | written
      · rw [same]
        exact exist
      · rw [written]
        exact exist.upsertRecord record
  | upsertRecord record => exact iff_of_true (exist.upsertRecord record) trivial
  | upsertRecords records => exact iff_of_true (exist.upsertRecords records) trivial
  | writeEvent write => exact iff_of_true ⟨exist.search, exist.scriptgram⟩ trivial
  | deleteOrphanRecord recordId => exact indexesExist_deleteOrphanRecord exist recordId
  | writeOthers tables => exact iff_of_true ⟨exist.search, exist.scriptgram⟩ trivial

theorem linked_empty : empty.Linked where
  events _ member := absurd member List.not_mem_nil
  projection _ member := absurd member List.not_mem_nil

theorem indexesExist_empty : empty.IndexesExist where
  search _ member := absurd member List.not_mem_nil
  scriptgram _ member := absurd member List.not_mem_nil

end RecordStore

/-- In exactly the runs that delete no record with a row in the script table, each row of the search
tables of records names a record in every state that is reached, and each search finds the record of every
match.
-/
theorem recordIndexes_exist_iff (externals : Externals) (writes : List RecordWrite)
    : AllStates (RecordStore.step externals)
        (fun store => store.IndexesExist ∧ store.FindsRecords) .empty writes
      ↔ AllSteps (RecordStore.step externals) RecordStore.Clean .empty writes := by
  refine allStates_iff_allSteps RecordStore.Linked ?_ ?_ RecordStore.linked_empty ?_
  · intro store write next linked taken
    obtain rfl := Option.some.inj taken
    exact linked.perform externals write
  · intro store write next linked good taken
    obtain rfl := Option.some.inj taken
    rw [← good.1.perform_iff externals write]
    exact ⟨And.left, fun exist => ⟨exist, exist.findsRecords (linked.perform externals write)⟩⟩
  · exact ⟨RecordStore.indexesExist_empty,
      RecordStore.indexesExist_empty.findsRecords RecordStore.linked_empty⟩

/-- A title of two Han characters has a gram in the script table, which finds the record after it has been
deleted.
-/
theorem deleted_record_found
    : let han : Unicode :=
        { isAlphanumeric := fun ch => inRanges ch.toNat [(0x4E00, 0x9FFF)]
          toLowercase := fun text => text }
      let externals : Externals :=
        { fromStr := fun _ => none
          scriptgramIndexText := fun text => String.ofList (scriptgramIndexText han text.toList) }
      let fullText : RecordFullText Nat :=
        { isMatch := fun clause text =>
            text.toList.tails.any fun rest => (clause.drop 1).dropLast.isPrefixOf rest
          bm25 := fun _ _ _ => 0
          least := fun scores => scores.min?.getD 0
          sum := List.sum
          less := fun left right => left < right
          plus := fun score => score
          preferred := fun score => score
          isRecordMatch := fun clause row =>
            row.title.toList.tails.any fun rest => (clause.drop 1).dropLast.isPrefixOf rest
          recordBm25 := fun _ _ _ => 0
          scriptgramBm25 := fun _ _ _ => 0 }
      let record : HistoryRecord :=
        { id := ⟨"0f53d1c2-9a6b-4e08-8c11-70d5b2a4e963", by decide, by decide⟩
          title := "漢字"
          body := ""
          tags := []
          kind := "session"
          workspace := none
          createdAt := ⟨0⟩
          updatedAt := ⟨0⟩ }
      ∃ store, run (RecordStore.step externals) .empty
          [.insertRecord record, .deleteOrphanRecord record.id] = some store
        ∧ ¬store.IndexesExist
        ∧ searchRecordsFts han fullText store "漢字".toList 10 0 = .error (.notFound record.id) := by
  intro han externals fullText record
  have missed
      : searchRecordsFts han fullText
          ((RecordStore.empty.perform externals (.insertRecord record)).perform externals
            (.deleteOrphanRecord record.id))
          "漢字".toList 10 0 = .error (.notFound record.id) := by
    decide +kernel
  refine ⟨_, rfl, fun exist => ?_, missed⟩
  have linked :=
    (RecordStore.linked_empty.perform externals (.insertRecord record)).perform externals
      (.deleteOrphanRecord record.id)
  obtain ⟨records, found⟩ := exist.findsRecords linked han Nat fullText "漢字".toList 10 0
  rw [missed] at found
  cases found

end CtxRemote.Store
