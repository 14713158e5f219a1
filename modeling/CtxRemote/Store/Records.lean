import CtxRemote.Library.Keyed
import CtxRemote.Store.EventSearch
import CtxRemote.Store.EventWrites

/-! The history records of a store and their two search tables: what record writes and
`delete_orphan_record` do to them, and the record search, which reads every record that its tables name.

Like its events, the store has all its search tables. No statement of it writes to `artifact_search`.
-/

namespace CtxRemote.Store
open CtxRemote.Library
open CtxRemote.Turso (trim)

-----------------------------------------------------------------------------------------
-- Records
-----------------------------------------------------------------------------------------

/-- `HistoryRecord`. -/
structure HistoryRecord where
  id : Uuid
  title : String
  body : String
  tags : List String
  kind : String
  workspace : Option String
  createdAt : DateTime
  updatedAt : DateTime
deriving DecidableEq

/-- A row of `ctx_history_search`. -/
structure RecordSearchRow where
  recordId : Uuid
  title : String
  summary : String
  primaryUserText : String
  decisionText : String
  contextText : String
  tagText : String
deriving DecidableEq

/-- A row of `ctx_history_search_scriptgram`. -/
structure RecordScriptgramRow where
  recordId : Uuid
  tokenText : String
deriving DecidableEq

/-- The other tables that refer to records, and those that events refer to. -/
structure OtherTables where
  captureSources : List Uuid
  artifacts : List Uuid
  sessions : List SessionRow
  runs : List RunRow
  historyRecordLinks : List Uuid
  summaries : List (Option Uuid)
  filesTouched : List (Option Uuid)
  historyRecordTags : List Uuid
  recordEdges : List (Uuid × Uuid)

/-- The tables of a store that record writes, event writes and deletions depend on. The events' foreign
keys are to its records.
-/
structure RecordStore where
  records : Keyed HistoryRecord HistoryRecord.id
  recordSearch : List RecordSearchRow
  recordScriptgram : List RecordScriptgramRow
  database : Database
  historyRecordLinks : List Uuid
  summaries : List (Option Uuid)
  filesTouched : List (Option Uuid)
  historyRecordTags : List Uuid
  recordEdges : List (Uuid × Uuid)
  known : database.references.historyRecords = records.rows.map (·.id)

namespace RecordStore

/-- A store without rows. -/
def empty : RecordStore where
  records := .empty
  recordSearch := []
  recordScriptgram := []
  database := .empty
  historyRecordLinks := []
  summaries := []
  filesTouched := []
  historyRecordTags := []
  recordEdges := []
  known := rfl

/-- The store with other records. -/
def withRecords (store : RecordStore) (records : Keyed HistoryRecord HistoryRecord.id)
    : RecordStore :=
  { store with
    records := records
    database :=
      { store.database with
        references :=
          { store.database.references with historyRecords := records.rows.map (·.id) } }
    known := rfl }

end RecordStore

-----------------------------------------------------------------------------------------
-- Writes
-----------------------------------------------------------------------------------------

section Writes

variable (externals : Externals) (store : RecordStore)

/-- `record_search_scriptgram_source`. -/
def recordSearchScriptgramSource (record : HistoryRecord) : String :=
  let parts :=
    [localPreview record.title 512, localPreview record.body 2048,
      localPreview (" ".intercalate record.tags) 1024]
  " ".intercalate (parts.filter fun part => !(trim part.toList).isEmpty)

/-- The row of `ctx_history_search` for a record. -/
def HistoryRecord.searchRow (record : HistoryRecord) : RecordSearchRow where
  recordId := record.id
  title := localPreview record.title 512
  summary := localPreview record.body 2048
  primaryUserText := localPreview record.body 2048
  decisionText := ""
  contextText := ""
  tagText := localPreview (" ".intercalate record.tags) 1024

/-- The rows of `ctx_history_search_scriptgram` for a record. -/
def HistoryRecord.scriptgramRows (record : HistoryRecord) : List RecordScriptgramRow :=
  let tokenText := externals.scriptgramIndexText (recordSearchScriptgramSource record)
  if tokenText.isEmpty then [] else [⟨record.id, tokenText⟩]

/-- `upsert_record_search_projection`. -/
def upsertRecordSearchProjection (record : HistoryRecord) : RecordStore :=
  { store with
    recordSearch :=
      (store.recordSearch.filter fun row => row.recordId ≠ record.id) ++ [record.searchRow]
    recordScriptgram :=
      (store.recordScriptgram.filter fun row => row.recordId ≠ record.id)
        ++ record.scriptgramRows externals }

/-- `upsert_record_row`. -/
def upsertRecordRow (record : HistoryRecord) : RecordStore :=
  store.withRecords (store.records.put record)

/-- `insert_record`. -/
def insertRecord (record : HistoryRecord) : Except StoreError RecordStore :=
  if store.records.holds record.id then .error .sql
  else .ok (upsertRecordSearchProjection externals (upsertRecordRow store record) record)

/-- `upsert_record`. -/
def upsertRecord (record : HistoryRecord) : RecordStore :=
  upsertRecordSearchProjection externals (upsertRecordRow store record) record

/-- `upsert_records`: all rows, and then all projections. -/
def upsertRecords (records : List HistoryRecord) : RecordStore :=
  records.foldl (upsertRecordSearchProjection externals) (records.foldl upsertRecordRow store)

/-- What `delete_orphan_record` asks of the other tables. -/
def RecordStore.isReferenced (recordId : Uuid) : Bool :=
  store.database.references.sessions.any (·.historyRecordId = some recordId)
  || store.database.references.runs.any (·.historyRecordId = some recordId)
  || store.database.events.rows.any (·.historyRecordId = some recordId)
  || store.historyRecordLinks.contains recordId
  || store.summaries.contains (some recordId)
  || store.filesTouched.contains (some recordId)
  || store.historyRecordTags.contains recordId
  || store.recordEdges.any fun edge => edge.1 = recordId || edge.2 = recordId

/-- `delete_orphan_record`. -/
def deleteOrphanRecord (recordId : Uuid) : Bool × RecordStore :=
  if store.records.holds recordId && !store.isReferenced recordId then
    (true,
      { store.withRecords (store.records.keep (· ≠ recordId)) with
        recordSearch := store.recordSearch.filter fun row => row.recordId ≠ recordId })
  else (false, store)

end Writes

-----------------------------------------------------------------------------------------
-- Search
-----------------------------------------------------------------------------------------

/-- What SQLite does for the tables of records: whether a row of `ctx_history_search` matches a clause,
and `bm25` in either table.
-/
structure RecordFullText (Score : Type) extends FullText Score where
  isRecordMatch : List Char → RecordSearchRow → Bool
  recordBm25 : List RecordSearchRow → List Char → RecordSearchRow → Score
  scriptgramBm25 : List RecordScriptgramRow → List Char → RecordScriptgramRow → Score

/-- The error of `get_record`. -/
inductive RecordError where
  | notFound (id : Uuid)
deriving DecidableEq

/-- A row of `matches`. -/
structure RecordMatch (Score : Type) where
  recordId : Uuid
  termIndex : Nat
  score : Score

section Search

variable (unicode : Unicode) {Score : Type} (fullText : RecordFullText Score) (store : RecordStore)

/-- `get_record`. -/
def getRecord (id : Uuid) : Except RecordError HistoryRecord :=
  match store.records.find? id with
  | some record => .ok record
  | none => .error (.notFound id)

/-- The matches in a table of events, of those with a record. -/
def eventMatches (table : SearchTable) (clauses : List (Nat × List Char))
    : List (RecordMatch Score) :=
  (clauseMatches fullText.toFullText (table.rowsOf store.database.projection) clauses).filterMap
    fun (row, termIndex, score) => row.historyRecordId.map fun recordId => ⟨recordId, termIndex, score⟩

/-- `matches` of `search_records_fts`. -/
def recordMatches (clauses scriptgramClauses : List (Nat × List Char)) : List (RecordMatch Score) :=
  (clauses.flatMap fun (termIndex, clause) =>
      (store.recordSearch.filter fun row => fullText.isRecordMatch clause row).map fun row =>
        ⟨row.recordId, termIndex, fullText.recordBm25 store.recordSearch clause row⟩)
  ++ eventMatches fullText store .eventSearch clauses
  ++ (scriptgramClauses.flatMap fun (termIndex, clause) =>
      (store.recordScriptgram.filter fun row => fullText.isMatch clause row.tokenText).map fun row =>
        ⟨row.recordId, termIndex,
          fullText.plus (fullText.scriptgramBm25 store.recordScriptgram clause row)⟩)
  ++ (eventMatches fullText store .eventSearchScriptgram scriptgramClauses).map fun found =>
      { found with score := fullText.plus found.score }

/-- A record's matched terms, and the sum of its best scores. -/
def recordRank (matched : List (RecordMatch Score)) (recordId : Uuid) : Uuid × Nat × Score :=
  let own := matched.filter fun found => found.recordId = recordId
  let terms := (own.map (·.termIndex)).dedup
  let termScore (term : Nat) : Score :=
    fullText.least ((own.filter fun found => found.termIndex = term).map (·.score))
  (recordId, terms.length, fullText.sum (terms.map termScore))

/-- `ORDER BY COUNT(*) DESC, SUM(score), record_id`. -/
def rankBefore (left right : Uuid × Nat × Score) : Bool :=
  right.2.1 < left.2.1
  || (left.2.1 = right.2.1
    && (fullText.less left.2.2 right.2.2
      || (!fullText.less right.2.2 left.2.2 && left.1.text ≤ right.1.text)))

/-- `search_records_fts`. -/
def searchRecordsFts (query : List Char) (limit offset : Nat)
    : Except RecordError (List HistoryRecord) :=
  let clauses := (ftsMatchClauses unicode query).zipIdx.map fun (clause, index) => (index, clause)
  let scriptgramClauses := scriptgramMatchClauses unicode query
  if clauses.isEmpty && scriptgramClauses.isEmpty then .ok []
  else
    let matched := recordMatches fullText store clauses scriptgramClauses
    let ranked :=
      ((matched.map (·.recordId)).dedup.map (recordRank fullText matched)).insertionSort
        fun left right => rankBefore fullText left right
    ((ranked.drop offset).take limit).mapM fun rank => getRecord store rank.1

end Search

end CtxRemote.Store
