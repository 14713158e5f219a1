import CtxRemote.Library.Keyed
import CtxRemote.Library.TopGroups
import CtxRemote.Store.EventKeys
import Mathlib.Data.Rat.Defs
import Mathlib.Algebra.Order.Ring.Rat
import Mathlib.Tactic.Linarith

/-! The semantic sidecar: embedded chunks, the sqlite-vec tables that mirror them under the same
rowids, the row of statistics, and the two searches.

There is one model key and one number of dimensions. Columns that no read compares or returns, and
the tables of maintenance and of dirty events, are left out.
-/

namespace CtxRemote.Semantic
open CtxRemote.Library
open CtxRemote.Store (Uuid)

-----------------------------------------------------------------------------------------
-- Rows
-----------------------------------------------------------------------------------------

/-- Embeddings as searches compare them: normalized, in exact arithmetic. -/
class UnitVectors (Vector : Type) where
  dotProduct : Vector → Vector → ℚ
  bounded : ∀ left right, -1 ≤ dotProduct left right ∧ dotProduct left right ≤ 1

/-- What `event_embedding_chunks` and `event_embedding_vec0_meta` say of a chunk. -/
structure SemanticChunk where
  eventId : Uuid
  historyRecordId : Option Uuid
  sessionId : Option Uuid
  eventSeq : Int
  chunkIndex : Nat
  sourceTextHash : String
  startChar : Nat
  endChar : Nat
deriving DecidableEq

/-- A row of `event_embedding_chunks`. -/
structure ChunkRow (Vector : Type) where
  rowid : Nat
  chunk : SemanticChunk
  embedding : Vector

/-- A row of `event_embedding_vec0_meta`. -/
structure Vec0MetaRow where
  rowid : Nat
  chunk : SemanticChunk

/-- A row of `event_embedding_vec0`. -/
structure Vec0Row (Vector : Type) where
  rowid : Nat
  embedding : Vector

/-- `SemanticSidecarStats`. -/
structure SemanticSidecarStats where
  embeddedItems : Nat
  embeddedChunks : Nat
deriving DecidableEq

/-- The tables. The two of sqlite-vec may be missing, and so may the row of statistics. -/
structure Sidecar (Vector : Type) where
  chunks : Keyed (ChunkRow Vector) (·.rowid)
  vec0Meta : Option (Keyed Vec0MetaRow (·.rowid))
  vec0 : Option (Keyed (Vec0Row Vector) (·.rowid))
  stats : Option SemanticSidecarStats

/-- `SemanticVectorHit`. -/
structure SemanticVectorHit where
  eventId : Uuid
  similarity : ℚ
  sourceTextHash : String
  startChar : Nat
  endChar : Nat
deriving DecidableEq

/-- The hit on a chunk. -/
def SemanticChunk.hit (chunk : SemanticChunk) (similarity : ℚ) : SemanticVectorHit where
  eventId := chunk.eventId
  similarity := similarity
  sourceTextHash := chunk.sourceTextHash
  startChar := chunk.startChar
  endChar := chunk.endChar

/-- `SEMANTIC_DIMENSIONS`. -/
def semanticDimensions : Nat := 384

/-- `SEMANTIC_SQLITE_VEC0_MAX_K`. -/
def semanticSqliteVec0MaxK : Nat := 4096

/-- `semantic_rust_full_scan_chunk_limit`: the limit of the scan's query, and the rows that its limit
on bytes lets through.
-/
def semanticRustFullScanChunkLimit : Nat :=
  min 250000 (512 * 1024 * 1024 / (semanticDimensions * 4))

namespace Sidecar

variable {Vector : Type}

/-- The sidecar that the first open creates. -/
def empty : Sidecar Vector := ⟨Keyed.empty, none, none, none⟩

-----------------------------------------------------------------------------------------
-- Writes
-----------------------------------------------------------------------------------------

/-- The `INSERT` statements of one chunk into the two mirror tables. -/
def mirrorRow (row : ChunkRow Vector) (sidecar : Sidecar Vector) : Option (Sidecar Vector) :=
  match sidecar.vec0Meta, sidecar.vec0 with
  | some vec0Meta, some vec0 =>
      if vec0Meta.holds row.rowid || vec0.holds row.rowid then none
      else
        some
          { sidecar with
            vec0Meta := some (vec0Meta.put ⟨row.rowid, row.chunk⟩)
            vec0 := some (vec0.put ⟨row.rowid, row.embedding⟩) }
  | _, _ => none

/-- The rowid of the next chunk. -/
def nextRowid (sidecar : Sidecar Vector) : Nat :=
  (sidecar.chunks.rows.map (·.rowid)).foldr max 0 + 1

/-- The `INSERT` of one chunk, and with the mirror its rows there. -/
def insertChunk (maintainSqliteVec0 : Bool) (sidecar : Sidecar Vector) (item : SemanticChunk × Vector)
    : Option (Sidecar Vector) :=
  let row : ChunkRow Vector := ⟨sidecar.nextRowid, item.1, item.2⟩
  if sidecar.chunks.rows.any fun held =>
      held.chunk.eventId = item.1.eventId && held.chunk.chunkIndex = item.1.chunkIndex
  then none
  else
    let next := { sidecar with chunks := sidecar.chunks.put row }
    if maintainSqliteVec0 then mirrorRow row next else some next

/-- The `DELETE` statements for some events. -/
def deleteEvents (maintainSqliteVec0 : Bool) (eventIds : List Uuid) (sidecar : Sidecar Vector)
    : Sidecar Vector :=
  let mirrored (rowid : Nat) : Bool :=
    ((sidecar.vec0Meta.bind (·.find? rowid)).any fun row => row.chunk.eventId ∈ eventIds)
  { sidecar with
    chunks := sidecar.chunks.filter fun row => row.chunk.eventId ∉ eventIds
    vec0Meta :=
      if maintainSqliteVec0
      then sidecar.vec0Meta.map (·.filter fun row => row.chunk.eventId ∉ eventIds)
      else sidecar.vec0Meta
    vec0 :=
      if maintainSqliteVec0 then sidecar.vec0.map (·.keep fun rowid => !mirrored rowid)
      else sidecar.vec0 }

/-- The transaction of `upsert_chunk_embeddings`, and without items that of
`delete_embedding_chunks_for_event_ids`. An error rolls it back.
-/
def writeChunks (maintainSqliteVec0 : Bool) (eventIds : List Uuid)
    (items : List (SemanticChunk × Vector)) (sidecar : Sidecar Vector)
    : Option (Sidecar Vector) :=
  if maintainSqliteVec0 && !(sidecar.vec0Meta.isSome && sidecar.vec0.isSome) then none
  else items.foldlM (insertChunk maintainSqliteVec0) (sidecar.deleteEvents maintainSqliteVec0 eventIds)

/-- The transaction of `rebuild_sqlite_vec0_from_chunks`. -/
def rebuildRows (sidecar : Sidecar Vector) : Option (Sidecar Vector) :=
  sidecar.chunks.rows.foldlM (fun held row => mirrorRow row held) sidecar

-----------------------------------------------------------------------------------------
-- Checks
-----------------------------------------------------------------------------------------

/-- `sqlite_vec0_counts`, in a process that has the sqlite-vec runtime or not. -/
def sqliteVec0Counts (runtime : Bool) (sidecar : Sidecar Vector) : Option (Nat × Nat × Nat) :=
  match runtime, sidecar.vec0Meta, sidecar.vec0 with
  | true, some vec0Meta, some vec0 =>
      some (sidecar.chunks.rows.length, vec0Meta.rows.length, vec0.rows.length)
  | _, _, _ => none

/-- `sqlite_vec0_search_ready`. -/
def sqliteVec0SearchReady (runtime : Bool) (sidecar : Sidecar Vector) : Bool :=
  match sidecar.sqliteVec0Counts runtime with
  | none => false
  | some (canonicalChunks, metaRows, vecRows) =>
      canonicalChunks > 0 && metaRows = canonicalChunks && vecRows = canonicalChunks

/-- `sqlite_vec0_schema_compatible`, of tables that this program has made. -/
def sqliteVec0SchemaCompatible (sidecar : Sidecar Vector) : Bool :=
  sidecar.vec0Meta.isSome = sidecar.vec0.isSome

/-- `sqlite_vec0_mismatch_count`, where both tables are there. -/
def mismatchCount [DecidableEq Vector] (sidecar : Sidecar Vector)
    (vec0Meta : Keyed Vec0MetaRow (·.rowid)) (vec0 : Keyed (Vec0Row Vector) (·.rowid))
    : Nat :=
  let missingOrStaleMeta :=
    sidecar.chunks.rows.countP fun row =>
      !((vec0Meta.find? row.rowid).any fun held => held.chunk = row.chunk)
  let orphanMeta := vec0Meta.rows.countP fun row => !sidecar.chunks.holds row.rowid
  let missingOrStaleVector :=
    sidecar.chunks.rows.countP fun row =>
      !((vec0.find? row.rowid).any fun held => held.embedding = row.embedding)
  missingOrStaleMeta + orphanMeta + missingOrStaleVector

/-- The test of `sync_sqlite_vec0_from_chunks_if_needed`: no rebuild is due. -/
def sqliteVec0InSync [DecidableEq Vector] (runtime : Bool) (sidecar : Sidecar Vector) : Bool :=
  match runtime, sidecar.vec0Meta, sidecar.vec0 with
  | true, some vec0Meta, some vec0 =>
      vec0Meta.rows.length = sidecar.chunks.rows.length
      && vec0.rows.length = sidecar.chunks.rows.length
      && sidecar.mismatchCount vec0Meta vec0 = 0
  | _, _, _ => true

/-- `exact_stats`. -/
def exactStats (sidecar : Sidecar Vector) : SemanticSidecarStats where
  embeddedItems := (sidecar.chunks.rows.map (·.chunk.eventId)).dedup.length
  embeddedChunks := sidecar.chunks.rows.length

/-- `cached_or_exact_stats`. -/
def cachedOrExactStats (sidecar : Sidecar Vector) : SemanticSidecarStats :=
  sidecar.stats.getD sidecar.exactStats

-----------------------------------------------------------------------------------------
-- Searches
-----------------------------------------------------------------------------------------

variable [UnitVectors Vector]

/-- The hit of a query on a row. -/
def hitOf (query : Vector) (row : ChunkRow Vector) : SemanticVectorHit :=
  row.chunk.hit (UnitVectors.dotProduct query row.embedding)

/-- `best_by_event`. -/
def bestByEvent (hits : List SemanticVectorHit) : List SemanticVectorHit :=
  bestByGroup (·.eventId) (·.similarity) hits

/-- The selection of the hits with the largest similarities. -/
def selectTop (limit : Nat) (hits : List SemanticVectorHit) : List SemanticVectorHit :=
  newest (·.similarity) limit hits

/-- The scan of `search_with_event_filter` over all events. -/
def searchChunks (sidecar : Sidecar Vector) (query : Vector) (limit : Nat)
    : List SemanticVectorHit :=
  let scanned := newest (·.chunk.eventSeq) semanticRustFullScanChunkLimit sidecar.chunks.rows
  selectTop (max limit 1) (bestByEvent (scanned.map (hitOf query)))

/-- The cosine distance of normalized vectors. -/
def cosineDistance (left right : Vector) : ℚ := 1 - UnitVectors.dotProduct left right

end Sidecar

/-- The search of sqlite-vec: the nearest rows of a table, by the distance from the query. -/
structure Vec0Index (Vector : Type) [UnitVectors Vector] where
  nearest : List (Vec0Row Vector) → Vector → Nat → List (Vec0Row Vector)
  isNearest :
    ∀ rows query k,
      IsNearest (fun row : Vec0Row Vector => -Sidecar.cosineDistance query row.embedding) rows k
        (nearest rows query k)

namespace Sidecar

variable {Vector : Type} [UnitVectors Vector]

/-- The rows of one query, with their similarities. -/
def vec0Hits (index : Vec0Index Vector) (vec0Meta : Keyed Vec0MetaRow (·.rowid))
    (vec0 : Keyed (Vec0Row Vector) (·.rowid)) (query : Vector) (k : Nat)
    : List SemanticVectorHit :=
  (index.nearest vec0.rows query k).filterMap fun row =>
    (vec0Meta.find? row.rowid).map fun held =>
      held.chunk.hit (max (-1) (min 1 (1 - cosineDistance query row.embedding)))

/-- The loop of `search_sqlite_vec0`: the number of rows grows until they have enough events, or are
all. It gives the last number and its rows.
-/
def growRows (hits : Nat → List SemanticVectorHit) (limit maxK : Nat)
    : Nat → Nat → Nat × List SemanticVectorHit
  | 0, k => (k, hits k)
  | fuel + 1, k =>
      if (bestByEvent (hits k)).length ≥ limit ∨ (hits k).length < k ∨ k ≥ maxK then (k, hits k)
      else growRows hits limit maxK fuel (min (k * 2) maxK)

/-- `search_sqlite_vec0`. `none` stands for its errors. -/
def searchSqliteVec0 (index : Vec0Index Vector) (sidecar : Sidecar Vector) (query : Vector)
    (limit : Nat)
    : Option (List SemanticVectorHit) :=
  match sidecar.vec0Meta, sidecar.vec0 with
  | some vec0Meta, some vec0 =>
      let stats := sidecar.cachedOrExactStats
      let limit := min (max limit 1) semanticSqliteVec0MaxK
      let maxK := min (max (max stats.embeddedChunks limit) 1) semanticSqliteVec0MaxK
      let (k, rows) := growRows (vec0Hits index vec0Meta vec0 query) limit maxK maxK (min limit maxK)
      if (bestByEvent rows).length < limit ∧ rows.length ≥ k ∧ k ≥ maxK
          ∧ maxK < stats.embeddedChunks
      then none
      else some (selectTop limit (bestByEvent rows))
  | _, _ => none

end Sidecar

end CtxRemote.Semantic
