import CtxRemote.Library.Loops
import CtxRemote.Library.Runs
import CtxRemote.Semantic.Sidecar
import CtxRemote.Turso.DedupeKey
import Mathlib.Data.List.Destutter
import Mathlib.Logic.Function.Basic

/-! `index_semantic_documents`: the documents that fit into the limit are cut into chunks, embedded in
batches until the deadline, and stored with the events whose chunks are all embedded.

The clock, the model behind the embedder, SHA-256 and the header lines of a document are left open.
Instants and durations are in nanoseconds.
-/

namespace CtxRemote.Semantic
open CtxRemote.Library
open CtxRemote.Store (Uuid)
open CtxRemote.Turso (isWhitespace)

-----------------------------------------------------------------------------------------
-- Documents
-----------------------------------------------------------------------------------------

/-- `EventEmbeddingDocument`. The columns that only `semantic_document_header` reads are given by the
header that it makes of them.
-/
structure EventEmbeddingDocument where
  eventId : Uuid
  historyRecordId : Option Uuid
  sessionId : Option Uuid
  seq : Nat
  header : List Char
  text : List Char
deriving DecidableEq

/-- `SemanticChunkDocument`. -/
structure SemanticChunkDocument where
  eventId : Uuid
  historyRecordId : Option Uuid
  sessionId : Option Uuid
  seq : Nat
  chunkIndex : Nat
  chunkCount : Nat
  sourceTextHash : String
  chunkTextHash : String
  text : List Char
  startChar : Nat
  endChar : Nat
deriving DecidableEq

/-- The columns of a chunk that the sidecar reads again. -/
def SemanticChunkDocument.chunk (document : SemanticChunkDocument) : SemanticChunk where
  eventId := document.eventId
  historyRecordId := document.historyRecordId
  sessionId := document.sessionId
  eventSeq := document.seq
  chunkIndex := document.chunkIndex
  sourceTextHash := document.sourceTextHash
  startChar := document.startChar
  endChar := document.endChar

/-- `SEMANTIC_SOURCE_MAX_CHARS`. -/
def semanticSourceMaxChars : Nat := 64 * 1024

/-- `SEMANTIC_CHUNK_TARGET_CHARS`. -/
def semanticChunkTargetChars : Nat := 1200

/-- `SEMANTIC_CHUNK_OVERLAP_CHARS`. -/
def semanticChunkOverlapChars : Nat := 200

/-- `semantic_source_text`. -/
def semanticSourceText (text : List Char) : List Char :=
  text.take semanticSourceMaxChars

/-- The place behind the last whitespace between two indexes, or the end of them. -/
def whitespaceCut (chars : List Char) (boundaryFloor target : Nat) : Nat :=
  let indexes := List.range' boundaryFloor (target - boundaryFloor)
  match indexes.reverse.find? fun index => (chars[index]?).any isWhitespace with
  | some index => index + 1
  | none => target

theorem lt_whitespaceCut (chars : List Char) {boundaryFloor target : Nat}
    (room : boundaryFloor < target)
    : boundaryFloor < whitespaceCut chars boundaryFloor target := by
  unfold whitespaceCut
  simp only
  split
  next index found =>
      have member := List.mem_reverse.mp (List.mem_of_find?_eq_some found)
      have within := List.mem_range'_1.mp member
      omega
  next => exact room

/-- Where the chunk that starts at `start` ends: behind the last whitespace of its last 150
characters, unless it reaches the end of the text.
-/
def chunkEnd (chars : List Char) (start : Nat) : Nat :=
  let target := min (start + semanticChunkTargetChars) chars.length
  let cut :=
    if target < chars.length then whitespaceCut chars (max (target - 150) (start + 1)) target
    else target
  if cut ≤ start then target else cut

/-- A chunk in front of others goes far beyond its overlap with the next one. -/
theorem lt_chunkEnd {chars : List Char} {start : Nat}
    (more : chunkEnd chars start < chars.length)
    : start < chunkEnd chars start - semanticChunkOverlapChars := by
  have size : semanticChunkTargetChars = 1200 := rfl
  have overlap : semanticChunkOverlapChars = 200 := rfl
  unfold chunkEnd at more ⊢
  simp only at more ⊢
  by_cases short : min (start + semanticChunkTargetChars) chars.length < chars.length
  · have far := lt_whitespaceCut chars
      (show max (min (start + semanticChunkTargetChars) chars.length - 150) (start + 1)
        < min (start + semanticChunkTargetChars) chars.length by omega)
    rw [if_pos short, if_neg (by omega)]
    omega
  · rw [if_neg short] at more
    split at more <;> omega

/-- The loop of `semantic_text_chunks`, from a start on. -/
def textChunksFrom (chars : List Char) (start : Nat) : List (Nat × Nat × List Char) :=
  if _inside : start < chars.length then
    let chunk := (chars.drop start).take (chunkEnd chars start - start)
    if _last : chars.length ≤ chunkEnd chars start then [(start, chunkEnd chars start, chunk)]
    else
      (start, chunkEnd chars start, chunk)
        :: textChunksFrom chars (chunkEnd chars start - semanticChunkOverlapChars)
  else []
termination_by chars.length - start
decreasing_by
  have further := lt_chunkEnd (show chunkEnd chars start < chars.length by omega)
  omega

/-- `semantic_text_chunks`. -/
def semanticTextChunks (chars : List Char) : List (Nat × Nat × List Char) :=
  if chars.isEmpty then []
  else if chars.length ≤ semanticChunkTargetChars then [(0, chars.length, chars)]
  else textChunksFrom chars 0

/-- `SEMANTIC_PASSAGE_PREFIX`. -/
def semanticPassagePrefix : List Char := "passage: ".toList

/-- `semantic_e5_prefixed_text`. -/
def semanticE5PrefixedText (lead text : List Char) : List Char :=
  let text := text.dropWhile isWhitespace
  if lead.isPrefixOf text then text else lead ++ text

/-- `semantic_e5_passage_text`. -/
def semanticE5PassageText (text : List Char) : List Char :=
  semanticE5PrefixedText semanticPassagePrefix text

/-- `semantic_embedded_chunk_text`, which is also `semantic_embedded_document_text`. -/
def semanticEmbeddedChunkText (document : EventEmbeddingDocument) (body : List Char) : List Char :=
  let text :=
    if document.header.isEmpty then body else document.header ++ ['\n', '\n'] ++ body
  semanticE5PassageText text

section Hashes

variable (sha256 : List Char → String)

/-- `semantic_document_hash`. -/
def semanticDocumentHash (document : EventEmbeddingDocument) (sourceText : List Char) : String :=
  sha256 (semanticEmbeddedChunkText document sourceText)

/-- `semantic_chunks_for_document`. -/
def semanticChunksForDocument (document : EventEmbeddingDocument) (sourceText : List Char)
    (sourceTextHash : String)
    : List SemanticChunkDocument :=
  let chunks := semanticTextChunks sourceText
  chunks.zipIdx.map fun (piece, chunkIndex) =>
    { eventId := document.eventId
      historyRecordId := document.historyRecordId
      sessionId := document.sessionId
      seq := document.seq
      chunkIndex
      chunkCount := chunks.length
      sourceTextHash
      chunkTextHash := sha256 (semanticEmbeddedChunkText document piece.2.2)
      text := semanticEmbeddedChunkText document piece.2.2
      startChar := piece.1
      endChar := piece.2.1 }

/-- The hash of a document's source text. -/
def EventEmbeddingDocument.textHash (document : EventEmbeddingDocument) : String :=
  semanticDocumentHash sha256 document (semanticSourceText document.text)

/-- The chunks of a document's source text. -/
def EventEmbeddingDocument.chunks (document : EventEmbeddingDocument) : List SemanticChunkDocument :=
  semanticChunksForDocument sha256 document (semanticSourceText document.text)
    (document.textHash sha256)

-----------------------------------------------------------------------------------------
-- Selection
-----------------------------------------------------------------------------------------

/-- The vectors that the loop over the documents fills. -/
structure SelectedDocuments where
  pending : List SemanticChunkDocument
  unchangedEventIds : List Uuid
  consideredEventIds : List Uuid

/-- The loop over the documents. -/
def selectDocuments (existingHashes : Uuid → Option String) (limit : Nat)
    : SelectedDocuments → List EventEmbeddingDocument → SelectedDocuments
  | selected, [] => selected
  | selected, document :: documents =>
      if existingHashes document.eventId = some (document.textHash sha256) then
        selectDocuments existingHashes limit
          { selected with
            unchangedEventIds := selected.unchangedEventIds ++ [document.eventId]
            consideredEventIds := selected.consideredEventIds ++ [document.eventId] }
          documents
      else
        let chunks := document.chunks sha256
        if chunks.length > limit && selected.pending.isEmpty then selected
        else if selected.pending.length + chunks.length > limit && !selected.pending.isEmpty
        then selected
        else
          let next :=
            { selected with
              pending := selected.pending ++ chunks
              consideredEventIds := selected.consideredEventIds ++ [document.eventId] }
          if next.pending.length ≥ limit then next
          else selectDocuments existingHashes limit next documents

end Hashes

-----------------------------------------------------------------------------------------
-- Deadline
-----------------------------------------------------------------------------------------

/-- `SEMANTIC_DEADLINE_CHUNKS_PER_SECOND`. -/
def semanticDeadlineChunksPerSecond : Nat := 3

/-- `SEMANTIC_DEADLINE_MIN_CHUNK_BATCH`. -/
def semanticDeadlineMinChunkBatch : Nat := 16

/-- `SEMANTIC_MODEL_INIT_MIN_REMAINING_SECS`. -/
def semanticModelInitMinRemainingSecs : Nat := 15

/-- `Instant::checked_duration_since`. -/
def checkedDurationSince (deadline now : Nat) : Option Nat :=
  if now ≤ deadline then some (deadline - now) else none

/-- `semantic_deadline_chunk_limit`. -/
def semanticDeadlineChunkLimit (limit : Nat) (deadline : Option Nat) (now : Nat) : Nat :=
  match deadline with
  | none => limit
  | some deadline =>
      match checkedDurationSince deadline now with
      | none => 0
      | some remaining =>
          let seconds := remaining / 10 ^ 9
          if seconds = 0 then 0
          else
            min limit
              (max (seconds * semanticDeadlineChunksPerSecond) semanticDeadlineMinChunkBatch)

/-- `semantic_deadline_has_model_init_budget`. -/
def semanticDeadlineHasModelInitBudget (deadline : Option Nat) (now : Nat) : Bool :=
  match deadline with
  | none => true
  | some deadline =>
      (checkedDurationSince deadline now).any fun remaining =>
        semanticModelInitMinRemainingSecs * 10 ^ 9 ≤ remaining

/-- `semantic_deadline_reached`. -/
def semanticDeadlineReached (deadline : Option Nat) (now : Nat) : Bool :=
  deadline.any fun deadline => deadline ≤ now

-----------------------------------------------------------------------------------------
-- Embedding
-----------------------------------------------------------------------------------------

/-- What a call meets outside of its arguments: the clock whenever it is read, the shared embedder,
the model behind it, and SQLite.
-/
structure IndexingRun (Raw Vector : Type) where
  limitNow : Nat
  initNow : Nat
  batchNow : Nat → Nat
  /-- Whether the embedder is there; `none` for a poisoned lock. -/
  initialized : Option Bool
  /-- Whether `new_semantic_embedder` gives one. -/
  newEmbedder : Bool
  batchSize : Nat
  quietBatchSize : Nat
  /-- What the model gives for the texts of a batch, at the first try and at the second. -/
  embed : Nat → Bool → List (List Char) → Option (List Raw)
  /-- The check and the scaling of one embedding. -/
  normalize : Raw → Option Vector
  sqliteVec0Runtime : Bool
  /-- Whether SQLite carries out the transaction, and the refresh of the statistics behind it. -/
  commits : Bool
  refreshes : Bool

namespace IndexingRun

variable {Raw Vector : Type} (run : IndexingRun Raw Vector)

/-- `normalize_and_validate_embeddings`. -/
def normalizeAndValidateEmbeddings (embeddings : List Raw) (expectedCount : Nat)
    : Option (List Vector) :=
  if embeddings.length ≠ expectedCount then none
  else embeddings.mapM run.normalize

/-- `embed_documents`, for a batch and one of its tries. -/
def embedDocuments (batch : Nat) (retry : Bool) (documents : List (List Char))
    : Option (List Vector) :=
  if documents.isEmpty then some []
  else
    (run.embed batch retry (documents.map semanticE5PassageText)).bind fun raw =>
      run.normalizeAndValidateEmbeddings raw documents.length

/-- `embed_documents_with_shared_runtime`: a batch that fails is tried again. -/
def embedDocumentsWithSharedRuntime (batch : Nat) (texts : List (List Char))
    : Option (List Vector) :=
  match run.embedDocuments batch false texts with
  | some embeddings => some embeddings
  | none => run.embedDocuments batch true texts

/-- The loop over the batches. -/
def embedBatches (deadline : Option Nat) : Nat → List (List (List Char)) → Option (List Vector)
  | _, [] => some []
  | batch, texts :: later =>
      if semanticDeadlineReached deadline (run.batchNow batch) then some []
      else
        (run.embedDocumentsWithSharedRuntime batch texts).bind fun embeddings =>
          (embedBatches deadline (batch + 1) later).map (embeddings ++ ·)

end IndexingRun

/-- `semantic_complete_embedding_prefix`. -/
def semanticCompleteEmbeddingPrefix (pending : List SemanticChunkDocument) (embeddedLen : Nat)
    : Nat :=
  let embeddedLen := min embeddedLen pending.length
  if embeddedLen = 0 || embeddedLen = pending.length then embeddedLen
  else
    match pending[embeddedLen - 1]?, pending[embeddedLen]? with
    | some lastEmbedded, some next =>
        if next.eventId ≠ lastEmbedded.eventId then embeddedLen
        else
          match rposition? (fun document => document.eventId ≠ lastEmbedded.eventId)
              (pending.take embeddedLen) with
          | some index => index + 1
          | none => 0
    | _, _ => embeddedLen

/-- `semantic_contiguous_consumed_event_ids`. -/
def semanticContiguousConsumedEventIds (consideredEventIds completedEventIds : List Uuid)
    : List Uuid :=
  consideredEventIds.takeWhile fun eventId => eventId ∈ completedEventIds

-----------------------------------------------------------------------------------------
-- Indexing
-----------------------------------------------------------------------------------------

/-- `SemanticIndexOutcome`. -/
structure SemanticIndexOutcome where
  indexedChunks : Nat
  consumedEventIds : List Uuid
deriving DecidableEq

/-- What a call leaves. It has no outcome where it ends with an error. -/
structure IndexedDocuments (Vector : Type) where
  sidecar : Sidecar Vector
  existingHashes : Uuid → Option String
  outcome : Option SemanticIndexOutcome

namespace IndexingRun

variable {Raw Vector : Type} (run : IndexingRun Raw Vector)

/-- `upsert_chunk_embeddings`, and whether it succeeds. -/
def upsertChunkEmbeddings (items : List (SemanticChunkDocument × Vector)) (sidecar : Sidecar Vector)
    : Sidecar Vector × Bool :=
  if items.isEmpty then (sidecar, true)
  else
    let maintainSqliteVec0 :=
      run.sqliteVec0Runtime && sidecar.vec0.isSome && sidecar.vec0Meta.isSome
    let eventIds := (items.map (·.1.eventId)).dedup
    let rows := items.map fun item => (item.1.chunk, item.2)
    match sidecar.writeChunks maintainSqliteVec0 eventIds rows with
    | none => (sidecar, false)
    | some written =>
        if !run.commits then (sidecar, false)
        else if !run.refreshes then (written, false)
        else ({ written with stats := some written.exactStats }, true)

/-- What `index_semantic_documents` does with the embeddings. -/
def storeEmbeddings (sidecar : Sidecar Vector) (existingHashes : Uuid → Option String)
    (selected : SelectedDocuments) (embeddings : List Vector)
    : IndexedDocuments Vector :=
  let completePrefix := semanticCompleteEmbeddingPrefix selected.pending embeddings.length
  let pending := selected.pending.take completePrefix
  let embeddings := embeddings.take completePrefix
  let completedEventIds := (pending.map (·.eventId)).destutter (· ≠ ·)
  let items := pending.zip embeddings
  let existingHashes :=
    items.foldl (fun hashes item => Function.update hashes item.1.eventId item.1.sourceTextHash)
      existingHashes
  match run.upsertChunkEmbeddings items sidecar with
  | (sidecar, false) => ⟨sidecar, existingHashes, none⟩
  | (sidecar, true) =>
      let consumedEventIds :=
        semanticContiguousConsumedEventIds selected.consideredEventIds
          (selected.unchangedEventIds ++ completedEventIds)
      ⟨sidecar, existingHashes, some ⟨items.length, consumedEventIds⟩⟩

/-- `index_semantic_documents`. -/
def indexSemanticDocuments (sha256 : List Char → String) (sidecar : Sidecar Vector)
    (existingHashes : Uuid → Option String) (documents : List EventEmbeddingDocument) (limit : Nat)
    (deadline : Option Nat)
    : IndexedDocuments Vector :=
  let limit := semanticDeadlineChunkLimit limit deadline run.limitNow
  if limit = 0 then ⟨sidecar, existingHashes, some ⟨0, []⟩⟩
  else
    let selected := selectDocuments sha256 existingHashes limit ⟨[], [], []⟩ documents
    if selected.pending.isEmpty
    then ⟨sidecar, existingHashes, some ⟨0, selected.consideredEventIds⟩⟩
    else
      match run.initialized with
      | none => ⟨sidecar, existingHashes, none⟩
      | some initialized =>
          if !initialized && !semanticDeadlineHasModelInitBudget deadline run.initNow then
            let consumedEventIds :=
              semanticContiguousConsumedEventIds selected.consideredEventIds
                selected.unchangedEventIds
            ⟨sidecar, existingHashes, some ⟨0, consumedEventIds⟩⟩
          else if !initialized && !run.newEmbedder then ⟨sidecar, existingHashes, none⟩
          else
            let batchSize := max (min run.batchSize run.quietBatchSize) 1
            let batches := chunks batchSize (selected.pending.map (·.text))
            match run.embedBatches deadline 0 batches with
            | none => ⟨sidecar, existingHashes, none⟩
            | some embeddings => run.storeEmbeddings sidecar existingHashes selected embeddings

end IndexingRun

end CtxRemote.Semantic
