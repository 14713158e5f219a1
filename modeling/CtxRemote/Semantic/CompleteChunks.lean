import CtxRemote.Semantic.Indexing

/-! The parts of `index_semantic_documents` in front of the store: the documents that it selects, the
prefix of the pending chunks that ends with an event, and the vectors of the batches.
-/

namespace CtxRemote.Semantic
open CtxRemote.Library
open CtxRemote.Store (Uuid)

-----------------------------------------------------------------------------------------
-- Chunks of documents
-----------------------------------------------------------------------------------------

section Documents

variable {sha256 : List Char → String}

/-- A chunk bears the event and the hash of its document. -/
theorem EventEmbeddingDocument.of_mem_chunks {document : EventEmbeddingDocument}
    {chunk : SemanticChunkDocument} (member : chunk ∈ document.chunks sha256)
    : chunk.eventId = document.eventId ∧ chunk.sourceTextHash = document.textHash sha256 := by
  obtain ⟨⟨piece, index⟩, -, rfl⟩ := List.mem_map.mp member
  exact ⟨rfl, rfl⟩

/-- A document with chunks has a first one. -/
theorem EventEmbeddingDocument.exists_first {document : EventEmbeddingDocument}
    (some : document.chunks sha256 ≠ [])
    : ∃ chunk ∈ document.chunks sha256, chunk.chunkIndex = 0 := by
  unfold chunks semanticChunksForDocument at some ⊢
  simp only at some ⊢
  cases pieces : semanticTextChunks (semanticSourceText document.text) with
  | nil => simp [pieces] at some
  | cons piece rest => exact ⟨_, List.mem_cons_self, rfl⟩

/-- The document is the one that its hash in the map is of. -/
def EventEmbeddingDocument.unchanged (sha256 : List Char → String)
    (existingHashes : Uuid → Option String) (document : EventEmbeddingDocument)
    : Bool :=
  existingHashes document.eventId = some (document.textHash sha256)

/-- The loop over the documents considers the first of them, and sorts them into unchanged ones and
ones whose chunks are pending. Witness: by induction on the documents.
-/
theorem selectDocuments_eq (sha256 : List Char → String)
    (existingHashes : Uuid → Option String) (limit : Nat) (selected : SelectedDocuments)
    (documents : List EventEmbeddingDocument)
    : ∃ count, ∀ taken, taken = documents.take count →
        selectDocuments sha256 existingHashes limit selected documents
          = { pending :=
                selected.pending
                  ++ (taken.filter fun document => !document.unchanged sha256 existingHashes).flatMap
                    (·.chunks sha256)
              unchangedEventIds :=
                selected.unchangedEventIds
                  ++ (taken.filter (·.unchanged sha256 existingHashes)).map (·.eventId)
              consideredEventIds := selected.consideredEventIds ++ taken.map (·.eventId) } := by
  induction documents generalizing selected with
  | nil =>
      refine ⟨0, ?_⟩
      rintro _ rfl
      simp [selectDocuments]
  | cons document documents ih =>
      rw [selectDocuments]
      by_cases same : existingHashes document.eventId = some (document.textHash sha256)
      · rw [if_pos same]
        have marked : document.unchanged sha256 existingHashes = true := decide_eq_true same
        obtain ⟨count, later⟩ := ih
          { selected with
            unchangedEventIds := selected.unchangedEventIds ++ [document.eventId]
            consideredEventIds := selected.consideredEventIds ++ [document.eventId] }
        refine ⟨count + 1, ?_⟩
        rintro _ rfl
        rw [later _ rfl]
        simp [marked]
      · rw [if_neg same]
        have marked : document.unchanged sha256 existingHashes = false := decide_eq_false same
        simp only
        split
        next =>
            refine ⟨0, ?_⟩
            rintro _ rfl
            simp
        split
        next =>
            refine ⟨0, ?_⟩
            rintro _ rfl
            simp
        split
        next =>
            refine ⟨1, ?_⟩
            rintro _ rfl
            simp [marked]
        next =>
            obtain ⟨count, later⟩ := ih
              { selected with
                pending := selected.pending ++ document.chunks sha256
                consideredEventIds := selected.consideredEventIds ++ [document.eventId] }
            refine ⟨count + 1, ?_⟩
            rintro _ rfl
            rw [later _ rfl]
            simp [marked]

end Documents

-----------------------------------------------------------------------------------------
-- Complete prefix
-----------------------------------------------------------------------------------------

/-- The complete prefix is no longer than the embeddings and the pending chunks, and ends between
two events. Witness: behind the last chunk of another event come chunks of the event that the
embeddings end in.
-/
theorem semanticCompleteEmbeddingPrefix_spec (pending : List SemanticChunkDocument)
    (embeddedLen : Nat)
    : semanticCompleteEmbeddingPrefix pending embeddedLen ≤ embeddedLen
      ∧ semanticCompleteEmbeddingPrefix pending embeddedLen ≤ pending.length
      ∧ IsBoundary SemanticChunkDocument.eventId pending
          (semanticCompleteEmbeddingPrefix pending embeddedLen) := by
  unfold semanticCompleteEmbeddingPrefix
  simp only
  generalize short : min embeddedLen pending.length = bound
  split
  next edge =>
      refine ⟨by omega, by omega, ?_⟩
      rcases (by simpa using edge : bound = 0 ∨ bound = pending.length) with rfl | rfl
      · exact isBoundary_zero _ _
      · exact isBoundary_end _ _
  next inner =>
      have inside : bound ≠ 0 ∧ bound < pending.length := by
        have parts : bound ≠ 0 ∧ bound ≠ pending.length := by simpa using inner
        omega
      rw [List.getElem?_eq_getElem (by omega : bound - 1 < pending.length),
        List.getElem?_eq_getElem inside.2]
      simp only
      split
      next differ =>
          refine ⟨by omega, by omega, ?_⟩
          intro left right _ before behind
          obtain ⟨_, rfl⟩ := List.getElem?_eq_some_iff.mp before
          obtain ⟨_, rfl⟩ := List.getElem?_eq_some_iff.mp behind
          exact fun same => differ same.symm
      next =>
          split
          next index found =>
              obtain ⟨within, passes, later⟩ := rposition?_eq_some found
              rw [List.length_take] at within
              refine ⟨by omega, by omega, ?_⟩
              intro left right _ before behind same
              rw [Nat.add_sub_cancel] at before
              have other := passes left (by rw [List.getElem?_take_of_lt (by omega), before])
              have own : right.eventId = pending[bound - 1].eventId := by
                by_cases last : index + 1 < bound
                · have failed := later (index + 1) right (by omega)
                    (by rw [List.getElem?_take_of_lt last, behind])
                  simpa using failed
                · have atLast : index = bound - 1 := by omega
                  subst atLast
                  obtain ⟨_, rfl⟩ := List.getElem?_eq_some_iff.mp before
                  exact absurd rfl (of_decide_eq_true other)
              exact absurd (same.trans own) (of_decide_eq_true other)
          next => exact ⟨by omega, by omega, isBoundary_zero _ _⟩

-----------------------------------------------------------------------------------------
-- Embeddings
-----------------------------------------------------------------------------------------

namespace IndexingRun

variable {Raw Vector : Type} {run : IndexingRun Raw Vector}

/-- The texts of the pending chunks, in batches. -/
def batches (run : IndexingRun Raw Vector) (pending : List SemanticChunkDocument)
    : List (List (List Char)) :=
  chunks (max (min run.batchSize run.quietBatchSize) 1) (pending.map (·.text))

/-- The texts are sent to the model as a batch: the deadline has not come by then, and a second try
follows one that has failed.
-/
structure Sends (run : IndexingRun Raw Vector) (deadline : Option Nat)
    (batches : List (List (List Char))) (batch : Nat) (retry : Bool) (texts : List (List Char))
    : Prop where
  isBatch : batches[batch]? = some texts
  inTime : ∀ earlier ≤ batch, semanticDeadlineReached deadline (run.batchNow earlier) = false
  again : retry = true → run.embedDocuments batch false texts = none

/-- The vector is what the model gave for the text in a batch that was sent. -/
def Embedded (run : IndexingRun Raw Vector) (sends : Nat → Bool → List (List Char) → Prop)
    (text : List Char) (vector : Vector)
    : Prop :=
  ∃ (batch : Nat) (retry : Bool) (texts : List (List Char)) (raw : List Raw) (i : Nat)
      (embedding : Raw),
    sends batch retry texts
    ∧ run.embed batch retry (texts.map semanticE5PassageText) = some raw
    ∧ raw.length = texts.length ∧ texts[i]? = some text ∧ raw[i]? = some embedding
    ∧ run.normalize embedding = some vector

/-- The vectors are those of the texts, one by one. -/
def EmbeddedAll (run : IndexingRun Raw Vector) (sends : Nat → Bool → List (List Char) → Prop)
    (texts : List (List Char)) (vectors : List Vector)
    : Prop :=
  ∀ (i : Nat) (vector : Vector), vectors[i]? = some vector →
    ∃ text, texts[i]? = some text ∧ run.Embedded sends text vector

variable {sends : Nat → Bool → List (List Char) → Prop}

theorem embedDocuments_embedded {batch : Nat} {retry : Bool} {texts : List (List Char)}
    {vectors : List Vector} (sent : sends batch retry texts)
    (done : run.embedDocuments batch retry texts = some vectors)
    : vectors.length = texts.length ∧ run.EmbeddedAll sends texts vectors := by
  unfold embedDocuments at done
  split at done
  next none =>
      obtain rfl := Option.some.inj done
      obtain rfl := List.isEmpty_iff.mp none
      exact ⟨rfl, fun i vector found => by simp at found⟩
  next =>
      obtain ⟨raw, given, valid⟩ := Option.bind_eq_some_iff.mp done
      unfold normalizeAndValidateEmbeddings at valid
      split at valid
      next => cases valid
      next counted =>
          have same := mapM_eq_some.mp valid
          have sizes := congrArg List.length same
          rw [List.length_map, List.length_map] at sizes
          have count : raw.length = texts.length := Decidable.not_not.mp counted
          refine ⟨sizes.symm.trans count, fun i vector found => ?_⟩
          have bound := (List.getElem?_eq_some_iff.mp found).1
          have atIndex := congrArg (·[i]?) same
          simp only [List.getElem?_map, found, Option.map_some, Option.map_eq_some_iff] at atIndex
          obtain ⟨embedding, here, normalized⟩ := atIndex
          have inTexts : i < texts.length := by omega
          exact ⟨texts[i], List.getElem?_eq_getElem inTexts, batch, retry, texts, raw, i, embedding,
            sent, given, count, List.getElem?_eq_getElem inTexts, here, normalized⟩

theorem embedDocumentsWithSharedRuntime_embedded {batch : Nat} {texts : List (List Char)}
    {vectors : List Vector} (sent : sends batch false texts)
    (sentAgain : run.embedDocuments batch false texts = none → sends batch true texts)
    (done : run.embedDocumentsWithSharedRuntime batch texts = some vectors)
    : vectors.length = texts.length ∧ run.EmbeddedAll sends texts vectors := by
  unfold embedDocumentsWithSharedRuntime at done
  split at done
  next embeddings first =>
      obtain rfl := Option.some.inj done
      exact embedDocuments_embedded sent first
  next failed => exact embedDocuments_embedded (sentAgain failed) done

/-- The vectors of the batches are those of the first texts. Witness: by induction on the batches that
are left.
-/
theorem embedBatches_embedded {deadline : Option Nat} {all left : List (List (List Char))}
    {batch : Nat} {vectors : List Vector} (rest : all.drop batch = left)
    (early
      : ∀ earlier < batch, semanticDeadlineReached deadline (run.batchNow earlier) = false)
    (done : run.embedBatches deadline batch left = some vectors)
    : run.EmbeddedAll (run.Sends deadline all) left.flatten vectors := by
  induction left generalizing batch vectors with
  | nil =>
      obtain rfl := Option.some.inj done
      exact fun i vector found => by simp at found
  | cons texts later ih =>
      rw [embedBatches] at done
      split at done
      next =>
          obtain rfl := Option.some.inj done
          exact fun i vector found => by simp at found
      next notReached =>
          obtain ⟨first, here, behind⟩ := Option.bind_eq_some_iff.mp done
          obtain ⟨others, there, rfl⟩ := Option.map_eq_some_iff.mp behind
          have isBatch : all[batch]? = some texts := by
            rw [← List.head?_drop, rest, List.head?_cons]
          have inTime
              : ∀ earlier ≤ batch,
                  semanticDeadlineReached deadline (run.batchNow earlier) = false := by
            intro earlier within
            rcases Nat.lt_or_eq_of_le within with before | rfl
            · exact early earlier before
            · exact Bool.eq_false_iff.mpr notReached
          have tail : all.drop (batch + 1) = later := by
            rw [← List.tail_drop, rest, List.tail_cons]
          have sent : run.Sends deadline all batch false texts := ⟨isBatch, inTime, by simp⟩
          obtain ⟨sizes, embedded⟩ := embedDocumentsWithSharedRuntime_embedded sent
            (fun failed => ⟨isBatch, inTime, fun _ => failed⟩) here
          intro i vector found
          rw [List.flatten_cons]
          by_cases inFirst : i < first.length
          · rw [List.getElem?_append_left inFirst] at found
            rw [List.getElem?_append_left (by omega)]
            exact embedded i vector found
          · rw [List.getElem?_append_right (by omega)] at found
            rw [List.getElem?_append_right (by omega), ← sizes]
            exact ih tail (fun earlier before => inTime earlier (by omega)) there _ vector found

end IndexingRun

end CtxRemote.Semantic
