import CtxRemote.Semantic.CompleteChunks
import CtxRemote.Semantic.SidecarProcesses
import Mathlib.Data.List.Forall2

/-! The chunks of an event in the sidecar: what a write replaces, and events that have all chunks of a
document or none.
-/

namespace CtxRemote.Semantic
open CtxRemote.Library
open CtxRemote.Store (Uuid)

-----------------------------------------------------------------------------------------
-- Rows
-----------------------------------------------------------------------------------------

namespace Sidecar

variable {Vector : Type}

/-- The chunks with their embeddings, in the order of their insertion. -/
def items (sidecar : Sidecar Vector) : List (SemanticChunk × Vector) :=
  sidecar.chunks.rows.map fun row => (row.chunk, row.embedding)

/-- The chunks of an event. -/
def eventItems (sidecar : Sidecar Vector) (eventId : Uuid) : List (SemanticChunk × Vector) :=
  sidecar.items.filter fun item => item.1.eventId = eventId

/-- The primary key of `event_embedding_chunks` takes them for one chunk. -/
def SameChunk (left right : SemanticChunk × Vector) : Prop :=
  left.1.eventId = right.1.eventId ∧ left.1.chunkIndex = right.1.chunkIndex

theorem mirrorRow_chunks {sidecar next : Sidecar Vector} {row : ChunkRow Vector}
    (mirrored : mirrorRow row sidecar = some next)
    : next.chunks = sidecar.chunks := by
  unfold mirrorRow at mirrored
  split at mirrored
  next =>
      split at mirrored
      next => cases mirrored
      next =>
          obtain rfl := Option.some.inj mirrored
          rfl
  next => cases mirrored

/-- An inserted chunk comes last, and is new. -/
theorem insertChunk_items {maintainSqliteVec0 : Bool} {sidecar next : Sidecar Vector}
    {item : SemanticChunk × Vector}
    (inserted : insertChunk maintainSqliteVec0 sidecar item = some next)
    : next.items = sidecar.items ++ [item] ∧ ∀ held ∈ sidecar.items, ¬SameChunk held item := by
  unfold insertChunk at inserted
  simp only at inserted
  split at inserted
  next => cases inserted
  next vacant =>
      have chunks
          : next.chunks = sidecar.chunks.put ⟨sidecar.nextRowid, item.1, item.2⟩ := by
        split at inserted
        next => exact mirrorRow_chunks inserted
        next =>
            obtain rfl := Option.some.inj inserted
            rfl
      constructor
      · unfold items
        rw [chunks, Keyed.rows_put_fresh sidecar.nextRowid_free, List.map_append]
        rfl
      · intro held member same
        obtain ⟨row, here, rfl⟩ := List.mem_map.mp member
        refine vacant (List.any_eq_true.mpr ⟨row, here, ?_⟩)
        simpa [SameChunk] using same

/-- Inserted chunks come last, in their order, and differ from each other and from the ones before.
Witness: by induction on the chunks.
-/
theorem insertChunks_items {maintainSqliteVec0 : Bool} {sidecar next : Sidecar Vector}
    {added : List (SemanticChunk × Vector)}
    (inserted : added.foldlM (insertChunk maintainSqliteVec0) sidecar = some next)
    : next.items = sidecar.items ++ added
      ∧ (∀ held ∈ sidecar.items, ∀ item ∈ added, ¬SameChunk held item)
      ∧ added.Pairwise fun left right => ¬SameChunk left right := by
  induction added generalizing sidecar with
  | nil =>
      obtain rfl := Option.some.inj inserted
      exact ⟨by simp, by simp, .nil⟩
  | cons item rest ih =>
      rw [List.foldlM_cons] at inserted
      obtain ⟨middle, first, later⟩ := Option.bind_eq_some_iff.mp inserted
      obtain ⟨place, fresh⟩ := insertChunk_items first
      obtain ⟨places, freshRest, apart⟩ := ih later
      rw [place] at places freshRest
      refine ⟨by rw [places, List.append_assoc, List.singleton_append], ?_, ?_⟩
      · intro held member other inside
        rcases List.mem_cons.mp inside with rfl | behind
        · exact fresh held member
        · exact freshRest held (List.mem_append_left _ member) other behind
      · refine List.pairwise_cons.mpr ⟨fun other behind => ?_, apart⟩
        exact freshRest item (by simp) other behind

theorem deleteEvents_items (maintainSqliteVec0 : Bool) (eventIds : List Uuid)
    (sidecar : Sidecar Vector)
    : (sidecar.deleteEvents maintainSqliteVec0 eventIds).items
      = sidecar.items.filter fun item => item.1.eventId ∉ eventIds := by
  unfold items
  rw [List.filter_map]
  rfl

/-- A write replaces the chunks of its events by the new ones, which have different keys. -/
theorem writeChunks_items {maintainSqliteVec0 : Bool} {eventIds : List Uuid}
    {sidecar next : Sidecar Vector} {added : List (SemanticChunk × Vector)}
    (written : writeChunks maintainSqliteVec0 eventIds added sidecar = some next)
    : next.items = (sidecar.items.filter fun item => item.1.eventId ∉ eventIds) ++ added
      ∧ added.Pairwise fun left right => ¬SameChunk left right := by
  unfold writeChunks at written
  split at written
  next => cases written
  next =>
      obtain ⟨places, -, apart⟩ := insertChunks_items written
      rw [deleteEvents_items] at places
      exact ⟨places, apart⟩

/-- A write leaves the chunks of other events. -/
theorem writeChunks_eventItems {maintainSqliteVec0 : Bool} {eventIds : List Uuid}
    {sidecar next : Sidecar Vector} {added : List (SemanticChunk × Vector)}
    (written : writeChunks maintainSqliteVec0 eventIds added sidecar = some next)
    (eventId : Uuid)
    : next.eventItems eventId
      = (if eventId ∈ eventIds then [] else sidecar.eventItems eventId)
        ++ added.filter fun item => item.1.eventId = eventId := by
  unfold eventItems
  rw [(writeChunks_items written).1, List.filter_append, List.filter_filter]
  congr 1
  split
  next inside =>
      rw [List.filter_eq_nil_iff]
      intro item _ passes
      simp only [Bool.and_eq_true, decide_eq_true_eq] at passes
      exact passes.2 (passes.1 ▸ inside)
  next outside =>
      refine List.filter_congr fun item _ => ?_
      by_cases here : item.1.eventId = eventId
      · simp [here, outside]
      · simp [here]

end Sidecar

-----------------------------------------------------------------------------------------
-- Whole events
-----------------------------------------------------------------------------------------

section Documents

variable {sha256 : List Char → String}

/-- The primary key takes two chunks of a document list for one. -/
def SemanticChunkDocument.SameKey (left right : SemanticChunkDocument) : Prop :=
  left.eventId = right.eventId ∧ left.chunkIndex = right.chunkIndex

/-- Among chunks with different keys, those of an event are the chunks of one document. Witness: by
induction on the documents, since the first chunks of two documents of an event share a key.
-/
theorem filter_flatMap_chunks {documents : List EventEmbeddingDocument}
    (apart
      : (documents.flatMap (·.chunks sha256)).Pairwise fun left right =>
          ¬SemanticChunkDocument.SameKey left right)
    {document : EventEmbeddingDocument} (member : document ∈ documents)
    (some : document.chunks sha256 ≠ [])
    : (documents.flatMap (·.chunks sha256)).filter (fun chunk => chunk.eventId = document.eventId)
      = document.chunks sha256 := by
  obtain ⟨first, firstMember, firstIndex⟩ := document.exists_first some
  have firstEvent := (EventEmbeddingDocument.of_mem_chunks firstMember).1
  induction documents with
  | nil => cases member
  | cons head rest ih =>
      rw [List.flatMap_cons] at apart ⊢
      obtain ⟨_, apartRest, across⟩ := List.pairwise_append.mp apart
      rw [List.filter_append]
      rcases List.mem_cons.mp member with rfl | later
      · have own : (document.chunks sha256).filter (fun chunk => chunk.eventId = document.eventId)
            = document.chunks sha256 :=
          List.filter_eq_self.mpr fun chunk inside =>
            decide_eq_true (EventEmbeddingDocument.of_mem_chunks inside).1
        have others
            : (rest.flatMap (·.chunks sha256)).filter
                (fun chunk => chunk.eventId = document.eventId) = [] := by
          rw [List.filter_eq_nil_iff]
          intro chunk inside same
          obtain ⟨other, otherMember, otherChunk⟩ := List.mem_flatMap.mp inside
          obtain ⟨start, startMember, startIndex⟩ :=
            other.exists_first (List.ne_nil_of_mem otherChunk)
          refine across first firstMember start
            (List.mem_flatMap.mpr ⟨other, otherMember, startMember⟩)
            ⟨?_, firstIndex.trans startIndex.symm⟩
          rw [firstEvent, (EventEmbeddingDocument.of_mem_chunks startMember).1,
            ← (EventEmbeddingDocument.of_mem_chunks otherChunk).1, of_decide_eq_true same]
        rw [own, others, List.append_nil]
      · have foreign
            : (head.chunks sha256).filter (fun chunk => chunk.eventId = document.eventId) = [] := by
          rw [List.filter_eq_nil_iff]
          intro chunk inside same
          obtain ⟨start, startMember, startIndex⟩ := head.exists_first (List.ne_nil_of_mem inside)
          refine across start startMember first
            (List.mem_flatMap.mpr ⟨document, later, firstMember⟩)
            ⟨?_, startIndex.trans firstIndex.symm⟩
          rw [firstEvent, (EventEmbeddingDocument.of_mem_chunks startMember).1,
            ← (EventEmbeddingDocument.of_mem_chunks inside).1, of_decide_eq_true same]
        rw [foreign, List.nil_append]
        exact ih apartRest later

end Documents

namespace Sidecar

variable {Raw Vector : Type} (sha256 : List Char → String)

/-- The stored chunks of an event are those of the document, each with a vector that this call has
made of its text.
-/
def HoldsEmbedded (run : IndexingRun Raw Vector) (sends : Nat → Bool → List (List Char) → Prop)
    (sidecar : Sidecar Vector) (document : EventEmbeddingDocument)
    : Prop :=
  List.Forall₂ (fun chunk item => item.1 = chunk.chunk ∧ run.Embedded sends chunk.text item.2)
    (document.chunks sha256) (sidecar.eventItems document.eventId)

/-- The stored chunks of the event are those of a document. -/
def HoldsChunks (sidecar : Sidecar Vector) (document : EventEmbeddingDocument) : Prop :=
  (sidecar.eventItems document.eventId).map (·.1)
    = (document.chunks sha256).map SemanticChunkDocument.chunk

/-- All chunks of the document's current hash are stored. -/
def HoldsCurrent (sidecar : Sidecar Vector) (document : EventEmbeddingDocument) : Prop :=
  ∃ stored : EventEmbeddingDocument,
    stored.eventId = document.eventId ∧ stored.textHash sha256 = document.textHash sha256
    ∧ sidecar.HoldsChunks sha256 stored

/-- No event has a part of its chunks. -/
def Whole (sidecar : Sidecar Vector) : Prop :=
  ∀ eventId, sidecar.eventItems eventId = []
    ∨ ∃ document : EventEmbeddingDocument,
        document.eventId = eventId ∧ sidecar.HoldsChunks sha256 document

/-- The hashes of the map are those of stored chunks. -/
def StoresHashes (sidecar : Sidecar Vector) (existingHashes : Uuid → Option String) : Prop :=
  ∀ eventId hash, existingHashes eventId = some hash →
    ∃ item ∈ sidecar.eventItems eventId, item.1.sourceTextHash = hash

variable {sha256}

theorem HoldsEmbedded.holdsChunks {run : IndexingRun Raw Vector}
    {sends : Nat → Bool → List (List Char) → Prop} {sidecar : Sidecar Vector}
    {document : EventEmbeddingDocument} (held : sidecar.HoldsEmbedded sha256 run sends document)
    : sidecar.HoldsChunks sha256 document := by
  unfold HoldsChunks
  rw [← List.forall₂_eq_eq_eq, List.forall₂_map_left_iff, List.forall₂_map_right_iff]
  exact List.Forall₂.flip (held.imp fun _ _ both => both.1)

/-- A document whose hash is stored has all chunks of it stored. -/
theorem Whole.holdsCurrent {sidecar : Sidecar Vector} (whole : sidecar.Whole sha256)
    {existingHashes : Uuid → Option String} (stored : sidecar.StoresHashes existingHashes)
    {document : EventEmbeddingDocument}
    (same : document.unchanged sha256 existingHashes = true)
    : sidecar.HoldsCurrent sha256 document := by
  obtain ⟨item, member, hash⟩ := stored _ _ (of_decide_eq_true same)
  rcases whole document.eventId with none | ⟨held, event, chunks⟩
  · rw [none] at member
    cases member
  · refine ⟨held, event, ?_, chunks⟩
    have inside : item.1 ∈ (held.chunks sha256).map SemanticChunkDocument.chunk := by
      rw [← chunks, event]
      exact List.mem_map_of_mem member
    obtain ⟨chunk, chunkMember, isChunk⟩ := List.mem_map.mp inside
    rw [← hash, ← isChunk, ← (EventEmbeddingDocument.of_mem_chunks chunkMember).2]
    rfl

/-- Chunks that other events keep, and documents that are stored, leave whole events. -/
theorem Whole.of_stored (run : IndexingRun Raw Vector)
    (sends : Nat → Bool → List (List Char) → Prop) {sidecar next : Sidecar Vector}
    (whole : sidecar.Whole sha256)
    (stores
      : ∀ eventId, next.eventItems eventId = sidecar.eventItems eventId
          ∨ ∃ document : EventEmbeddingDocument,
              document.eventId = eventId ∧ next.HoldsEmbedded sha256 run sends document)
    : next.Whole sha256 := by
  intro eventId
  rcases stores eventId with kept | ⟨document, event, held⟩
  · rcases whole eventId with none | ⟨held, event, chunks⟩
    · exact .inl (kept.trans none)
    · refine .inr ⟨held, event, ?_⟩
      unfold HoldsChunks
      rw [event, kept, ← event]
      exact chunks
  · exact .inr ⟨document, event, held.holdsChunks⟩

end Sidecar

end CtxRemote.Semantic
