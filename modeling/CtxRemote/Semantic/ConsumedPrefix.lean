import CtxRemote.Semantic.WholeEvents

/-! What `index_semantic_documents` leaves: no event has a part of its chunks, and the consumed events
are a prefix of the documents whose current chunks are stored.
-/

namespace CtxRemote.Semantic
open CtxRemote.Library
open CtxRemote.Store (Uuid)

-----------------------------------------------------------------------------------------
-- Stored embeddings
-----------------------------------------------------------------------------------------

namespace IndexingRun

variable {Raw Vector : Type} {run : IndexingRun Raw Vector} {sha256 : List Char → String}
  {sends : Nat → Bool → List (List Char) → Prop}

/-- The items of a call replace the chunks of their events, or an error leaves all chunks. -/
theorem upsertChunkEmbeddings_eventItems {items : List (SemanticChunkDocument × Vector)}
    {sidecar next : Sidecar Vector} {succeeded : Bool}
    (upserted : run.upsertChunkEmbeddings items sidecar = (next, succeeded))
    : (succeeded = false ∧ next = sidecar)
      ∨ (items.Pairwise fun left right => ¬SemanticChunkDocument.SameKey left.1 right.1)
        ∧ ∀ eventId, next.eventItems eventId
            = (if eventId ∈ items.map (·.1.eventId) then [] else sidecar.eventItems eventId)
              ++ (items.filter fun item => item.1.eventId = eventId).map fun item =>
                  (item.1.chunk, item.2) := by
  unfold upsertChunkEmbeddings at upserted
  split at upserted
  next none =>
      obtain rfl := List.isEmpty_iff.mp none
      obtain ⟨rfl, -⟩ := Prod.mk.inj upserted
      exact .inr ⟨.nil, fun eventId => by simp⟩
  next =>
      simp only at upserted
      split at upserted
      next =>
          obtain ⟨rfl, rfl⟩ := Prod.mk.inj upserted
          exact .inl ⟨rfl, rfl⟩
      next written done =>
          have apart := (Sidecar.writeChunks_items done).2
          rw [List.pairwise_map] at apart
          have replaced (eventId : Uuid) := Sidecar.writeChunks_eventItems done eventId
          simp only [List.mem_dedup, List.filter_map] at replaced
          split at upserted
          next =>
              obtain ⟨rfl, rfl⟩ := Prod.mk.inj upserted
              exact .inl ⟨rfl, rfl⟩
          split at upserted
          next =>
              obtain ⟨rfl, -⟩ := Prod.mk.inj upserted
              exact .inr ⟨apart, replaced⟩
          next =>
              obtain ⟨rfl, -⟩ := Prod.mk.inj upserted
              exact .inr ⟨apart, replaced⟩

/-- Whole documents, embedded and written, are stored whole, and other events keep their chunks. -/
theorem upsertChunkEmbeddings_holdsEmbedded {documents : List EventEmbeddingDocument}
    {chunks : List SemanticChunkDocument} {vectors : List Vector} {sidecar next : Sidecar Vector}
    {succeeded : Bool} (whole : chunks = documents.flatMap (·.chunks sha256))
    (embedded : List.Forall₂ (fun chunk vector => run.Embedded sends chunk.text vector) chunks vectors)
    (upserted : run.upsertChunkEmbeddings (chunks.zip vectors) sidecar = (next, succeeded))
    : (succeeded = false ∧ next = sidecar)
      ∨ (∀ eventId ∉ chunks.map (·.eventId), next.eventItems eventId = sidecar.eventItems eventId)
        ∧ ∀ eventId ∈ chunks.map (·.eventId), ∃ document ∈ documents,
            document.eventId = eventId ∧ next.HoldsEmbedded sha256 run sends document := by
  have firsts : (chunks.zip vectors).map (·.1) = chunks :=
    List.map_fst_zip embedded.length_eq.le
  have events : (chunks.zip vectors).map (·.1.eventId) = chunks.map (·.eventId) := by
    conv => rhs; rw [← firsts, List.map_map]
    rfl
  rcases upsertChunkEmbeddings_eventItems upserted with failed | ⟨apart, replaced⟩
  · exact .inl failed
  refine .inr ⟨fun eventId outside => ?_, fun eventId member => ?_⟩
  · have none : (chunks.zip vectors).filter (fun item => item.1.eventId = eventId) = [] := by
      rw [List.filter_eq_nil_iff]
      intro item zipped same
      refine outside ?_
      rw [← events, ← of_decide_eq_true same]
      exact List.mem_map_of_mem (f := fun item => item.1.eventId) zipped
    rw [replaced, events, if_neg outside, none, List.map_nil, List.append_nil]
  · obtain ⟨chunk, chunkMember, rfl⟩ := List.mem_map.mp member
    obtain ⟨document, taken, inDocument⟩ := List.mem_flatMap.mp (whole ▸ chunkMember)
    have event := (EventEmbeddingDocument.of_mem_chunks inDocument).1
    refine ⟨document, taken, event.symm, ?_⟩
    have distinct : chunks.Pairwise fun left right =>
        ¬SemanticChunkDocument.SameKey left right := by
      rw [← firsts, List.pairwise_map]
      exact apart
    have ofEvent := filter_flatMap_chunks (whole ▸ distinct) taken (List.ne_nil_of_mem inDocument)
    rw [← whole] at ofEvent
    unfold Sidecar.HoldsEmbedded
    rw [← ofEvent, replaced, events, if_pos (event ▸ member), List.nil_append,
      List.forall₂_map_right_iff]
    have zipped := List.rel_filter (p := fun chunk => decide (chunk.eventId = document.eventId))
      (q := fun item => decide (item.1.eventId = document.eventId))
      (fun _ _ both => by simp [both.1]) (forall₂_zip_right embedded)
    exact zipped.imp fun _ _ both => ⟨congrArg SemanticChunkDocument.chunk both.1, both.2⟩

/-- The first vectors are those of the first texts. -/
theorem EmbeddedAll.take {pending : List SemanticChunkDocument} {embeddings : List Vector}
    (embedded : run.EmbeddedAll sends (pending.map (·.text)) embeddings) {size : Nat}
    (within : size ≤ embeddings.length) (inside : size ≤ pending.length)
    : List.Forall₂ (fun chunk vector => run.Embedded sends chunk.text vector)
        (pending.take size) (embeddings.take size) := by
  rw [List.forall₂_iff_get]
  refine ⟨by rw [List.length_take, List.length_take]; omega, fun i here there => ?_⟩
  rw [List.length_take] at here
  obtain ⟨text, isText, made⟩ :=
    embedded i embeddings[i] (List.getElem?_eq_getElem (by omega))
  rw [List.getElem?_map, List.getElem?_eq_getElem (by omega), Option.map_some,
    Option.some.injEq] at isText
  rw [List.get_eq_getElem, List.get_eq_getElem, List.getElem_take, List.getElem_take, isText]
  exact made

/-- The embeddings of a call store whole documents, and the events that it takes for completed are
those of stored documents. Witness: the complete prefix of the pending chunks consists of the chunks
of some first documents.
-/
theorem storeEmbeddings_spec {sidecar : Sidecar Vector} {existingHashes : Uuid → Option String}
    {selected : SelectedDocuments} {documents : List EventEmbeddingDocument}
    {embeddings : List Vector} (pending : selected.pending = documents.flatMap (·.chunks sha256))
    (embedded : run.EmbeddedAll sends (selected.pending.map (·.text)) embeddings)
    {left : IndexedDocuments Vector}
    (stored : run.storeEmbeddings sidecar existingHashes selected embeddings = left)
    : (∀ eventId, left.sidecar.eventItems eventId = sidecar.eventItems eventId
        ∨ ∃ document ∈ documents, document.eventId = eventId
            ∧ left.sidecar.HoldsEmbedded sha256 run sends document)
      ∧ ∀ outcome, left.outcome = some outcome →
          ∃ completedEventIds : List Uuid,
            outcome.consumedEventIds
              = semanticContiguousConsumedEventIds selected.consideredEventIds
                  (selected.unchangedEventIds ++ completedEventIds)
            ∧ ∀ eventId ∈ completedEventIds, ∃ document ∈ documents, document.eventId = eventId
                ∧ left.sidecar.HoldsEmbedded sha256 run sends document := by
  obtain ⟨within, inside, boundary⟩ :=
    semanticCompleteEmbeddingPrefix_spec selected.pending embeddings.length
  unfold storeEmbeddings at stored
  simp only at stored
  generalize semanticCompleteEmbeddingPrefix selected.pending embeddings.length = size
    at within inside boundary stored
  rw [pending] at boundary
  obtain ⟨count, front⟩ := take_flatMap_of_isBoundary
    (fun document chunk (member : chunk ∈ document.chunks sha256) =>
      (EventEmbeddingDocument.of_mem_chunks member).1)
    documents boundary
  rw [← pending] at front
  have kept := embedded.take within inside
  generalize selected.pending.take size = chunks at front kept stored
  generalize embeddings.take size = vectors at kept stored
  have among {eventId : Uuid} {next : Sidecar Vector}
      (found
        : ∃ document ∈ documents.take count, document.eventId = eventId
            ∧ next.HoldsEmbedded sha256 run sends document)
      : ∃ document ∈ documents, document.eventId = eventId
          ∧ next.HoldsEmbedded sha256 run sends document := by
    obtain ⟨document, taken, rest⟩ := found
    exact ⟨document, List.mem_of_mem_take taken, rest⟩
  cases upserted : run.upsertChunkEmbeddings (chunks.zip vectors) sidecar with
  | mk next succeeded =>
      have holds := upsertChunkEmbeddings_holdsEmbedded front kept upserted
      have each (eventId : Uuid)
          : next.eventItems eventId = sidecar.eventItems eventId
            ∨ ∃ document ∈ documents, document.eventId = eventId
                ∧ next.HoldsEmbedded sha256 run sends document := by
        rcases holds with ⟨-, rfl⟩ | ⟨others, own⟩
        · exact .inl rfl
        by_cases member : eventId ∈ chunks.map (·.eventId)
        · exact .inr (among (own eventId member))
        · exact .inl (others eventId member)
      rw [upserted] at stored
      cases succeeded with
      | false =>
          subst stored
          exact ⟨each, fun outcome none => by cases none⟩
      | true =>
          subst stored
          refine ⟨each, fun outcome given => ?_⟩
          obtain rfl := Option.some.inj given
          refine ⟨_, rfl, fun eventId member => ?_⟩
          rcases holds with ⟨failed, -⟩ | ⟨-, own⟩
          · cases failed
          · exact among (own eventId ((List.destutter_sublist _ _).subset member))

/-- The map after the loop over the items: the hash of an item, or what it held before. -/
theorem updatedHashes_eq_some {items : List (SemanticChunkDocument × Vector)}
    {existingHashes : Uuid → Option String} {eventId : Uuid} {hash : String}
    (held
      : items.foldl (fun hashes item => Function.update hashes item.1.eventId item.1.sourceTextHash)
          existingHashes eventId = some hash)
    : (∃ item ∈ items, item.1.eventId = eventId ∧ item.1.sourceTextHash = hash)
      ∨ eventId ∉ items.map (·.1.eventId) ∧ existingHashes eventId = some hash := by
  induction items generalizing existingHashes with
  | nil => exact .inr ⟨by simp, held⟩
  | cons item rest ih =>
      rcases ih held with ⟨found, member, event, same⟩ | ⟨outside, before⟩
      · exact .inl ⟨found, List.mem_cons_of_mem _ member, event, same⟩
      change Function.update existingHashes item.1.eventId _ eventId = some hash at before
      by_cases here : item.1.eventId = eventId
      · subst here
        rw [Function.update_self, Option.some.injEq] at before
        exact .inl ⟨item, List.mem_cons_self, rfl, before⟩
      · rw [Function.update_of_ne (Ne.symm here)] at before
        refine .inr ⟨?_, before⟩
        rw [List.map_cons, List.mem_cons, not_or]
        exact ⟨Ne.symm here, outside⟩

/-- Where the embeddings are stored, the map holds hashes of stored chunks again. -/
theorem storeEmbeddings_storesHashes {sidecar : Sidecar Vector}
    {existingHashes : Uuid → Option String} (hashes : sidecar.StoresHashes existingHashes)
    {selected : SelectedDocuments} {embeddings : List Vector} {left : IndexedDocuments Vector}
    (stored : run.storeEmbeddings sidecar existingHashes selected embeddings = left)
    (ends : left.outcome.isSome)
    : left.sidecar.StoresHashes left.existingHashes := by
  unfold storeEmbeddings at stored
  simp only at stored
  generalize (selected.pending.take _).zip (embeddings.take _) = items at stored
  cases upserted : run.upsertChunkEmbeddings items sidecar with
  | mk next succeeded =>
      rw [upserted] at stored
      cases succeeded with
      | false =>
          subst stored
          cases ends
      | true =>
          subst stored
          rcases upsertChunkEmbeddings_eventItems upserted with ⟨failed, -⟩ | ⟨-, replaced⟩
          · cases failed
          intro eventId hash held
          rw [replaced]
          rcases updatedHashes_eq_some held with ⟨item, member, event, same⟩ | ⟨outside, before⟩
          · refine ⟨_, List.mem_append_right _ (List.mem_map.mpr ⟨item, ?_, rfl⟩), same⟩
            exact List.mem_filter.mpr ⟨member, decide_eq_true event⟩
          · rw [if_neg outside]
            obtain ⟨item, member, same⟩ := hashes eventId hash before
            exact ⟨item, List.mem_append_left _ member, same⟩

/-- The texts are a batch that the call sends to the model. -/
def CallSends (run : IndexingRun Raw Vector) (sha256 : List Char → String)
    (existingHashes : Uuid → Option String) (documents : List EventEmbeddingDocument) (limit : Nat)
    (deadline : Option Nat)
    : Nat → Bool → List (List Char) → Prop :=
  run.Sends deadline
    (run.batches
      (selectDocuments sha256 existingHashes
        (semanticDeadlineChunkLimit limit deadline run.limitNow) ⟨[], [], []⟩ documents).pending)

/-- Every ending of a call leaves the sidecar as it was or stores embeddings. -/
theorem indexSemanticDocuments_cases {sidecar : Sidecar Vector}
    {existingHashes : Uuid → Option String} {documents : List EventEmbeddingDocument} {limit : Nat}
    {deadline : Option Nat} {left : IndexedDocuments Vector}
    (indexed
      : run.indexSemanticDocuments sha256 sidecar existingHashes documents limit deadline = left)
    {selected : SelectedDocuments}
    (select
      : selectDocuments sha256 existingHashes
          (semanticDeadlineChunkLimit limit deadline run.limitNow) ⟨[], [], []⟩ documents = selected)
    : (left.sidecar = sidecar ∧ left.existingHashes = existingHashes
        ∧ (left.outcome = none
          ∨ left.outcome = some ⟨0, []⟩
          ∨ (selected.pending = [] ∧ left.outcome = some ⟨0, selected.consideredEventIds⟩)
          ∨ left.outcome
              = some ⟨0, semanticContiguousConsumedEventIds selected.consideredEventIds
                  selected.unchangedEventIds⟩))
      ∨ ∃ embeddings,
          run.EmbeddedAll (run.CallSends sha256 existingHashes documents limit deadline)
            (selected.pending.map (·.text)) embeddings
          ∧ run.storeEmbeddings sidecar existingHashes selected embeddings = left := by
  unfold indexSemanticDocuments at indexed
  simp only [select] at indexed
  split at indexed
  next =>
      subst indexed
      exact .inl ⟨rfl, rfl, .inr (.inl rfl)⟩
  split at indexed
  next empty =>
      subst indexed
      exact .inl ⟨rfl, rfl, .inr (.inr (.inl ⟨List.isEmpty_iff.mp empty, rfl⟩))⟩
  split at indexed
  next =>
      subst indexed
      exact .inl ⟨rfl, rfl, .inl rfl⟩
  split at indexed
  next =>
      subst indexed
      exact .inl ⟨rfl, rfl, .inr (.inr (.inr rfl))⟩
  split at indexed
  next =>
      subst indexed
      exact .inl ⟨rfl, rfl, .inl rfl⟩
  split at indexed
  next =>
      subst indexed
      exact .inl ⟨rfl, rfl, .inl rfl⟩
  next embeddings done =>
      have embedded := embedBatches_embedded (List.drop_zero ..) (by simp) done
      rw [chunks_flatten] at embedded
      refine .inr ⟨embeddings, ?_, indexed⟩
      rw [CallSends, select]
      exact embedded

end IndexingRun

-----------------------------------------------------------------------------------------
-- Calls
-----------------------------------------------------------------------------------------

section Calls

variable {Raw Vector : Type} {sha256 : List Char → String}

/-- A call stores chunks only for events all of whose chunks it has embedded. -/
theorem indexSemanticDocuments_stores (run : IndexingRun Raw Vector) (sidecar : Sidecar Vector)
    (existingHashes : Uuid → Option String) (documents : List EventEmbeddingDocument) (limit : Nat)
    (deadline : Option Nat) (eventId : Uuid)
    : let left := run.indexSemanticDocuments sha256 sidecar existingHashes documents limit deadline
      left.sidecar.eventItems eventId = sidecar.eventItems eventId
      ∨ ∃ document ∈ documents, document.eventId = eventId
          ∧ left.sidecar.HoldsEmbedded sha256 run
              (run.CallSends sha256 existingHashes documents limit deadline) document := by
  obtain ⟨count, select⟩ := selectDocuments_eq sha256 existingHashes
    (semanticDeadlineChunkLimit limit deadline run.limitNow) ⟨[], [], []⟩ documents
  have selected := select _ rfl
  rcases run.indexSemanticDocuments_cases rfl selected with ⟨kept, -⟩ | ⟨embeddings, embedded, stored⟩
  · exact .inl (congrArg (·.eventItems eventId) kept)
  · rcases (IndexingRun.storeEmbeddings_spec (List.nil_append _) embedded stored).1 eventId with
      same | ⟨document, member, event, held⟩
    · exact .inl same
    · exact .inr ⟨document, List.mem_of_mem_take (List.mem_of_mem_filter member), event, held⟩

/-- A call consumes first documents of its list. The event of each of them has the chunks of its
current document stored, or that one has none.
-/
theorem indexSemanticDocuments_consumes {run : IndexingRun Raw Vector} {sidecar : Sidecar Vector}
    (whole : sidecar.Whole sha256) {existingHashes : Uuid → Option String}
    (hashes : sidecar.StoresHashes existingHashes) {documents : List EventEmbeddingDocument}
    {limit : Nat} {deadline : Option Nat} {left : IndexedDocuments Vector}
    (indexed
      : run.indexSemanticDocuments sha256 sidecar existingHashes documents limit deadline = left)
    {outcome : SemanticIndexOutcome} (ends : left.outcome = some outcome)
    : ∃ count, outcome.consumedEventIds = (documents.take count).map (·.eventId)
        ∧ ∀ document ∈ documents.take count, ∃ current ∈ documents,
            current.eventId = document.eventId
            ∧ (current.chunks sha256 = [] ∨ left.sidecar.HoldsCurrent sha256 current) := by
  obtain ⟨count, select⟩ := selectDocuments_eq sha256 existingHashes
    (semanticDeadlineChunkLimit limit deadline run.limitNow) ⟨[], [], []⟩ documents
  have selected := select _ rfl
  simp only [List.nil_append] at selected
  -- what `take_while` leaves of the considered documents
  have contiguous (completedEventIds : List Uuid)
      : ∃ size,
          semanticContiguousConsumedEventIds ((documents.take count).map (·.eventId))
              completedEventIds
            = (documents.take size).map (·.eventId)
          ∧ ∀ document ∈ documents.take size, document.eventId ∈ completedEventIds := by
    have before := List.takeWhile_prefix
      (fun eventId => decide (eventId ∈ completedEventIds))
      (l := (documents.take count).map (·.eventId))
    have front := List.prefix_iff_eq_take.mp before
    rw [← List.map_take, List.take_take] at front
    refine ⟨_, front, fun document member => ?_⟩
    have inside := List.mem_map_of_mem (f := (·.eventId)) member
    rw [← front] at inside
    exact of_decide_eq_true
      (List.mem_takeWhile_imp (p := fun eventId => decide (eventId ∈ completedEventIds)) inside)
  have unchanged {eventId : Uuid}
      (member
        : eventId ∈ ((documents.take count).filter (·.unchanged sha256 existingHashes)).map
            (·.eventId))
      : ∃ current ∈ documents, current.eventId = eventId
          ∧ current.unchanged sha256 existingHashes = true := by
    obtain ⟨current, inside, event⟩ := List.mem_map.mp member
    obtain ⟨taken, same⟩ := List.mem_filter.mp inside
    exact ⟨current, List.mem_of_mem_take taken, event, same⟩
  rcases run.indexSemanticDocuments_cases indexed selected with
    ⟨kept, -, none | none | ⟨empty, all⟩ | some⟩ | ⟨embeddings, embedded, stored⟩
  · rw [none] at ends
    cases ends
  · obtain rfl := Option.some.inj (none.symm.trans ends)
    exact ⟨0, rfl, by simp⟩
  · obtain rfl := Option.some.inj (all.symm.trans ends)
    refine ⟨count, rfl, fun document taken => ⟨document, List.mem_of_mem_take taken, rfl, ?_⟩⟩
    cases same : document.unchanged sha256 existingHashes with
    | true =>
        rw [kept]
        exact .inr (whole.holdsCurrent hashes same)
    | false =>
        refine .inl (List.flatMap_eq_nil_iff.mp empty document ?_)
        rw [List.mem_filter, same]
        exact ⟨taken, rfl⟩
  · obtain rfl := Option.some.inj (some.symm.trans ends)
    obtain ⟨size, front, consumed⟩ := contiguous _
    refine ⟨size, front, fun document taken => ?_⟩
    obtain ⟨current, member, event, same⟩ := unchanged (consumed document taken)
    rw [kept]
    exact ⟨current, member, event, .inr (whole.holdsCurrent hashes same)⟩
  · obtain ⟨stores, completes⟩ := IndexingRun.storeEmbeddings_spec rfl embedded stored
    obtain ⟨completedEventIds, front, completed⟩ := completes outcome ends
    obtain ⟨size, consumes, consumed⟩ := contiguous _
    refine ⟨size, front.trans consumes, fun document taken => ?_⟩
    have fresh {eventId : Uuid}
        (found
          : ∃ current ∈ (documents.take count).filter fun document =>
              !document.unchanged sha256 existingHashes,
              current.eventId = eventId
              ∧ left.sidecar.HoldsEmbedded sha256 run
                  (run.CallSends sha256 existingHashes documents limit deadline) current)
        : ∃ current ∈ documents, current.eventId = eventId
            ∧ (current.chunks sha256 = [] ∨ left.sidecar.HoldsCurrent sha256 current) := by
      obtain ⟨current, member, event, held⟩ := found
      exact ⟨current, List.mem_of_mem_take (List.mem_of_mem_filter member), event,
        .inr ⟨current, rfl, rfl, held.holdsChunks⟩⟩
    rcases List.mem_append.mp (consumed document taken) with old | new
    · obtain ⟨current, member, event, same⟩ := unchanged old
      rcases stores document.eventId with kept | replaced
      · obtain ⟨held, sameEvent, sameHash, chunks⟩ := whole.holdsCurrent hashes same
        refine ⟨current, member, event, .inr ⟨held, sameEvent, sameHash, ?_⟩⟩
        unfold Sidecar.HoldsChunks at chunks ⊢
        rw [sameEvent, event] at chunks ⊢
        rw [kept]
        exact chunks
      · exact fresh replaced
    · exact fresh (completed _ new)

/-- A call that succeeds leaves a map of stored hashes, for the next page of documents. -/
theorem indexSemanticDocuments_storesHashes {run : IndexingRun Raw Vector} {sidecar : Sidecar Vector}
    {existingHashes : Uuid → Option String} (hashes : sidecar.StoresHashes existingHashes)
    {documents : List EventEmbeddingDocument} {limit : Nat} {deadline : Option Nat}
    {left : IndexedDocuments Vector}
    (indexed
      : run.indexSemanticDocuments sha256 sidecar existingHashes documents limit deadline = left)
    (ends : left.outcome.isSome)
    : left.sidecar.StoresHashes left.existingHashes := by
  rcases run.indexSemanticDocuments_cases indexed rfl with ⟨kept, same, -⟩ | ⟨_, -, stored⟩
  · rw [kept, same]
    exact hashes
  · exact IndexingRun.storeEmbeddings_storesHashes hashes stored ends

/-- The sidecars that calls leave, from the first on: `index_semantic_documents` with any arguments,
the deletion of events, the removal of the table by the migration of its schema, and what leaves the
chunks as they are.
-/
inductive SidecarHistory (Raw : Type) (sha256 : List Char → String) : Sidecar Vector → Prop
  | empty : SidecarHistory Raw sha256 Sidecar.empty
  | index {sidecar : Sidecar Vector} (history : SidecarHistory Raw sha256 sidecar)
      (run : IndexingRun Raw Vector) (existingHashes : Uuid → Option String)
      (documents : List EventEmbeddingDocument) (limit : Nat) (deadline : Option Nat)
      : SidecarHistory Raw sha256
          (run.indexSemanticDocuments sha256 sidecar existingHashes documents limit deadline).sidecar
  | delete {sidecar next : Sidecar Vector} (history : SidecarHistory Raw sha256 sidecar)
      {maintainSqliteVec0 : Bool} {eventIds : List Uuid}
      (deleted : Sidecar.writeChunks maintainSqliteVec0 eventIds [] sidecar = some next)
      : SidecarHistory Raw sha256 next
  | drop {sidecar : Sidecar Vector} (history : SidecarHistory Raw sha256 sidecar)
      : SidecarHistory Raw sha256 { sidecar with chunks := Keyed.empty }
  | other {sidecar next : Sidecar Vector} (history : SidecarHistory Raw sha256 sidecar)
      (same : next.chunks = sidecar.chunks)
      : SidecarHistory Raw sha256 next

/-- No history leaves an event with a part of its chunks. Witness: by induction on the history. -/
theorem SidecarHistory.whole {sidecar : Sidecar Vector} (history : SidecarHistory Raw sha256 sidecar)
    : sidecar.Whole sha256 := by
  induction history with
  | empty => exact fun _ => .inl rfl
  | index _ run existingHashes documents limit deadline ih =>
      refine ih.of_stored run (run.CallSends sha256 existingHashes documents limit deadline)
        fun eventId => ?_
      rcases indexSemanticDocuments_stores run _ existingHashes documents limit deadline eventId with
        kept | ⟨document, -, stored⟩
      · exact .inl kept
      · exact .inr ⟨document, stored⟩
  | @delete sidecar next _ maintainSqliteVec0 eventIds deleted ih =>
      intro eventId
      have left := Sidecar.writeChunks_eventItems deleted eventId
      rw [List.filter_nil, List.append_nil] at left
      split at left
      next => exact .inl left
      next =>
          rcases ih eventId with none | ⟨document, event, chunks⟩
          · exact .inl (left.trans none)
          · refine .inr ⟨document, event, ?_⟩
            unfold Sidecar.HoldsChunks
            rw [event, left, ← event]
            exact chunks
  | drop _ _ => exact fun _ => .inl rfl
  | @other sidecar next _ same ih =>
      have items : next.eventItems = sidecar.eventItems := by
        funext eventId
        unfold Sidecar.eventItems Sidecar.items
        rw [same]
      intro eventId
      unfold Sidecar.HoldsChunks
      rw [items]
      exact ih eventId

/-- Whatever the documents, the limit, the size of batches and the deadline: a call stores chunks only
for events all of whose chunks it has embedded and leaves no event with a part of its chunks, and the
events that it reports as consumed are those of the first documents, each of which has all chunks of
its current hash stored or has none. (Where a list holds several documents of an event, one of them
is the current one.)
-/
theorem indexSemanticDocuments_consumedPrefix (run : IndexingRun Raw Vector)
    {sidecar : Sidecar Vector} (history : SidecarHistory Raw sha256 sidecar)
    {existingHashes : Uuid → Option String} (hashes : sidecar.StoresHashes existingHashes)
    (documents : List EventEmbeddingDocument) (limit : Nat) (deadline : Option Nat)
    : let left := run.indexSemanticDocuments sha256 sidecar existingHashes documents limit deadline
      (∀ eventId, left.sidecar.eventItems eventId = sidecar.eventItems eventId
        ∨ ∃ document ∈ documents, document.eventId = eventId
            ∧ left.sidecar.HoldsEmbedded sha256 run
              (run.CallSends sha256 existingHashes documents limit deadline) document)
      ∧ left.sidecar.Whole sha256
      ∧ ∀ outcome, left.outcome = some outcome →
          ∃ count, outcome.consumedEventIds = (documents.take count).map (·.eventId)
            ∧ ∀ document ∈ documents.take count, ∃ current ∈ documents,
                current.eventId = document.eventId
                ∧ (current.chunks sha256 = [] ∨ left.sidecar.HoldsCurrent sha256 current) :=
  ⟨indexSemanticDocuments_stores run sidecar existingHashes documents limit deadline,
    (history.index run existingHashes documents limit deadline).whole,
    fun _ ends => indexSemanticDocuments_consumes history.whole hashes rfl ends⟩

/-- An event with a text. -/
def textDocument (eventId : Uuid) (text : List Char) : EventEmbeddingDocument where
  eventId
  historyRecordId := none
  sessionId := none
  seq := 1
  header := "semantic_document: v2".toList
  text

def storedEventId : Uuid := ⟨"48000000-0000-7000-8000-000000000001", by decide, by decide⟩

def shortEventId : Uuid := ⟨"48000000-0000-7000-8000-000000000002", by decide, by decide⟩

def longEventId : Uuid := ⟨"48000000-0000-7000-8000-000000000003", by decide, by decide⟩

/-- An event that is stored already, one of one chunk, and one of two chunks. -/
def threeDocuments : List EventEmbeddingDocument :=
  [textDocument storedEventId "ok".toList, textDocument shortEventId "yes".toList,
    textDocument longEventId (List.replicate 301 "abc ".toList).flatten]

/-- A model that counts characters, and a deadline between the first batch and the second. -/
def cutRun : IndexingRun Nat Nat where
  limitNow := 0
  initNow := 0
  batchNow := fun batch => batch * 10 ^ 11
  initialized := some true
  newEmbedder := true
  batchSize := 2
  quietBatchSize := 2
  embed := fun _ _ texts => some (texts.map List.length)
  normalize := some
  sqliteVec0Runtime := false
  commits := true
  refreshes := true

/-- The first call stores the first event. -/
def earlierCall : IndexedDocuments Nat :=
  cutRun.indexSemanticDocuments String.ofList Sidecar.empty (fun _ => none)
    (threeDocuments.take 1) 64 none

/-- The next call gets all three events, and has twenty seconds. -/
def cutCall : IndexedDocuments Nat :=
  cutRun.indexSemanticDocuments String.ofList earlierCall.sidecar earlierCall.existingHashes
    threeDocuments 64 (some (20 * 10 ^ 9))

/-- The deadline comes between the two chunks of the last event. The call consumes the event that has
not changed and the short one, and stores nothing of the last one.
-/
theorem cutCall_consumedPrefix
    : cutCall.outcome = some ⟨1, [storedEventId, shortEventId]⟩
      ∧ cutCall.sidecar.eventItems longEventId = []
      ∧ cutCall.sidecar.Whole String.ofList
      ∧ ∃ count, [storedEventId, shortEventId] = (threeDocuments.take count).map (·.eventId)
          ∧ ∀ document ∈ threeDocuments.take count, ∃ current ∈ threeDocuments,
              current.eventId = document.eventId
              ∧ (current.chunks String.ofList = []
                ∨ cutCall.sidecar.HoldsCurrent String.ofList current) := by
  have outcome : cutCall.outcome = some ⟨1, [storedEventId, shortEventId]⟩ := by decide +kernel
  have cut : cutCall.sidecar.eventItems longEventId = [] := List.isEmpty_iff.mp (by decide +kernel)
  have history : SidecarHistory Nat String.ofList earlierCall.sidecar :=
    SidecarHistory.empty.index cutRun _ _ _ _
  have hashes : earlierCall.sidecar.StoresHashes earlierCall.existingHashes :=
    indexSemanticDocuments_storesHashes
      ((fun _ _ held => by cases held) : Sidecar.empty.StoresHashes fun _ => none) rfl
      (by decide +kernel)
  obtain ⟨-, whole, consumes⟩ :=
    indexSemanticDocuments_consumedPrefix cutRun history hashes threeDocuments 64
      (some (20 * 10 ^ 9))
  exact ⟨outcome, cut, whole, consumes _ outcome⟩

end Calls

end CtxRemote.Semantic
