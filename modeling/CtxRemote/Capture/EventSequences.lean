import CtxRemote.Capture.FastInserts
import CtxRemote.Capture.ImportFrames

/-! Whether an import stores a new event. Its sequence number is unique in the store, and an import
tries some numbers before it gives up; an insert that ignores a taken number then loses the event.
-/

namespace CtxRemote.Capture
open CtxRemote.Library
open CtxRemote.Store (Uuid CaptureProvider Event EventRow StoreError asI64 rejectConflictingKey)
open CtxRemote.Sync (ProviderImportSummary)

-----------------------------------------------------------------------------------------
-- Sequence numbers
-----------------------------------------------------------------------------------------

/-- No stored event has the sequence number. -/
def SeqFree (store : ImportStore) (seq : UInt64) : Prop :=
  ∀ held ∈ store.events.rows, held.seq ≠ asI64 seq

instance (store : ImportStore) (seq : UInt64) : Decidable (SeqFree store seq) :=
  inferInstanceAs (Decidable (∀ held ∈ store.events.rows, held.seq ≠ asI64 seq))

/-- The sequence numbers that are tried for an event of a source, its own first. -/
def triedSequenceNumbers (sourceId : Uuid) (providerEventIndex providerEventSequenceIndex : UInt64)
    : List UInt64 :=
  (providerEventSequenceIndex
    :: sequenceCandidates providerEventIndex providerEventSequenceIndex).map
      (providerSourceEventSeq sourceId)

/-- A number is available to an event that is not stored where no stored event has it. -/
theorem seqAvailable_iff {store : ImportStore} {id : Uuid} (seq : UInt64)
    (unstored : ∀ held ∈ store.events.rows, held.id ≠ id)
    : providerEventSeqAvailable store seq id = true ↔ SeqFree store seq := by
  unfold providerEventSeqAvailable ImportStore.eventIdBySeq SeqFree
  cases search : store.events.rows.find? fun row => row.seq = asI64 seq with
  | none =>
      refine iff_of_true rfl fun held member same => ?_
      exact List.find?_eq_none.mp search held member (by simpa using same)
  | some found =>
      have member : found ∈ store.events.rows := List.mem_of_find?_eq_some search
      have same : found.seq = asI64 seq := by simpa using List.find?_some search
      exact iff_of_false (by simpa using unstored found member) fun free => free found member same

/-- The number of a new event is free just where some tried number is. -/
theorem avoided_free_iff {store : ImportStore} {identity : ProviderEventImportIdentity}
    {sourceId : Uuid} {providerEventIndex providerEventSequenceIndex : UInt64}
    (own : identity.seq = providerSourceEventSeq sourceId providerEventSequenceIndex)
    (unstored : ∀ held ∈ store.events.rows, held.id ≠ identity.id)
    : SeqFree store (avoidProviderSourceEventSeqCollision store identity sourceId
          providerEventIndex providerEventSequenceIndex).seq
        ↔ ∃ seq ∈ triedSequenceNumbers sourceId providerEventIndex providerEventSequenceIndex,
            SeqFree store seq := by
  have available (seq : UInt64)
      : providerEventSeqAvailable store seq identity.id = true ↔ SeqFree store seq :=
    seqAvailable_iff seq unstored
  unfold avoidProviderSourceEventSeqCollision triedSequenceNumbers
  rw [List.map_cons, ← own]
  split
  next free =>
      exact iff_of_true ((available _).mp free)
        ⟨_, List.mem_cons_self, (available _).mp free⟩
  next taken =>
      rw [available] at taken
      split
      next candidate search =>
          have found
              : providerEventSeqAvailable store (providerSourceEventSeq sourceId candidate)
                  identity.id = true := by
            simpa using List.find?_some search
          have free := (available _).mp found
          refine iff_of_true free ⟨_, List.mem_cons_of_mem _ ?_, free⟩
          exact List.mem_map_of_mem (List.mem_of_find?_eq_some search)
      next search =>
          refine iff_of_false taken ?_
          rintro ⟨seq, tried, free⟩
          rcases List.mem_cons.mp tried with rfl | later
          · exact taken free
          · obtain ⟨candidate, member, rfl⟩ := List.mem_map.mp later
            exact List.find?_eq_none.mp search candidate member ((available _).mpr free)

/-- A collision changes the sequence number only. -/
theorem avoided_id_key (store : ImportStore) (identity : ProviderEventImportIdentity)
    (sourceId : Uuid) (providerEventIndex providerEventSequenceIndex : UInt64)
    : (avoidProviderSourceEventSeqCollision store identity sourceId providerEventIndex
            providerEventSequenceIndex).id
          = identity.id
      ∧ (avoidProviderSourceEventSeqCollision store identity sourceId providerEventIndex
            providerEventSequenceIndex).dedupeKey
          = identity.dedupeKey := by
  unfold avoidProviderSourceEventSeqCollision
  split
  next => exact ⟨rfl, rfl⟩
  next => split <;> exact ⟨rfl, rfl⟩

-----------------------------------------------------------------------------------------
-- New events
-----------------------------------------------------------------------------------------

/-- No stored event has the key or the id of an event, and its id is no alias. -/
structure Unstored (store : ImportStore) (event : Event) : Prop where
  key : ∀ held ∈ store.events.rows, held.dedupeKey ≠ event.dedupeKey
  id : ∀ held ∈ store.events.rows, held.id ≠ event.id
  noAlias : store.eventAliasTargetId event.id = none

/-- Whether an event is stored is a matter of the events and their aliases. -/
theorem Unstored.congr {left right : ImportStore} {event : Event} (unstored : Unstored left event)
    (events : right.events = left.events) (aliases : right.eventAliases = left.eventAliases)
    : Unstored right event where
  key := by
    rw [events]
    exact unstored.key
  id := by
    rw [events]
    exact unstored.id
  noAlias := by
    unfold ImportStore.eventAliasTargetId
    rw [aliases]
    exact unstored.noAlias

/-- The index that an event's id and key have. -/
def ProviderEventEnvelope.identityIndex (event : ProviderEventEnvelope) : UInt64 :=
  ((event.metadata.get "provider_event_identity_index").bind asU64).getD event.providerEventIndex

section Identity

variable {store : ImportStore} {event : Event} {identity : ProviderEventImportIdentity}

/-- A stored event's identity is not that of a new event. -/
theorem Unstored.not_getEvent (unstored : Unstored store event) {id : Uuid} {held : EventRow}
    (found : store.getEvent id = some held)
    : held.id ≠ event.id := by
  unfold ImportStore.getEvent Store.Database.eventById at found
  exact unstored.id held (List.mem_of_find?_eq_some found)

/-- A new event is not what an import finds under some identity. Cases: its key is found; its id is
an alias's target; its id is found.
-/
theorem Unstored.not_storedUnder (unstored : Unstored store event)
    (key : event.dedupeKey = some identity.dedupeKey) (id : event.id = identity.id)
    {searched : ProviderEventImportIdentity}
    : storedUnder store searched ≠ some identity := by
  intro found
  unfold storedUnder at found
  split at found
  next keyed =>
      obtain rfl := Option.some.inj found
      obtain ⟨_, same⟩ := Option.isSome_iff_exists.mp keyed
      obtain ⟨held, search, _⟩ := Option.map_eq_some_iff.mp same
      have keyedRow : held.dedupeKey = some searched.dedupeKey := by
        simpa using List.find?_some search
      exact unstored.key held (List.mem_of_find?_eq_some search) (keyedRow.trans key.symm)
  next =>
      split at found
      next existing aliased =>
          obtain rfl := Option.some.inj found
          obtain ⟨target, _, named⟩ := Option.bind_eq_some_iff.mp aliased
          obtain ⟨held, stored, known⟩ := Option.bind_eq_some_iff.mp named
          obtain ⟨_, _, rfl⟩ := Option.map_eq_some_iff.mp known
          exact unstored.not_getEvent stored id.symm
      next =>
          split at found
          next numbered =>
              obtain rfl := Option.some.inj found
              obtain ⟨held, stored⟩ := Option.isSome_iff_exists.mp numbered
              have direct : ImportStore.resolveAlias store.eventAliases searched.id = searched.id := by
                have noAlias := unstored.noAlias
                rw [id, ImportStore.eventAliasTargetId] at noAlias
                simp [ImportStore.resolveAlias, noAlias]
              unfold ImportStore.getEvent at stored
              rw [direct] at stored
              have same : held.id = searched.id := by simpa using List.find?_some stored
              exact unstored.id held (List.mem_of_find?_eq_some stored) (same.trans id.symm)
          next => cases found

/-- The identity that the store gives a new event is its source's. -/
theorem Unstored.importIdentity_eq (unstored : Unstored store event) {provider : CaptureProvider}
    {providerSessionId eventHash : String} {sourceId : Uuid}
    {providerEventIndex providerEventSequenceIndex : UInt64} {legacyIndex : Option UInt64}
    {allowLegacy : Bool}
    (chosen
      : providerEventImportIdentity store provider providerSessionId sourceId providerEventIndex
          providerEventSequenceIndex eventHash legacyIndex allowLegacy
        = identity)
    (key : event.dedupeKey = some identity.dedupeKey) (id : event.id = identity.id)
    : identity
      = avoidProviderSourceEventSeqCollision store
          (providerSourceEventImportIdentityWithSeq sourceId providerEventIndex
            providerEventSequenceIndex eventHash)
          sourceId providerEventIndex providerEventSequenceIndex := by
  unfold providerEventImportIdentity at chosen
  dsimp only at chosen
  generalize search : List.findSome? (storedUnder store) _ = found at chosen
  cases found with
  | none => exact chosen.symm
  | some found =>
      rw [Option.getD_some] at chosen
      subst chosen
      obtain ⟨tried, _, stored⟩ := List.exists_of_findSome?_eq_some search
      exact absurd stored (unstored.not_storedUnder key id)

/-- The key of a new event is its source's, and its number is free just where a tried one is. -/
theorem Unstored.captureIdentity (unstored : Unstored store event)
    {capture : ProviderCaptureEnvelope} {envelope : ProviderEventEnvelope} {sessionId : Uuid}
    (chosen : identity = captureEventIdentity store capture envelope sessionId)
    (key : event.dedupeKey = some identity.dedupeKey) (id : event.id = identity.id)
    : identity.dedupeKey
          = Store.providerSourceEventDedupeKey capture.sourceId envelope.identityIndex envelope.hash
      ∧ (SeqFree store identity.seq
        ↔ ∃ seq ∈ triedSequenceNumbers capture.sourceId envelope.identityIndex
              envelope.providerEventIndex,
            SeqFree store seq) := by
  have own := unstored.importIdentity_eq chosen.symm key id
  have kept := avoided_id_key store
    (providerSourceEventImportIdentityWithSeq capture.sourceId envelope.identityIndex
      envelope.providerEventIndex envelope.hash)
    capture.sourceId envelope.identityIndex envelope.providerEventIndex
  constructor
  · rw [own]
    exact kept.2
  · rw [own]
    refine avoided_free_iff rfl fun held member same => unstored.id held member ?_
    rw [same, id, own]
    exact kept.1.symm

end Identity

-----------------------------------------------------------------------------------------
-- Entries of Pi sessions
-----------------------------------------------------------------------------------------

/-- The identities that the caches hold of Pi entries are those of stored events. -/
def EntriesStored (state : ImportState) : Prop :=
  ∀ sessionId identities, state.caches.piEventIdentitiesByEntryId sessionId = some identities →
    ∀ entry ∈ identities, ∃ held ∈ state.store.events.rows, held.id = entry.2.id

/-- The identities that are read for a session are those of stored events, by induction on the
session's events.
-/
theorem piEventIdentities_stored {store : ImportStore} {externals : Externals} {sessionId : Uuid}
    {identities : List (String × ProviderEventImportIdentity)}
    (read : piEventIdentities store externals sessionId = .ok identities)
    : ∀ entry ∈ identities, ∃ held ∈ store.events.rows, held.id = entry.2.id := by
  unfold piEventIdentities at read
  refine foldlM_invariant
    (fun identities => ∀ entry ∈ identities, ∃ held ∈ store.events.rows, held.id = entry.2.id)
    read (by simp) fun event member known next stored step => ?_
  have inside : event ∈ store.events.rows := by
    unfold ImportStore.eventsForSession at member
    exact (List.mem_filter.mp ((List.perm_insertionSort _ _).mem_iff.mp member)).1
  split at step
  next =>
      split at step
      next =>
          split at step
          next entryId identity _ named =>
              split at step
              next =>
                  cases step
                  exact stored
              next =>
                  cases step
                  obtain ⟨_, _, rfl⟩ := Option.map_eq_some_iff.mp named
                  intro entry found
                  rcases List.mem_append.mp found with earlier | last
                  · exact stored entry earlier
                  · obtain rfl := List.mem_singleton.mp last
                    exact ⟨event, inside, rfl⟩
          next =>
              cases step
              exact stored
      next => cases step
  next => cases step

/-- What `lookup` finds is an entry of the list. -/
theorem mem_of_lookup {κ ν : Type} [BEq κ] [LawfulBEq κ] {key : κ} {value : ν}
    {entries : List (κ × ν)} (found : entries.lookup key = some value)
    : (key, value) ∈ entries := by
  obtain ⟨before, after, rfl, _⟩ := List.lookup_eq_some_iff.mp found
  exact List.mem_append_right _ List.mem_cons_self

section Prepared

variable {externals : Externals} {historyRecordId : Option Uuid} {state mid : ImportState}

/-- A Pi entry's identity is that of a stored event, and the caches hold such identities again. -/
theorem piExistingEventIdentity_stored {provider : CaptureProvider} {sessionId : Uuid}
    {entryId : Option String} (stored : EntriesStored state)
    : Ends (piExistingEventIdentityByEntryId externals provider sessionId entryId) state
        (fun existing mid =>
          mid.store = state.store ∧ EntriesStored mid
          ∧ ∀ identity ∈ existing,
            provider = .pi ∧ ∃ held ∈ state.store.events.rows, held.id = identity.id)
        (fun _ mid => EntriesStored mid) := by
  unfold piExistingEventIdentityByEntryId
  split
  next => exact .pure ⟨rfl, stored, by simp⟩
  next entryId =>
      split
      next => exact .pure ⟨rfl, stored, by simp⟩
      next isPi =>
          have isPi := not_not.mp isPi
          refine .get_bind ?_
          split
          next identities cached =>
              refine .pure ⟨rfl, stored, fun identity found => ⟨isPi, ?_⟩⟩
              exact stored sessionId identities cached (entryId, identity) (mem_of_lookup found)
          next =>
              split
              next => exact .throw stored
              next identities read =>
                  have known := piEventIdentities_stored read
                  refine .modify_bind (.pure ⟨rfl, fun other held cached => ?_,
                    fun identity found => ⟨isPi, known (entryId, identity) (mem_of_lookup found)⟩⟩)
                  simp only [Function.update_apply] at cached
                  split at cached
                  next =>
                      obtain rfl := Option.some.inj cached
                      exact known
                  next => exact stored other held cached

variable {capture : ProviderCaptureEnvelope} {lineNumber : Nat} {run : Option Run} {event : Event}

/-- The event to store for a capture has the identity that the store gives it, or that of a stored
event.
-/
theorem prepareEvent_identity {envelope : ProviderEventEnvelope} {sessionId : Uuid}
    (stored : EntriesStored state)
    (prepared
      : perform (prepareEvent externals historyRecordId capture envelope lineNumber sessionId) state
        = (.ok (run, event), mid))
    : mid.store = state.store ∧ EntriesStored mid
      ∧ ∃ identity,
        event = eventRecord externals historyRecordId capture envelope lineNumber sessionId identity
          run
        ∧ (identity = captureEventIdentity state.store capture envelope sessionId
          ∨ capture.provider = .pi
            ∧ ∃ held ∈ state.store.events.rows, held.id = identity.id) := by
  unfold prepareEvent at prepared
  obtain ⟨existing, found, search, prepared⟩ := perform_bind_eq_ok prepared
  obtain ⟨sameStore, kept, known⟩ := (piExistingEventIdentity_stored stored).of_ok search
  obtain ⟨_, _, here, prepared⟩ := perform_bind_eq_ok prepared
  rw [perform_get] at here
  cases here
  obtain ⟨made, _, lifted, prepared⟩ := perform_bind_eq_ok prepared
  rw [perform_liftExcept] at lifted
  obtain ⟨_, rfl⟩ := Prod.mk.inj lifted
  rw [perform_pure] at prepared
  cases prepared
  refine ⟨sameStore, kept, _, rfl, ?_⟩
  cases existing with
  | none => exact .inl (by rw [Option.getD_none, sameStore])
  | some identity => exact .inr (known identity rfl)

/-- What is prepared for a capture with an event leaves the stored events and their aliases. -/
theorem prepareCapture_identity {summary : ProviderImportSummary} (stored : EntriesStored state)
    (prepared
      : perform (prepareCapture externals historyRecordId capture lineNumber) state
        = (.ok (summary, some (run, event)), mid))
    : mid.store.events = state.store.events ∧ mid.store.eventAliases = state.store.eventAliases
      ∧ EntriesStored mid
      ∧ ∃ envelope sessionId identity,
        capture.event = some envelope
        ∧ event = eventRecord externals historyRecordId capture envelope lineNumber sessionId identity
          run
        ∧ (identity = captureEventIdentity mid.store capture envelope sessionId
          ∨ capture.provider = .pi
            ∧ ∃ held ∈ state.store.events.rows, held.id = identity.id) := by
  unfold prepareCapture at prepared
  obtain ⟨_, _, checked, prepared⟩ := perform_bind_eq_ok prepared
  rw [perform_liftExcept] at checked
  obtain ⟨_, rfl⟩ := Prod.mk.inj checked
  obtain ⟨⟨sessionId, counted⟩, placed, lineage, prepared⟩ := perform_bind_eq_ok prepared
  have beside := beside_importCaptureLineage externals historyRecordId capture lineNumber state
  rw [lineage] at beside
  have left {γ : Type} (view : ImportState → γ)
      : view placed.besideLineage = view state.besideLineage :=
    congrArg view beside
  have events : placed.store.events = state.store.events := left (·.store.events)
  have aliases : placed.store.eventAliases = state.store.eventAliases :=
    left (·.store.eventAliases)
  have cached
      : placed.caches.piEventIdentitiesByEntryId = state.caches.piEventIdentitiesByEntryId :=
    left (·.caches.piEventIdentitiesByEntryId)
  have stored' : EntriesStored placed := by
    unfold EntriesStored
    rw [cached, events]
    exact stored
  cases content : capture.event with
  | none =>
      simp only [content, perform_pure] at prepared
      cases prepared
  | some envelope =>
      simp only [content] at prepared
      obtain ⟨⟨_, _⟩, _, made, prepared⟩ := perform_bind_eq_ok prepared
      rw [perform_pure] at prepared
      cases prepared
      obtain ⟨sameStore, kept, identity, record, chosen⟩ := prepareEvent_identity stored' made
      rw [sameStore, ← events]
      exact ⟨rfl, aliases, kept, envelope, sessionId, identity, rfl, record, chosen⟩

end Prepared

-----------------------------------------------------------------------------------------
-- Storing a new event
-----------------------------------------------------------------------------------------

/-- An update stores its row. -/
theorem mem_upsertEventRow {db : Store.Database} {row : EventRow} {events : Store.EventTable}
    (written : Store.upsertEventRow db row = .ok events)
    : row ∈ events.rows := by
  unfold Store.upsertEventRow at written
  split at written
  next => cases written
  next =>
      split at written
      next => cases written
      next placed =>
          cases written
          rw [Table.upsert?_eq_some placed]
          exact List.mem_append_right _ (List.mem_singleton.mpr rfl)

section Storing

variable {externals : Externals} {state final : ImportState} {event : Event} {key : String}
  {present : Bool}

/-- A new event clashes with stored ones by its sequence number only. -/
theorem Unstored.free_iff {store : ImportStore} (unstored : Unstored store event)
    : (∀ held ∈ store.events.rows, ¬ EventRow.Clash held event.row) ↔ SeqFree store event.seq := by
  refine forall₂_congr fun held member => not_congr ⟨fun clash => ?_, fun same => .inr (.inl same)⟩
  rcases clash with id | seq | ⟨_, key⟩
  · exact absurd id (unstored.id held member)
  · exact seq
  · exact absurd key (unstored.key held member)

/-- The row of a new event is not there yet. -/
theorem Unstored.not_mem {store : ImportStore} (unstored : Unstored store event)
    : event.row ∉ store.events.rows :=
  fun member => unstored.id event.row member rfl

/-- The fast way stores a new event just where its sequence number is free. -/
theorem stored_insertEventFast (legal : event.row.checked = true)
    (unstored : Unstored state.store event)
    (ran : perform (insertEventFast externals none event) state = (.ok present, final))
    : event.row ∈ final.store.events.rows ↔ SeqFree state.store event.seq := by
  rw [perform_insertEventFast_none] at ran
  by_cases free : ∀ held ∈ state.store.events.rows, ¬ EventRow.Clash held event.row
  · rw [insertEventIfAbsent_free legal free] at ran
    split at ran
    next =>
        cases ran
        refine iff_of_true ?_ (unstored.free_iff.mp free)
        exact Table.mem_insertOrIgnore.mpr (.inr ⟨rfl, free⟩)
    next => cases ran
  · rw [insertEventIfAbsent_clash (by simpa using free)] at ran
    cases agrees : rejectConflictingKey state.store.database event.dedupeKey with
    | error error =>
        rw [agrees] at ran
        cases ran
    | ok _ =>
        rw [agrees] at ran
        cases ran
        exact iff_of_false unstored.not_mem fun number => free (unstored.free_iff.mpr number)

/-- The slow way stores a new event just where no stored event has another hash for it. -/
theorem stored_upsertEventSlow (named : event.dedupeKey = some key)
    (unstored : Unstored state.store event)
    (ran : perform (upsertEventSlow externals none event) state = (.ok present, final))
    : event.row ∈ final.store.events.rows
        ↔ rejectConflictingKey state.store.database event.dedupeKey = .ok () := by
  rw [perform_upsertEventSlow_none named] at ran
  cases agrees : rejectConflictingKey state.store.database event.dedupeKey with
  | error error =>
      obtain ⟨conflict, rfl⟩ := Store.rejectConflictingKey_error agrees
      rw [upsertEvent_conflict agrees] at ran
      cases ran
      exact iff_of_false unstored.not_mem (by simp)
  | ok _ =>
      refine iff_of_true ?_ rfl
      have unknown : event.dedupeKey.any (providerEventExists state.store) = false := by
        have other : ∀ held ∈ state.store.events.rows, held.dedupeKey ≠ some key :=
          fun held member => named ▸ unstored.key held member
        simpa [named, providerEventExists, Store.Database.eventIdByDedupeKey, ImportStore.database]
          using other
      rw [upsertEvent_new agrees unknown] at ran
      cases count : Store.semanticSearchableDocumentCountFromStoredEvent externals.toExternals
          state.store.database event.id with
      | error error =>
          obtain rfl := count_error count
          rw [count] at ran
          cases ran
      | ok previous =>
          cases written : Store.upsertEventRow state.store.database event.row with
          | error error =>
              obtain rfl := upsertEventRow_error written
              rw [count, written] at ran
              cases ran
          | ok events =>
              rw [count, written] at ran
              cases ran
              exact mem_upsertEventRow written

/-- A stored run leaves the events and their aliases. -/
theorem events_of_insertRunIfAbsent {store next : ImportStore} {run : Run}
    (done : store.insertRunIfAbsent run = .ok next)
    : next.events = store.events ∧ next.eventAliases = store.eventAliases := by
  unfold ImportStore.insertRunIfAbsent at done
  split at done
  next =>
      cases done
      exact ⟨rfl, rfl⟩
  next =>
      split at done
      next =>
          cases done
          exact ⟨rfl, rfl⟩
      next => cases done

theorem aliases_of_upsertRun {store next : ImportStore} {run : Run}
    (done : store.upsertRun run = .ok next)
    : next.eventAliases = store.eventAliases := by
  unfold ImportStore.upsertRun at done
  split at done
  next =>
      cases done
      rfl
  next => cases done

/-- Where a new event can be stored: with fast inserts, a sequence number that is tried for it is
free; without them, no stored event has another hash for it.
-/
structure Storable (fastEventInserts : Bool) (store : ImportStore) (numbers : List UInt64)
    (key : Option String)
    : Prop where
  fast : fastEventInserts = true → ∃ seq ∈ numbers, SeqFree store seq
  slow : fastEventInserts = false → rejectConflictingKey store.database key = .ok ()

/-- Where an event can be stored is a matter of the stored events. -/
theorem storable_congr {left right : ImportStore} (same : left.events = right.events)
    {fastEventInserts : Bool} {numbers : List UInt64} {key : Option String}
    : Storable fastEventInserts left numbers key ↔ Storable fastEventInserts right numbers key := by
  have free : SeqFree left = SeqFree right := by
    funext seq
    unfold SeqFree
    rw [same]
  have rejects
      : rejectConflictingKey left.database key = rejectConflictingKey right.database key := by
    simp only [rejectConflictingKey, Store.Database.dedupeKeys, ImportStore.database, same]
  constructor
  · intro ready
    exact ⟨free ▸ ready.fast, rejects ▸ ready.slow⟩
  · intro ready
    exact ⟨free ▸ ready.fast, rejects ▸ ready.slow⟩

/-- A new event with its run is stored just where it can be. -/
theorem stored_storeEvent {fastEventInserts : Bool} {run : Option Run} {numbers : List UInt64}
    (named : event.dedupeKey = some key) (legal : event.row.checked = true)
    (unstored : Unstored state.store event)
    (numbered : SeqFree state.store event.seq ↔ ∃ seq ∈ numbers, SeqFree state.store seq)
    (ran : perform (storeEvent externals fastEventInserts run event) state = (.ok present, final))
    : event.row ∈ final.store.events.rows
        ↔ Storable fastEventInserts state.store numbers event.dedupeKey := by
  unfold storeEvent at ran
  cases fastEventInserts with
  | true =>
      rw [if_pos rfl] at ran
      have free : event.row ∈ final.store.events.rows ↔ SeqFree state.store event.seq := by
        cases run with
        | none => exact stored_insertEventFast legal unstored ran
        | some run =>
            rw [perform_insertEventFast_some] at ran
            split at ran
            next next inserted =>
                obtain ⟨events, aliases⟩ := events_of_insertRunIfAbsent inserted
                rw [stored_insertEventFast legal (unstored.congr events aliases) ran]
                unfold SeqFree
                rw [events]
            next => cases ran
      rw [free, numbered]
      exact ⟨fun tried => ⟨fun _ => tried, (by simp)⟩, fun ready => ready.fast rfl⟩
  | false =>
      rw [if_neg (by simp)] at ran
      have agrees
          : event.row ∈ final.store.events.rows
            ↔ rejectConflictingKey state.store.database event.dedupeKey = .ok () := by
        cases run with
        | none => exact stored_upsertEventSlow named unstored ran
        | some run =>
            rw [perform_upsertEventSlow_some] at ran
            split at ran
            next next updated =>
                have events := events_of_upsertRun updated
                rw [stored_upsertEventSlow named
                  (unstored.congr events (aliases_of_upsertRun updated)) ran]
                simp only [rejectConflictingKey, Store.Database.dedupeKeys, ImportStore.database,
                  events]
            next => cases ran
      rw [agrees]
      exact ⟨fun ok => ⟨(by simp), fun _ => ok⟩, fun ready => ready.slow rfl⟩

end Storing

-----------------------------------------------------------------------------------------
-- Cached entries of an import
-----------------------------------------------------------------------------------------

/-- Every event of the first store has its id in the second. -/
def IdsKept (store next : ImportStore) : Prop :=
  ∀ held ∈ store.events.rows, ∃ now ∈ next.events.rows, now.id = held.id

theorem IdsKept.of_events {store next : ImportStore} (same : next.events = store.events)
    : IdsKept store next :=
  fun held member => ⟨held, same ▸ member, rfl⟩

theorem idsKept_insertEventIfAbsent {store next : ImportStore} {externals : Store.Externals}
    {event : Event} {inserted : Bool}
    (written : store.insertEventIfAbsent externals event = .ok (inserted, next))
    : IdsKept store next := by
  unfold ImportStore.insertEventIfAbsent Store.insertEventIfAbsent at written
  cases placed : Store.insertEventRowOrIgnore store.database event.row with
  | error error => simp [placed, bind, Except.bind, Except.map] at written
  | ok outcome =>
      cases outcome with
      | none =>
          rw [placed] at written
          cases agrees : rejectConflictingKey store.database event.dedupeKey with
          | error error => simp [agrees, bind, Except.bind, Except.map] at written
          | ok _ =>
              simp only [agrees] at written
              cases written
              exact .of_events rfl
      | some events =>
          rw [placed] at written
          cases written
          have grown : events = store.events.insertOrIgnore event.row := by
            unfold Store.insertEventRowOrIgnore at placed
            split at placed
            next => cases placed
            next =>
                split at placed <;> cases placed
                rfl
          intro held member
          refine ⟨held, ?_, rfl⟩
          rw [Store.events_adjustStats, grown]
          exact Table.mem_insertOrIgnore_of_mem member

/-- An update keeps the ids: a row that it replaces has the new row's. -/
theorem idsKept_upsertEvent {store next : ImportStore} {externals : Store.Externals} {event : Event}
    (written : store.upsertEvent externals event = .ok next)
    : IdsKept store next := by
  unfold ImportStore.upsertEvent Store.upsertEvent at written
  cases planned : Store.upsertPlan externals store.database event with
  | error error => simp [planned, bind, Except.bind, Except.map] at written
  | ok plan =>
      rw [planned] at written
      rcases plan with existing | ⟨previous, events⟩
      · cases written
        exact .of_events rfl
      · cases written
        have placed : Store.upsertEventRow store.database event.row = .ok events := by
          unfold Store.upsertPlan at planned
          obtain ⟨_, _, planned⟩ := bind_eq_ok.mp planned
          split at planned
          next => cases planned
          next =>
              obtain ⟨_, _, planned⟩ := bind_eq_ok.mp planned
              obtain ⟨_, placed, planned⟩ := bind_eq_ok.mp planned
              cases planned
              exact placed
        intro held member
        dsimp only
        rw [Store.events_adjustStats]
        by_cases same : held.id = event.id
        · exact ⟨event.row, mem_upsertEventRow placed, same.symm⟩
        · refine ⟨held, ?_, rfl⟩
          unfold Store.upsertEventRow at placed
          split at placed
          next => cases placed
          next =>
              split at placed
              next => cases placed
              next replaced =>
                  cases placed
                  rw [Table.upsert?_eq_some replaced]
                  exact List.mem_append_left _ (List.mem_filter.mpr ⟨member, decide_eq_true same⟩)

theorem EntriesStored.of_idsKept {state next : ImportState} (stored : EntriesStored state)
    (cached : next.caches.piEventIdentitiesByEntryId = state.caches.piEventIdentitiesByEntryId)
    (kept : IdsKept state.store next.store)
    : EntriesStored next := by
  intro sessionId identities found entry member
  rw [cached] at found
  obtain ⟨held, inside, same⟩ := stored sessionId identities found entry member
  obtain ⟨now, there, same'⟩ := kept held inside
  exact ⟨now, there, same'.trans same⟩

/-- A program keeps the cached entries those of stored events, whether it returns or stops. -/
def KeepsEntries {α : Type} (program : ImportM α) : Prop :=
  ∀ state, EntriesStored state →
    Ends program state (fun _ last => EntriesStored last) fun _ last => EntriesStored last

namespace KeepsEntries

theorem bind {α β : Type} {program : ImportM α} {next : α → ImportM β}
    (first : KeepsEntries program) (rest : ∀ value, KeepsEntries (next value))
    : KeepsEntries (program >>= next) :=
  fun state stored => (first state stored).bind fun value middle => rest value middle

theorem pure {α : Type} (value : α) : KeepsEntries (Pure.pure value : ImportM α) :=
  fun _ stored => .pure stored

/-- Programs that leave the events and the cached entries. -/
theorem of_leaves {α γ : Type} {program : ImportM α} {view : ImportState → γ}
    (leaves : Leaves view program)
    (shown
      : ∀ left right, view left = view right → left.store.events = right.store.events
        ∧ left.caches.piEventIdentitiesByEntryId = right.caches.piEventIdentitiesByEntryId)
    : KeepsEntries program := by
  intro state stored
  have kept (last : ImportState) (same : view last = view state) : EntriesStored last :=
    stored.of_idsKept (shown last state same).2 (.of_events (shown last state same).1)
  exact (leaves.ends state).mono (fun _ last => kept last) fun _ last => kept last

theorem of_beside {α : Type} {program : ImportM α} (beside : Beside program)
    : KeepsEntries program :=
  of_leaves beside fun _ _ same =>
    ⟨congrArg (·.store.events) same, congrArg (·.caches.piEventIdentitiesByEntryId) same⟩

end KeepsEntries

section Runs

variable (externals : Externals) (options : NormalizedProviderImportOptions)
  (capture : ProviderCaptureEnvelope) (lineNumber : Nat)

theorem keepsEntries_prepareEvent (historyRecordId : Option Uuid) (event : ProviderEventEnvelope)
    (sessionId : Uuid)
    : KeepsEntries (prepareEvent externals historyRecordId capture event lineNumber sessionId) := by
  intro state stored
  refine (piExistingEventIdentity_stored stored).bind fun _ mid found => .get_bind ?_
  refine KeepsEntries.bind (.of_beside (.liftExcept _)) (fun _ => ?_) mid found.2.1
  exact .pure _

theorem keepsEntries_prepareCapture (historyRecordId : Option Uuid)
    : KeepsEntries (prepareCapture externals historyRecordId capture lineNumber) := by
  refine .bind (.of_beside (.liftExcept _)) fun _ => ?_
  refine .bind (.of_beside (beside_importCaptureLineage _ _ _ _)) fun lineage => ?_
  dsimp only
  split
  · exact .pure _
  · exact .bind (keepsEntries_prepareEvent _ _ _ _ _ _) fun _ => .pure _

theorem keepsEntries_executeStatement {statement : ImportStore → Except StoreError ImportStore}
    (kept : ∀ store next, statement store = .ok next → IdsKept store next)
    : KeepsEntries (executeStatement statement) := by
  intro state stored
  unfold Ends
  rw [perform_executeStatement]
  cases written : statement state.store with
  | error error => exact stored
  | ok next => exact stored.of_idsKept rfl (kept _ _ written)

theorem keepsEntries_insertEvent (event : Event)
    : KeepsEntries (do
        match (← get).store.insertEventIfAbsent externals.toExternals event with
        | .ok (inserted, store) => do
            modify fun state => { state with store := store }
            return !inserted
        | .error error => throw (.store error)) := by
  refine fun state stored => .get_bind ?_
  split
  next written =>
    exact .modify_bind (.pure (stored.of_idsKept rfl (idsKept_insertEventIfAbsent written)))
  next => exact .throw stored

theorem keepsEntries_upsertEvent (event : Event) (wasPresent : Bool)
    : KeepsEntries (do
        match (← get).store.upsertEvent externals.toExternals event with
        | .ok store => do
            modify fun state => { state with store := store }
            return wasPresent
        | .error (.providerEventConflict _) => return true
        | .error error => throw (.store error)) := by
  refine fun state stored => .get_bind ?_
  split
  next written =>
    exact .modify_bind (.pure (stored.of_idsKept rfl (idsKept_upsertEvent written)))
  next => exact .pure stored
  next => exact .throw stored

theorem keepsEntries_storeEvent (fastEventInserts : Bool) (run : Option Run) (event : Event)
    : KeepsEntries (storeEvent externals fastEventInserts run event) := by
  intro state stored
  unfold storeEvent
  split
  · unfold insertEventFast
    dsimp only
    split
    · refine KeepsEntries.bind (keepsEntries_executeStatement fun _ _ done => ?_)
        (fun _ => keepsEntries_insertEvent externals event) state stored
      exact .of_events (events_of_insertRunIfAbsent done).1
    · exact keepsEntries_insertEvent externals event state stored
  · unfold upsertEventSlow
    refine .get_bind ?_
    dsimp only
    split
    · refine KeepsEntries.bind (keepsEntries_executeStatement fun _ _ done => ?_)
        (fun _ => keepsEntries_upsertEvent externals event _) state stored
      exact .of_events (events_of_upsertRun done)
    · exact keepsEntries_upsertEvent externals event _ state stored

theorem keepsEntries_importProviderCaptureLine
    : KeepsEntries (importProviderCaptureLine externals options capture lineNumber) := by
  refine .bind (keepsEntries_prepareCapture _ _ _ _) fun prepared => ?_
  dsimp only
  split
  · exact .pure _
  · exact .bind (keepsEntries_storeEvent _ _ _ _) fun _ => .pure _

/-- A unit that goes on keeps the cached entries stored. -/
theorem entriesStored_captureUnit {line : Nat × ProviderCaptureEnvelope} {state next : ImportState}
    (stored : EntriesStored state)
    (went : perform (captureUnit externals options line) state = (.ok (), next))
    : EntriesStored next := by
  have prepared : EntriesStored (state.prepared (externals.captureLength line.2)) :=
    stored.of_idsKept (by rw [caches_prepared]) (.of_events (by rw [store_prepared]))
  have kept := keepsEntries_importProviderCaptureLine externals options line.2 line.1 _ prepared
  have counted (mid : ImportState) (held : EntriesStored mid) (summary : ProviderImportSummary)
      : EntriesStored ((mid.counting summary).recorded (externals.captureLength line.2)) :=
    held.of_idsKept (by rw [caches_recorded]; rfl) (.of_events (by rw [store_recorded]; rfl))
  unfold captureUnit at went
  rw [perform_importUnit] at went
  unfold Ends at kept
  split at went
  next ran =>
      rw [ran] at kept
      cases went
      exact counted _ kept _
  next => cases went
  next ran =>
      rw [ran] at kept
      cases went
      exact counted _ kept _

/-- In an import, the cached entries are those of stored events whenever it gets to a capture. By
induction on the captures.
-/
theorem entriesStored_reached (captures : List (Nat × ProviderCaptureEnvelope))
    {state : ImportState} (stored : EntriesStored state)
    : AllReached (captureUnit externals options) (fun state _ => EntriesStored state) captures
        state := by
  induction captures generalizing state with
  | nil => trivial
  | cons line rest ih =>
      exact ⟨stored, fun next went => ih (entriesStored_captureUnit externals options stored went)⟩

/-- No entry is cached where an import starts. -/
theorem entriesStored_initial (store : ImportStore) (summary : ProviderImportSummary)
    (hasWork : Bool)
    : EntriesStored ((initialState store summary).begun hasWork) :=
  fun _ _ cached => by cases cached

end Runs

-----------------------------------------------------------------------------------------
-- Imports
-----------------------------------------------------------------------------------------

/-- An import that succeeds on a capture with a new event has stored the event just where it could:
with fast inserts, where one of the tried sequence numbers was free, and without them, where no
stored event had another hash for it. The cached Pi entries are those of stored events.
-/
theorem newEvent_stored_iff (externals : Externals) (options : NormalizedProviderImportOptions)
    {capture : ProviderCaptureEnvelope} {lineNumber : Nat} {envelope : ProviderEventEnvelope}
    {state mid final : ImportState} {counts summary : ProviderImportSummary} {run : Option Run}
    {event : Event} (content : capture.event = some envelope) (stored : EntriesStored state)
    (prepared
      : perform (prepareCapture externals options.historyRecordId capture lineNumber) state
        = (.ok (counts, some (run, event)), mid))
    (unstored : Unstored state.store event)
    (imported
      : perform (importProviderCaptureLine externals options capture lineNumber) state
        = (.ok summary, final))
    : event.row ∈ final.store.events.rows
        ↔ Storable options.fastEventInserts state.store
            (triedSequenceNumbers capture.sourceId envelope.identityIndex
              envelope.providerEventIndex)
            (some (Store.providerSourceEventDedupeKey capture.sourceId envelope.identityIndex
              envelope.hash)) := by
  obtain ⟨events, aliases, _, other, sessionId, identity, content', record, chosen⟩ :=
    prepareCapture_identity stored prepared
  obtain rfl : envelope = other := Option.some.inj (content.symm.trans content')
  have named : event.dedupeKey = some identity.dedupeKey := congrArg Event.dedupeKey record
  have numberedAs : event.seq = identity.seq := congrArg Event.seq record
  have id : event.id = identity.id := congrArg Event.id record
  have legal : event.row.checked = true := by
    rw [record]
    rfl
  rcases chosen with chosen | ⟨_, held, member, same⟩
  · have unstored' := unstored.congr events aliases
    obtain ⟨key, numbered⟩ := unstored'.captureIdentity chosen named id
    rw [← numberedAs] at numbered
    rw [perform_importProviderCaptureLine options prepared] at imported
    match ran : perform (storeEvent externals options.fastEventInserts run event) mid with
    | (.error _, _) =>
        rw [ran] at imported
        cases imported
    | (.ok present, last) =>
        rw [ran] at imported
        obtain ⟨_, rfl⟩ := Prod.mk.inj imported
        rw [stored_storeEvent named legal unstored' numbered ran, storable_congr events, named, key]
  · exact absurd (same.trans id.symm) (unstored.id held member)

instance (store : ImportStore) (event : Event) : Decidable (Unstored store event) :=
  decidable_of_iff
    ((∀ held ∈ store.events.rows, held.dedupeKey ≠ event.dedupeKey)
      ∧ (∀ held ∈ store.events.rows, held.id ≠ event.id)
      ∧ store.eventAliasTargetId event.id = none)
    ⟨fun ⟨key, id, noAlias⟩ => ⟨key, id, noAlias⟩, fun ⟨key, id, noAlias⟩ => ⟨key, id, noAlias⟩⟩

/-- The state in which the import of `laterCaptures` gets to the second of them. -/
def repeatedState : ImportState :=
  (perform (captureUnit epochExternals adapterOptions (1, firstMessage)) laterState).2

/-- Both captures are imported, and the event of the second one is new and finds its number free. -/
theorem repeatedState_evaluated
    : (perform (captureUnit epochExternals adapterOptions (1, firstMessage)) laterState).1.isOk = true
      ∧ (perform (importProviderCaptureLine epochExternals adapterOptions thirdMessage 2)
          repeatedState).1.isOk = true
      ∧ preparesEvent epochExternals none repeatedState (2, thirdMessage)
          (fun _ event => decide (Unstored repeatedState.store event)) = true
      ∧ SeqFree repeatedState.store (providerSourceEventSeq thirdMessage.sourceId 3) := by
  decide +kernel

/-- A program that succeeds has a value. -/
theorem exists_value_of_isOk {α : Type} {program : ImportM α} {state : ImportState}
    (succeeds : (perform program state).1.isOk = true)
    : ∃ value, perform program state = (.ok value, (perform program state).2) := by
  match ran : perform program state with
  | (.error _, _) =>
    rw [ran] at succeeds
    cases succeeds
  | (.ok value, _) => exact ⟨value, rfl⟩

/-- The second import of the first message succeeds, so the entries in its caches are stored. -/
theorem repeatedState_entriesStored : EntriesStored repeatedState := by
  obtain ⟨_, went⟩ := exists_value_of_isOk repeatedState_evaluated.1
  have reached := entriesStored_reached epochExternals adapterOptions laterCaptures.captures
    (entriesStored_initial startedStore {} true)
  exact (reached.2 repeatedState went).1

/-- Behind a message that comes again, a new one of the session gets stored. -/
theorem thirdMessage_stored
    : ∃ event : Event,
        event.row ∉ repeatedState.store.events.rows
        ∧ event.row ∈ (perform (importProviderCaptureLine epochExternals adapterOptions thirdMessage
            2) repeatedState).2.store.events.rows := by
  obtain ⟨-, succeeds, prepares, free⟩ := repeatedState_evaluated
  obtain ⟨counts, event, mid, prepared, new⟩ := exists_of_preparesEvent prepares
  have unstored : Unstored repeatedState.store event := of_decide_eq_true new
  obtain ⟨summary, imported⟩ := exists_value_of_isOk succeeds
  refine ⟨event, unstored.not_mem, ?_⟩
  refine (newEvent_stored_iff epochExternals adapterOptions rfl repeatedState_entriesStored
    prepared unstored imported).mpr ⟨fun _ => ?_, ?_⟩
  · exact ⟨_, List.mem_map_of_mem List.mem_cons_self, free⟩
  · simp [adapterOptions]

-----------------------------------------------------------------------------------------
-- A lost event
-----------------------------------------------------------------------------------------

theorem hexDigit_injective {left right : Nat} (same : hexDigit left = hexDigit right)
    : left % 16 = right % 16 := by
  have digits
      : ∀ i < 16, ∀ j < 16,
          "0123456789abcdef".toList.getD i '0' = "0123456789abcdef".toList.getD j '0' → i = j := by
    decide
  exact digits _ (Nat.mod_lt _ (by decide)) _ (Nat.mod_lt _ (by decide)) same

/-- An id that ends in a number. -/
def numberedUuid (number : Nat) : Uuid :=
  Uuid.fromBytes fun index =>
    if index.val = 14 then UInt8.ofNat (number / 256)
    else if index.val = 15 then UInt8.ofNat number
    else 0

theorem numberedUuid_injective {left right : Nat} (hl : left < 65536) (hr : right < 65536)
    (same : numberedUuid left = numberedUuid right)
    : left = right := by
  have texts := congrArg Uuid.text same
  simp only [numberedUuid, Uuid.fromBytes, String.ofList_inj] at texts
  have digits := congrArg (List.drop 32) texts
  have indexes : List.finRange 16 = [0, 1, 2, 3, 4, 5, 6, 7, 8, 9, 10, 11, 12, 13, 14, 15] := by
    decide
  simp [uuidChars, indexes, hexByte] at digits
  obtain ⟨first, second, third, fourth⟩ := digits
  have first := hexDigit_injective first
  have second := hexDigit_injective second
  have third := hexDigit_injective third
  have fourth := hexDigit_injective fourth
  omega

theorem asI64_injective : Function.Injective asI64 := by
  intro left right same
  have words : left.toInt64 = right.toInt64 := Int64.toInt_inj.mp same
  simpa using congrArg Int64.toUInt64 words

/-- The sequence numbers of a source keep the low half of the index. -/
theorem providerSourceEventSeq_low (sourceId : Uuid) (index : UInt64)
    : providerSourceEventSeq sourceId index &&& 0xffffffff = index &&& 0xffffffff := by
  have mask : ∀ k (hk : k < 64), (4294967295#64)[k] = decide (k < 32) := by decide
  unfold providerSourceEventSeq
  apply UInt64.eq_of_toBitVec_eq
  ext k hk
  by_cases low : k < 32
  · simp [mask k hk, low]
  · simp [mask k hk, low]

theorem numberedUuid_lead (number : Nat)
    : (numberedUuid number).text.toList.take 8 = "00000000".toList := by
  have indexes : List.finRange 16 = [0, 1, 2, 3, 4, 5, 6, 7, 8, 9, 10, 11, 12, 13, 14, 15] := by
    decide
  simp [numberedUuid, Uuid.fromBytes, uuidChars, indexes, hexByte, hexDigit]

/-- The indexes whose numbers are tried for an event with index 2 ^ 32. -/
def takenIndex (position : Nat) : UInt64 :=
  if position = 1024 then 0x00080000 else UInt64.ofNat position

theorem takenIndex_injective {left right : Nat} (hl : left < 1025) (hr : right < 1025)
    (same : takenIndex left &&& 0xffffffff = takenIndex right &&& 0xffffffff)
    : left = right := by
  have low (position : Nat) (small : position < 1025)
      : (takenIndex position &&& 0xffffffff).toNat
        = if position = 1024 then 524288 else position := by
    unfold takenIndex
    split
    next => rfl
    next =>
        rw [UInt64.toNat_and, show (0xffffffff : UInt64).toNat = 2 ^ 32 - 1 from rfl,
          Nat.and_two_pow_sub_one_eq_mod, UInt64.toNat_ofNat']
        omega
  have numbers := congrArg UInt64.toNat same
  rw [low left hl, low right hr] at numbers
  split at numbers <;> split at numbers <;> omega

/-- An event that takes a sequence number. -/
def takenRow (sourceId : Uuid) (position : Nat) : EventRow where
  id := numberedUuid position
  seq := asI64 (providerSourceEventSeq sourceId (takenIndex position))
  historyRecordId := none
  sessionId := none
  runId := none
  eventType := .message
  role := none
  occurredAtMs := 0
  captureSourceId := none
  payloadJson := "\x7b\x7d"
  payloadBlobId := none
  dedupeKey := none
  visibility := .localOnly
  fidelity := .imported
  syncState := .localOnly
  syncVersion := 0
  deletedAtMs := none
  metadataJson := "\x7b\x7d"

/-- Events that take 1025 sequence numbers of a source. -/
def takenEvents (sourceId : Uuid) : Store.EventTable where
  rows := (List.range 1025).map (takenRow sourceId)
  distinct := by
    refine List.pairwise_map.mpr (List.Pairwise.imp_of_mem ?_ List.nodup_range)
    intro left right hl hr different clash
    have hl := List.mem_range.mp hl
    have hr := List.mem_range.mp hr
    rcases clash with id | seq | ⟨keyed, _⟩
    · exact different (numberedUuid_injective (by omega) (by omega) id)
    · have numbers := asI64_injective seq
      have low := congrArg (· &&& 0xffffffff) numbers
      simp only [providerSourceEventSeq_low] at low
      exact different (takenIndex_injective hl hr low)
    · cases keyed

/-- A message whose index is 2 ^ 32. -/
def farMessage : ProviderCaptureEnvelope :=
  sessionCapture .codex "a" none none (messageEvent 4294967296 "h1")

/-- A store whose events take the numbers that are tried for the message. -/
def crowdedStore : ImportStore :=
  { ImportStore.empty with events := takenEvents farMessage.sourceId }

/-- The state in which an import of the message into the store gets to it. -/
def crowdedState : ImportState := (initialState crowdedStore {}).begun true

theorem mem_crowdedStore {row : EventRow}
    : row ∈ crowdedStore.events.rows
      ↔ ∃ position < 1025, takenRow farMessage.sourceId position = row := by
  unfold crowdedStore
  simp only [takenEvents, List.mem_map, List.mem_range]

theorem crowdedStore_taken
    : ∀ seq ∈ triedSequenceNumbers farMessage.sourceId 4294967296 4294967296,
        ¬ SeqFree crowdedStore seq := by
  have taken
      : ∀ candidate ∈ 4294967296 :: sequenceCandidates 4294967296 4294967296,
          ∃ position < 1025, takenIndex position &&& 0xffffffff = candidate &&& 0xffffffff := by
    intro candidate member
    rcases List.mem_cons.mp member with rfl | member
    · exact ⟨0, by decide, by decide⟩
    · rcases List.mem_append.mp member with fixed | salted
      · simp only [List.mem_cons, List.not_mem_nil, or_false] at fixed
        rcases fixed with rfl | rfl | rfl
        · exact ⟨1024, by decide, by decide⟩
        · exact ⟨0, by decide, by decide⟩
        · exact ⟨1024, by decide, by decide⟩
      · obtain ⟨salt, inside, rfl⟩ := List.mem_map.mp salted
        have bound := List.mem_range'_1.mp inside
        have masked
            : ∀ salt ∈ List.range' 1 1023,
                takenIndex salt &&& 0xffffffff
                  = ((4294967296 + UInt64.ofNat salt) &&& 0x000fffff) &&& 0xffffffff := by
          decide +kernel
        exact ⟨salt, by omega, masked salt inside⟩
  intro seq tried free
  obtain ⟨candidate, member, rfl⟩ := List.mem_map.mp tried
  obtain ⟨position, bound, low⟩ := taken candidate member
  refine free _ (mem_crowdedStore.mpr ⟨position, bound, rfl⟩) ?_
  simp only [takenRow, providerSourceEventSeq, low]

/-- Where there are no aliases, an import finds the identity that it looks for. -/
theorem storedUnder_eq_self {store : ImportStore} {searched found : ProviderEventImportIdentity}
    (unaliased : store.eventAliases = []) (search : storedUnder store searched = some found)
    : found = searched := by
  have none : providerEventIdentityByAlias store searched.id = none := by
    simp [providerEventIdentityByAlias, ImportStore.eventAliasTargetId, unaliased]
  unfold storedUnder at search
  rw [none] at search
  split at search
  next => exact (Option.some.inj search).symm
  next =>
      dsimp only at search
      split at search
      next => exact (Option.some.inj search).symm
      next => cases search

/-- Where there are no aliases, an event's id is that of its source, or the legacy one. -/
theorem importIdentity_id {store : ImportStore} (unaliased : store.eventAliases = [])
    (provider : CaptureProvider) (providerSessionId eventHash : String) (sourceId : Uuid)
    (providerEventIndex providerEventSequenceIndex : UInt64) (allowLegacy : Bool)
    : (providerEventImportIdentity store provider providerSessionId sourceId providerEventIndex
        providerEventSequenceIndex eventHash none allowLegacy).id
      ∈ [providerSourceEventUuid sourceId providerEventIndex,
          providerEventUuid provider providerSessionId providerEventIndex] := by
  have own := (avoided_id_key store
    (providerSourceEventImportIdentityWithSeq sourceId providerEventIndex
      providerEventSequenceIndex eventHash)
    sourceId providerEventIndex providerEventSequenceIndex).1
  unfold providerEventImportIdentity
  dsimp only
  generalize search : List.findSome? (storedUnder store) _ = found
  cases found with
  | none =>
      rw [Option.getD_none, own]
      exact List.mem_cons_self
  | some found =>
      obtain ⟨searched, member, stored⟩ := List.exists_of_findSome?_eq_some search
      obtain rfl := storedUnder_eq_self unaliased stored
      rw [Option.getD_some]
      rcases List.mem_cons.mp member with rfl | legacy
      · rw [own]
        exact List.mem_cons_self
      · split at legacy
        next =>
            obtain rfl := List.mem_singleton.mp legacy
            exact List.mem_cons_of_mem _ List.mem_cons_self
        next => cases legacy

/-- The message is to be stored without a run. -/
theorem farMessage_prepared
    : ∃ counts event mid,
        perform (prepareCapture epochExternals none farMessage 1) crowdedState
          = (.ok (counts, some (none, event)), mid) := by
  have prepares
      : preparesEvent epochExternals none crowdedState (1, farMessage) (fun _ _ => true) = true := by
    decide +kernel
  obtain ⟨counts, event, mid, prepared, -⟩ := exists_of_preparesEvent prepares
  exact ⟨counts, event, mid, prepared⟩

/-- The message is new to the store, and its number is taken. -/
theorem farMessage_unstored {counts : ProviderImportSummary} {event : Event} {mid : ImportState}
    (prepared
      : perform (prepareCapture epochExternals none farMessage 1) crowdedState
        = (.ok (counts, some (none, event)), mid))
    : Unstored mid.store event ∧ ¬ SeqFree mid.store event.seq ∧ mid.store.events = crowdedStore.events
      := by
  obtain ⟨events, aliases, _, envelope, sessionId, identity, content, record, chosen⟩ :=
    prepareCapture_identity (entriesStored_initial _ _ _) prepared
  obtain rfl : messageEvent 4294967296 "h1" = envelope := Option.some.inj content
  have id : event.id = identity.id := congrArg Event.id record
  have named : event.dedupeKey = some identity.dedupeKey := congrArg Event.dedupeKey record
  have numbered : event.seq = identity.seq := congrArg Event.seq record
  have chosen
      : identity
        = captureEventIdentity mid.store farMessage (messageEvent 4294967296 "h1") sessionId := by
    rcases chosen with chosen | ⟨isPi, _⟩
    · exact chosen
    · cases isPi
  have ids
      : event.id ∈ [providerSourceEventUuid farMessage.sourceId 4294967296,
          providerEventUuid .codex "a" 4294967296] := by
    rw [id, chosen]
    exact importIdentity_id aliases .codex "a" "h1" farMessage.sourceId 4294967296 4294967296 _
  have digits
      : ∀ id ∈ [providerSourceEventUuid farMessage.sourceId 4294967296,
          providerEventUuid .codex "a" 4294967296],
          id.text.toList.take 8 ≠ "00000000".toList := by
    decide +kernel
  have unstored : Unstored crowdedStore event := by
    refine ⟨fun held member => ?_, fun held member same => ?_, rfl⟩
    · obtain ⟨position, _, rfl⟩ := mem_crowdedStore.mp member
      rw [named]
      simp [takenRow]
    · obtain ⟨position, _, rfl⟩ := mem_crowdedStore.mp member
      exact digits event.id ids (same ▸ numberedUuid_lead position)
  have unstored' : Unstored mid.store event := unstored.congr events aliases
  refine ⟨unstored', fun free => ?_, events⟩
  rw [numbered] at free
  obtain ⟨seq, tried, free⟩ := (unstored'.captureIdentity chosen named id).2.mp free
  refine crowdedStore_taken seq tried ?_
  unfold SeqFree at free
  rwa [events] at free

/-- An import of a new message can succeed without storing it: it counts the message as skipped,
where 1025 events of its source take all the numbers that are tried.
-/
theorem farMessage_lost
    : ∃ counts event mid summary final,
        perform (prepareCapture epochExternals none farMessage 1) crowdedState
          = (.ok (counts, some (none, event)), mid)
        ∧ Unstored mid.store event
        ∧ perform (importProviderCaptureLine epochExternals adapterOptions farMessage 1) crowdedState
          = (.ok summary, final)
        ∧ summary = counts.mergeFrom { skippedEvents := 1, skipped := 1, acceptedContentRecords := 1 }
        ∧ event.row ∉ final.store.events.rows := by
  obtain ⟨counts, event, mid, prepared⟩ := farMessage_prepared
  obtain ⟨unstored, taken, events⟩ := farMessage_unstored prepared
  obtain ⟨_, named, legal⟩ := prepared_event prepared
  have keys : mid.store.database.dedupeKeys = [] := by
    unfold Store.Database.dedupeKeys ImportStore.database
    rw [List.filterMap_eq_nil_iff]
    intro held member
    rw [events] at member
    obtain ⟨position, _, rfl⟩ := mem_crowdedStore.mp member
    rfl
  have clash : ∃ held ∈ mid.store.events.rows, EventRow.Clash held event.row := by
    have notFree := mt unstored.free_iff.mp taken
    simpa using notFree
  have stored
      : perform (storeEvent epochExternals true none event) mid = (.ok true, mid) := by
    unfold storeEvent
    rw [if_pos rfl, perform_insertEventFast_none, insertEventIfAbsent_clash clash,
      rejectConflictingKey_of_no_keys keys]
    rfl
  refine ⟨counts, event, mid, _, mid, prepared, unstored, ?_, rfl, unstored.not_mem⟩
  have fast : adapterOptions.fastEventInserts = true := rfl
  rw [perform_importProviderCaptureLine adapterOptions prepared, fast, stored]
  rfl

end CtxRemote.Capture
