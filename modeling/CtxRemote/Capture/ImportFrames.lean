import CtxRemote.Capture.CustomHistoryImport

/-! What the units of an import leave: those of sources, sessions and edges leave the other tables,
and all but cursors leave the sync cursors and the transaction.
-/

namespace CtxRemote.Capture
open CtxRemote.Library
open CtxRemote.Store (Uuid CaptureProvider Event StoreError)
open CtxRemote.Sync (ProviderImportSummary)

-----------------------------------------------------------------------------------------
-- Statements
-----------------------------------------------------------------------------------------

namespace ImportStore

variable {store next : ImportStore}

/-- The store but for its sources, sessions and edges. -/
def besideLineage (store : ImportStore) : ImportStore :=
  { store with
    captureSources := Keyed.empty
    sessions := Keyed.empty
    sessionEdges := Keyed.empty }

theorem besideLineage_upsertSession {session : Session}
    (written : store.upsertSession session = .ok next)
    : next.besideLineage = store.besideLineage := by
  unfold upsertSession at written
  split at written
  · obtain rfl := Except.ok.inj written
    rfl
  · cases written

theorem besideLineage_upsertSessionEdge {edge : SessionEdge}
    (written : store.upsertSessionEdge edge = .ok next)
    : next.besideLineage = store.besideLineage := by
  unfold upsertSessionEdge at written
  dsimp only at written
  split at written
  · obtain rfl := Except.ok.inj written
    rfl
  · cases written

/-- What captures and edges leave of a store: the file touches and the cursors. -/
def uncaptured (store : ImportStore) : Keyed FileTouched (·.id) × List SyncCursor :=
  (store.filesTouched, store.syncCursors)

theorem uncaptured_upsertRun {run : Run} (written : store.upsertRun run = .ok next)
    : next.uncaptured = store.uncaptured := by
  unfold upsertRun at written
  split at written
  · obtain rfl := Except.ok.inj written
    rfl
  · cases written

theorem uncaptured_insertRunIfAbsent {run : Run} (written : store.insertRunIfAbsent run = .ok next)
    : next.uncaptured = store.uncaptured := by
  unfold insertRunIfAbsent at written
  split at written
  · obtain rfl := Except.ok.inj written
    rfl
  · split at written
    · obtain rfl := Except.ok.inj written
      rfl
    · cases written

theorem uncaptured_upsertEvent {externals : Store.Externals} {event : Event}
    (written : store.upsertEvent externals event = .ok next)
    : next.uncaptured = store.uncaptured := by
  unfold upsertEvent at written
  cases wrote : Store.upsertEvent externals store.database event with
  | error error => simp [wrote, Except.map] at written
  | ok result =>
      rw [wrote] at written
      obtain rfl := Except.ok.inj written
      rfl

theorem uncaptured_insertEventIfAbsent {externals : Store.Externals} {event : Event} {inserted : Bool}
    (written : store.insertEventIfAbsent externals event = .ok (inserted, next))
    : next.uncaptured = store.uncaptured := by
  unfold insertEventIfAbsent at written
  cases wrote : Store.insertEventIfAbsent externals store.database event with
  | error error => simp [wrote, Except.map] at written
  | ok result =>
      rw [wrote] at written
      obtain ⟨_, rfl⟩ := Prod.mk.inj (Except.ok.inj written)
      rfl

theorem syncCursors_upsertFileTouched {file : FileTouched}
    (written : store.upsertFileTouched file = .ok next)
    : next.syncCursors = store.syncCursors := by
  unfold upsertFileTouched at written
  dsimp only at written
  split at written
  · obtain rfl := Except.ok.inj written
    rfl
  · cases written

end ImportStore

-----------------------------------------------------------------------------------------
-- Sources, sessions and edges
-----------------------------------------------------------------------------------------

/-- The state but for the rows of sources, sessions and edges, and what the caches say of them. -/
def ImportState.besideLineage (state : ImportState) : ImportState :=
  { state with
    store := state.store.besideLineage
    caches :=
      { piEventIdentitiesByEntryId := state.caches.piEventIdentitiesByEntryId } }

/-- A program that writes sources, sessions and edges only. -/
abbrev Beside {α : Type} (program : ImportM α) : Prop := Leaves ImportState.besideLineage program

theorem beside_executeStatement {statement : ImportStore → Except StoreError ImportStore}
    (same : ∀ store next, statement store = .ok next → next.besideLineage = store.besideLineage)
    : Beside (executeStatement statement) := by
  intro state
  rw [perform_executeStatement]
  cases written : statement state.store with
  | error error => rfl
  | ok next =>
      simp only [ImportState.besideLineage, same _ _ written]

theorem beside_changeCaches {change : ProviderImportCaches → ProviderImportCaches}
    (same : ∀ caches, (change caches).piEventIdentitiesByEntryId = caches.piEventIdentitiesByEntryId)
    : Beside (changeCaches change) :=
  .modify fun state => by simp only [ImportState.besideLineage, same]

theorem beside_providerSessionExistsCached (sessionId : Uuid)
    : Beside (providerSessionExistsCached sessionId) := by
  refine .bind .get fun state => ?_
  split
  · exact .pure _
  · exact .bind (beside_changeCaches fun _ => rfl) fun _ => .pure _

theorem beside_existingSession (requested own : Option Uuid)
    : Beside (existingSession requested own) := by
  unfold existingSession
  split
  · exact .pure _
  · refine .ite (.pure _) ?_
    exact .bind (beside_providerSessionExistsCached _) fun _ => .ite (.pure _) (.pure _)

theorem beside_countEdge (edgeId : Uuid) (wasPresent : Bool)
    : Beside (countEdge edgeId wasPresent) := by
  refine .bind .get fun state => .ite ?_ (.pure _)
  exact .bind (beside_changeCaches fun _ => rfl) fun _ => .pure _

variable (externals : Externals) (historyRecordId : Option Uuid) (capture : ProviderCaptureEnvelope)
  (lineNumber : Nat)

theorem beside_importCaptureSource : Beside (importCaptureSource externals capture lineNumber) := by
  refine .bind .get fun state => .ite ?_ (.pure _)
  refine .bind (beside_changeCaches fun _ => rfl) fun _ => ?_
  refine beside_executeStatement fun store next written => ?_
  obtain rfl := Except.ok.inj written
  rfl

theorem beside_importCaptureSession (sessionId : Uuid) (parentSessionId rootSessionId : Option Uuid)
    : Beside
        (importCaptureSession externals historyRecordId capture lineNumber sessionId parentSessionId
          rootSessionId) := by
  refine .bind .get fun state => .ite (.pure _) ?_
  refine .bind (beside_changeCaches fun _ => rfl) fun _ => ?_
  refine .bind (beside_providerSessionExistsCached _) fun _ => ?_
  refine .bind (beside_executeStatement fun _ _ => ImportStore.besideLineage_upsertSession) fun _ => ?_
  refine .bind (beside_changeCaches fun _ => rfl) fun _ => .bind .get fun _ => .ite ?_ (.pure _)
  exact .bind (beside_changeCaches fun _ => rfl) fun _ => .pure _

theorem beside_importCaptureEdge (sessions : CaptureSessions) (parentSessionId : Option Uuid)
    : Beside (importCaptureEdge externals capture lineNumber sessions parentSessionId) := by
  unfold importCaptureEdge
  dsimp only
  split
  · refine .bind .get fun state => .ite (.pure _) ?_
    refine .bind (beside_changeCaches fun _ => rfl) fun _ => .bind .get fun _ => ?_
    refine .bind ?_ fun _ => beside_countEdge _ _
    exact beside_executeStatement fun _ _ => ImportStore.besideLineage_upsertSessionEdge
  · refine .bind (beside_changeCaches fun caches => ?_) fun _ => .pure _
    split <;> rfl
  · exact .pure _

theorem beside_importCaptureLineage
    : Beside (importCaptureLineage externals historyRecordId capture lineNumber) := by
  refine .bind (beside_importCaptureSource _ _ _) fun _ => .bind .get fun _ => ?_
  refine .bind (beside_existingSession _ _) fun _ => .bind (beside_existingSession _ _) fun _ => ?_
  refine .bind (beside_importCaptureSession _ _ _ _ _ _ _) fun _ => ?_
  exact .bind (beside_importCaptureEdge _ _ _ _ _) fun _ => .pure _

-----------------------------------------------------------------------------------------
-- Captures
-----------------------------------------------------------------------------------------

/-- The cursors and the transaction. -/
def ImportState.outside (state : ImportState) : List SyncCursor × ProviderImportTransaction :=
  (state.store.syncCursors, state.transaction)

/-- A program that leaves the cursors and the transaction as they are. -/
abbrev Inside {α : Type} (program : ImportM α) : Prop := Leaves ImportState.outside program

/-- Programs that write sources, sessions and edges only leave the cursors and the transaction. -/
theorem Beside.inside {α : Type} {program : ImportM α} (beside : Beside program)
    : Inside program :=
  beside.coarser ImportState.outside

/-- What captures and edges leave: the file touches, the cursors and the transaction. -/
def ImportState.uncaptured (state : ImportState)
    : (Keyed FileTouched (·.id) × List SyncCursor) × ProviderImportTransaction :=
  (state.store.uncaptured, state.transaction)

/-- A program that leaves the file touches, the cursors and the transaction. -/
abbrev Capturing {α : Type} (program : ImportM α) : Prop := Leaves ImportState.uncaptured program

theorem Beside.capturing {α : Type} {program : ImportM α} (beside : Beside program)
    : Capturing program :=
  beside.coarser ImportState.uncaptured

theorem Capturing.inside {α : Type} {program : ImportM α} (capturing : Capturing program)
    : Inside program :=
  capturing.coarser fun shown => (shown.1.2, shown.2)

theorem capturing_executeStatement {statement : ImportStore → Except StoreError ImportStore}
    (same : ∀ store next, statement store = .ok next → next.uncaptured = store.uncaptured)
    : Capturing (executeStatement statement) := by
  intro state
  rw [perform_executeStatement]
  cases written : statement state.store with
  | error error => rfl
  | ok next => exact congrArg (·, state.transaction) (same _ _ written)

theorem capturing_changeCaches (change : ProviderImportCaches → ProviderImportCaches)
    : Capturing (changeCaches change) :=
  fun _ => rfl

theorem inside_executeStatement {statement : ImportStore → Except StoreError ImportStore}
    (same : ∀ store next, statement store = .ok next → next.syncCursors = store.syncCursors)
    : Inside (executeStatement statement) := by
  intro state
  rw [perform_executeStatement]
  cases written : statement state.store with
  | error error => rfl
  | ok next => exact congrArg (·, state.transaction) (same _ _ written)

theorem capturing_piExistingEventIdentityByEntryId (provider : CaptureProvider) (sessionId : Uuid)
    (entryId : Option String)
    : Capturing (piExistingEventIdentityByEntryId externals provider sessionId entryId) := by
  unfold piExistingEventIdentityByEntryId
  split
  · exact .pure _
  · refine .ite (.pure _) (.bind .get fun state => ?_)
    split
    · exact .pure _
    · split
      · exact .throw _
      · exact .bind (capturing_changeCaches _) fun _ => .pure _

/-- A program that reads the state it starts in. -/
theorem capturing_get_bind {next : ImportState → ImportM Bool}
    (rest : ∀ state, (perform (next state) state).2.uncaptured = state.uncaptured)
    : Capturing (get >>= next) := by
  intro state
  rw [perform_bind, perform_get]
  exact rest state

theorem capturing_insertEvent (event : Event)
    : Capturing (do
        match (← get).store.insertEventIfAbsent externals.toExternals event with
        | .ok (inserted, store) => do
            modify fun state => { state with store := store }
            return !inserted
        | .error error => throw (.store error)) := by
  refine capturing_get_bind fun state => ?_
  split
  next written =>
    exact congrArg (·, state.transaction) (ImportStore.uncaptured_insertEventIfAbsent written)
  next => rfl

theorem capturing_upsertEvent (event : Event) (wasPresent : Bool)
    : Capturing (do
        match (← get).store.upsertEvent externals.toExternals event with
        | .ok store => do
            modify fun state => { state with store := store }
            return wasPresent
        | .error (.providerEventConflict _) => return true
        | .error error => throw (.store error)) := by
  refine capturing_get_bind fun state => ?_
  split
  next written => exact congrArg (·, state.transaction) (ImportStore.uncaptured_upsertEvent written)
  next => rfl
  next => rfl

theorem capturing_storeEvent (fastEventInserts : Bool) (run : Option Run) (event : Event)
    : Capturing (storeEvent externals fastEventInserts run event) := by
  refine .ite ?_ ?_
  · unfold insertEventFast
    dsimp only
    split
    · refine .bind ?_ fun _ => capturing_insertEvent externals event
      exact capturing_executeStatement fun _ _ => ImportStore.uncaptured_insertRunIfAbsent
    · exact capturing_insertEvent externals event
  · unfold upsertEventSlow
    refine .bind .get fun state => ?_
    dsimp only
    split
    · refine .bind ?_ fun _ => capturing_upsertEvent externals event _
      exact capturing_executeStatement fun _ _ => ImportStore.uncaptured_upsertRun
    · exact capturing_upsertEvent externals event _

theorem capturing_prepareEvent (event : ProviderEventEnvelope) (sessionId : Uuid)
    : Capturing (prepareEvent externals historyRecordId capture event lineNumber sessionId) := by
  refine .bind (capturing_piExistingEventIdentityByEntryId _ _ _ _) fun _ => .bind .get fun _ => ?_
  exact .bind (.liftExcept _) fun _ => .pure _

theorem capturing_prepareCapture
    : Capturing (prepareCapture externals historyRecordId capture lineNumber) := by
  refine .bind (.liftExcept _) fun _ => ?_
  refine .bind (beside_importCaptureLineage _ _ _ _).capturing fun lineage => ?_
  dsimp only
  split
  · exact .pure _
  · exact .bind (capturing_prepareEvent _ _ _ _ _ _) fun _ => .pure _

theorem capturing_importProviderCaptureLine (options : NormalizedProviderImportOptions)
    : Capturing (importProviderCaptureLine externals options capture lineNumber) := by
  refine .bind (capturing_prepareCapture _ _ _ _) fun prepared => ?_
  dsimp only
  split
  · exact .pure _
  · exact .bind (capturing_storeEvent _ _ _ _) fun _ => .pure _

-----------------------------------------------------------------------------------------
-- Edges and file touches
-----------------------------------------------------------------------------------------

theorem capturing_resolvePendingRootSessionId (edge : PendingProviderEdge)
    : Capturing (resolvePendingRootSessionId edge) := by
  refine .bind (beside_existingSession _ _).capturing fun root => ?_
  cases root <;> exact .pure _

theorem capturing_updateSessionParent (edge : PendingProviderEdge) (rootSessionId : Option Uuid)
    : Capturing (updateSessionParent edge rootSessionId) := by
  refine .bind .get fun state => ?_
  split
  · exact .throw _
  · refine .ite (.pure _) (Beside.capturing ?_)
    exact beside_executeStatement fun _ _ => ImportStore.besideLineage_upsertSession

theorem capturing_resolvePendingProviderEdge (edgeId : Uuid) (edge : PendingProviderEdge)
    : Capturing (resolvePendingProviderEdge externals edgeId edge) := by
  refine .bind .get fun state => .ite ?_ ?_
  · refine .bind (capturing_resolvePendingRootSessionId _) fun _ => ?_
    exact .bind (capturing_updateSessionParent _ _) fun _ => .pure _
  · refine .bind (beside_providerSessionExistsCached _).capturing fun _ => .ite (.pure _) ?_
    refine .bind (capturing_resolvePendingRootSessionId _) fun _ => ?_
    refine .bind (capturing_updateSessionParent _ _) fun _ => .bind (capturing_changeCaches _) fun _ => ?_
    refine .bind .get fun _ => .bind ?_ fun _ => .bind (capturing_changeCaches _) fun _ => ?_
    · exact (beside_executeStatement fun _ _ => ImportStore.besideLineage_upsertSessionEdge).capturing
    · exact (beside_countEdge _ _).capturing

theorem inside_importProviderFileTouchedLine (file : ProviderFileTouchedEnvelope)
    : Inside (importProviderFileTouchedLine historyRecordId file) := by
  refine .bind .get fun state => ?_
  exact inside_executeStatement fun _ _ => ImportStore.syncCursors_upsertFileTouched

theorem inside_importCustomHistoryEdge (line : Nat) (edge : CustomHistory.EdgeImport)
    : Inside (CustomHistory.importCustomHistoryEdge historyRecordId line edge) := by
  have ends (wasPresent : Bool)
      : Inside
          (if wasPresent then pure { skippedEdges := 1, skipped := 1, acceptedContentRecords := 1 }
          else pure { importedEdges := 1, imported := 1, acceptedContentRecords := 1 }
          : ImportM ProviderImportSummary) :=
    .ite (.pure _) (.pure _)
  refine .bind .get fun state => .ite (.pure _) ?_
  refine .bind ?_ fun _ => .ite (.bind .get fun _ => ?_) (ends _)
  · exact (beside_executeStatement fun _ _ => ImportStore.besideLineage_upsertSessionEdge).inside
  · split
    · exact .bind (.throw _) fun _ => ends _
    · refine .bind ?_ fun _ => ends _
      exact (beside_executeStatement fun _ _ => ImportStore.besideLineage_upsertSession).inside

end CtxRemote.Capture
