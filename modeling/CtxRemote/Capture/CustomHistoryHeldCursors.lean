import CtxRemote.Capture.CustomHistoryCursors

/-! Which cursors of a stream's records have to be stored already, for an import that does not accept
the whole stream to leave the sync cursors as they were.
-/

namespace CtxRemote.Capture

-----------------------------------------------------------------------------------------
-- Cursors that rows hold
-----------------------------------------------------------------------------------------

/-- There is a row with the cursor's name, and such rows have its value and its times. -/
def SyncCursor.HeldIn (cursor : SyncCursor) (rows : List SyncCursor) : Prop :=
  (∃ held ∈ rows, held.name = cursor.name)
  ∧ ∀ held ∈ rows,
      held.name = cursor.name
      → held.cursor = cursor.cursor ∧ held.lastSyncedAtMs = cursor.lastSyncedAtMs
        ∧ held.updatedAtMs = cursor.updatedAtMs

instance (cursor : SyncCursor) (rows : List SyncCursor) : Decidable (cursor.HeldIn rows) :=
  inferInstanceAs (Decidable (_ ∧ _))

/-- A row with the cursor's id has its name. -/
def SyncCursor.IdFits (cursor : SyncCursor) (rows : List SyncCursor) : Prop :=
  ∀ held ∈ rows, held.id = cursor.id → held.name = cursor.name

theorem SyncCursor.heldIn_iff_rowsNamed {cursor : SyncCursor} {rows : List SyncCursor}
    : cursor.HeldIn rows
      ↔ rowsNamed cursor.name rows ≠ []
        ∧ ∀ held ∈ rowsNamed cursor.name rows,
            held.cursor = cursor.cursor ∧ held.lastSyncedAtMs = cursor.lastSyncedAtMs
              ∧ held.updatedAtMs = cursor.updatedAtMs := by
  have some : rowsNamed cursor.name rows ≠ [] ↔ ∃ held ∈ rows, held.name = cursor.name := by
    simp [rowsNamed, List.filter_eq_nil_iff]
  rw [some]
  simp [SyncCursor.HeldIn, rowsNamed]

namespace ImportStore

variable {store next : ImportStore} {cursor : SyncCursor}

/-- An upsert of a cursor that is held changes nothing. -/
theorem upsertSyncCursor_of_heldIn (held : cursor.HeldIn store.syncCursors)
    : store.upsertSyncCursor cursor = .ok store := by
  obtain ⟨⟨row, member, named⟩, fixed⟩ := held
  have named' (row : SyncCursor)
      : (row.teamId = cursor.teamId && row.deviceId = cursor.deviceId && row.stream = cursor.stream)
          = decide (row.name = cursor.name) := by
    simp [SyncCursor.name, Bool.decide_and, Bool.and_assoc]
  unfold upsertSyncCursor
  simp only [named']
  rw [if_pos (List.any_eq_true.mpr ⟨row, member, decide_eq_true named⟩)]
  refine congrArg Except.ok ?_
  have same
      : (store.syncCursors.map fun row =>
            if decide (row.name = cursor.name) = true then
              { row with
                cursor := cursor.cursor
                lastSyncedAtMs := cursor.lastSyncedAtMs
                updatedAtMs := cursor.updatedAtMs }
            else row)
          = store.syncCursors := by
    refine (List.map_congr_left fun row member => ?_).trans (List.map_id' _)
    split
    next here =>
      obtain ⟨value, synced, updated⟩ := fixed row member (of_decide_eq_true here)
      rw [← value, ← synced, ← updated]
    next => rfl
  rw [same]

/-- A cursor is held once it has been written. -/
theorem heldIn_upsertSyncCursor (written : store.upsertSyncCursor cursor = .ok next)
    : cursor.HeldIn next.syncCursors := by
  rcases upsertSyncCursor_cases written with ⟨⟨row, member, named⟩, same⟩ | ⟨missing, same⟩
  · rw [same]
    refine ⟨⟨_, List.mem_map_of_mem member, (name_advanced _ _).trans named⟩, fun held inside here => ?_⟩
    obtain ⟨row, -, rfl⟩ := List.mem_map.mp inside
    rw [name_advanced] at here
    simp [SyncCursor.advanced, here]
  · rw [same]
    refine ⟨⟨cursor, by simp, rfl⟩, fun held inside here => ?_⟩
    rcases List.mem_append.mp inside with old | new
    · exact absurd here (missing held old)
    · obtain rfl := List.mem_singleton.mp new
      exact ⟨rfl, rfl, rfl⟩

/-- A cursor whose id no row of another name has can be written. -/
theorem exists_upsertSyncCursor (fits : cursor.IdFits store.syncCursors)
    : ∃ next, store.upsertSyncCursor cursor = .ok next := by
  unfold upsertSyncCursor
  dsimp only
  split
  next => exact ⟨_, rfl⟩
  next missing =>
    split
    next clash =>
      obtain ⟨held, member, same⟩ := List.any_eq_true.mp clash
      refine absurd (List.any_eq_true.mpr ⟨held, member, ?_⟩) missing
      have named := fits held member (of_decide_eq_true same)
      simp only [SyncCursor.name, Prod.mk.injEq] at named
      simp [named]
    next => exact ⟨_, rfl⟩

/-- A write that leaves the rows leaves the store. -/
theorem eq_of_upsertSyncCursor (written : store.upsertSyncCursor cursor = .ok next)
    (same : next.syncCursors = store.syncCursors)
    : next = store := by
  unfold upsertSyncCursor at written
  dsimp only at written
  split at written
  · obtain rfl := Except.ok.inj written
    dsimp only at same
    rw [same]
  · split at written
    · cases written
    · obtain rfl := Except.ok.inj written
      dsimp only at same
      rw [same]

end ImportStore

namespace CustomHistory
open CtxRemote.Library hiding Returns
open CtxRemote.Library.Interruptible
open CtxRemote.Store (Uuid StoreError)
open CtxRemote.Sync (ProviderImportSummary)

-----------------------------------------------------------------------------------------
-- Loops over cursors
-----------------------------------------------------------------------------------------

section Loops

theorem prefix_dropLast {α : Type} {taken whole : List α} (before : taken <+: whole) (short : taken ≠ whole)
    : taken <+: whole.dropLast := by
  obtain ⟨rest, rfl⟩ := before
  have some : rest ≠ [] := fun none => short (by simp [none])
  rw [List.dropLast_append_of_ne_nil some]
  exact List.prefix_append _ _

variable {store final : ImportStore} {cursor : SyncCursor} {cursors : List SyncCursor}

theorem storeCursors_cons
    : storeCursors (cursor :: cursors) store = some final
      ↔ ∃ next, store.upsertSyncCursor cursor = .ok next ∧ storeCursors cursors next = some final := by
  rw [storeCursors]
  cases written : store.upsertSyncCursor cursor <;> simp [Except.toOption]

theorem storeCursors_of_heldIn (held : ∀ cursor ∈ cursors, cursor.HeldIn store.syncCursors)
    : storeCursors cursors store = some store := by
  induction cursors with
  | nil => rfl
  | cons cursor cursors ih =>
      obtain ⟨here, later⟩ := List.forall_mem_cons.mp held
      exact storeCursors_cons.mpr ⟨store, ImportStore.upsertSyncCursor_of_heldIn here, ih later⟩

/-- Cursors leave the rows with other names. -/
theorem rowsNamed_storeCursors {name : Option String × String × String}
    (ran : storeCursors cursors store = some final) (others : ∀ cursor ∈ cursors, cursor.name ≠ name)
    : rowsNamed name final.syncCursors = rowsNamed name store.syncCursors := by
  induction cursors generalizing store with
  | nil => rw [Option.some.inj ran]
  | cons cursor cursors ih =>
      obtain ⟨here, later⟩ := List.forall_mem_cons.mp others
      obtain ⟨next, written, rest⟩ := storeCursors_cons.mp ran
      exact (ih rest later).trans (ImportStore.rowsNamed_upsertSyncCursor written here)

/-- Cursors with distinct names are all held once they have been written. -/
theorem heldIn_storeCursors (distinct : (cursors.map SyncCursor.name).Nodup)
    (ran : storeCursors cursors store = some final)
    : ∀ cursor ∈ cursors, cursor.HeldIn final.syncCursors := by
  induction cursors generalizing store with
  | nil => simp
  | cons cursor cursors ih =>
      obtain ⟨next, written, rest⟩ := storeCursors_cons.mp ran
      rw [List.map_cons, List.nodup_cons] at distinct
      refine List.forall_mem_cons.mpr ⟨?_, ih distinct.2 rest⟩
      have held := ImportStore.heldIn_upsertSyncCursor written
      rw [SyncCursor.heldIn_iff_rowsNamed] at held ⊢
      rwa [rowsNamed_storeCursors rest fun other member same =>
        distinct.1 (List.mem_map.mpr ⟨other, member, same⟩)]

/-- Cursors with distinct ids that no row of another name has can all be written. -/
theorem exists_storeCursors (ids : (cursors.map (·.id)).Nodup)
    (fits : ∀ cursor ∈ cursors, cursor.IdFits store.syncCursors)
    : ∃ final, storeCursors cursors store = some final := by
  induction cursors generalizing store with
  | nil => exact ⟨store, rfl⟩
  | cons cursor cursors ih =>
      obtain ⟨here, later⟩ := List.forall_mem_cons.mp fits
      rw [List.map_cons, List.nodup_cons] at ids
      obtain ⟨next, written⟩ := ImportStore.exists_upsertSyncCursor here
      have still : ∀ other ∈ cursors, other.IdFits next.syncCursors := by
        intro other member held inside same
        rcases ImportStore.upsertSyncCursor_cases written with ⟨-, rows⟩ | ⟨-, rows⟩
        · rw [rows] at inside
          obtain ⟨row, old, rfl⟩ := List.mem_map.mp inside
          rw [ImportStore.name_advanced]
          refine later other member row old (Eq.trans ?_ same)
          unfold SyncCursor.advanced
          split <;> rfl
        · rw [rows] at inside
          rcases List.mem_append.mp inside with old | new
          · exact later other member held old same
          · obtain rfl := List.mem_singleton.mp new
            exact absurd (List.mem_map.mpr ⟨other, member, same.symm⟩) ids.1
      obtain ⟨final, rest⟩ := ih ids.2 still
      exact ⟨final, storeCursors_cons.mpr ⟨next, written, rest⟩⟩

/-- Cursors of which every prefix leaves the rows are held. Witness: by induction on the cursors, each
of which is written to the store as it was.
-/
theorem heldIn_of_prefixes (fits : ∀ cursor ∈ cursors, cursor.IdFits store.syncCursors)
    (kept
      : ∀ stored, stored <+: cursors → ∀ next, storeCursors stored store = some next
        → next.syncCursors = store.syncCursors)
    : ∀ cursor ∈ cursors, cursor.HeldIn store.syncCursors := by
  induction cursors with
  | nil => simp
  | cons cursor cursors ih =>
      obtain ⟨here, later⟩ := List.forall_mem_cons.mp fits
      obtain ⟨next, written⟩ := ImportStore.exists_upsertSyncCursor here
      have first := kept [cursor] (by simp) next (storeCursors_cons.mpr ⟨next, written, rfl⟩)
      obtain rfl := ImportStore.eq_of_upsertSyncCursor written first
      refine List.forall_mem_cons.mpr ⟨ImportStore.heldIn_upsertSyncCursor written, ?_⟩
      refine ih later fun stored before last ran => ?_
      exact kept (cursor :: stored) ((List.prefix_cons_inj cursor).mpr before) last
        (storeCursors_cons.mpr ⟨_, written, ran⟩)

theorem mergeFrom_empty (summary : ProviderImportSummary) : summary.mergeFrom {} = summary := by
  simp [ProviderImportSummary.mergeFrom]

theorem summary_prepared (state : ImportState) (unitBytes : Nat)
    : (state.prepared unitBytes).summary = state.summary := by
  unfold ImportState.prepared
  dsimp only
  split <;> rfl

theorem summary_recorded (state : ImportState) (unitBytes : Nat)
    : (state.recorded unitBytes).summary = state.summary := by
  unfold ImportState.recorded
  dsimp only
  split
  · split <;> rfl
  · rfl

/-- The loop over cursors does what their writes do to the store, and counts nothing. -/
theorem perform_importCursors (externals : Externals) {state : ImportState}
    (ran : storeCursors cursors state.store = some final)
    : ∃ last, perform (importCursors externals cursors) state = (.ok (), last) ∧ last.store = final
        ∧ last.summary = state.summary := by
  induction cursors generalizing state with
  | nil => exact ⟨state, rfl, Option.some.inj ran, rfl⟩
  | cons cursor cursors ih =>
      obtain ⟨next, written, rest⟩ := storeCursors_cons.mp ran
      have unit := perform_cursorUnit externals cursor state
      rw [store_prepared, written] at unit
      have stored := store_recorded
        (ImportState.counting { state.prepared (externals.cursorLength cursor) with store := next } {})
        (externals.cursorLength cursor)
      obtain ⟨last, done, here, counted⟩ := ih ((congrArg (storeCursors cursors) stored).trans rest)
      refine ⟨last, ?_, here, ?_⟩
      · rw [importCursors_cons, perform_bind, unit]
        exact done
      · rw [counted, summary_recorded, ImportState.counting, mergeFrom_empty]
        exact summary_prepared _ _

end Loops

-----------------------------------------------------------------------------------------
-- What comes before the cursors
-----------------------------------------------------------------------------------------

section Content

variable (externals : Externals) (historyRecordId : Option Uuid)

/-- The steps of an import before its cursors: the captures, the edges whose parent was missing and the
file touches.
-/
def importContent (normalization : ProviderNormalizationResult) : ImportM Unit := do
  importCaptures externals (readerOptions historyRecordId) normalization.captures
  resolvePendingProviderEdgesBatched externals
  importFilesTouched externals historyRecordId (allFilesTouched externals normalization)

/-- These steps in a store, where no operation fails. -/
def contentRun (normalization : ProviderNormalizationResult) (store : ImportStore)
    : Except CaptureError Unit × ImportState :=
  perform (importContent externals historyRecordId normalization)
    ((initialState store normalization.summary).begun
      (hasTransactions (readerOptions historyRecordId) normalization.captures
        (allFilesTouched externals normalization)))

/-- The store takes every capture and file touch of a stream of which no record has been rejected. -/
def TakesContent (normalization : ProviderNormalizationResult) (store : ImportStore) : Prop :=
  ∃ state, contentRun externals historyRecordId normalization store = (.ok (), state)
    ∧ state.summary.failed = 0

/-- The store takes every edge too. -/
def TakesStream (normalization : Normalization) (store : ImportStore) : Prop :=
  ∃ state counted, contentRun externals historyRecordId normalization.provider store = (.ok (), state)
    ∧ (importEdgesClean historyRecordId normalization.edges state.summary state.store).1 = .ok counted
    ∧ counted.failed = 0

variable {externals historyRecordId} {normalization : ProviderNormalizationResult} {store : ImportStore}

/-- The steps before the cursors leave the cursors, also where they stop at an error. -/
theorem ends_contentRun (normalization : ProviderNormalizationResult) (store : ImportStore)
    : Ends (importContent externals historyRecordId normalization)
        ((initialState store normalization.summary).begun
          (hasTransactions (readerOptions historyRecordId) normalization.captures
            (allFilesTouched externals normalization)))
        (fun _ => Leaving store.syncCursors) fun _ => Leaving store.syncCursors := by
  by_cases work
      : hasTransactions (readerOptions historyRecordId) normalization.captures
          (allFilesTouched externals normalization) = true
  · have begun : Resting id store.syncCursors ((initialState store normalization.summary).begun true) :=
      ⟨rfl, rfl, rfl⟩
    have captured
        : Ends (importCaptures externals (readerOptions historyRecordId) normalization.captures)
            ((initialState store normalization.summary).begun true)
            (fun _ => Resting id store.syncCursors) fun _ => Leaving store.syncCursors :=
      Tracks.ends begun.importCaptures.1 (.forM fun _ _ => follows_importUnitFaulty _ _ _)
        fun _ => begun.importCaptures.2
    rw [work]
    refine captured.bind fun _ second resting => ?_
    have resolved
        : Ends (resolvePendingProviderEdgesBatched externals) second
            (fun _ => Resting id store.syncCursors) fun _ => Leaving store.syncCursors :=
      Tracks.ends resting.resolveEdges.1 (follows_resolvePendingProviderEdgesFaulty externals)
        fun _ => resting.resolveEdges.2
    refine resolved.bind fun _ third resting => ?_
    have files := @Resting.importFiles externals (readerOptions historyRecordId) third _
      (allFilesTouched externals normalization) resting
    exact Tracks.ends files.1 (.forM fun _ _ => follows_importUnitFaulty _ _ _)
      fun _ last ran => (files.2 last ran).stored
  · have none
        : normalization.captures = [] ∧ allFilesTouched externals normalization = [] := by
      simpa [hasTransactions, readerOptions] using work
    unfold importContent
    rw [none.1, none.2]
    generalize begun : (initialState store normalization.summary).begun _ = state
    have captured
        : Ends (importCaptures externals (readerOptions historyRecordId) []) state (fun _ => Eq state)
            fun _ => Leaving store.syncCursors :=
      rfl
    refine captured.bind fun _ second same => ?_
    subst second begun
    have resolved
        : Ends (resolvePendingProviderEdgesBatched externals)
            ((initialState store normalization.summary).begun
              (hasTransactions (readerOptions historyRecordId) [] []))
            (fun _ => Leaving store.syncCursors) fun _ => Leaving store.syncCursors := by
      unfold Ends
      rw [perform_resolveEdges_nil rfl]
      rfl
    exact resolved.bind fun _ third left => left

theorem syncCursors_of_contentRun {result : Except CaptureError Unit} {state : ImportState}
    (ran : contentRun externals historyRecordId normalization store = (result, state))
    : state.store.syncCursors = store.syncCursors := by
  cases result with
  | ok value => exact (ends_contentRun normalization store).of_ok ran
  | error error => exact (ends_contentRun normalization store).of_error ran

/-- The import of a stream's captures is what comes before the cursors, the cursors and the commit. -/
theorem perform_persist (externals : Externals) (historyRecordId : Option Uuid)
    (normalization : ProviderNormalizationResult) (store : ImportStore)
    : perform
          (persistProviderCaptureLines externals (readerOptions historyRecordId) normalization.captures
            (allFilesTouched externals normalization))
          (initialState store normalization.summary)
      = match contentRun externals historyRecordId normalization store with
        | (.ok _, middle) =>
            perform
              (do
                if (← get).summary.failed = 0 then
                  importCursors externals
                    (cursorsToPersist (readerOptions historyRecordId) normalization.captures
                      normalization.summary)
                commit
                return (← get).summary)
              middle
        | (.error error, middle) => (.error error, middle) := by
  rw [perform_persistProviderCaptureLines]
  unfold contentRun importContent
  rw [perform_bind]
  generalize perform (importCaptures _ _ _) _ = captured
  obtain ⟨_ | _, second⟩ := captured
  · rfl
  · dsimp only
    have same : (readerOptions historyRecordId).historyRecordId = historyRecordId := rfl
    unfold finishImport
    rw [same, perform_bind, perform_bind]
    generalize perform (resolvePendingProviderEdgesBatched _) _ = resolved
    obtain ⟨_ | _, third⟩ := resolved
    · rfl
    · dsimp only
      rw [perform_bind]
      generalize perform (importFilesTouched _ _ _) _ = files
      obtain ⟨_ | _, last⟩ := files <;> rfl

section Imports

variable {state : ImportState} {final : ImportStore}
  (custom : ∀ line ∈ normalization.captures, line.2.provider = .custom)
  (ran : contentRun externals historyRecordId normalization store = (.ok (), state))

include custom ran

/-- Where a capture or a file touch fails, no cursor is stored. -/
theorem importCaptures_of_failed (some : state.summary.failed ≠ 0)
    : importNormalizedProviderCaptures externals (readerOptions historyRecordId) store normalization
      = (.ok state.summary, state.store) := by
  rw [importNormalizedProviderCaptures_custom _ _ _ custom, perform_persist, ran]
  dsimp only
  rw [perform_bind, perform_get]
  dsimp only
  rw [if_neg some]
  refine Prod.ext ?_ (store_commit state)
  simp only [commit, perform_bind, perform_modify, perform_get, perform_pure]
  split <;> rfl

/-- Where all are taken, the cursors of the captures are stored. -/
theorem importCaptures_of_taken (none : state.summary.failed = 0)
    (stored
      : storeCursors
            (cursorsToPersist (readerOptions historyRecordId) normalization.captures
              normalization.summary)
            state.store
          = some final)
    : importNormalizedProviderCaptures externals (readerOptions historyRecordId) store normalization
      = (.ok state.summary, final) := by
  obtain ⟨last, ranCursors, rfl, counted⟩ := perform_importCursors externals stored
  rw [importNormalizedProviderCaptures_custom _ _ _ custom, perform_persist, ran]
  dsimp only
  rw [perform_bind, perform_get]
  dsimp only
  rw [if_pos none, perform_bind, ranCursors, ← counted]
  refine Prod.ext ?_ (store_commit last)
  simp only [commit, perform_bind, perform_modify, perform_get, perform_pure]
  split <;> rfl

/-- Where the cursors are held, the import of the captures stores none. -/
theorem importCaptures_of_held
    (held
      : normalization.summary.failed = 0 → state.summary.failed = 0
        → ∀ cursor ∈ pendingCursors normalization.captures, cursor.HeldIn store.syncCursors)
    : importNormalizedProviderCaptures externals (readerOptions historyRecordId) store normalization
      = (.ok state.summary, state.store) := by
  by_cases none : state.summary.failed = 0
  · refine importCaptures_of_taken custom ran none (storeCursors_of_heldIn fun cursor member => ?_)
    rw [syncCursors_of_contentRun ran]
    unfold cursorsToPersist at member
    split at member
    next accepted =>
      have first : normalization.summary.failed = 0 := by simpa [readerOptions] using accepted
      exact held first none cursor member
    next => exact absurd member List.not_mem_nil
  · exact importCaptures_of_failed custom ran none

end Imports

end Content

-----------------------------------------------------------------------------------------
-- When the cursors wait
-----------------------------------------------------------------------------------------

section Streams

variable (externals : Externals) (historyRecordId : Option Uuid) (lines : List (List UInt8))
  (normalization : Normalization) (store : ImportStore)

/-- The source cursors that are stored while the import may still stop: all but the last one, and that
one too where a line has been passed over as oversized.
-/
def earlySourceCursors (cursors : List SyncCursor) : List SyncCursor :=
  if lines.any isOversized then cursors else cursors.dropLast

theorem isPrefix_of_early (cursors : List SyncCursor)
    : earlySourceCursors lines cursors <+: cursors := by
  unfold earlySourceCursors
  split
  · exact List.prefix_refl _
  · exact List.dropLast_prefix _

/-- All source cursors are early only where a line has been passed over. -/
theorem oversized_of_early {lines : List (List UInt8)} {cursors : List SyncCursor} (some : cursors ≠ [])
    (whole : cursors <+: earlySourceCursors lines cursors)
    : ∃ line ∈ lines, isOversized line = true := by
  unfold earlySourceCursors at whole
  split at whole
  next passed => exact List.any_eq_true.mp passed
  next =>
    have shorter := whole.length_le
    have nonempty := List.length_pos_iff.mpr some
    rw [List.length_dropLast] at shorter
    omega

/-- The rows of the store hold every cursor that the import of a stream would store too early.

`persist_provider_capture_lines` stores the cursors of the captures where no record has been rejected
and the store takes the captures and file touches; `import_custom_history_source_cursors` stores the
early source cursors where it takes the edges too.
-/
structure CursorsHeld : Prop where
  captures
    : normalization.provider.summary.failed = 0
      → TakesContent externals historyRecordId normalization.provider store
      → ∀ cursor ∈ pendingCursors normalization.provider.captures, cursor.HeldIn store.syncCursors
  sources
    : TakesStream externals historyRecordId normalization store
      → ∀ cursor ∈ earlySourceCursors lines normalization.sourceCursors,
          cursor.HeldIn store.syncCursors

/-- No cursor of the stream has the id of a row with another name. -/
def CursorIdsFit : Prop :=
  ∀ cursor ∈ pendingCursors normalization.provider.captures ++ normalization.sourceCursors,
    cursor.IdFits store.syncCursors

section Held

variable {externals historyRecordId lines normalization store}
  (custom : ∀ line ∈ normalization.provider.captures, line.2.provider = .custom)

include custom

/-- Where the cursors are held, the import of captures leaves them, whatever it ends with. -/
theorem CursorsHeld.captured (held : CursorsHeld externals historyRecordId lines normalization store)
    : (importNormalizedProviderCaptures externals (readerOptions historyRecordId) store
          normalization.provider).2.syncCursors
        = store.syncCursors := by
  match ran : contentRun externals historyRecordId normalization.provider store with
  | (.ok (), state) =>
      rw [importCaptures_of_held custom ran fun first none => held.captures first ⟨state, ran, none⟩]
      exact syncCursors_of_contentRun ran
  | (.error error, state) =>
      rw [importNormalizedProviderCaptures_custom _ _ _ custom, perform_persist, ran]
      exact syncCursors_of_contentRun ran

/-- An import of captures that returns has taken the steps before its cursors. -/
theorem exists_contentRun {summary : ProviderImportSummary} {middle : ImportStore}
    (returned
      : importNormalizedProviderCaptures externals (readerOptions historyRecordId) store
            normalization.provider
          = (.ok summary, middle))
    : ∃ state, contentRun externals historyRecordId normalization.provider store = (.ok (), state) := by
  rw [importNormalizedProviderCaptures_custom _ _ _ custom, perform_persist] at returned
  match ran : contentRun externals historyRecordId normalization.provider store with
  | (.ok (), state) => exact ⟨state, rfl⟩
  | (.error error, state) =>
      rw [ran] at returned
      cases (Prod.mk.inj returned).1

theorem CursorsHeld.careful (held : CursorsHeld externals historyRecordId lines normalization store)
    : Careful externals historyRecordId lines store normalization where
  captures := held.captured custom
  sources summary middle counted last returned ranEdges accepted stored before skipped next wrote := by
    obtain ⟨state, ran⟩ := exists_contentRun custom returned
    have taken := importCaptures_of_held custom ran fun first none => held.captures first ⟨state, ran, none⟩
    obtain ⟨same, rfl⟩ := Prod.mk.inj (taken.symm.trans returned)
    obtain rfl := Except.ok.inj same
    have left : last.syncCursors = store.syncCursors := by
      have edges := ensures_importCustomHistoryEdges historyRecordId normalization.edges state.summary
        state.store
      have ended := edges _ (returns_importCustomHistoryEdges ranEdges)
      exact ended.2.trans (syncCursors_of_contentRun ran)
    have early : stored <+: earlySourceCursors lines normalization.sourceCursors := by
      unfold earlySourceCursors
      split
      next => exact before
      next none =>
        have short : stored ≠ normalization.sourceCursors := fun whole => by
          obtain ⟨line, member, oversized⟩ := skipped whole
          exact none (List.any_eq_true.mpr ⟨line, member, oversized⟩)
        exact prefix_dropLast before short
    have sources := held.sources ⟨state, counted, ran, congrArg Prod.fst ranEdges, accepted⟩
    have still : ∀ cursor ∈ stored, cursor.HeldIn last.syncCursors := fun cursor member => by
      rw [left]
      exact sources cursor (early.subset member)
    obtain rfl := Option.some.inj ((storeCursors_of_heldIn still).symm.trans wrote)
    exact left

theorem Careful.cursorsHeld (careful : Careful externals historyRecordId lines store normalization)
    (fits : CursorIdsFit normalization store)
    : CursorsHeld externals historyRecordId lines normalization store := by
  have captures
      : normalization.provider.summary.failed = 0
        → TakesContent externals historyRecordId normalization.provider store
        → ∀ cursor ∈ pendingCursors normalization.provider.captures,
            cursor.HeldIn store.syncCursors := by
    rintro first ⟨state, ran, none⟩
    have left := syncCursors_of_contentRun ran
    have pending
        : cursorsToPersist (readerOptions historyRecordId) normalization.provider.captures
            normalization.provider.summary
          = pendingCursors normalization.provider.captures := by
      simp [cursorsToPersist, readerOptions, first]
    have free
        : ∀ cursor ∈ pendingCursors normalization.provider.captures,
            cursor.IdFits state.store.syncCursors := by
      intro cursor member
      rw [left]
      exact fits cursor (List.mem_append_left _ member)
    obtain ⟨final, wrote⟩ := exists_storeCursors nodup_id_pendingCursors free
    have imported := importCaptures_of_taken custom ran none (pending ▸ wrote)
    have same := careful.captures
    rw [imported] at same
    rw [← same]
    exact heldIn_storeCursors (nodup_name_pendingCursors custom) wrote
  refine ⟨captures, ?_⟩
  rintro ⟨state, counted, ran, ranEdges, accepted⟩
  have returned := importCaptures_of_held custom ran fun first none => captures first ⟨state, ran, none⟩
  generalize edges : importEdgesClean historyRecordId normalization.edges state.summary state.store = ended
    at ranEdges
  obtain ⟨_, last⟩ := ended
  obtain rfl := ranEdges
  have left : last.syncCursors = store.syncCursors := by
    have edges' := ensures_importCustomHistoryEdges historyRecordId normalization.edges state.summary
      state.store
    have ended := edges' _ (returns_importCustomHistoryEdges edges)
    exact ended.2.trans (syncCursors_of_contentRun ran)
  have free
      : ∀ cursor ∈ earlySourceCursors lines normalization.sourceCursors,
          cursor.IdFits last.syncCursors := by
    intro cursor member
    rw [left]
    refine fits cursor (List.mem_append_right _ ?_)
    unfold earlySourceCursors at member
    split at member
    · exact member
    · exact List.mem_of_mem_dropLast member
  rw [← left]
  refine heldIn_of_prefixes free fun stored before next wrote => ?_
  rcases eq_or_ne stored [] with rfl | some
  · rw [Option.some.inj wrote]
  rw [left]
  refine careful.sources _ _ _ _ returned edges accepted stored ?_ ?_ next wrote
  · exact before.trans (isPrefix_of_early lines _)
  · rintro rfl
    exact oversized_of_early some before

end Held

/-- For which streams and stores the cursors wait for the whole stream: where those that would be stored
too early are held. The condition is enough for every store, and necessary where the ids of the
stream's cursors fit.
-/
theorem cursorsWait_iff (context : AdapterContext)
    (fromSlice : List UInt8 → Except String Record)
    : (CursorsHeld externals historyRecordId lines (normalize externals context fromSlice lines) store
        → CursorsWait externals context historyRecordId fromSlice lines store)
      ∧ (CursorIdsFit (normalize externals context fromSlice lines) store
        → CursorsWait externals context historyRecordId fromSlice lines store
        → CursorsHeld externals historyRecordId lines (normalize externals context fromSlice lines)
            store) :=
  ⟨fun held => (held.careful normalize_custom).cursorsWait,
    fun fits wait => (Careful.of_cursorsWait wait).cursorsHeld normalize_custom fits⟩

end Streams

-----------------------------------------------------------------------------------------
-- An example
-----------------------------------------------------------------------------------------

/-- A session with one event. -/
def greetingSession : SessionRecord where
  sourceId := "src"
  sessionId := "s1"
  nativeSessionId := none
  parentSessionId := none
  rootSessionId := none
  externalAgentId := none
  agentType := .primary
  roleHint := none
  isPrimary := false
  status := .imported
  startedAt := ⟨0⟩
  endedAt := none
  cwd := none
  fidelity := .imported
  idempotencyKey := none
  artifacts := .array []
  metadata := .object []

/-- The lines of a stream whose source has a cursor, with their records. -/
def greetingStream : List (String × Record) :=
  [("\x7b\"record_type\":\"manifest\",\"schema_version\":\"ctx-history-jsonl-v1\"\x7d\n",
      .manifest "ctx-history-jsonl-v1"),
    ("\x7b\"record_type\":\"source\",\"source_id\":\"src\",\"provider_key\":\"agent\",\"source_format\":\"v1\",\"cursor\":\x7b\"after\":\x7b\"stream\":\"s\",\"cursor\":\"7\",\"observed_at\":\"1970-01-01T00:00:00Z\"\x7d\x7d\x7d\n",
      .source
        { sourceId := "src"
          providerKey := "agent"
          sourceFormat := "v1"
          rawUri := none
          rawSourcePath := none
          fingerprint := none
          importerVersion := none
          observedAt := none
          machineId := none
          trust := .unknown
          fidelity := .imported
          cursor := some ⟨none, some ⟨"s", "7", ⟨0⟩⟩⟩
          metadata := .object [] }),
    ("\x7b\"record_type\":\"session\",\"source_id\":\"src\",\"session_id\":\"s1\",\"agent_type\":\"primary\",\"started_at\":\"1970-01-01T00:00:00Z\"\x7d\n",
      .session greetingSession),
    ("\x7b\"record_type\":\"event\",\"source_id\":\"src\",\"session_id\":\"s1\",\"event_index\":1,\"event_type\":\"message\",\"occurred_at\":\"1970-01-01T00:00:00Z\",\"payload\":\x7b\"text\":\"hi\"\x7d\x7d\n",
      .event
        { sourceId := "src"
          sessionId := "s1"
          eventIndex := 1
          eventId := none
          nativeCursor := none
          eventHash := none
          eventType := .message
          role := none
          occurredAt := ⟨0⟩
          fidelity := .imported
          idempotencyKey := none
          artifacts := .array []
          payload := .object [("text", .string "hi")]
          preview := none
          metadata := .object [] })]

/-- The parser, on the lines of a stream. -/
def parseStream (stream : List (String × Record)) (line : List UInt8) : Except String Record :=
  match stream.find? fun entry => asBytes entry.1 = line with
  | some (_, record) => .ok record
  | none => .error "expected value at line 1 column 1"

/-- The context of an import without a file. -/
def readerContext : AdapterContext := ⟨"local", none, ⟨0⟩⟩

/-- The captures of `greetingStream`. -/
def greetingCaptures : ProviderNormalizationResult :=
  (normalize epochExternals readerContext (parseStream greetingStream)
    (greetingStream.map fun entry => asBytes entry.1)).provider

/-- The store once the captures of `greetingStream` are imported. -/
def greetingStore : ImportStore :=
  (importNormalizedProviderCaptures epochExternals (readerOptions none) .empty greetingCaptures).2

/-- Importing the captures of `greetingStream` stores a cursor. -/
theorem greetingStore_cursors
    : greetingStore.syncCursors.isEmpty = false := by
  decide +kernel

/-- The source's cursor stays where the bulk mode of the event search cannot be finished. -/
theorem greetingStream_not_cursorsWait
    : ¬CursorsWait epochExternals readerContext none (parseStream greetingStream)
        (greetingStream.map fun entry => asBytes entry.1) .empty := by
  intro wait
  have careful := Careful.of_cursorsWait wait
  have stored := greetingStore_cursors
  unfold greetingStore greetingCaptures at stored
  rw [careful.captures] at stored
  cases stored

/-- `greetingStream` with a second source, which has a cursor and no session. -/
def followedStream : List (String × Record) :=
  greetingStream
    ++ [("\x7b\"record_type\":\"source\",\"source_id\":\"src2\",\"provider_key\":\"agent\",\"source_format\":\"v1\",\"cursor\":\x7b\"after\":\x7b\"stream\":\"s\",\"cursor\":\"9\",\"observed_at\":\"1970-01-01T00:00:00Z\"\x7d\x7d\x7d\n",
      .source
        { sourceId := "src2"
          providerKey := "agent"
          sourceFormat := "v1"
          rawUri := none
          rawSourcePath := none
          fingerprint := none
          importerVersion := none
          observedAt := none
          machineId := none
          trust := .unknown
          fidelity := .imported
          cursor := some ⟨none, some ⟨"s", "9", ⟨0⟩⟩⟩
          metadata := .object [] })]

/-- What the normalization of `followedStream` gives. -/
def followedNormalization : Normalization :=
  normalize epochExternals readerContext (parseStream followedStream)
    (followedStream.map fun entry => asBytes entry.1)

/-- The store holds the cursor of `followedStream`'s first source, and not that of the second one. -/
theorem followedNormalization_held
    : (pendingCursors followedNormalization.provider.captures).length = 1
      ∧ (∀ cursor ∈ pendingCursors followedNormalization.provider.captures,
          cursor.HeldIn greetingStore.syncCursors)
      ∧ (∀ cursor
            ∈ earlySourceCursors (followedStream.map fun entry => asBytes entry.1)
                followedNormalization.sourceCursors,
          cursor.HeldIn greetingStore.syncCursors)
      ∧ ¬ ∀ cursor ∈ followedNormalization.sourceCursors, cursor.HeldIn greetingStore.syncCursors := by
  decide +kernel

/-- The second source's cursor waits for the whole stream where the first one's is stored already. -/
theorem followedStream_cursorsWait
    : CursorsWait epochExternals readerContext none (parseStream followedStream)
        (followedStream.map fun entry => asBytes entry.1) greetingStore := by
  have held
      : CursorsHeld epochExternals none (followedStream.map fun entry => asBytes entry.1)
          followedNormalization greetingStore :=
    ⟨fun _ _ => followedNormalization_held.2.1, fun _ => followedNormalization_held.2.2.1⟩
  unfold followedNormalization at held
  generalize followedStream = stream at held ⊢
  generalize greetingStore = store at held ⊢
  exact (cursorsWait_iff epochExternals none _ store readerContext (parseStream stream)).1 held

end CustomHistory

end CtxRemote.Capture
