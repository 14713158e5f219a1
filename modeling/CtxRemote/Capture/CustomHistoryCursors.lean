import CtxRemote.Capture.CustomHistoryRuns

/-! For which streams and stores an import that does not accept the whole stream leaves the sync
cursors as they were, at whatever step it stops.
-/

namespace CtxRemote.Capture

-----------------------------------------------------------------------------------------
-- Cursors and their names
-----------------------------------------------------------------------------------------

/-- The columns that are unique among sync cursors. -/
def SyncCursor.name (cursor : SyncCursor) : Option String × String × String :=
  (cursor.teamId, cursor.deviceId, cursor.stream)

/-- The rows with a name. -/
def rowsNamed (name : Option String × String × String) (cursors : List SyncCursor) : List SyncCursor :=
  cursors.filter (·.name = name)

/-- The row that an upsert leaves of a row with the cursor's name. -/
def SyncCursor.advanced (cursor held : SyncCursor) : SyncCursor :=
  if held.name = cursor.name then
    { held with
      cursor := cursor.cursor
      lastSyncedAtMs := cursor.lastSyncedAtMs
      updatedAtMs := cursor.updatedAtMs }
  else held

namespace ImportStore

variable {store next : ImportStore} {cursor : SyncCursor}

/-- An upsert that succeeds advances the row with the cursor's name, or adds the cursor. -/
theorem upsertSyncCursor_cases (written : store.upsertSyncCursor cursor = .ok next)
    : ((∃ held ∈ store.syncCursors, held.name = cursor.name)
        ∧ next.syncCursors = store.syncCursors.map cursor.advanced)
      ∨ (∀ held ∈ store.syncCursors, held.name ≠ cursor.name)
        ∧ next.syncCursors = store.syncCursors ++ [cursor] := by
  have named (held : SyncCursor)
      : (held.teamId = cursor.teamId && held.deviceId = cursor.deviceId && held.stream = cursor.stream)
          = decide (held.name = cursor.name) := by
    simp [SyncCursor.name, Bool.decide_and, Bool.and_assoc]
  unfold upsertSyncCursor at written
  simp only [named] at written
  split at written
  next found =>
    obtain rfl := Except.ok.inj written
    obtain ⟨held, member, same⟩ := List.any_eq_true.mp found
    refine .inl ⟨⟨held, member, of_decide_eq_true same⟩, ?_⟩
    exact List.map_congr_left fun row _ => by simp [SyncCursor.advanced]
  next missing =>
    split at written
    · cases written
    · obtain rfl := Except.ok.inj written
      refine .inr ⟨fun held member same => missing ?_, rfl⟩
      exact List.any_eq_true.mpr ⟨held, member, decide_eq_true same⟩

theorem name_advanced (cursor held : SyncCursor) : (cursor.advanced held).name = held.name := by
  unfold SyncCursor.advanced
  split <;> rfl

theorem rowsNamed_map_advanced (name : Option String × String × String) (cursor : SyncCursor)
    (rows : List SyncCursor)
    : rowsNamed name (rows.map cursor.advanced) = (rowsNamed name rows).map cursor.advanced := by
  unfold rowsNamed
  rw [List.filter_map]
  refine congrArg _ (List.filter_congr fun held _ => ?_)
  simp [name_advanced]

/-- An upsert leaves the rows with other names. -/
theorem rowsNamed_upsertSyncCursor {name : Option String × String × String}
    (written : store.upsertSyncCursor cursor = .ok next) (other : cursor.name ≠ name)
    : rowsNamed name next.syncCursors = rowsNamed name store.syncCursors := by
  rcases upsertSyncCursor_cases written with ⟨-, same⟩ | ⟨-, same⟩
  · rw [same, rowsNamed_map_advanced]
    have fixed : ∀ held ∈ rowsNamed name store.syncCursors, cursor.advanced held = held := by
      intro held member
      have here : held.name = name := of_decide_eq_true (List.mem_filter.mp member).2
      exact if_neg fun same => other (same.symm.trans here)
    exact (List.map_congr_left fixed).trans (List.map_id' _)
  · rw [same, rowsNamed, List.filter_append]
    simp [other, rowsNamed]

/-- An upsert that leaves the rows with the cursor's name leaves all rows. -/
theorem syncCursors_upsertSyncCursor (written : store.upsertSyncCursor cursor = .ok next)
    (same : rowsNamed cursor.name next.syncCursors = rowsNamed cursor.name store.syncCursors)
    : next.syncCursors = store.syncCursors := by
  rcases upsertSyncCursor_cases written with ⟨-, advanced⟩ | ⟨-, added⟩
  · rw [advanced, rowsNamed_map_advanced] at same
    have fixed := List.map_inj_left.mp (same.trans (List.map_id' _).symm)
    rw [advanced]
    refine (List.map_congr_left fun held member => ?_).trans (List.map_id' _)
    by_cases named : held.name = cursor.name
    · exact fixed held (List.mem_filter.mpr ⟨member, decide_eq_true named⟩)
    · exact if_neg named
  · rw [added, rowsNamed, List.filter_append] at same
    simp [rowsNamed] at same

end ImportStore

namespace CustomHistory
open CtxRemote.Library hiding Returns
open CtxRemote.Library.Interruptible
open CtxRemote.Store (Uuid StoreError)
open CtxRemote.Sync (ProviderImportSummary)

-----------------------------------------------------------------------------------------
-- The cursors of captures
-----------------------------------------------------------------------------------------

section Loop

variable {externals : Externals} {state next : ImportState} {kept : List SyncCursor}
  {cursor : SyncCursor} {cursors : List SyncCursor}

/-- The unit of a cursor writes it, and an error of the write rolls the transaction back. -/
theorem perform_cursorUnit (externals : Externals) (cursor : SyncCursor) (state : ImportState)
    : perform (cursorUnit externals cursor) state
      = match (state.prepared (externals.cursorLength cursor)).store.upsertSyncCursor cursor with
        | .ok store =>
            (.ok (),
              (ImportState.counting { state.prepared (externals.cursorLength cursor) with store := store }
                {}).recorded (externals.cursorLength cursor))
        | .error error =>
            (.error (.store error), (state.prepared (externals.cursorLength cursor)).rolledBack) := by
  unfold cursorUnit
  rw [perform_importUnit, perform_bind, perform_executeStatement]
  cases (state.prepared (externals.cursorLength cursor)).store.upsertSyncCursor cursor <;> rfl

/-- In a transaction in which the rows with a name are as they have been committed. -/
abbrev Holding (name : Option String × String × String) := Resting (rowsNamed name)

theorem Holding.cursorUnit {name : Option String × String × String} {rows : List SyncCursor}
    (holding : Holding name rows (state.prepared (externals.cursorLength cursor)))
    (other : cursor.name ≠ name)
    : Ends (cursorUnit externals cursor) state (fun _ => Holding name rows)
        fun _ final => rowsNamed name final.store.syncCursors = rows := by
  unfold Ends
  rw [perform_cursorUnit]
  cases written : (state.prepared (externals.cursorLength cursor)).store.upsertSyncCursor cursor with
  | ok store =>
      have same := (ImportStore.rowsNamed_upsertSyncCursor written other).trans holding.stored
      have wrote
          : Holding name rows
              { state.prepared (externals.cursorLength cursor) with store := store } :=
        ⟨holding.active, same, holding.committed⟩
      exact (wrote.counting _).recorded _
  | error error =>
      have active := holding.active
      simp only [ImportState.rolledBack, active, if_true]
      exact holding.committed

/-- Cursors with other names leave the rows with a name, whether the loop returns or stops. -/
theorem Holding.importCursors {name : Option String × String × String} {rows : List SyncCursor}
    (holding : Holding name rows state) (others : ∀ cursor ∈ cursors, cursor.name ≠ name)
    : rowsNamed name (perform (importCursors externals cursors) state).2.store.syncCursors = rows := by
  have ends
      : Ends (Capture.importCursors externals cursors) state (fun _ => Holding name rows)
          fun _ final => rowsNamed name final.store.syncCursors = rows :=
    Ends.forM (fun _ => Holding name rows) (allReached_true _ _) holding
      fun _ cursor member state holding _ =>
        Holding.cursorUnit (holding.prepared _) (others cursor member)
  unfold Ends at ends
  split at ends
  next ran => rw [ran]; exact ends.stored
  next ran => rw [ran]; exact ends

/-- Where the cursors are not the kept ones, the rows with a name that no cursor still has are others. -/
def Marked (kept : List SyncCursor) (state : ImportState) (cursors : List SyncCursor) : Prop :=
  state.store.syncCursors ≠ kept
  → ∃ name, (∀ cursor ∈ cursors, cursor.name ≠ name)
    ∧ rowsNamed name state.store.syncCursors ≠ rowsNamed name kept

theorem importCursors_cons (externals : Externals) (cursor : SyncCursor) (cursors : List SyncCursor)
    : importCursors externals (cursor :: cursors)
      = cursorUnit externals cursor >>= fun _ => importCursors externals cursors :=
  rfl

theorem Holding.importCursors_prepared {name : Option String × String × String}
    {rows : List SyncCursor}
    (holding : Holding name rows (state.prepared (externals.cursorLength cursor)))
    (others : ∀ other ∈ cursor :: cursors, other.name ≠ name)
    : rowsNamed name
          (perform (Capture.importCursors externals (cursor :: cursors)) state).2.store.syncCursors
        = rows := by
  obtain ⟨here, later⟩ := List.forall_mem_cons.mp others
  have first := Holding.cursorUnit holding here
  unfold Ends at first
  rw [importCursors_cons, perform_bind]
  generalize perform (Capture.cursorUnit externals cursor) state = result at first ⊢
  obtain ⟨_ | value, middle⟩ := result
  · exact first
  · exact first.importCursors later

/-- A marked transaction that commits now leaves other cursors than the kept ones. -/
theorem Marked.eq_of_final (marked : Marked kept state cursors)
    (final
      : ∀ name, (∀ cursor ∈ cursors, cursor.name ≠ name)
        → rowsNamed name kept = rowsNamed name state.store.syncCursors)
    : state.store.syncCursors = kept := by
  by_contra changed
  obtain ⟨name, others, different⟩ := marked changed
  exact different (final name others).symm

theorem Marked.upsert (marked : Marked kept state (cursor :: cursors))
    (distinct : ((cursor :: cursors).map SyncCursor.name).Nodup)
    {store : ImportStore} (written : state.store.upsertSyncCursor cursor = .ok store)
    (same : next.store = store)
    : Marked kept next cursors := by
  intro changed
  rw [same] at changed ⊢
  rw [List.map_cons, List.nodup_cons] at distinct
  by_cases first : state.store.syncCursors = kept
  · refine ⟨cursor.name, fun other member equal => ?_, fun unchanged => changed ?_⟩
    · exact distinct.1 (List.mem_map.mpr ⟨other, member, equal⟩)
    · rw [← first] at unchanged ⊢
      exact ImportStore.syncCursors_upsertSyncCursor written unchanged
  · obtain ⟨name, others, different⟩ := marked first
    obtain ⟨here, later⟩ := List.forall_mem_cons.mp others
    refine ⟨name, later, ?_⟩
    rwa [ImportStore.rowsNamed_upsertSyncCursor written here]

/-- What a transaction has committed after a unit: what it had, or all it has. -/
theorem committed_recorded (state : ImportState) (unitBytes : Nat)
    : (state.recorded unitBytes).transaction.committed = state.transaction.committed
      ∨ (state.recorded unitBytes).transaction.committed = state.store := by
  unfold ImportState.recorded
  dsimp only
  split
  · split
    · exact .inr rfl
    · exact .inl rfl
  · exact .inl rfl

theorem prepared_cases (state : ImportState) (unitBytes : Nat)
    : state.prepared unitBytes = state ∨ state.prepared unitBytes = state.rotated := by
  unfold ImportState.prepared
  dsimp only
  split
  · exact .inr rfl
  · exact .inl rfl

theorem active_recorded (state : ImportState) (unitBytes : Nat)
    : (state.recorded unitBytes).transaction.active = state.transaction.active := by
  unfold ImportState.recorded
  dsimp only
  split
  · split <;> rfl
  · rfl

/-- The loop over cursors, where it ends with the kept ones. Witness: by induction on the cursors. A
commit of other cursors would leave rows that no later cursor takes back.
-/
theorem tracks_importCursorsFaulty (active : state.transaction.active = true)
    (committed : state.transaction.committed.syncCursors = kept) (marked : Marked kept state cursors)
    (distinct : (cursors.map SyncCursor.name).Nodup)
    (final : (perform (importCursors externals cursors) state).2.store.syncCursors = kept)
    : Tracks (importCursorsFaulty externals cursors) (importCursors externals cursors) state (Leaving kept)
      ∧ ∀ last, perform (importCursors externals cursors) state = (.ok (), last)
          → last.transaction.active = true ∧ last.transaction.committed.syncCursors = kept := by
  induction cursors generalizing state with
  | nil =>
      refine ⟨.pure (), fun last ran => ?_⟩
      obtain rfl := (Prod.mk.inj ran).2
      exact ⟨active, committed⟩
  | cons cursor cursors ih =>
      have ready := (active_prepared (externals.cursorLength cursor)).trans active
      have prepared
          : (state.prepared (externals.cursorLength cursor)).transaction.committed.syncCursors
            = kept := by
        rcases prepared_cases state (externals.cursorLength cursor) with same | same
        · rw [same, committed]
        · rw [same]
          refine marked.eq_of_final fun name others => ?_
          have holding
              : Holding name (rowsNamed name state.store.syncCursors)
                  (state.prepared (externals.cursorLength cursor)) :=
            same ▸ ⟨active, rfl, rfl⟩
          rw [← final]
          exact holding.importCursors_prepared others
      have after (middle : ImportState)
          (ran : perform (cursorUnit externals cursor) state = (.ok (), middle))
          : middle.transaction.active = true ∧ middle.transaction.committed.syncCursors = kept
            ∧ Marked kept middle cursors
            ∧ (perform (importCursors externals cursors) middle).2.store.syncCursors = kept := by
        have rest : (perform (importCursors externals cursors) middle).2.store.syncCursors = kept := by
          rwa [importCursors_cons, perform_bind, ran] at final
        rw [perform_cursorUnit] at ran
        split at ran
        next store written =>
          rw [store_prepared] at written
          have same : middle.store = store := by
            rw [← (Prod.mk.inj ran).2, store_recorded]
            rfl
          have later := marked.upsert distinct written same
          have stillActive : middle.transaction.active = true := by
            rw [← (Prod.mk.inj ran).2, active_recorded]
            exact ready
          refine ⟨stillActive, ?_, later, rest⟩
          rcases committed_recorded
            (ImportState.counting { state.prepared (externals.cursorLength cursor) with store := store } {})
            (externals.cursorLength cursor) with before | now
          · rw [← (Prod.mk.inj ran).2, before]
            exact prepared
          · rw [(Prod.mk.inj ran).2] at now
            have all : middle.transaction.committed = middle.store := now.trans same.symm
            rw [all]
            refine later.eq_of_final fun name others => ?_
            have holding : Holding name (rowsNamed name middle.store.syncCursors) middle :=
              ⟨stillActive, rfl, by rw [all]⟩
            rw [← rest]
            exact holding.importCursors others
        next => cases ran
      have leaves
          : Leaves (·.transaction)
              (do executeStatement (·.upsertSyncCursor cursor); return {} : ImportM ProviderImportSummary) := by
        refine .bind (fun state => ?_) fun _ => .pure _
        rw [perform_executeStatement]
        cases state.store.upsertSyncCursor cursor <;> rfl
      constructor
      · refine Tracks.bind (tracks_importUnitFaulty leaves active ?_ ?_ ?_) ?_
        · rw [durable_active active, committed]
        · rw [durable_active ready, prepared]
        · intro middle ran
          obtain ⟨active, committed, -⟩ := after middle ran
          rw [durable_active active, committed]
        · intro _ middle ran
          obtain ⟨active, committed, marked, final⟩ := after middle ran
          exact (ih active committed marked (List.nodup_cons.mp distinct).2 final).1
      · intro last ran
        obtain ⟨_, middle, first, later⟩ := perform_bind_eq_ok ran
        obtain ⟨active, committed, marked, final⟩ := after middle first
        exact (ih active committed marked (List.nodup_cons.mp distinct).2 final).2 last later

/-- The loop that keeps the last cursor of each id. -/
def latestCursors (cursors kept : List SyncCursor) : List SyncCursor :=
  cursors.foldl (fun kept cursor => kept.filter (·.id ≠ cursor.id) ++ [cursor]) kept

theorem nodup_id_latestCursors {cursors kept : List SyncCursor} (ids : (kept.map (·.id)).Nodup)
    : ((latestCursors cursors kept).map (·.id)).Nodup := by
  induction cursors generalizing kept with
  | nil => exact ids
  | cons cursor cursors ih =>
      refine ih ?_
      rw [List.map_append, List.map_singleton]
      refine List.nodup_append.mpr ⟨?_, List.nodup_singleton _, ?_⟩
      · exact ids.sublist (List.filter_sublist.map _)
      · intro id member other same equal
        obtain ⟨held, inside, rfl⟩ := List.mem_map.mp member
        obtain rfl := List.mem_singleton.mp same
        exact of_decide_eq_true (List.mem_filter.mp inside).2 equal

theorem mem_latestCursors {cursors kept : List SyncCursor}
    (member : cursor ∈ latestCursors cursors kept)
    : cursor ∈ kept ∨ cursor ∈ cursors := by
  induction cursors generalizing kept with
  | nil => exact .inl member
  | cons first cursors ih =>
      rcases ih member with inside | later
      · rcases List.mem_append.mp inside with held | same
        · exact .inl (List.mem_of_mem_filter held)
        · exact .inr (List.mem_cons.mpr (.inl (List.mem_singleton.mp same)))
      · exact .inr (List.mem_cons_of_mem _ later)

section Pending

variable {captures : List (Nat × ProviderCaptureEnvelope)}

theorem perm_pendingCursors (captures : List (Nat × ProviderCaptureEnvelope))
    : (pendingCursors captures).Perm
        (latestCursors (captures.filterMap fun line => providerSyncCursor line.2) []) :=
  List.perm_insertionSort _ _

theorem nodup_id_pendingCursors : ((pendingCursors captures).map (·.id)).Nodup :=
  ((perm_pendingCursors captures).map _).nodup_iff.mpr (nodup_id_latestCursors List.nodup_nil)

/-- The id of a custom history's cursor is computed from its name. -/
theorem id_pendingCursors (custom : ∀ line ∈ captures, line.2.provider = .custom)
    (member : cursor ∈ pendingCursors captures)
    : cursor.id
      = stableCaptureUuid
          ("provider-cursor:" ++ Store.CaptureProvider.custom.asStr ++ ":" ++ cursor.deviceId ++ ":"
            ++ cursor.stream)
          "provider-sync-cursor" := by
  have found := mem_latestCursors ((perm_pendingCursors captures).mem_iff.mp member)
  obtain ⟨line, inside, made⟩ := List.mem_filterMap.mp (found.resolve_left List.not_mem_nil)
  obtain ⟨checkpoint, -, rfl⟩ := Option.map_eq_some_iff.mp made
  simp only [custom line inside]

/-- The cursors of captures have distinct names. -/
theorem nodup_name_pendingCursors (custom : ∀ line ∈ captures, line.2.provider = .custom)
    : ((pendingCursors captures).map SyncCursor.name).Nodup := by
  refine List.Nodup.map_on (fun left hl right hr same => ?_)
    (List.Nodup.of_map _ nodup_id_pendingCursors)
  refine List.inj_on_of_nodup_map nodup_id_pendingCursors hl hr ?_
  obtain ⟨-, device, stream⟩ := by simpa only [SyncCursor.name, Prod.mk.injEq] using same
  rw [id_pendingCursors custom hl, id_pendingCursors custom hr, device, stream]

end Pending

end Loop

-----------------------------------------------------------------------------------------
-- The import of captures
-----------------------------------------------------------------------------------------

section Captures

variable {externals : Externals} {options : NormalizedProviderImportOptions} {state : ImportState}
  {kept : List SyncCursor} {captures : List (Nat × ProviderCaptureEnvelope)}
  {filesTouched : List (Nat × ProviderFileTouchedEnvelope)} {cursors : List SyncCursor}

theorem tracks_commitFaulty (before : durable state = kept)
    : Tracks (commitFaulty >>= fun _ => read >>= fun state => pure state.summary)
        (commit >>= fun _ => get >>= fun state => pure state.summary) state (Leaving kept) := by
  have committing : Tracks commitFaulty commit state (Leaving kept) := by
    unfold Tracks commitFaulty
    simp only [ensures_bind, ensures_read, commit, perform_modify]
    split
    next => exact ensures_transact.mpr ⟨before, before, rfl⟩
    next => exact ensures_pure.mpr rfl
  exact committing.bind fun _ middle _ => Tracks.get_bind (.pure _)

/-- A commit leaves the store. -/
theorem store_commit (state : ImportState)
    : (perform (commit >>= fun _ => get >>= fun state => pure state.summary) state).2.store
      = state.store := by
  simp only [commit, perform_bind, perform_modify, perform_get, perform_pure]
  split <;> rfl

theorem Resting.resolveEdges (resting : Resting id kept state)
    : Tracks (resolvePendingProviderEdgesFaulty externals) (resolvePendingProviderEdgesBatched externals)
          state (Leaving kept)
        ∧ ∀ next,
            perform (resolvePendingProviderEdgesBatched externals) state = (.ok (), next)
            → Resting id kept next := by
  have taken : Resting id kept { state with caches := { state.caches with pendingEdges := [] } } :=
    ⟨resting.active, resting.stored, resting.committed⟩
  have inside (edge : Uuid × PendingProviderEdge)
      (_ : edge ∈ state.caches.pendingEdges.insertionSort fun left right => left.1.text ≤ right.1.text)
      : Inside (resolvePendingProviderEdge externals edge.1 edge.2) :=
    (capturing_resolvePendingProviderEdge _ _ _).inside
  exact ⟨Tracks.get_bind (Tracks.modify_bind (taken.loop inside).1), (taken.loop inside).2⟩

theorem Resting.importCaptures (resting : Resting id kept state)
    : Tracks
          (captures.forM fun line =>
            importUnitFaulty (externals.captureLength line.2) line.1
              (importProviderCaptureLine externals options line.2 line.1))
          (Capture.importCaptures externals options captures) state (Leaving kept)
        ∧ ∀ next,
            perform (Capture.importCaptures externals options captures) state = (.ok (), next)
            → Resting id kept next :=
  resting.loop fun _ _ => (capturing_importProviderCaptureLine _ _ _ _).inside

theorem Resting.importFiles (resting : Resting id kept state)
    : Tracks
          (filesTouched.forM fun line =>
            importUnitFaulty (externals.fileLength line.2) line.1 do
              importProviderFileTouchedLine options.historyRecordId line.2
              return { acceptedContentRecords := 1 })
          (importFilesTouched externals options.historyRecordId filesTouched) state (Leaving kept)
        ∧ ∀ next,
            perform (importFilesTouched externals options.historyRecordId filesTouched) state
              = (.ok (), next)
            → Resting id kept next :=
  resting.loop fun _ _ => .bind (inside_importProviderFileTouchedLine _ _) fun _ => .pure _

/-- What an import does behind its captures, where it ends with the kept cursors. -/
theorem tracks_finishImportFaulty (resting : Resting id kept state)
    (distinct : (cursors.map SyncCursor.name).Nodup)
    (final
      : (perform (finishImport externals options.historyRecordId filesTouched cursors)
          state).2.store.syncCursors = kept)
    : Tracks (finishImportFaulty externals options filesTouched cursors)
        (finishImport externals options.historyRecordId filesTouched cursors) state (Leaving kept) := by
  refine (resting.resolveEdges.1).bind fun _ second ranEdges => ?_
  have resting := resting.resolveEdges.2 second ranEdges
  refine (resting.importFiles.1).bind fun _ third ranFiles => ?_
  have resting := resting.importFiles.2 third ranFiles
  refine Tracks.get_bind ?_
  unfold finishImport at final
  rw [perform_bind, ranEdges] at final
  dsimp only at final
  rw [perform_bind, ranFiles] at final
  dsimp only at final
  rw [perform_bind, perform_get] at final
  dsimp only at final ⊢
  split at final
  next none =>
    simp only [if_pos none]
    have marked : Marked kept third cursors := fun changed => absurd resting.stored changed
    have cursorsFinal : (perform (importCursors externals cursors) third).2.store.syncCursors = kept := by
      rw [perform_bind] at final
      split at final
      next fourth ran => rwa [ran, ← store_commit fourth]
      next fourth ran => rwa [ran]
    obtain ⟨tracks, after⟩ := tracks_importCursorsFaulty resting.active resting.committed marked distinct
      cursorsFinal
    refine tracks.bind fun _ fourth ran => ?_
    obtain ⟨active, committed⟩ := after fourth ran
    exact tracks_commitFaulty ((durable_active active).trans committed)
  next some =>
    simp only [if_neg some]
    exact tracks_commitFaulty resting.durable

/-- Where no edge is pending, none is resolved. -/
theorem perform_resolveEdges_nil (none : state.caches.pendingEdges = [])
    : perform (resolvePendingProviderEdgesBatched externals) state
      = (.ok (), { state with caches := { state.caches with pendingEdges := [] } }) := by
  simp only [resolvePendingProviderEdgesBatched, perform_bind, perform_get, perform_changeCaches, none]
  rfl

theorem store_finishImport_nil (none : state.caches.pendingEdges = [])
    : (perform (finishImport externals options.historyRecordId [] []) state).2.store = state.store := by
  have files : importFilesTouched externals options.historyRecordId [] = pure () := rfl
  have cursors : importCursors externals [] = pure () := rfl
  unfold finishImport
  rw [perform_bind, perform_resolveEdges_nil none]
  dsimp only
  rw [perform_bind, files, perform_pure]
  dsimp only
  rw [perform_bind, perform_get]
  dsimp only
  split
  · rw [perform_bind, cursors, perform_pure]
    exact store_commit _
  · exact store_commit _

/-- An import without captures, file touches and cursors has nothing to do behind its captures. -/
theorem tracks_finishImportFaulty_nil (inactive : state.transaction.active = false)
    (none : state.caches.pendingEdges = []) (stored : state.store.syncCursors = kept)
    : Tracks (finishImportFaulty externals options [] [])
        (finishImport externals options.historyRecordId [] []) state (Leaving kept) := by
  have edges
      : Tracks (resolvePendingProviderEdgesFaulty externals)
          (resolvePendingProviderEdgesBatched externals) state (Leaving kept) := by
    refine Tracks.get_bind (Tracks.modify_bind ?_)
    rw [none]
    exact .pure ()
  refine edges.bind fun _ second ran => ?_
  have same : second = { state with caches := { state.caches with pendingEdges := [] } } :=
    (Prod.mk.inj (ran.symm.trans (perform_resolveEdges_nil none))).2
  have still : durable second = kept := by
    rw [same, durable_inactive (by exact inactive)]
    exact stored
  refine (Tracks.pure ()).bind fun _ third ranFiles => Tracks.get_bind ?_
  obtain rfl : second = third := (Prod.mk.inj ranFiles).2
  dsimp only
  split
  · refine (Tracks.pure ()).bind fun _ fourth ranCursors => ?_
    obtain rfl : second = fourth := (Prod.mk.inj ranCursors).2
    exact tracks_commitFaulty still
  · exact tracks_commitFaulty still

theorem tracks_persistFaulty {store : ImportStore} {summary : ProviderImportSummary}
    (custom : ∀ line ∈ captures, line.2.provider = .custom) (wrapped : options.wrapTransaction = true)
    (final
      : (perform (persistProviderCaptureLines externals options captures filesTouched)
          (initialState store summary)).2.store.syncCursors = store.syncCursors)
    : Tracks (persistFaulty externals options captures filesTouched)
        (persistProviderCaptureLines externals options captures filesTouched)
        (initialState store summary) (Leaving store.syncCursors) := by
  refine Tracks.get_bind ?_
  rw [perform_persistProviderCaptureLines] at final
  have distinct
      : ((cursorsToPersist options captures (initialState store summary).summary).map
          SyncCursor.name).Nodup := by
    unfold cursorsToPersist
    split
    · exact nodup_name_pendingCursors custom
    · exact List.nodup_nil
  by_cases work : hasTransactions options captures filesTouched = true
  · have begun : Resting id store.syncCursors ((initialState store summary).begun true) :=
      ⟨rfl, rfl, rfl⟩
    have beginning
        : Tracks (beginFaulty (hasTransactions options captures filesTouched))
            (beginTransaction (hasTransactions options captures filesTouched))
            (initialState store summary) (Leaving store.syncCursors) := by
      rw [work]
      exact ensures_transact.mpr ⟨rfl, rfl, rfl⟩
    refine beginning.bind fun _ first ranBegin => ?_
    rw [perform_beginTransaction] at ranBegin
    obtain rfl := (Prod.mk.inj ranBegin).2
    rw [work] at final ⊢
    refine begun.importCaptures.1.bind fun _ second ranCaptures => ?_
    rw [ranCaptures] at final
    exact tracks_finishImportFaulty (begun.importCaptures.2 second ranCaptures) distinct final
  · have none : captures = [] ∧ filesTouched = [] := by
      simpa [hasTransactions, wrapped] using work
    obtain ⟨rfl, rfl⟩ := none
    have noCursors
        : cursorsToPersist options [] (initialState store summary).summary = [] := by
      unfold cursorsToPersist
      split <;> rfl
    refine Tracks.modify_bind (Tracks.bind (.pure ()) fun _ first ran => ?_)
    obtain rfl := (Prod.mk.inj ran).2
    have rest
        : Tracks (finishImportFaulty externals options [] [])
            (finishImport externals options.historyRecordId [] [])
            ((initialState store summary).begun false) (Leaving store.syncCursors) :=
      tracks_finishImportFaulty_nil rfl rfl rfl
    unfold cursorsToPersist at noCursors
    rw [noCursors]
    exact rest

theorem policySessionKeys_custom {captures : List (Nat × ProviderCaptureEnvelope)}
    (custom : ∀ line ∈ captures, line.2.provider = .custom)
    : (captures.filterMap fun (_, capture) => providerCapturePolicySessionKey capture) = [] :=
  List.filterMap_eq_nil_iff.mpr fun line member => if_pos (.inl (custom line member))

/-- An import whose captures are all of custom histories passes over none of them. -/
theorem filter_custom {normalization : ProviderNormalizationResult}
    (custom : ∀ line ∈ normalization.captures, line.2.provider = .custom)
    : filterProviderCaptureLinesWithoutRealSessionMessages normalization = normalization := by
  have none : rejectedSessionKeys normalization.captures = [] := by
    unfold rejectedSessionKeys
    rw [policySessionKeys_custom custom]
    rfl
  unfold filterProviderCaptureLinesWithoutRealSessionMessages
  simp [none]

/-- Captures of custom histories need no message. -/
theorem realMessage_custom {captures : List (Nat × ProviderCaptureEnvelope)}
    (custom : ∀ line ∈ captures, line.2.provider = .custom)
    : providerCaptureLinesHaveRealMessage captures = true := by
  refine (Bool.or_eq_true _ _).mpr (.inl (List.all_eq_true.mpr fun line member => ?_))
  obtain ⟨inside, other⟩ := List.mem_filter.mp member
  exact absurd (custom line inside) (of_decide_eq_true other)

variable {normalization : ProviderNormalizationResult} {store middle : ImportStore}
  {summary : ProviderImportSummary}

/-- What an import of custom histories without a failure does. -/
theorem importNormalizedProviderCaptures_custom (externals : Externals)
    (options : NormalizedProviderImportOptions) (store : ImportStore)
    (custom : ∀ line ∈ normalization.captures, line.2.provider = .custom)
    : importNormalizedProviderCaptures externals options store normalization
      = ((perform
            (persistProviderCaptureLines externals options normalization.captures
              (allFilesTouched externals normalization))
            (initialState store normalization.summary)).1,
          (perform
            (persistProviderCaptureLines externals options normalization.captures
              (allFilesTouched externals normalization))
            (initialState store normalization.summary)).2.store) := by
  unfold importNormalizedProviderCaptures
  simp only [filter_custom custom, realMessage_custom custom, not_true_eq_false, and_false, if_false]

/-- What an import of custom histories with failures does. -/
theorem importCapturesFaulty_custom (externals : Externals)
    (options : NormalizedProviderImportOptions)
    (custom : ∀ line ∈ normalization.captures, line.2.provider = .custom)
    : importCapturesFaulty externals options normalization
      = if hasTransactions options normalization.captures (allFilesTouched externals normalization) then do
          operation (.store .sql) some
          let result ← attempt (onStore normalization.summary
            (persistFaulty externals options normalization.captures
              (allFilesTouched externals normalization)))
          operation (.store .sql) some
          match result with
          | .ok summary => pure summary
          | .error error => fail error
        else
          onStore normalization.summary
            (persistFaulty externals options normalization.captures
              (allFilesTouched externals normalization)) := by
  unfold importCapturesFaulty
  rw [filter_custom custom]
  refine if_neg fun silent => silent.2 ?_
  exact realMessage_custom custom

/-- An import that may commit other cursors than it started with has work to do. -/
theorem hasTransactions_of_changed
    (wrapped : options.wrapTransaction = true)
    (changed
      : (perform (persistProviderCaptureLines externals options captures filesTouched)
          (initialState store summary)).2.store.syncCursors ≠ store.syncCursors)
    : hasTransactions options captures filesTouched = true := by
  by_contra idle
  have none : captures = [] ∧ filesTouched = [] := by
    simpa [hasTransactions, wrapped] using idle
  obtain ⟨rfl, rfl⟩ := none
  have noCursors : cursorsToPersist options [] (initialState store summary).summary = [] := by
    unfold cursorsToPersist
    split <;> rfl
  refine changed ?_
  rw [perform_persistProviderCaptureLines, noCursors]
  exact congrArg ImportStore.syncCursors (store_finishImport_nil rfl)

/-- What a program of the importer does without a failure, on the store. -/
theorem mem_onStore {program : ImportProgram ProviderImportSummary}
    {result : Except CaptureError ProviderImportSummary} {final : ImportState}
    (ran : (Ending.ofExcept result, final) ∈ program (initialState store summary))
    : (Ending.ofExcept result, final.store) ∈ onStore summary program store :=
  List.mem_map.mpr ⟨_, ran, rfl⟩

/-- The import of captures, where it ends without a failure with the cursors that it started with. -/
theorem ensures_importCapturesFaulty
    (custom : ∀ line ∈ normalization.captures, line.2.provider = .custom)
    (wrapped : options.wrapTransaction = true)
    (keeps
      : (importNormalizedProviderCaptures externals options store normalization).2.syncCursors
        = store.syncCursors)
    : Ensures (importCapturesFaulty externals options normalization) store
        (fun summary final =>
          importNormalizedProviderCaptures externals options store normalization = (.ok summary, final))
        fun _ final => final.syncCursors = store.syncCursors := by
  rw [importNormalizedProviderCaptures_custom _ _ _ custom] at keeps ⊢
  rw [importCapturesFaulty_custom _ _ custom]
  have persist
      : Ensures
          (onStore normalization.summary
            (persistFaulty externals options normalization.captures
              (allFilesTouched externals normalization)))
          store
          (fun summary final =>
            ((perform
                  (persistProviderCaptureLines externals options normalization.captures
                    (allFilesTouched externals normalization))
                  (initialState store normalization.summary)).1,
                (perform
                  (persistProviderCaptureLines externals options normalization.captures
                    (allFilesTouched externals normalization))
                  (initialState store normalization.summary)).2.store)
              = (.ok summary, final))
          fun _ final => final.syncCursors = store.syncCursors := by
    refine ensures_zoom.mpr (Ensures.mono (tracks_persistFaulty custom wrapped keeps) ?_ fun _ _ => id)
    exact fun summary last ran => by rw [ran]
  split
  next =>
    rw [ensures_bind, ensures_operation]
    refine ⟨rfl, rfl, fun begun same => ?_⟩
    simp only [ensures_bind, ensures_operation, ensures_attempt]
    obtain rfl := Option.some.inj same
    refine persist.mono (fun summary last ran => ?_) fun ending last left => ?_
    · have left : last.syncCursors = store.syncCursors := by rwa [(Prod.mk.inj ran).2] at keeps
      refine ⟨left, left, fun finished same => ?_⟩
      obtain rfl := Option.some.inj same
      exact ensures_pure.mpr ran
    · cases ending with
      | none => exact left
      | some error =>
          refine ⟨left, left, fun finished same => ?_⟩
          obtain rfl := Option.some.inj same
          exact ensures_fail.mpr left
  next => exact persist

/-- The import of captures may fail behind everything it does. -/
theorem exists_failed_importCapturesFaulty
    (custom : ∀ line ∈ normalization.captures, line.2.provider = .custom)
    (wrapped : options.wrapTransaction = true)
    (changed
      : (importNormalizedProviderCaptures externals options store normalization).2.syncCursors
        ≠ store.syncCursors)
    : (.failed (.store .sql),
          (importNormalizedProviderCaptures externals options store normalization).2)
        ∈ importCapturesFaulty externals options normalization store := by
  rw [importNormalizedProviderCaptures_custom _ _ _ custom] at changed ⊢
  rw [importCapturesFaulty_custom _ _ custom, if_pos (hasTransactions_of_changed wrapped changed)]
  have began : Returns (operation (.store .sql) some : StoreProgram Unit) store () store :=
    returns_operation.mpr rfl
  have persisted := follows_persistFaulty externals options normalization.captures
    (allFilesTouched externals normalization) (initialState store normalization.summary)
  exact began.then ((returns_attempt (mem_onStore persisted)).then (failed_operation _ _ _ _))

theorem returns_importCapturesFaulty
    (custom : ∀ line ∈ normalization.captures, line.2.provider = .custom)
    (ran : importNormalizedProviderCaptures externals options store normalization = (.ok summary, middle))
    : Interruptible.Returns (importCapturesFaulty externals options normalization) store summary middle := by
  rw [importNormalizedProviderCaptures_custom _ _ _ custom] at ran
  rw [importCapturesFaulty_custom _ _ custom]
  obtain ⟨result, rfl⟩ := Prod.mk.inj ran
  have persisted := follows_persistFaulty externals options normalization.captures
    (allFilesTouched externals normalization) (initialState store normalization.summary)
  rw [result] at persisted
  have operated (state : ImportStore)
      : Returns (operation (.store .sql) some : StoreProgram Unit) state () state :=
    returns_operation.mpr rfl
  split
  · refine (operated store).then ?_
    refine (returns_attempt (mem_onStore persisted)).then ((operated _).then ?_)
    exact returns_pure.mpr ⟨rfl, rfl⟩
  · exact mem_onStore persisted

end Captures

-----------------------------------------------------------------------------------------
-- The import of edges
-----------------------------------------------------------------------------------------

section Edges

variable (historyRecordId : Option Uuid) (edges : List (Nat × EdgeImport))
  (summary : ProviderImportSummary) (store : ImportStore)

/-- The import of edges leaves the cursors, wherever it stops. -/
theorem ensures_importCustomHistoryEdges
    : Ensures (importCustomHistoryEdges historyRecordId edges summary) store
        (fun counted final =>
          importEdgesClean historyRecordId edges summary store = (.ok counted, final)
          ∧ final.syncCursors = store.syncCursors)
        fun _ final => final.syncCursors = store.syncCursors := by
  unfold importCustomHistoryEdges importEdgesClean
  split
  next => exact ensures_pure.mpr ⟨rfl, rfl⟩
  next =>
    have begun : Resting id store.syncCursors ((initialState store summary).begun true) :=
      ⟨rfl, rfl, rfl⟩
    have inside (line : Nat × EdgeImport) (_ : line ∈ edges)
        : Inside (importCustomHistoryEdge historyRecordId line.1 line.2) :=
      inside_importCustomHistoryEdge _ _ _
    have tracks
        : Tracks (importEdgesFaulty historyRecordId edges) (importEdges historyRecordId edges)
            (initialState store summary) (Leaving store.syncCursors) := by
      have beginning
          : Tracks (beginFaulty true) (beginTransaction true) (initialState store summary)
              (Leaving store.syncCursors) :=
        ensures_transact.mpr ⟨rfl, rfl, rfl⟩
      refine beginning.bind fun _ first ranBegin => ?_
      rw [perform_beginTransaction] at ranBegin
      obtain rfl := (Prod.mk.inj ranBegin).2
      refine (begun.loop inside).1.bind fun _ second ran => ?_
      exact tracks_commitFaulty ((begun.loop inside).2 second ran).durable
    refine ensures_zoom.mpr (Ensures.mono tracks (fun counted last ran => ?_) fun _ _ => id)
    refine ⟨by rw [ran], ?_⟩
    unfold importEdges at ran
    rw [perform_bind, perform_beginTransaction] at ran
    obtain ⟨_, second, ranEdges, ranCommit⟩ := perform_bind_eq_ok ran
    have committed := store_commit second
    rw [ranCommit] at committed
    rw [committed]
    exact ((begun.loop inside).2 second ranEdges).stored

variable {historyRecordId edges summary store}

theorem returns_importCustomHistoryEdges {counted : ProviderImportSummary} {final : ImportStore}
    (ran : importEdgesClean historyRecordId edges summary store = (.ok counted, final))
    : Returns (importCustomHistoryEdges historyRecordId edges summary) store counted final := by
  unfold importEdgesClean at ran
  unfold importCustomHistoryEdges
  split at ran
  next none =>
    obtain ⟨result, rfl⟩ := Prod.mk.inj ran
    obtain rfl := Except.ok.inj result
    rw [if_pos none]
    exact returns_pure.mpr ⟨rfl, rfl⟩
  next some =>
    have followed := follows_importEdgesFaulty historyRecordId edges (initialState store summary)
    generalize perform (importEdges historyRecordId edges) (initialState store summary) = performed
      at ran followed
    obtain ⟨result, rfl⟩ := Prod.mk.inj ran
    rw [result] at followed
    rw [if_neg some]
    exact mem_onStore followed

end Edges

-----------------------------------------------------------------------------------------
-- The source cursors
-----------------------------------------------------------------------------------------

section Sources

variable {store final : ImportStore} {cursors stored : List SyncCursor}

/-- The source cursors are stored one by one, up to the one where the import stops. -/
theorem ensures_importCustomHistorySourceCursors (cursors : List SyncCursor) (store : ImportStore)
    : Ensures (importCustomHistorySourceCursors cursors) store
        (fun _ final => storeCursors cursors store = some final)
        fun _ final =>
          ∃ stored, stored <+: cursors ∧ stored ≠ cursors ∧ storeCursors stored store = some final := by
  induction cursors generalizing store with
  | nil => exact ensures_pure.mpr rfl
  | cons cursor cursors ih =>
      have none
          : ∃ stored, stored <+: cursor :: cursors ∧ stored ≠ cursor :: cursors
              ∧ storeCursors stored store = some store :=
        ⟨[], List.nil_prefix, by simp, rfl⟩
      refine ensures_bind.mpr (ensures_operation.mpr ⟨none, none, fun next written => ?_⟩)
      refine (ih next).mono (fun _ final rest => ?_) ?_
      · rw [storeCursors, written]
        exact rest
      · rintro _ final ⟨stored, before, short, rest⟩
        refine ⟨cursor :: stored, (List.prefix_cons_inj cursor).mpr before, by simpa using short, ?_⟩
        rw [storeCursors, written]
        exact rest

theorem returns_importCustomHistorySourceCursors (ran : storeCursors cursors store = some final)
    : Returns (importCustomHistorySourceCursors cursors) store () final := by
  induction cursors generalizing store with
  | nil => exact returns_pure.mpr ⟨rfl, (Option.some.inj ran).symm⟩
  | cons cursor cursors ih =>
      obtain ⟨next, written, rest⟩ := Option.bind_eq_some_iff.mp ran
      have wrote
          : Returns
              (operation (.store .sql) fun store => (store.upsertSyncCursor cursor).toOption
              : StoreProgram Unit)
              store () next :=
        returns_operation.mpr written
      exact wrote.then (ih rest)

/-- The next source cursor may always fail. -/
theorem failed_importCustomHistorySourceCursors (before : stored <+: cursors) (short : stored ≠ cursors)
    (ran : storeCursors stored store = some final)
    : (.failed (.store .sql), final) ∈ importCustomHistorySourceCursors cursors store := by
  induction stored generalizing cursors store with
  | nil =>
      obtain rfl := Option.some.inj ran
      cases cursors with
      | nil => exact absurd rfl short
      | cons cursor cursors => exact failed_operation _ _ _ _
  | cons cursor stored ih =>
      obtain ⟨rest, rfl⟩ := before
      obtain ⟨next, written, later⟩ := Option.bind_eq_some_iff.mp ran
      have shorter : stored ≠ stored ++ rest := fun same => short (congrArg (cursor :: ·) same)
      have wrote
          : Returns
              (operation (.store .sql) fun store => (store.upsertSyncCursor cursor).toOption
              : StoreProgram Unit)
              store () next :=
        returns_operation.mpr written
      exact wrote.then (ih (List.prefix_append _ _) shorter later)

end Sources

-----------------------------------------------------------------------------------------
-- The import of a stream
-----------------------------------------------------------------------------------------

section Streams

variable (externals : Externals) (context : AdapterContext) (historyRecordId : Option Uuid)
  (fromSlice : List UInt8 → Except String Record) (lines : List (List UInt8)) (store : ImportStore)

/-- An import accepted the whole stream: nothing failed, and no line was passed over as oversized. -/
def Accepts : Ending ReaderError ProviderImportSummary → Prop
  | .done summary => summary.failed = 0 ∧ ∀ line ∈ lines, isOversized line = false
  | .failed _ => False
  | .died => False

/-- Where an import does not accept the whole stream, every sync cursor is as it was. -/
def CursorsWait : Prop :=
  ∀ run ∈ importCustomHistoryJsonlV1Reader externals context historyRecordId fromSlice lines store,
    ¬Accepts lines run.1 → run.2.syncCursors = store.syncCursors

/-- What comes out of the normalization stores no cursor too early: the import of its captures, with
nothing failing, leaves the cursors as they are, and so do all its source cursors but the last one, and
that one too where a line has been passed over.
-/
structure Careful (normalization : Normalization) : Prop where
  captures
    : (importNormalizedProviderCaptures externals (readerOptions historyRecordId) store
          normalization.provider).2.syncCursors
        = store.syncCursors
  sources
    : ∀ summary middle counted last,
        importNormalizedProviderCaptures externals (readerOptions historyRecordId) store
            normalization.provider
          = (.ok summary, middle)
        → importEdgesClean historyRecordId normalization.edges summary middle = (.ok counted, last)
        → counted.failed = 0
        → ∀ stored, stored <+: normalization.sourceCursors
        → (stored = normalization.sourceCursors → ∃ line ∈ lines, isOversized line = true)
        → ∀ next, storeCursors stored last = some next → next.syncCursors = store.syncCursors

variable {externals context historyRecordId fromSlice lines store}

/-- All captures of a normalized stream are of custom histories. -/
theorem normalize_custom
    : ∀ line ∈ (normalize externals context fromSlice lines).provider.captures,
        line.2.provider = .custom := by
  unfold normalize
  dsimp only
  split
  · simp
  · intro line member
    rcases List.mem_append.mp member with session | event
    · obtain ⟨entry, -, made⟩ := List.mem_filterMap.mp session
      obtain ⟨source, -, rfl⟩ := Option.map_eq_some_iff.mp made
      rfl
    · obtain ⟨entry, -, made⟩ := List.mem_filterMap.mp event
      obtain ⟨session, -, rest⟩ := Option.bind_eq_some_iff.mp made
      obtain ⟨source, -, last⟩ := Option.bind_eq_some_iff.mp rest
      obtain rfl := Option.some.inj last
      rfl

variable {normalization : Normalization}

/-- Whatever fails, a careful import leaves the cursors, unless it accepts the whole stream. -/
theorem Careful.ensures (careful : Careful externals historyRecordId lines store normalization)
    (custom : ∀ line ∈ normalization.provider.captures, line.2.provider = .custom)
    : Ensures (importNormalization externals historyRecordId normalization) store
        (fun summary final =>
          (summary.failed ≠ 0 ∨ ∃ line ∈ lines, isOversized line = true)
          → final.syncCursors = store.syncCursors)
        fun _ final => final.syncCursors = store.syncCursors := by
  unfold importNormalization
  rw [ensures_bind]
  refine (ensures_importCapturesFaulty custom rfl careful.captures).mono
    (fun summary middle ranCaptures => ?_) fun _ _ => id
  have kept : middle.syncCursors = store.syncCursors := by
    have captures := careful.captures
    rwa [ranCaptures] at captures
  rw [ensures_bind]
  refine (ensures_importCustomHistoryEdges _ _ _ _).mono ?_ fun _ _ same => same.trans kept
  rintro counted last ⟨ranEdges, same⟩
  have sources := careful.sources summary middle counted last ranCaptures ranEdges
  have kept := same.trans kept
  split
  next accepted =>
    rw [ensures_bind]
    refine (ensures_importCustomHistorySourceCursors _ _).mono ?_ ?_
    · intro _ final ran
      refine ensures_pure.mpr fun unaccepted => ?_
      have skipped := unaccepted.resolve_left (absurd accepted)
      exact sources accepted _ (List.prefix_refl _) (fun _ => skipped) final ran
    · rintro _ final ⟨stored, before, short, ran⟩
      exact sources accepted stored before (fun same => absurd same short) final ran
  next => exact ensures_pure.mpr fun _ => kept

/-- An import that leaves the cursors whatever fails is careful. -/
theorem Careful.of_runs
    (custom : ∀ line ∈ normalization.provider.captures, line.2.provider = .custom)
    (failed
      : ∀ error final, (.failed error, final) ∈ importNormalization externals historyRecordId normalization store
        → final.syncCursors = store.syncCursors)
    (done
      : ∀ summary final, Returns (importNormalization externals historyRecordId normalization) store summary final
        → (∃ line ∈ lines, isOversized line = true) → final.syncCursors = store.syncCursors)
    : Careful externals historyRecordId lines store normalization where
  captures := by
    by_contra changed
    exact changed
      (failed _ _ (failed_bind (exists_failed_importCapturesFaulty custom rfl changed)))
  sources summary middle counted last ranCaptures ranEdges accepted stored before skipped next ran := by
    have captured := returns_importCapturesFaulty custom ranCaptures
    have linked := returns_importCustomHistoryEdges ranEdges
    by_cases whole : stored = normalization.sourceCursors
    · subst whole
      refine done counted next ?_ (skipped rfl)
      refine captured.then (linked.then ?_)
      rw [if_pos accepted]
      exact (returns_importCustomHistorySourceCursors ran).then (returns_pure.mpr ⟨rfl, rfl⟩)
    · refine failed (.store .sql) next (captured.then (linked.then ?_))
      rw [if_pos accepted]
      exact failed_bind (failed_importCustomHistorySourceCursors before whole ran)

/-- A stream whose cursors wait has a careful import: in every other one an operation may fail right
behind the cursor that came too early.
-/
theorem Careful.of_cursorsWait
    (wait : CursorsWait externals context historyRecordId fromSlice lines store)
    : Careful externals historyRecordId lines store (normalize externals context fromSlice lines) := by
  have read : Returns (operation .io some : Interruptible ImportStore ReaderError Unit) store () store :=
    returns_operation.mpr rfl
  refine Careful.of_runs normalize_custom (fun error final ran => ?_) fun summary final ran skipped => ?_
  · exact wait _ (read.then (failed_mapError ran)) id
  · refine wait _ (read.then ran.mapError) fun accepted => ?_
    obtain ⟨line, member, oversized⟩ := skipped
    exact absurd (accepted.2 line member) (by simp [oversized])

/-- A careful import keeps the cursors step by step. -/
theorem Careful.cursorsWait
    (careful
      : Careful externals historyRecordId lines store (normalize externals context fromSlice lines))
    : CursorsWait externals context historyRecordId fromSlice lines store := by
  intro run ran unaccepted
  have ensures
      : Ensures
          (importCustomHistoryJsonlV1Reader externals context historyRecordId fromSlice lines) store
          (fun summary final =>
            (summary.failed ≠ 0 ∨ ∃ line ∈ lines, isOversized line = true)
            → final.syncCursors = store.syncCursors)
          fun _ final => final.syncCursors = store.syncCursors := by
    refine ensures_bind.mpr (ensures_operation.mpr ⟨rfl, rfl, fun next same => ?_⟩)
    obtain rfl := Option.some.inj same
    exact ensures_mapError.mpr (careful.ensures normalize_custom)
  have holds := ensures run ran
  rcases run with ⟨_ | error | summary, final⟩
  · exact holds
  · exact holds
  · refine holds ?_
    by_contra whole
    obtain ⟨none, small⟩ := not_or.mp whole
    refine unaccepted ⟨not_not.mp none, fun line member => ?_⟩
    exact Bool.eq_false_iff.mpr fun oversized => small ⟨line, member, oversized⟩

end Streams

end CustomHistory

end CtxRemote.Capture
