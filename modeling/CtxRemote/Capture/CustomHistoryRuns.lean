import CtxRemote.Capture.ImportFrames

/-! Runs of a stream's import: what it does without a failure is a run, and what remains where an
operation fails is what has been committed.
-/

namespace CtxRemote.Capture.CustomHistory
open CtxRemote.Library hiding Returns
open CtxRemote.Library.Interruptible
open CtxRemote.Store (Uuid StoreError)
open CtxRemote.Sync (ProviderImportSummary)

-----------------------------------------------------------------------------------------
-- What an import does without a failure
-----------------------------------------------------------------------------------------

section Follows

variable {state : ImportState}

theorem follows_transact (f : ImportState → ImportState) : Follows (transact f) (modify f) :=
  fun _ => by simp [transact, Ending.ofExcept]

theorem follows_during {α : Type} (plain : ImportM α) : Follows (during plain) plain :=
  fun _ => by simp [during]

theorem returns_transact {f : ImportState → ImportState} {value : Unit} {final : ImportState}
    : Returns (transact f) state value final ↔ final = f state := by
  simp [Returns, transact]

theorem returns_rotateFaulty (active : state.transaction.active = true)
    : Returns rotateFaulty state () state.rotated := by
  simp only [rotateFaulty, returns_bind, returns_transact]
  refine ⟨_, (), rfl, _, (), rfl, ?_⟩
  simp [ImportState.rotated, active]

theorem follows_prepareUnitFaulty (unitBytes : Nat)
    : Follows (prepareUnitFaulty unitBytes) (prepareUnit unitBytes) := by
  intro state
  rw [perform_prepareUnit]
  refine List.mem_flatMap.mpr ⟨_, List.mem_singleton_self _, ?_⟩
  dsimp only [ImportState.prepared]
  split
  next full =>
    have active : state.transaction.active = true := by
      simp only [Bool.and_eq_true] at full
      exact full.1.1.1
    exact returns_rotateFaulty active
  next => exact List.mem_singleton_self _

theorem follows_recordUnitFaulty (unitBytes : Nat)
    : Follows (recordUnitFaulty unitBytes) (recordUnit unitBytes) := by
  intro state
  rw [perform_recordUnit]
  refine List.mem_flatMap.mpr ⟨_, List.mem_singleton_self _, ?_⟩
  dsimp only [ImportState.recorded]
  split
  next active =>
    refine List.mem_flatMap.mpr ⟨_, List.mem_singleton_self _, ?_⟩
    refine List.mem_flatMap.mpr ⟨_, List.mem_singleton_self _, ?_⟩
    dsimp only
    split
    · exact returns_rotateFaulty active
    · exact List.mem_singleton_self _
  next => exact List.mem_singleton_self _

/-- A unit is what happens before it, its body and what happens behind it. -/
theorem importUnit_eq (unitBytes lineNumber : Nat) (unit : ImportM ProviderImportSummary)
    : importUnit unitBytes lineNumber unit
      = prepareUnit unitBytes >>= fun _ =>
          unitBody lineNumber unit >>= fun _ => recordUnit unitBytes := by
  unfold importUnit unitBody
  exact congrArg _ (funext fun _ => (bind_assoc _ _ _).symm)

theorem follows_importUnitFaulty (unitBytes lineNumber : Nat) (unit : ImportM ProviderImportSummary)
    : Follows (importUnitFaulty unitBytes lineNumber unit) (importUnit unitBytes lineNumber unit) := by
  rw [importUnit_eq]
  refine .bind (follows_prepareUnitFaulty _) fun _ => ?_
  exact (follows_during _).bind fun _ => follows_recordUnitFaulty _

theorem follows_beginFaulty (hasWork : Bool)
    : Follows (beginFaulty hasWork) (beginTransaction hasWork) := by
  cases hasWork
  · exact .modify _
  · exact follows_transact _

theorem follows_commitFaulty : Follows commitFaulty commit := by
  intro state
  refine List.mem_flatMap.mpr ⟨_, List.mem_singleton_self _, ?_⟩
  dsimp only [commit, perform_modify]
  split
  · exact returns_transact.mpr rfl
  · exact List.mem_singleton_self _

variable (externals : Externals) (options : NormalizedProviderImportOptions)

theorem follows_resolvePendingProviderEdgesFaulty
    : Follows (resolvePendingProviderEdgesFaulty externals)
        (resolvePendingProviderEdgesBatched externals) :=
  .bind .get fun _ => .bind (.modify _) fun _ => .forM fun _ _ => follows_importUnitFaulty _ _ _

theorem follows_finishImportFaulty (filesTouched : List (Nat × ProviderFileTouchedEnvelope))
    (cursors : List SyncCursor)
    : Follows (finishImportFaulty externals options filesTouched cursors)
        (finishImport externals options.historyRecordId filesTouched cursors) := by
  refine .bind (follows_resolvePendingProviderEdgesFaulty externals) fun _ => ?_
  refine .bind (.forM fun _ _ => follows_importUnitFaulty _ _ _) fun _ => ?_
  have ends
      : Follows (commitFaulty >>= fun _ => read >>= fun state => pure state.summary)
          (commit >>= fun _ => get >>= fun state => pure state.summary) :=
    .bind follows_commitFaulty fun _ => .bind .get fun _ => .pure _
  refine .bind .get fun _ => .ite (.bind ?_ fun _ => ends) ends
  exact .forM fun _ _ => follows_importUnitFaulty _ _ _

theorem follows_persistFaulty (captures : List (Nat × ProviderCaptureEnvelope))
    (filesTouched : List (Nat × ProviderFileTouchedEnvelope))
    : Follows (persistFaulty externals options captures filesTouched)
        (persistProviderCaptureLines externals options captures filesTouched) := by
  have ends (cursors : List SyncCursor)
      : Follows
          (beginFaulty (!(captures.isEmpty && filesTouched.isEmpty) && options.wrapTransaction) >>=
            fun _ => captures.forM (fun line =>
              importUnitFaulty (externals.captureLength line.2) line.1
                (importProviderCaptureLine externals options line.2 line.1)) >>=
            fun _ => finishImportFaulty externals options filesTouched cursors)
          (beginTransaction (!(captures.isEmpty && filesTouched.isEmpty) && options.wrapTransaction) >>=
            fun _ => importCaptures externals options captures >>=
            fun _ => finishImport externals options.historyRecordId filesTouched cursors) := by
    refine .bind (follows_beginFaulty _) fun _ => .bind ?_ fun _ => follows_finishImportFaulty _ _ _ _
    exact .forM fun _ _ => follows_importUnitFaulty _ _ _
  exact .bind .get fun _ => ends _

theorem follows_importEdgesFaulty (historyRecordId : Option Uuid) (edges : List (Nat × EdgeImport))
    : Follows (importEdgesFaulty historyRecordId edges) (importEdges historyRecordId edges) := by
  refine .bind (follows_beginFaulty _) fun _ => ?_
  refine .bind (.forM fun _ _ => follows_importUnitFaulty _ _ _) fun _ => ?_
  exact .bind follows_commitFaulty fun _ => .bind .get fun _ => .pure _

end Follows

-----------------------------------------------------------------------------------------
-- What remains where an operation fails
-----------------------------------------------------------------------------------------

section Tracks

variable {state : ImportState} {kept : List SyncCursor}

@[simp]
theorem ensures_transact {f : ImportState → ImportState} {done : Unit → ImportState → Prop}
    {cut : Option CaptureError → ImportState → Prop}
    : Ensures (transact f) state done cut
      ↔ cut none state.rolledBack ∧ cut (some (.store .sql)) state.rolledBack ∧ done () (f state) := by
  simp [Ensures, transact]

/-- The cursors that remain where the transaction is rolled back. -/
def durable (state : ImportState) : List SyncCursor := state.rolledBack.store.syncCursors

/-- A state that an import leaves has some cursors. -/
def Leaving (kept : List SyncCursor) (state : ImportState) : Prop := state.store.syncCursors = kept

theorem durable_active (active : state.transaction.active = true)
    : durable state = state.transaction.committed.syncCursors := by
  simp [durable, ImportState.rolledBack, active]

theorem durable_inactive (inactive : state.transaction.active = false)
    : durable state = state.store.syncCursors := by
  simp [durable, ImportState.rolledBack, inactive]

theorem ensures_rotateFaulty (active : state.transaction.active = true)
    (before : durable state = kept) (after : durable state.rotated = kept)
    : Ensures rotateFaulty state (fun _ final => final = state.rotated) fun _ => Leaving kept := by
  have now : state.store.syncCursors = kept := by
    rw [← after, durable_active (by exact active)]
    rfl
  simp only [rotateFaulty, ensures_bind, ensures_transact, id]
  refine ⟨before, before, now, now, now, now, ?_⟩
  simp [ImportState.rotated, active]

theorem active_prepared (unitBytes : Nat)
    : (state.prepared unitBytes).transaction.active = state.transaction.active := by
  unfold ImportState.prepared
  dsimp only
  split <;> rfl

theorem tracks_prepareUnitFaulty {unitBytes : Nat} (before : durable state = kept)
    (after : durable (state.prepared unitBytes) = kept)
    : Tracks (prepareUnitFaulty unitBytes) (prepareUnit unitBytes) state (Leaving kept) := by
  unfold Tracks prepareUnitFaulty
  simp only [perform_prepareUnit, ensures_bind, ensures_read]
  dsimp only [ImportState.prepared] at after ⊢
  split at after
  next full =>
    have active : state.transaction.active = true := by
      simp only [Bool.and_eq_true] at full
      exact full.1.1.1
    simp only [if_pos full]
    exact (ensures_rotateFaulty active before after).mono (fun _ _ same => by rw [same]) (fun _ _ => id)
  next free =>
    simp only [if_neg free]
    exact ensures_pure.mpr rfl

theorem tracks_recordUnitFaulty {unitBytes : Nat} (active : state.transaction.active = true)
    (before : durable state = kept) (after : durable (state.recorded unitBytes) = kept)
    : Tracks (recordUnitFaulty unitBytes) (recordUnit unitBytes) state (Leaving kept) := by
  unfold Tracks recordUnitFaulty
  simp only [perform_recordUnit, ensures_bind, ensures_read, if_pos active, ensures_note]
  dsimp only [ImportState.recorded] at after ⊢
  rw [if_pos active] at after
  simp only [if_pos active]
  have counted
      : durable
          { state with
            transaction :=
              { state.transaction with
                units := state.transaction.units + 1
                bytes := state.transaction.bytes + unitBytes } }
        = kept := by
    rw [durable_active active] at before
    rw [durable_active (by exact active)]
    exact before
  split at after
  next full =>
    simp only [if_pos full]
    refine (ensures_rotateFaulty (by exact active) counted after).mono ?_ (fun _ _ => id)
    exact fun _ _ same => by rw [same]
  next free =>
    simp only [if_neg free]
    exact ensures_pure.mpr rfl

theorem tracks_during {α : Type} {plain : ImportM α} (before : durable state = kept)
    (stops : ∀ error final, perform plain state = (.error error, final) → Leaving kept final)
    : Tracks (during plain) plain state (Leaving kept) := by
  intro run ran
  simp only [during, List.mem_cons, List.not_mem_nil, or_false] at ran
  rcases ran with rfl | rfl | rfl
  · exact before
  · exact before
  · cases result : perform plain state with
    | mk ending final =>
      cases ending with
      | ok value => rfl
      | error error => exact stops error final result

/-- What the body of a unit does: an error of the store rolls the transaction back. -/
theorem perform_unitBody (lineNumber : Nat) (unit : ImportM ProviderImportSummary)
    (state : ImportState)
    : perform (unitBody lineNumber unit) state
      = match perform unit state with
        | (.ok summary, mid) => (.ok (), mid.counting summary)
        | (.error (.store error), mid) => (.error (.store error), mid.rolledBack)
        | (.error error, mid) =>
            (.ok (), mid.counting { failed := 1, failures := [⟨lineNumber, error.text⟩] }) := by
  unfold unitBody
  rw [perform_bind, perform_tryCatch]
  match perform unit state with
  | (.ok summary, mid) => rfl
  | (.error (.store error), mid) => rfl
  | (.error (.io _), mid) | (.error (.invalidPayload _), mid) | (.error (.workerPanicked _), mid) => rfl

/-- The body of a unit that leaves the transaction either leaves it too or rolls it back. -/
theorem unitBody_transaction {lineNumber : Nat} {unit : ImportM ProviderImportSummary}
    (leaves : Leaves (·.transaction) unit)
    : Ends (unitBody lineNumber unit) state (fun _ final => final.transaction = state.transaction)
        fun _ final => ∃ mid : ImportState, mid.transaction = state.transaction ∧ final = mid.rolledBack := by
  have same := leaves state
  unfold Ends
  rw [perform_unitBody]
  match ran : perform unit state with
  | (.ok summary, mid) => exact (congrArg (·.2.transaction) ran).symm.trans same
  | (.error (.store error), mid) => exact ⟨mid, (congrArg (·.2.transaction) ran).symm.trans same, rfl⟩
  | (.error (.io _), mid) | (.error (.invalidPayload _), mid) | (.error (.workerPanicked _), mid) =>
      exact (congrArg (·.2.transaction) ran).symm.trans same

/-- A unit whose commits leave some cursors. -/
theorem tracks_importUnitFaulty {unitBytes lineNumber : Nat} {unit : ImportM ProviderImportSummary}
    (leaves : Leaves (·.transaction) unit) (active : state.transaction.active = true)
    (before : durable state = kept) (prepared : durable (state.prepared unitBytes) = kept)
    (after
      : ∀ final, perform (importUnit unitBytes lineNumber unit) state = (.ok (), final)
        → durable final = kept)
    : Tracks (importUnitFaulty unitBytes lineNumber unit) (importUnit unitBytes lineNumber unit) state
        (Leaving kept) := by
  rw [importUnit_eq] at after ⊢
  refine (tracks_prepareUnitFaulty before prepared).bind fun _ first ready => ?_
  obtain rfl : state.prepared unitBytes = first := by
    rw [perform_prepareUnit] at ready
    exact (Prod.mk.inj ready).2
  have ready' := (active_prepared unitBytes).trans active
  have body := @unitBody_transaction (state.prepared unitBytes) lineNumber _ leaves
  refine (tracks_during prepared fun error final stopped => ?_).bind fun _ second ran => ?_
  · obtain ⟨mid, same, rfl⟩ := body.of_error stopped
    have committed : durable mid = durable (state.prepared unitBytes) := by
      rw [durable_active (by rw [same]; exact ready'), durable_active ready', same]
    exact committed.trans prepared
  · have same := body.of_ok ran
    have stillActive : second.transaction.active = true := by rw [same]; exact ready'
    refine tracks_recordUnitFaulty stillActive ?_ (after _ ?_)
    · rw [durable_active stillActive, same, ← durable_active ready', prepared]
    · rw [perform_bind, ready]
      dsimp only
      rw [perform_bind, ran]
      dsimp only
      rw [perform_recordUnit]

-----------------------------------------------------------------------------------------
-- Units that leave the cursors
-----------------------------------------------------------------------------------------

/-- In a transaction in which what `view` shows of the cursors is as it has been committed. -/
structure Resting {γ : Type} (view : List SyncCursor → γ) (kept : γ) (state : ImportState) : Prop where
  active : state.transaction.active = true
  stored : view state.store.syncCursors = kept
  committed : view state.transaction.committed.syncCursors = kept

theorem Resting.durable (resting : Resting id kept state) : durable state = kept :=
  (durable_active resting.active).trans resting.committed

section Views

variable {γ : Type} {view : List SyncCursor → γ} {shown : γ}

theorem Resting.rotated (resting : Resting view shown state) : Resting view shown state.rotated :=
  ⟨resting.active, resting.stored, resting.stored⟩

theorem Resting.prepared (resting : Resting view shown state) (unitBytes : Nat)
    : Resting view shown (state.prepared unitBytes) := by
  unfold ImportState.prepared
  dsimp only
  split
  · exact resting.rotated
  · exact resting

theorem Resting.recorded (resting : Resting view shown state) (unitBytes : Nat)
    : Resting view shown (state.recorded unitBytes) := by
  unfold ImportState.recorded
  dsimp only
  split
  · split
    · exact ⟨resting.active, resting.stored, resting.stored⟩
    · exact ⟨resting.active, resting.stored, resting.committed⟩
  · exact resting

theorem Resting.counting (resting : Resting view shown state) (summary : ProviderImportSummary)
    : Resting view shown (state.counting summary) :=
  ⟨resting.active, resting.stored, resting.committed⟩

theorem Resting.of_outside {next : ImportState} (resting : Resting view shown state)
    (same : next.outside = state.outside)
    : Resting view shown next := by
  obtain ⟨cursors, transaction⟩ := Prod.mk.inj same
  exact ⟨by rw [transaction, resting.active], by rw [cursors, resting.stored],
    by rw [transaction, resting.committed]⟩

end Views

theorem leaves_transaction {α : Type} {unit : ImportM α} (inside : Inside unit)
    : Leaves (·.transaction) unit :=
  fun state => (Prod.mk.inj (inside state)).2

section Units

variable {unitBytes lineNumber : Nat} {unit : ImportM ProviderImportSummary}

/-- A unit that leaves the cursors is followed by the next one. -/
theorem Resting.next (resting : Resting id kept state) (inside : Inside unit) {next : ImportState}
    (ran : perform (importUnit unitBytes lineNumber unit) state = (.ok (), next))
    : Resting id kept next := by
  have mid := (resting.prepared unitBytes).of_outside (inside _)
  rw [perform_importUnit] at ran
  match unitRan : perform unit (state.prepared unitBytes) with
  | (.ok summary, last) =>
      rw [unitRan] at ran mid
      obtain rfl := (Prod.mk.inj ran).2
      exact (mid.counting _).recorded _
  | (.error (.store error), last) =>
      rw [unitRan] at ran
      cases ran
  | (.error (.io _), last) | (.error (.invalidPayload _), last) | (.error (.workerPanicked _), last) =>
      rw [unitRan] at ran mid
      obtain rfl := (Prod.mk.inj ran).2
      exact (mid.counting _).recorded _

theorem Resting.tracks (resting : Resting id kept state) (inside : Inside unit)
    : Tracks (importUnitFaulty unitBytes lineNumber unit) (importUnit unitBytes lineNumber unit) state
        (Leaving kept) :=
  tracks_importUnitFaulty (leaves_transaction inside) resting.active resting.durable
    (resting.prepared unitBytes).durable fun _ ran => (resting.next inside ran).durable

end Units

/-- A loop of units that leave the cursors. -/
theorem Resting.loop {α : Type} {unitBytes lineNumber : α → Nat}
    {unit : α → ImportM ProviderImportSummary} {xs : List α} (resting : Resting id kept state)
    (inside : ∀ x ∈ xs, Inside (unit x))
    : Tracks (xs.forM fun x => importUnitFaulty (unitBytes x) (lineNumber x) (unit x))
          (xs.forM fun x => importUnit (unitBytes x) (lineNumber x) (unit x)) state (Leaving kept)
        ∧ ∀ next,
            perform (xs.forM fun x => importUnit (unitBytes x) (lineNumber x) (unit x)) state
              = (.ok (), next)
            → Resting id kept next := by
  have steps (x : α) (member : x ∈ xs) (state : ImportState) (resting : Resting id kept state)
      (next : ImportState)
      (ran : perform (importUnit (unitBytes x) (lineNumber x) (unit x)) state = (.ok (), next))
      : Resting id kept next :=
    resting.next (inside x member) ran
  refine ⟨Tracks.forM (fun x member state resting => resting.tracks (inside x member)) steps resting,
    fun next ran => ?_⟩
  have loop
      : Ends (xs.forM fun x => importUnit (unitBytes x) (lineNumber x) (unit x)) state
          (fun _ next => Resting id kept next) fun _ _ => True := by
    refine Ends.forM (fun _ => Resting id kept) (allReached_true _ _) resting
      fun before x member state resting _ => ?_
    unfold Ends
    split
    next value last ran => exact steps x member state resting last ran
    next => trivial
  exact loop.of_ok ran

end Tracks

end CtxRemote.Capture.CustomHistory
