import CtxRemote.Capture.ProviderImporter

/-! How the programs of the importer run: statements, changes of the caches, and units with the
transactions around them.
-/

namespace CtxRemote.Capture
open CtxRemote.Library
open CtxRemote.Store (StoreError)
open CtxRemote.Sync (ProviderImportSummary)

@[simp] theorem perform_executeStatement
    (statement : ImportStore → Except StoreError ImportStore) (state : ImportState)
    : perform (executeStatement statement) state
      = match statement state.store with
        | .ok store => (.ok (), { state with store := store })
        | .error error => (.error (.store error), state) := by
  unfold executeStatement
  rw [perform_bind, perform_get]
  dsimp only
  cases statement state.store <;> rfl

@[simp] theorem perform_changeCaches (change : ProviderImportCaches → ProviderImportCaches)
    (state : ImportState)
    : perform (changeCaches change) state = (.ok (), { state with caches := change state.caches }) :=
  rfl

-----------------------------------------------------------------------------------------
-- Units
-----------------------------------------------------------------------------------------

/-- The state behind `rotate`. -/
def ImportState.rotated (state : ImportState) : ImportState :=
  { state with
    transaction := { state.transaction with units := 0, bytes := 0, committed := state.store } }

/-- The state behind `prepare_unit`. -/
def ImportState.prepared (state : ImportState) (unitBytes : Nat) : ImportState :=
  let transaction := state.transaction
  if transaction.active && transaction.batchSize.isSome && 0 < transaction.units
      && importTransactionBatchBytes < transaction.bytes + unitBytes then
    state.rotated
  else state

/-- The state behind `record_unit`. -/
def ImportState.recorded (state : ImportState) (unitBytes : Nat) : ImportState :=
  if state.transaction.active then
    let transaction :=
      { state.transaction with
        units := state.transaction.units + 1
        bytes := state.transaction.bytes + unitBytes }
    let belowUnitLimit := transaction.batchSize.all (transaction.units < ·)
    let belowByteLimit :=
      transaction.batchSize.isNone || transaction.bytes < importTransactionBatchBytes
    if !(belowUnitLimit && belowByteLimit) then
      ImportState.rotated { state with transaction := transaction }
    else { state with transaction := transaction }
  else state

/-- The state behind `rollback`. -/
def ImportState.rolledBack (state : ImportState) : ImportState :=
  if state.transaction.active then
    { state with
      store := state.transaction.committed
      transaction := { state.transaction with active := false } }
  else state

/-- The state with more counts. -/
def ImportState.counting (state : ImportState) (summary : ProviderImportSummary) : ImportState :=
  { state with summary := state.summary.mergeFrom summary }

@[simp] theorem perform_prepareUnit (unitBytes : Nat) (state : ImportState)
    : perform (prepareUnit unitBytes) state = (.ok (), state.prepared unitBytes) := by
  unfold prepareUnit ImportState.prepared
  rw [perform_bind, perform_get]
  dsimp only
  split <;> rfl

@[simp] theorem perform_recordUnit (unitBytes : Nat) (state : ImportState)
    : perform (recordUnit unitBytes) state = (.ok (), state.recorded unitBytes) := by
  unfold recordUnit ImportState.recorded
  rw [perform_bind, perform_get]
  dsimp only
  split
  next =>
      rw [perform_bind, perform_modify]
      dsimp only
      rw [perform_bind, perform_get]
      dsimp only
      split <;> rfl
  next => rfl

@[simp] theorem perform_rollback (state : ImportState)
    : perform rollback state = (.ok (), state.rolledBack) :=
  rfl

/-- What a unit does: its counts or its failure are recorded, and an error of the store ends the
import.
-/
theorem perform_importUnit (unitBytes lineNumber : Nat) (unit : ImportM ProviderImportSummary)
    (state : ImportState)
    : perform (importUnit unitBytes lineNumber unit) state
      = match perform unit (state.prepared unitBytes) with
        | (.ok summary, mid) => (.ok (), (mid.counting summary).recorded unitBytes)
        | (.error (.store error), mid) => (.error (.store error), mid.rolledBack)
        | (.error error, mid) =>
            (.ok (),
              (mid.counting { failed := 1, failures := [⟨lineNumber, error.text⟩] }).recorded
                unitBytes) := by
  unfold importUnit
  rw [perform_bind, perform_prepareUnit]
  dsimp only
  rw [perform_bind, perform_tryCatch]
  match perform unit (state.prepared unitBytes) with
  | (.ok summary, mid) =>
      simp only [perform_bind, perform_modify, perform_recordUnit, ImportState.counting]
  | (.error (.store error), mid) =>
      simp only [perform_bind, perform_rollback, perform_throw]
  | (.error (.io _), mid) | (.error (.invalidPayload _), mid) | (.error (.workerPanicked _), mid) =>
      simp only [perform_bind, perform_pure, perform_modify, perform_recordUnit,
        ImportState.counting]

@[simp] theorem store_prepared (state : ImportState) (unitBytes : Nat)
    : (state.prepared unitBytes).store = state.store := by
  unfold ImportState.prepared
  dsimp only
  split <;> rfl

@[simp] theorem caches_prepared (state : ImportState) (unitBytes : Nat)
    : (state.prepared unitBytes).caches = state.caches := by
  unfold ImportState.prepared
  dsimp only
  split <;> rfl

@[simp] theorem store_recorded (state : ImportState) (unitBytes : Nat)
    : (state.recorded unitBytes).store = state.store := by
  unfold ImportState.recorded
  dsimp only
  split
  next => split <;> rfl
  next => rfl

@[simp] theorem caches_recorded (state : ImportState) (unitBytes : Nat)
    : (state.recorded unitBytes).caches = state.caches := by
  unfold ImportState.recorded
  dsimp only
  split
  next => split <;> rfl
  next => rfl

-----------------------------------------------------------------------------------------
-- Imports
-----------------------------------------------------------------------------------------

/-- The state behind `ProviderImportTransaction::begin`. -/
def ImportState.begun (state : ImportState) (hasWork : Bool) : ImportState :=
  { state with
    transaction :=
      { active := hasWork
        batchSize := some importTransactionBatchUnits
        units := 0
        bytes := 0
        committed := state.store } }

@[simp] theorem perform_beginTransaction (hasWork : Bool) (state : ImportState)
    : perform (beginTransaction hasWork) state = (.ok (), state.begun hasWork) :=
  rfl

/-- Whether an import opens transactions. -/
def hasTransactions (options : NormalizedProviderImportOptions)
    (captures : List (Nat × ProviderCaptureEnvelope))
    (filesTouched : List (Nat × ProviderFileTouchedEnvelope))
    : Bool :=
  !(captures.isEmpty && filesTouched.isEmpty) && options.wrapTransaction

/-- The cursors that an import stores if nothing fails. -/
def cursorsToPersist (options : NormalizedProviderImportOptions)
    (captures : List (Nat × ProviderCaptureEnvelope)) (summary : ProviderImportSummary)
    : List SyncCursor :=
  if options.persistCursors && summary.failed = 0 then pendingCursors captures else []

/-- An import is its captures, and what comes behind them. -/
theorem perform_persistProviderCaptureLines (externals : Externals)
    (options : NormalizedProviderImportOptions) (captures : List (Nat × ProviderCaptureEnvelope))
    (filesTouched : List (Nat × ProviderFileTouchedEnvelope)) (state : ImportState)
    : perform (persistProviderCaptureLines externals options captures filesTouched) state
      = match perform (importCaptures externals options captures)
            (state.begun (hasTransactions options captures filesTouched)) with
        | (.ok _, mid) =>
            perform
              (finishImport externals options.historyRecordId filesTouched
                (cursorsToPersist options captures state.summary)) mid
        | (.error error, mid) => (.error error, mid) := by
  unfold persistProviderCaptureLines
  rw [perform_bind, perform_get]
  dsimp only
  rw [perform_bind, perform_beginTransaction]
  dsimp only
  rw [perform_bind]
  have work
      : (!(captures.isEmpty && filesTouched.isEmpty) && options.wrapTransaction)
        = hasTransactions options captures filesTouched := rfl
  rw [work]
  rcases perform (importCaptures externals options captures)
    (state.begun (hasTransactions options captures filesTouched)) with ⟨result, mid⟩
  cases result <;> rfl

end CtxRemote.Capture
