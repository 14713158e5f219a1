import CtxRemote.Library.Transition
import CtxRemote.Store.BulkSearch

/-! Processes in and out of bulk mode. Each has the database open, holds guards that its calls of
`begin_event_search_bulk_mode` have returned, and runs one call at a time; between two transactions of a call
any other process may go on, and any process may crash.
-/

namespace CtxRemote.Store
open CtxRemote.Library

-----------------------------------------------------------------------------------------
-- Guards and calls
-----------------------------------------------------------------------------------------

/-- `EventSearchBulkGuard`. The lock connection is given by its number among those of the store. -/
structure BulkGuard where
  lockConn : Option Nat
  depthCounted : Bool
deriving DecidableEq, Repr

/-- Whose guard a call of `finish_event_search_bulk_mode` has: that of its caller, of
`recover_event_search_bulk_mode`, or of `merge_all_fts_tables_bounded`.
-/
inductive BulkPurpose where
  | caller | recovery | optimize
deriving DecidableEq, Repr

/-- Where a call of `finish_event_search_bulk_mode` is: in front of its look at the marker, of a bounded
merge, of `restore_event_search_bulk_mode_if_quiescent`, or about to return.
-/
inductive FinishStage where
  | check | merge | restore | done
deriving DecidableEq, Repr

/-- Where a process is. -/
inductive BulkTask where
  /-- The store is not open. -/
  | closed
  | idle
  /-- A begin that has counted itself, in front of the lock. -/
  | beginAcquire
  /-- A begin with the lock, in front of its transaction. -/
  | beginTransaction (guard : BulkGuard)
  /-- A recovery in front of its first transaction. -/
  | recover
  /-- A recovery that has seen the marker, in front of the lock. -/
  | recoverAcquire
  /-- `merge_all_fts_tables_bounded` in front of the lock. -/
  | optimizeAcquire
  | finishing (stage : FinishStage) (guard : BulkGuard) (purpose : BulkPurpose)
deriving DecidableEq, Repr

namespace BulkTask

/-- The guard in use. -/
def guard? : BulkTask → Option BulkGuard
  | beginTransaction guard => some guard
  | finishing _ guard _ => some guard
  | _ => none

@[simp, grind =] theorem guard?_closed : guard? .closed = none := rfl

@[simp, grind =] theorem guard?_idle : guard? .idle = none := rfl

@[simp, grind =] theorem guard?_beginAcquire : guard? .beginAcquire = none := rfl

@[simp, grind =] theorem guard?_beginTransaction (guard : BulkGuard)
    : guard? (.beginTransaction guard) = some guard := rfl

@[simp, grind =] theorem guard?_recover : guard? .recover = none := rfl

@[simp, grind =] theorem guard?_recoverAcquire : guard? .recoverAcquire = none := rfl

@[simp, grind =] theorem guard?_optimizeAcquire : guard? .optimizeAcquire = none := rfl

@[simp, grind =] theorem guard?_finishing (stage : FinishStage) (guard : BulkGuard) (purpose : BulkPurpose)
    : guard? (.finishing stage guard purpose) = some guard := rfl

end BulkTask

/-- An open store of a process: `event_search_bulk_depth`, the lock connections opened so far, the guards
that are not in use, and the call that runs.
-/
structure BulkHandle where
  depth : Nat
  connections : Nat
  guards : List BulkGuard
  task : BulkTask
deriving DecidableEq, Repr

namespace BulkHandle

/-- The lock connections with an open transaction. -/
def locks (handle : BulkHandle) : List Nat :=
  (handle.task.guard?.toList ++ handle.guards).filterMap (·.lockConn)

def goto (handle : BulkHandle) (task : BulkTask) : BulkHandle := { handle with task := task }

/-- The handle without a guard, which is dropped: `Drop` gives back its depth. -/
def withoutGuard (handle : BulkHandle) (index : Nat) (guard : BulkGuard) : BulkHandle :=
  { handle with
    guards := handle.guards.eraseIdx index
    depth := if guard.depthCounted then handle.depth - 1 else handle.depth }

end BulkHandle

-----------------------------------------------------------------------------------------
-- Moves
-----------------------------------------------------------------------------------------

/-- One move of a process. -/
inductive BulkAction where
  /-- `Store::open`, with the tables that its migrations create. -/
  | openStore (created : List FtsTable)
  /-- The store is dropped; guards may outlive it. -/
  | closeStore
  | begin
  | finish (index : Nat)
  | optimize
  /-- `acquire_event_search_bulk_lock`. -/
  | acquire
  /-- The next read or transaction of the call, and whether its merges change anything. -/
  | transact (nowMs : Int) (changed : Bool)
  /-- The call returns. -/
  | finishReturn
  | dropGuard (index : Nat)
  /-- The call ends with an error; what its open transaction did is rolled back. -/
  | fail
  | crash

/-- What a move does to the lock. -/
inductive LockChange where
  | keep
  | take (connection : Nat)
  | release (guard : BulkGuard)
  | releaseAll

/-- The effect of a move. -/
structure BulkMove where
  db : SearchDb
  handle : BulkHandle
  lock : LockChange

/-- The end of a finish, by return or by error. The caller keeps its guard; the others drop theirs. -/
def endCall (db : SearchDb) (handle : BulkHandle) (guard : BulkGuard) (recovered : BulkTask)
    : BulkPurpose → BulkMove
  | .caller => ⟨db, { handle with guards := handle.guards ++ [guard], task := .idle }, .keep⟩
  | .recovery => ⟨db, handle.goto recovered, .release guard⟩
  | .optimize => ⟨db, handle.goto .idle, .release guard⟩

/-- A lock that is taken by a new connection. -/
def takeLock (db : SearchDb) (handle : BulkHandle) (depthCounted : Bool)
    (task : BulkGuard → BulkTask)
    : BulkMove :=
  ⟨db,
    { handle with
      connections := handle.connections + 1
      task := task ⟨some handle.connections, depthCounted⟩ },
    .take handle.connections⟩

/-- The moves of a process, given the database and whether the lock is held. -/
def bulkMove (db : SearchDb) (locked : Bool) (handle : BulkHandle) (action : BulkAction)
    : Option BulkMove :=
  match handle.task, action with
  | _, .crash => some ⟨db, { handle with depth := 0, guards := [], task := .closed }, .releaseAll⟩
  | _, .dropGuard index =>
      handle.guards[index]?.map fun guard =>
        ⟨db, handle.withoutGuard index guard, .release guard⟩
  | .closed, .openStore created =>
      if handle.guards.isEmpty then
        some
          ⟨created.foldl SearchDb.createTable db, { handle with depth := 0, task := .recover },
            .keep⟩
      else none
  | .idle, .closeStore => some ⟨db, handle.goto .closed, .keep⟩
  | .idle, .begin =>
      if handle.depth = 0 then
        some ⟨db, { handle with depth := 1, task := .beginAcquire }, .keep⟩
      else
        -- A nested begin.
        some
          ⟨db,
            { handle with
              depth := handle.depth + 1
              guards := handle.guards ++ [⟨none, true⟩] },
            .keep⟩
  | .beginAcquire, .acquire =>
      if locked then
        -- `BulkSearchImportBusy`.
        some ⟨db, { handle with depth := handle.depth - 1, task := .idle }, .keep⟩
      else some (takeLock db handle true .beginTransaction)
  | .beginAcquire, .fail =>
      some ⟨db, { handle with depth := handle.depth - 1, task := .idle }, .keep⟩
  | .beginTransaction guard, .transact nowMs _ =>
      some
        ⟨db.beginBulkMode nowMs,
          { handle with guards := handle.guards ++ [guard], task := .idle }, .keep⟩
  | .beginTransaction guard, .fail =>
      some ⟨db, { handle with depth := handle.depth - 1, task := .idle }, .release guard⟩
  | .recover, .transact _ _ =>
      some
        ⟨db.reassertBulkMode,
          handle.goto (if db.bulkModePending then .recoverAcquire else .idle), .keep⟩
  | .recover, .fail => some ⟨db, handle.goto .closed, .keep⟩
  | .recoverAcquire, .acquire =>
      if locked then some ⟨db, handle.goto .idle, .keep⟩
      else some (takeLock db handle false (.finishing .check · .recovery))
  | .recoverAcquire, .fail => some ⟨db, handle.goto .closed, .keep⟩
  | .idle, .optimize => some ⟨db, handle.goto .optimizeAcquire, .keep⟩
  | .optimizeAcquire, .acquire =>
      if locked then some ⟨db, handle.goto .idle, .keep⟩
      else some (takeLock db handle false (.finishing .check · .optimize))
  | .optimizeAcquire, .fail => some ⟨db, handle.goto .idle, .keep⟩
  | .idle, .finish index =>
      handle.guards[index]?.map fun guard =>
        if guard.lockConn.isNone || (guard.depthCounted && handle.depth ≠ 1) then
          -- A nested guard, or `InvalidBulkSearchGuard`.
          ⟨db, handle, .keep⟩
        else
          ⟨db,
            { handle with
              guards := handle.guards.eraseIdx index
              task := .finishing .check guard .caller },
            .keep⟩
  | .finishing .check guard purpose, .transact _ _ =>
      some
        ⟨db,
          handle.goto
            (.finishing (if db.bulkModePending then .merge else .done) guard purpose),
          .keep⟩
  | .finishing .merge guard purpose, .transact _ changed =>
      some
        ⟨db,
          handle.goto
            (.finishing (if db.bulkModePending && changed then .merge else .restore) guard purpose),
          .keep⟩
  | .finishing .restore guard purpose, .transact _ changed =>
      if db.bulkModePending then
        if changed then some ⟨db, handle.goto (.finishing .merge guard purpose), .keep⟩
        else some ⟨db.endBulkMode, handle.goto (.finishing .done guard purpose), .keep⟩
      else some ⟨db, handle.goto (.finishing .done guard purpose), .keep⟩
  | .finishing .done guard purpose, .finishReturn => some (endCall db handle guard .idle purpose)
  | .finishing _ guard purpose, .fail => some (endCall db handle guard .closed purpose)
  | _, _ => none

-----------------------------------------------------------------------------------------
-- What a move does
-----------------------------------------------------------------------------------------

variable {db : SearchDb} {locked : Bool} {handle : BulkHandle} {action : BulkAction}
variable {move : BulkMove}

/-- A migration keeps the settings, by induction on the tables it creates. -/
theorem keeps_migration {db : SearchDb} (beside : db.SavedBesideMarker) (created : List FtsTable)
    : db.Keeps (created.foldl SearchDb.createTable db) := by
  induction created generalizing db with
  | nil => exact SearchDb.keeps_refl beside
  | cons table rest ih =>
      have first := SearchDb.keeps_createTable beside table
      exact first.trans (ih first.besideMarker)

/-- A migration keeps the marker as it is. -/
theorem pending_migration (db : SearchDb) (created : List FtsTable)
    : (created.foldl SearchDb.createTable db).bulkModePending = db.bulkModePending := by
  induction created generalizing db with
  | nil => rfl
  | cons table rest ih =>
      rw [List.foldl_cons, ih]
      unfold SearchDb.createTable
      split <;> rfl

/-- The end of a finish changes no data, and no call runs behind it. -/
theorem endCall_spec (db : SearchDb) (handle : BulkHandle) (guard : BulkGuard)
    (recovered : BulkTask) (purpose : BulkPurpose)
    : (endCall db handle guard recovered purpose).db = db
      ∧ ((endCall db handle guard recovered purpose).handle.task = .idle
        ∨ (endCall db handle guard recovered purpose).handle.task = recovered) := by
  cases purpose with
  | caller => exact ⟨rfl, .inl rfl⟩
  | recovery => exact ⟨rfl, .inr rfl⟩
  | optimize => exact ⟨rfl, .inl rfl⟩

/-- The moves that change the database. -/
theorem bulkMove_db (moved : bulkMove db locked handle action = some move)
    : move.db = db
      ∨ (∃ created, move.db = List.foldl SearchDb.createTable db created)
      ∨ (∃ guard nowMs,
          handle.task = .beginTransaction guard ∧ move.db = db.beginBulkMode nowMs)
      ∨ move.db = db.reassertBulkMode
      ∨ (db.bulkModePending = true ∧ move.db = db.endBulkMode) := by
  unfold bulkMove at moved
  split at moved <;> grind [endCall_spec, takeLock]

/-- Each move keeps the settings. -/
theorem bulkMove_keeps (beside : db.SavedBesideMarker)
    (moved : bulkMove db locked handle action = some move)
    : db.Keeps move.db := by
  obtain same | ⟨created, same⟩ | ⟨_, nowMs, -, same⟩ | same | ⟨pending, same⟩ := bulkMove_db moved
    <;> rw [same]
  · exact SearchDb.keeps_refl beside
  · exact keeps_migration beside created
  · exact (SearchDb.keeps_begin beside nowMs).1
  · exact SearchDb.keeps_reassert beside
  · exact (SearchDb.keeps_end beside pending).1

/-- A finish that is about to return has found or left no marker. -/
theorem bulkMove_finished (beside : db.SavedBesideMarker)
    (moved : bulkMove db locked handle action = some move) {guard : BulkGuard}
    {purpose : BulkPurpose} (there : move.handle.task = .finishing .done guard purpose)
    : (handle.task = .finishing .done guard purpose ∧ move.db = db) ∨ move.db.bulkModePending = false := by
  have ended (pending : db.bulkModePending = true) : db.endBulkMode.bulkModePending = false :=
    (SearchDb.keeps_end beside pending).2
  unfold bulkMove at moved
  split at moved <;>
    grind [endCall_spec, takeLock, BulkHandle.goto, BulkHandle.withoutGuard]

/-- The guard in use holds the lock. -/
theorem bulkMove_guarded (moved : bulkMove db locked handle action = some move)
    (before : ∀ guard, handle.task.guard? = some guard → guard.lockConn.isSome)
    : ∀ guard, move.handle.task.guard? = some guard → guard.lockConn.isSome := by
  unfold bulkMove at moved
  split at moved <;>
    grind [endCall_spec, takeLock, BulkHandle.goto, BulkHandle.withoutGuard, Option.isSome_iff_ne_none,
      Option.isNone_iff_eq_none]

/-- A store that is being opened has given out no guard. -/
theorem bulkMove_opening (moved : bulkMove db locked handle action = some move)
    (before : handle.task = .recover ∨ handle.task = .recoverAcquire → handle.guards = [])
    : move.handle.task = .recover ∨ move.handle.task = .recoverAcquire → move.handle.guards = [] := by
  unfold bulkMove at moved
  split at moved <;>
    grind [endCall_spec, takeLock, BulkHandle.goto, BulkHandle.withoutGuard, List.isEmpty_iff]

/-- A call of `recover_event_search_bulk_mode` runs. -/
def BulkTask.recovering : BulkTask → Bool
  | recover => true
  | recoverAcquire => true
  | finishing _ _ purpose => purpose = .recovery
  | _ => false

/-- A recovery returns without a marker, in front of a lock that is held, or behind a finish. -/
theorem bulkMove_recovered (moved : bulkMove db locked handle action = some move)
    (recovering : handle.task.recovering = true) (returned : move.handle.task = .idle)
    : move.db = db
      ∧ ((handle.task = .recover ∧ db.bulkModePending = false)
        ∨ (handle.task = .recoverAcquire ∧ locked = true ∧ move.lock = .keep)
        ∨ ∃ guard, handle.task = .finishing .done guard .recovery) := by
  unfold bulkMove at moved
  split at moved <;>
    grind [endCall, takeLock, BulkHandle.goto, BulkHandle.withoutGuard, BulkTask.recovering,
      SearchDb.reassertBulkMode]

/-- The lock connections of a handle before and after a change of the lock. -/
def LockChange.Fits (locked : Bool) (before after : List Nat) : LockChange → Prop
  | .keep => after.Perm before
  | .take connection => locked = false ∧ after.Perm (connection :: before)
  | .release guard => before.Perm (guard.lockConn.toList ++ after)
  | .releaseAll => after = []

/-- A guard among others. -/
theorem locks_eraseIdx {guards : List BulkGuard} {index : Nat} {guard : BulkGuard}
    (there : guards[index]? = some guard)
    : (guards.filterMap (·.lockConn)).Perm
        (guard.lockConn.toList ++ (guards.eraseIdx index).filterMap (·.lockConn)) := by
  obtain ⟨bound, rfl⟩ := List.getElem?_eq_some_iff.mp there
  refine ((List.getElem_cons_eraseIdx_perm bound).symm.filterMap _).trans ?_
  cases held : guards[index].lockConn <;> simp [held]

/-- A guard that is put back among the others. -/
theorem locks_putBack (handle : BulkHandle) {guard : BulkGuard} (depth : Nat)
    (used : handle.task.guard? = some guard)
    : BulkHandle.locks
          { handle with depth := depth, guards := handle.guards ++ [guard], task := .idle }
        |>.Perm handle.locks := by
  unfold BulkHandle.locks
  rw [used]
  simp only [BulkTask.guard?_idle, Option.toList_none, Option.toList_some, List.nil_append]
  exact (List.perm_append_comm).filterMap _

/-- The end of a finish changes the lock as it drops or gives back the guard. -/
theorem endCall_locks (db : SearchDb) (locked : Bool) (handle : BulkHandle) {guard : BulkGuard}
    (used : handle.task.guard? = some guard) {recovered : BulkTask}
    (free : recovered.guard? = none) (purpose : BulkPurpose)
    : (endCall db handle guard recovered purpose).lock.Fits locked handle.locks
        (endCall db handle guard recovered purpose).handle.locks := by
  cases purpose with
  | caller => exact locks_putBack handle handle.depth used
  | recovery =>
      cases held : guard.lockConn <;>
        simp [endCall, LockChange.Fits, BulkHandle.locks, BulkHandle.goto, used, free, held]
  | optimize =>
      cases held : guard.lockConn <;>
        simp [endCall, LockChange.Fits, BulkHandle.locks, BulkHandle.goto, used, held]

/-- A move that keeps the guards, in use and not. -/
theorem fits_keep {handle next : BulkHandle} (used : next.task.guard? = handle.task.guard?)
    (guards : next.guards = handle.guards)
    : LockChange.keep.Fits locked handle.locks next.locks := by
  unfold LockChange.Fits BulkHandle.locks
  rw [used, guards]

/-- A lock that is taken while no guard is in use. -/
theorem fits_takeLock (db : SearchDb) (free : handle.task.guard? = none) (open' : ¬ locked = true)
    (depthCounted : Bool) {task : BulkGuard → BulkTask}
    (uses : ∀ guard, (task guard).guard? = some guard)
    : (takeLock db handle depthCounted task).lock.Fits locked handle.locks
        (takeLock db handle depthCounted task).handle.locks := by
  refine ⟨by simpa using open', ?_⟩
  simp [takeLock, BulkHandle.locks, free, uses]

/-- Each move changes the lock as it changes the lock connections of the process. -/
theorem bulkMove_locks (moved : bulkMove db locked handle action = some move)
    : move.lock.Fits locked handle.locks move.handle.locks := by
  unfold bulkMove at moved
  split at moved
  next =>
      obtain rfl := Option.some.inj moved
      rfl
  next index =>
      obtain ⟨guard, there, rfl⟩ := Option.map_eq_some_iff.mp moved
      have taken :=
        (locks_eraseIdx there).append_left (handle.task.guard?.toList.filterMap (·.lockConn))
      unfold LockChange.Fits BulkHandle.locks BulkHandle.withoutGuard
      simp only [List.filterMap_append]
      refine taken.trans ?_
      rw [← List.append_assoc, ← List.append_assoc]
      exact List.perm_append_comm.append_right _
  next created here =>
      split at moved
      next =>
          obtain rfl := Option.some.inj moved
          exact fits_keep (by simp [here]) rfl
      next => cases moved
  next here =>
      obtain rfl := Option.some.inj moved
      exact fits_keep (by simp [here, BulkHandle.goto]) rfl
  next here =>
      split at moved
      next =>
          obtain rfl := Option.some.inj moved
          exact fits_keep (by simp [here]) rfl
      next =>
          obtain rfl := Option.some.inj moved
          simp [LockChange.Fits, BulkHandle.locks]
  next here =>
      split at moved
      next =>
          obtain rfl := Option.some.inj moved
          exact fits_keep (by simp [here]) rfl
      next isOpen =>
          obtain rfl := Option.some.inj moved
          exact fits_takeLock db (by simp [here]) isOpen true (fun _ => rfl)
  next here =>
      obtain rfl := Option.some.inj moved
      exact fits_keep (by simp [here]) rfl
  next guard nowMs _ here =>
      obtain rfl := Option.some.inj moved
      exact locks_putBack handle handle.depth (by simp [here])
  next guard here =>
      obtain rfl := Option.some.inj moved
      cases held : guard.lockConn <;> simp [LockChange.Fits, BulkHandle.locks, here, held]
  next here =>
      obtain rfl := Option.some.inj moved
      refine fits_keep ?_ rfl
      simp only [BulkHandle.goto, here]
      split <;> rfl
  next here =>
      obtain rfl := Option.some.inj moved
      exact fits_keep (by simp [here, BulkHandle.goto]) rfl
  next here =>
      split at moved
      next =>
          obtain rfl := Option.some.inj moved
          exact fits_keep (by simp [here, BulkHandle.goto]) rfl
      next isOpen =>
          obtain rfl := Option.some.inj moved
          exact fits_takeLock db (by simp [here]) isOpen false (fun _ => rfl)
  next here =>
      obtain rfl := Option.some.inj moved
      exact fits_keep (by simp [here, BulkHandle.goto]) rfl
  next here =>
      obtain rfl := Option.some.inj moved
      exact fits_keep (by simp [here, BulkHandle.goto]) rfl
  next here =>
      split at moved
      next =>
          obtain rfl := Option.some.inj moved
          exact fits_keep (by simp [here, BulkHandle.goto]) rfl
      next isOpen =>
          obtain rfl := Option.some.inj moved
          exact fits_takeLock db (by simp [here]) isOpen false (fun _ => rfl)
  next here =>
      obtain rfl := Option.some.inj moved
      exact fits_keep (by simp [here, BulkHandle.goto]) rfl
  next index here =>
      obtain ⟨guard, there, rfl⟩ := Option.map_eq_some_iff.mp moved
      split
      next => exact fits_keep rfl rfl
      next =>
          have taken := locks_eraseIdx there
          cases held : guard.lockConn <;>
            simpa [LockChange.Fits, BulkHandle.locks, here, held] using taken.symm
  next guard purpose _ _ here =>
      obtain rfl := Option.some.inj moved
      exact fits_keep (by simp [here, BulkHandle.goto]) rfl
  next guard purpose _ _ here =>
      obtain rfl := Option.some.inj moved
      exact fits_keep (by simp [here, BulkHandle.goto]) rfl
  next guard purpose _ _ here =>
      split at moved
      next =>
        split at moved <;>
          · obtain rfl := Option.some.inj moved
            exact fits_keep (by simp [here, BulkHandle.goto]) rfl
      next =>
          obtain rfl := Option.some.inj moved
          exact fits_keep (by simp [here, BulkHandle.goto]) rfl
  next guard purpose here =>
      obtain rfl := Option.some.inj moved
      exact endCall_locks db locked handle (by simp [here]) rfl purpose
  next guard purpose here =>
      obtain rfl := Option.some.inj moved
      exact endCall_locks db locked handle (by simp [here]) rfl purpose
  next => cases moved

-----------------------------------------------------------------------------------------
-- Runs
-----------------------------------------------------------------------------------------

/-- A database that processes share, with the holder of the lock: a process and the number of its connection. -/
structure BulkWorld (Process : Type) where
  db : SearchDb
  lock : Option (Process × Nat)
  handle : Process → BulkHandle

namespace BulkWorld

variable {Process : Type}

/-- No process has the store open. -/
def init (db : SearchDb) : BulkWorld Process := ⟨db, none, fun _ => ⟨0, 0, [], .closed⟩⟩

variable [DecidableEq Process]

/-- The lock after a change by a process. The end of a connection releases what that connection holds. -/
def lockAfter (lock : Option (Process × Nat)) (process : Process)
    : LockChange → Option (Process × Nat)
  | .keep => lock
  | .take connection => some (process, connection)
  | .release guard =>
      if guard.lockConn.any (fun connection => lock = some (process, connection)) then none else lock
  | .releaseAll => if lock.any (·.1 = process) then none else lock

/-- The interleaving of the processes. -/
def step (world : BulkWorld Process) (label : Process × BulkAction) : Option (BulkWorld Process) :=
  (bulkMove world.db world.lock.isSome (world.handle label.1) label.2).map fun move =>
    { db := move.db
      lock := lockAfter world.lock label.1 move.lock
      handle := Function.update world.handle label.1 move.handle }

/-- The connections of a process that hold the lock. -/
def ownLock (world : BulkWorld Process) (process : Process) : List Nat :=
  (world.lock.toList.filter (·.1 = process)).map (·.2)

/-- What holds at every point of a run: the settings below, a lock that is held by one connection,
and a marker that is gone where a finish is about to return.
-/
structure Kept (original : FtsTable → MergeOption → Int) (world : BulkWorld Process) : Prop where
  beside : world.db.SavedBesideMarker
  settings : ∀ table option, world.db.underlying table option = original table option
  locks : ∀ process, ((world.handle process).locks).Perm (world.ownLock process)
  guarded
    : ∀ process guard, (world.handle process).task.guard? = some guard → guard.lockConn.isSome
  finished
    : ∀ process guard purpose,
        (world.handle process).task = .finishing .done guard purpose
        → world.db.bulkModePending = false
  opening
    : ∀ process,
        (world.handle process).task = .recover ∨ (world.handle process).task = .recoverAcquire
        → (world.handle process).guards = []

theorem ownLock_free {world : BulkWorld Process} (free : world.lock = none) (process : Process)
    : world.ownLock process = [] := by
  simp [ownLock, free]

theorem ownLock_held {world : BulkWorld Process} {holder : Process} {connection : Nat}
    (held : world.lock = some (holder, connection)) (process : Process)
    : world.ownLock process = if holder = process then [connection] else [] := by
  by_cases same : holder = process <;> simp [ownLock, held, same]

/-- The lock after a fitting change by one process, as that process and the others see it. -/
theorem ownLock_lockAfter {world next : BulkWorld Process} {process : Process}
    {change : LockChange} {before after : List Nat} (held : before.Perm (world.ownLock process))
    (fits : change.Fits world.lock.isSome before after)
    (changed : next.lock = lockAfter world.lock process change)
    : after.Perm (next.ownLock process)
      ∧ ∀ other, other ≠ process → next.ownLock other = world.ownLock other := by
  cases change with
  | keep =>
      have same (other : Process) : next.ownLock other = world.ownLock other := by
        unfold ownLock
        rw [changed]
        rfl
      exact ⟨(fits.trans held).trans (by rw [same]), fun other _ => same other⟩
  | take connection =>
      obtain ⟨free, grown⟩ := fits
      have free : world.lock = none := by simpa using free
      rw [ownLock_free free, List.perm_nil] at held
      subst held
      refine ⟨?_, fun other away => ?_⟩
      · rw [ownLock_held changed, if_pos rfl]
        exact grown
      · rw [ownLock_held changed, if_neg (Ne.symm away), ownLock_free free]
  | release guard =>
      cases own : guard.lockConn with
      | none =>
          have same (other : Process) : next.ownLock other = world.ownLock other := by
            unfold ownLock
            rw [changed]
            simp [lockAfter, own]
          simp only [LockChange.Fits, own, Option.toList_none, List.nil_append] at fits
          exact ⟨(fits.symm.trans held).trans (by rw [same]), fun other _ => same other⟩
      | some connection =>
          simp only [LockChange.Fits, own, Option.toList_some, List.cons_append,
            List.nil_append] at fits
          have mine := held.symm.trans fits
          cases lock : world.lock with
          | none =>
              rw [ownLock_free lock] at mine
              exact absurd mine.symm.eq_nil (List.cons_ne_nil _ _)
          | some holding =>
              obtain ⟨holder, number⟩ := holding
              rw [ownLock_held lock] at mine
              split at mine
              next same =>
                  subst same
                  obtain ⟨rfl, rfl⟩ : connection = number ∧ after = [] := by
                    simpa using mine.symm.eq_singleton
                  have free : next.lock = none := by rw [changed]; simp [lockAfter, own, lock]
                  refine ⟨by rw [ownLock_free free], fun other away => ?_⟩
                  rw [ownLock_free free, ownLock_held lock, if_neg (Ne.symm away)]
              next => exact absurd mine.symm.eq_nil (List.cons_ne_nil _ _)
  | releaseAll =>
      obtain rfl : after = [] := fits
      cases lock : world.lock with
      | none =>
          have free : next.lock = none := by rw [changed]; simp [lockAfter, lock]
          refine ⟨by rw [ownLock_free free], fun other _ => ?_⟩
          rw [ownLock_free free, ownLock_free lock]
      | some holding =>
          obtain ⟨holder, number⟩ := holding
          by_cases same : holder = process
          · subst same
            have free : next.lock = none := by rw [changed]; simp [lockAfter, lock]
            refine ⟨by rw [ownLock_free free], fun other away => ?_⟩
            rw [ownLock_free free, ownLock_held lock, if_neg (Ne.symm away)]
          · have still : next.lock = some (holder, number) := by
              rw [changed]
              simp [lockAfter, lock, same]
            refine ⟨by rw [ownLock_held still, if_neg same], fun other _ => ?_⟩
            rw [ownLock_held still, ownLock_held lock]

/-- Two processes with an open lock transaction are one process. -/
theorem Kept.holder_unique {original : FtsTable → MergeOption → Int} {world : BulkWorld Process}
    (kept : world.Kept original) {left right : Process}
    (hl : (world.handle left).locks ≠ []) (hr : (world.handle right).locks ≠ [])
    : left = right := by
  have holds (process : Process) (open' : (world.handle process).locks ≠ [])
      : ∃ connection, world.lock = some (process, connection) := by
    cases lock : world.lock with
    | none =>
        have none := kept.locks process
        rw [ownLock_free lock, List.perm_nil] at none
        exact absurd none open'
    | some holding =>
        obtain ⟨holder, connection⟩ := holding
        have own := kept.locks process
        rw [ownLock_held lock] at own
        split at own
        next same => exact ⟨connection, by rw [same]⟩
        next => exact absurd own.eq_nil open'
  obtain ⟨first, here⟩ := holds left hl
  obtain ⟨second, there⟩ := holds right hr
  rw [here] at there
  exact congrArg Prod.fst (Option.some.inj there)

/-- A process with a guard in use has an open lock transaction. -/
theorem Kept.locks_of_used {original : FtsTable → MergeOption → Int} {world : BulkWorld Process}
    (kept : world.Kept original) {process : Process} {guard : BulkGuard}
    (used : (world.handle process).task.guard? = some guard)
    : (world.handle process).locks ≠ [] := by
  obtain ⟨connection, own⟩ := Option.isSome_iff_exists.mp (kept.guarded process guard used)
  unfold BulkHandle.locks
  rw [used]
  simp [own]

theorem Kept.init {db : SearchDb} (beside : db.SavedBesideMarker)
    : (BulkWorld.init db : BulkWorld Process).Kept db.underlying where
  beside := beside
  settings := fun _ _ => rfl
  locks := fun process => by rw [ownLock_free rfl]; rfl
  guarded := fun _ _ used => by cases used
  finished := fun _ _ _ done => by cases done
  opening := fun _ _ => rfl

/-- What a step does: a move of one process. -/
theorem step_move {world next : BulkWorld Process} {process : Process} {action : BulkAction}
    (taken : world.step (process, action) = some next)
    : ∃ move,
        bulkMove world.db world.lock.isSome (world.handle process) action = some move
        ∧ next.db = move.db
        ∧ next.lock = lockAfter world.lock process move.lock
        ∧ next.handle process = move.handle
        ∧ ∀ other, other ≠ process → next.handle other = world.handle other := by
  obtain ⟨move, moved, rfl⟩ := Option.map_eq_some_iff.mp taken
  exact ⟨move, moved, rfl, rfl, Function.update_self .., fun _ away => Function.update_of_ne away ..⟩

/-- Each step keeps what holds. -/
theorem Kept.step {original : FtsTable → MergeOption → Int} {world next : BulkWorld Process}
    {label : Process × BulkAction} (kept : world.Kept original)
    (taken : world.step label = some next)
    : next.Kept original := by
  obtain ⟨process, action⟩ := label
  obtain ⟨move, moved, db, lock, mover, rest⟩ := step_move taken
  have keeps := bulkMove_keeps kept.beside moved
  obtain ⟨mine, others⟩ := ownLock_lockAfter (kept.locks process) (bulkMove_locks moved) lock
  constructor
  · rw [db]
    exact keeps.besideMarker
  · intro table option
    rw [db, keeps.underlying, kept.settings]
  · intro other
    by_cases here : other = process
    · rw [here, mover]
      exact mine
    · rw [rest other here, others other here]
      exact kept.locks other
  · intro other guard used
    by_cases here : other = process
    · rw [here, mover] at used
      exact bulkMove_guarded moved (kept.guarded process) guard used
    · rw [rest other here] at used
      exact kept.guarded other guard used
  · intro other guard purpose done
    rw [db]
    by_cases here : other = process
    · rw [here, mover] at done
      rcases bulkMove_finished kept.beside moved done with ⟨before, same⟩ | gone
      · rw [same]
        exact kept.finished process guard purpose before
      · exact gone
    · rw [rest other here] at done
      have gone := kept.finished other guard purpose done
      -- Only a begin sets the marker, and it has the lock.
      rcases bulkMove_db moved with same | ⟨created, same⟩ | ⟨begun, nowMs, begins, same⟩ | same
        | ⟨pending, same⟩
      · rw [same, gone]
      · rw [same, pending_migration, gone]
      · have mine := kept.locks_of_used (by rw [begins]; rfl : _ = some begun)
        have own := kept.locks_of_used (by rw [done]; rfl : _ = some guard)
        exact absurd (kept.holder_unique own mine) here
      · rw [same, SearchDb.reassertBulkMode, if_neg (by simp [gone]), gone]
      · rw [gone] at pending
        cases pending
  · intro other
    by_cases here : other = process
    · rw [here, mover]
      exact bulkMove_opening moved (kept.opening process)
    · rw [rest other here]
      exact kept.opening other

-----------------------------------------------------------------------------------------
-- Settings, marker and lock
-----------------------------------------------------------------------------------------

/-- Without the marker the settings are the original ones, beside it the saved ones are, and one
process at most holds the lock.
-/
structure Safe (original : FtsTable → MergeOption → Int) (world : BulkWorld Process) : Prop where
  outside
    : world.db.bulkModePending = false →
        ∀ table option, world.db.ftsConfigValue table option = original table option
  inside
    : world.db.bulkModePending = true →
        ∀ table option, world.db.saved table option = original table option
  holder
    : ∀ left right,
        (world.handle left).locks ≠ [] → (world.handle right).locks ≠ [] → left = right

/-- A recovery that returns leaves the original settings and no marker, unless another process holds
the lock.
-/
def RecoveryRestores (original : FtsTable → MergeOption → Int) (world : BulkWorld Process)
    (label : Process × BulkAction) : Prop :=
  ∀ next,
    world.step label = some next
    → (world.handle label.1).task.recovering = true
    → (next.handle label.1).task = .idle
    → (next.db.bulkModePending = false
        ∧ ∀ table option, next.db.ftsConfigValue table option = original table option)
      ∨ ∃ holder, holder ≠ label.1 ∧ (next.handle holder).locks ≠ []

theorem Kept.safe {original : FtsTable → MergeOption → Int} {world : BulkWorld Process}
    (kept : world.Kept original)
    : world.Safe original := by
  constructor
  · intro outside table option
    rw [← kept.settings, SearchDb.underlying, if_neg (by simp [outside])]
  · intro inside table option
    rw [← kept.settings, SearchDb.underlying, if_pos inside]
  · exact fun _ _ hl hr => kept.holder_unique hl hr

/-- A lock that is held is held by a process. -/
theorem Kept.exists_holder {original : FtsTable → MergeOption → Int} {world : BulkWorld Process}
    (kept : world.Kept original) (locked : world.lock.isSome = true)
    : ∃ holder, (world.handle holder).locks ≠ [] := by
  obtain ⟨⟨holder, connection⟩, held⟩ := Option.isSome_iff_exists.mp locked
  refine ⟨holder, fun none => ?_⟩
  have own := kept.locks holder
  rw [ownLock_held held, if_pos rfl, none] at own
  exact absurd own.symm.eq_nil (List.cons_ne_nil _ _)

/-- Every return of a recovery restores, by the way in which it returns. -/
theorem Kept.recoveryRestores {original : FtsTable → MergeOption → Int}
    {world : BulkWorld Process} (kept : world.Kept original) (label : Process × BulkAction)
    : world.RecoveryRestores original label := by
  obtain ⟨process, action⟩ := label
  intro next taken recovering returned
  have later := kept.step taken
  obtain ⟨move, moved, db, lock, mover, rest⟩ := step_move taken
  rw [mover] at returned
  obtain ⟨same, ways⟩ := bulkMove_recovered moved recovering returned
  rw [same] at db
  rcases ways with ⟨-, gone⟩ | ⟨opening, locked, keep⟩ | ⟨guard, done⟩
  · left
    have gone : next.db.bulkModePending = false := by rw [db, gone]
    exact ⟨gone, later.safe.outside gone⟩
  · right
    rw [keep] at lock
    obtain ⟨holder, holds⟩ := later.exists_holder (by rw [lock]; exact locked)
    have away : holder ≠ process := by
      rintro rfl
      have free : (world.handle holder).locks = [] := by
        unfold BulkHandle.locks
        rw [opening, kept.opening holder (.inr opening)]
        rfl
      -- The process keeps its place in front of the lock, and opens nothing.
      have own := bulkMove_locks moved
      rw [keep, free] at own
      rw [mover] at holds
      exact holds own.eq_nil
    exact ⟨holder, away, holds⟩
  · left
    have gone : next.db.bulkModePending = false := by
      rw [db]
      exact kept.finished process guard .recovery done
    exact ⟨gone, later.safe.outside gone⟩

/-- What a process does that opens the store and adopts a stale marker: it checks, takes the lock and
merges, the last two passes of which find nothing to merge.
-/
def recoveryRun (process : Process) (passes : Nat) : List (Process × BulkAction) :=
  [(process, .openStore []), (process, .transact 0 false), (process, .acquire),
    (process, .transact 0 false)]
    ++ List.replicate passes (process, .transact 0 true)
    ++ [(process, .transact 0 false), (process, .transact 0 false), (process, .finishReturn)]

/-- A world with one process and what it shares with the others given. -/
def place (world : BulkWorld Process) (process : Process) (db : SearchDb)
    (lock : Option (Process × Nat)) (handle : BulkHandle)
    : BulkWorld Process :=
  ⟨db, lock, Function.update world.handle process handle⟩

theorem step_at {world : BulkWorld Process} {process : Process} {db : SearchDb}
    {lock : Option (Process × Nat)} {handle : BulkHandle} {action : BulkAction} {move : BulkMove}
    (moved : bulkMove db lock.isSome handle action = some move)
    : (world.place process db lock handle).step (process, action)
      = some (world.place process move.db (lockAfter lock process move.lock) move.handle) := by
  simp [step, place, moved]

/-- Passes that merge something leave a finish where it is. -/
theorem run_merges {world : BulkWorld Process} {process : Process} {db : SearchDb}
    {lock : Option (Process × Nat)} {handle : BulkHandle} {guard : BulkGuard}
    {purpose : BulkPurpose} (pending : db.bulkModePending = true)
    (here : handle.task = .finishing .merge guard purpose) (passes : Nat)
    : run step (world.place process db lock handle)
        (List.replicate passes (process, .transact 0 true))
      = some (world.place process db lock handle) := by
  have one : bulkMove db lock.isSome handle (.transact 0 true)
      = some ⟨db, handle.goto (.finishing .merge guard purpose), .keep⟩ := by
    simp [bulkMove, here, pending]
  have same : handle.goto (.finishing .merge guard purpose) = handle := by
    unfold BulkHandle.goto
    rw [← here]
  induction passes with
  | zero => rfl
  | succ passes ih =>
      rw [List.replicate_succ, run, step_at one, same]
      exact ih

/-- A recovery that runs alone ends bulk mode. -/
theorem Kept.recovery_completes {original : FtsTable → MergeOption → Int}
    {world : BulkWorld Process} (kept : world.Kept original) {process : Process}
    (free : world.lock = none) (closed : (world.handle process).task = .closed)
    (fresh : (world.handle process).guards = []) (pending : world.db.bulkModePending = true)
    (passes : Nat)
    : ∃ restored,
        run BulkWorld.step world (recoveryRun process passes) = some restored
        ∧ restored.db.bulkModePending = false
        ∧ ∀ table option, restored.db.ftsConfigValue table option = original table option := by
  let connections := (world.handle process).connections
  let guard : BulkGuard := ⟨some connections, false⟩
  let working (task : BulkTask) : BulkHandle := ⟨0, connections + 1, [], task⟩
  let db := world.db.reassertBulkMode
  have marked : db.bulkModePending = true := by simpa [db] using pending
  have opens
      : run BulkWorld.step world
          [(process, .openStore []), (process, .transact 0 false), (process, .acquire),
            (process, .transact 0 false)]
        = some
            (world.place process db (some (process, connections))
              (working (.finishing .merge guard .recovery))) := by
    simp [run, BulkWorld.step, bulkMove, closed, fresh, free, pending, takeLock, lockAfter, BulkHandle.goto,
      place, working, guard, db, connections]
  have ends
      : run BulkWorld.step
          (world.place process db (some (process, connections))
            (working (.finishing .merge guard .recovery)))
          [(process, .transact 0 false), (process, .transact 0 false), (process, .finishReturn)]
        = some (world.place process db.endBulkMode none (working .idle)) := by
    simp [run, BulkWorld.step, bulkMove, marked, lockAfter, BulkHandle.goto, endCall, place, working, guard]
  have ran
      : run BulkWorld.step world (recoveryRun process passes)
        = some (world.place process db.endBulkMode none (working .idle)) := by
    unfold recoveryRun
    rw [run_append, run_append, opens, Option.bind_some, run_merges marked rfl, Option.bind_some,
      ends]
  have later : (world.place process db.endBulkMode none (working .idle)).Kept original :=
    run_invariant (Kept original) (fun _ _ _ kept taken => kept.step taken) kept ran
  have beside := (SearchDb.keeps_reassert kept.beside).besideMarker
  have gone : db.endBulkMode.bulkModePending = false := (SearchDb.keeps_end beside marked).2
  exact ⟨_, ran, gone, later.safe.outside gone⟩

/-- Bulk mode and crashes. From a store outside bulk mode, in every run: without the marker the
settings are the original ones, beside it the saved ones are, one process at most holds the lock,
every recovery that returns restores the settings unless another process holds the lock, and one
that finds no process with the lock completes. Witness: no transaction changes what is saved, or set
where nothing is; and a process holds the lock exactly when one of its guards does.
-/
theorem bulkMode_safe (db : SearchDb) (outside : db.bulkModePending = false)
    (unsaved : ∀ table option, db.bulkModeConfig (savedKey table option) = none)
    (labels : List (Process × BulkAction))
    : AllStates step (Safe db.ftsConfigValue) (init db) labels
      ∧ AllSteps step (RecoveryRestores db.ftsConfigValue) (init db) labels
      ∧ ∀ final process passes,
          run step (init db) labels = some final
          → (∀ other, (final.handle other).locks = [])
          → (final.handle process).task = .closed
          → (final.handle process).guards = []
          → final.db.bulkModePending = true
          → ∃ restored,
              run step final (recoveryRun process passes) = some restored
              ∧ restored.db.bulkModePending = false
              ∧ ∀ table option,
                  restored.db.ftsConfigValue table option = db.ftsConfigValue table option := by
  have beside : db.SavedBesideMarker :=
    ⟨fun table option held => by simp [unsaved] at held,
      fun table option held => by simp [unsaved] at held⟩
  have same : db.underlying = db.ftsConfigValue := by
    funext table option
    rw [SearchDb.underlying, if_neg (by simp [outside])]
  have start : (init db : BulkWorld Process).Kept db.ftsConfigValue := same ▸ .init beside
  have preserved
      (world : BulkWorld Process) (label : Process × BulkAction) (next : BulkWorld Process)
      (kept : world.Kept db.ftsConfigValue) (taken : world.step label = some next)
      : next.Kept db.ftsConfigValue :=
    kept.step taken
  refine ⟨?_, ?_, ?_⟩
  · exact (allStates_of_invariant (Kept db.ftsConfigValue) preserved labels start).imp
      fun _ kept => kept.safe
  · exact allSteps_of_invariant (Kept db.ftsConfigValue) preserved
      (fun _ label kept => kept.recoveryRestores label) labels start
  · intro final process passes ran free closed fresh pending
    have kept := run_invariant (Kept db.ftsConfigValue) preserved start ran
    refine kept.recovery_completes ?_ closed fresh pending passes
    rw [← Option.not_isSome_iff_eq_none]
    intro locked
    obtain ⟨holder, holds⟩ := kept.exists_holder locked
    exact holds (free holder)

/-- A store whose event search tables have settings of their own. -/
def customDb : SearchDb where
  config _ := some fun option =>
    match option with
    | .automerge => some 8
    | .crisismerge => some 32
  stats := none

/-- A process opens the store, begins bulk mode, and crashes. -/
def crashedRun : List (Bool × BulkAction) :=
  [(true, .openStore []), (true, .transact 0 false), (true, .begin), (true, .acquire),
    (true, .transact 0 false), (true, .crash)]

/-- Another process that opens the store restores its settings. -/
theorem crashedRun_recovers
    : ∃ final restored,
        run step (init customDb) crashedRun = some final
        ∧ final.db.ftsConfigValue .eventSearch .automerge = 0
        ∧ run step final (recoveryRun false 1) = some restored
        ∧ restored.db.ftsConfigValue .eventSearch .automerge = 8 := by
  let final := (run step (init customDb) crashedRun).get (by decide +kernel)
  have ran : run step (init customDb) crashedRun = some final := by simp [final]
  have free : ∀ other, (final.handle other).locks = [] := by decide +kernel
  obtain ⟨restored, completes, -, settings⟩ :=
    (bulkMode_safe customDb rfl (fun _ _ => rfl) crashedRun).2.2 final false 1 ran free
      (by decide +kernel) (by decide +kernel) (by decide +kernel)
  exact ⟨final, restored, ran, by decide +kernel, completes, settings .eventSearch .automerge⟩

end BulkWorld

end CtxRemote.Store
