import CtxRemote.Library.Transition
import Mathlib.Logic.Function.Basic

/-! Daemons over one data root: each takes `DaemonLock`, publishes the endpoint of its query service, serves
queries in a thread of its own while its main thread goes round its loop, and leaves after an error, after
one round, or when it has been idle. Any number of them take steps in any order, and may die at any point.

A daemon that publishes its service writes to files that the next one will write to as well: the metadata
of the lock, the endpoint and the socket.
-/

namespace CtxRemote.Semantic
open CtxRemote.Library

-----------------------------------------------------------------------------------------
-- The activity of a query service
-----------------------------------------------------------------------------------------

/-- `DaemonQueryActivityState`. Every operation on it holds its mutex. -/
structure DaemonQueryActivityState where
  accepting : Bool
  stopping : Bool
  activeRequests : Nat
  generation : UInt64
deriving DecidableEq

namespace DaemonQueryActivityState

/-- `DaemonQueryActivity::new`. -/
def new : DaemonQueryActivityState := ⟨true, false, 0, 0⟩

variable (activity : DaemonQueryActivityState)

/-- `begin_request`. -/
def beginRequest : Option DaemonQueryActivityState :=
  if !activity.accepting || activity.stopping then none
  else
    some { activity with
      activeRequests := activity.activeRequests + 1
      generation := activity.generation + 1 }

/-- `DaemonQueryRequestGuard::drop`. -/
def endRequest : DaemonQueryActivityState :=
  { activity with
    activeRequests := activity.activeRequests - 1
    generation := activity.generation + 1 }

/-- `try_stop_accepting_if_idle`, `none` where it returns false. -/
def tryStopAcceptingIfIdle (observedGeneration : UInt64) : Option DaemonQueryActivityState :=
  if activity.activeRequests ≠ 0 || activity.generation ≠ observedGeneration then none
  else some { activity with accepting := false }

/-- `stop`. -/
def stop : DaemonQueryActivityState := { activity with accepting := false, stopping := true }

end DaemonQueryActivityState

-----------------------------------------------------------------------------------------
-- Daemons
-----------------------------------------------------------------------------------------

/-- What is in the metadata of the lock: those of this protocol, with `owner_id` and `released`, or anything
else, with what `legacy_pid_lock_value_is_stale` tells of it.
-/
inductive LockMetadata where
  | advisory (owner : Nat) (released : Bool)
  | legacy (stale : Bool)
deriving DecidableEq

/-- Where the main thread of a daemon is, by what it does next. -/
inductive DaemonPhase where
  | idle
  -- `PidFileLock::acquire`, from the guard on
  | checking
  | publishing (attempt : Nat)
  | verifying (attempt : Nat)
  -- `run_daemon_inner`, and `start_daemon_query_service`
  | starting
  | binding
  | securing
  | announcing
  | spawning
  -- its loop
  | observing
  | judging
  | reobserving
  | working
  | reporting
  | deciding
  -- the drop of the service and of the lock
  | closing
  | stopping
  | joining
  | unbinding
  | releasing
  | unlocking
  | done
  | dead
deriving DecidableEq

/-- Where the thread of a query service is. -/
inductive QueryListener where
  | absent
  | looking
  | accepting
  | accepted
  | serving
  | finished
deriving DecidableEq

/-- A daemon. `idleSince` has the number of changes of the activity in the place of the time; `changes`
counts them all, and `observedChanges` those up to the generation that is observed.
-/
structure Daemon where
  phase : DaemonPhase
  listener : QueryListener
  activity : Option DaemonQueryActivityState
  idleSince : Option Nat
  observedGeneration : UInt64
  stoppedIdle : Bool
  changes : Nat
  observedChanges : Nat

/-- A daemon that has not begun. -/
def Daemon.new : Daemon := ⟨.idle, .absent, none, none, 0, false, 0, 0⟩

def Daemon.goto (daemon : Daemon) (phase : DaemonPhase) : Daemon := { daemon with phase }

/-- What all daemons of a data root share: who has the lock on the guard file, the metadata, and whose the
endpoint and the socket are.
-/
structure DaemonFiles where
  guard : Option Nat
  metadata : Option LockMetadata
  endpoint : Option Nat
  socket : Option Nat

structure DaemonWorld where
  files : DaemonFiles
  daemons : Nat → Daemon

/-- What may happen in a step where the program has no say. -/
inductive Announcement where
  | written
  | unwritten
  /-- The endpoint is in place, and its permissions could not be set. -/
  | unsecured
deriving DecidableEq

inductive Acceptance where
  | stream
  | nothing
  | broken
deriving DecidableEq

/-- The steps of a daemon. A flag is whether an operation succeeds, `read` that of a read of the metadata,
`aged` whether metadata that are not read are too old, `lands` whether what is written is at the path.
-/
inductive DaemonAction where
  | lock (ok : Bool)
  | check (read aged : Bool)
  | publish (read aged ok lands : Bool)
  | verify (read : Bool)
  | start (ok semanticEnabled : Bool)
  | bind (ok removed : Bool)
  | secure (ok : Bool)
  | announce (result : Announcement)
  | spawn
  | spawnFails (endpointRemoved socketRemoved : Bool)
  | observe
  | judge (elapsed : Bool)
  | work (ends : Bool)
  | decide (didWork : Bool)
  | close (removed : Bool)
  | stop
  | join
  | unbind (removed : Bool)
  | release (read ok : Bool)
  | unlock
  | look
  | accept (result : Acceptance)
  | beginRequest
  | endRequest
  | die
deriving DecidableEq

/-- Whether metadata are there to be overwritten, as far as they are read. -/
def reclaimable (metadata : Option LockMetadata) (read aged : Bool) : Bool :=
  match metadata with
  | none => true
  | some (.advisory _ _) => read || aged
  | some (.legacy stale) => if read then stale else aged

/-- `pid_lock_path_has_owner`. -/
def pidLockPathHasOwner (metadata : Option LockMetadata) (owner : Nat) (read : Bool) : Bool :=
  read && match metadata with
    | some (.advisory other _) => other = owner
    | _ => false

/-- `observe_daemon_query_activity`. -/
def Daemon.observe (daemon : Daemon) : Daemon :=
  match daemon.activity with
  | none => daemon
  | some activity =>
      if activity.activeRequests ≠ 0 || activity.generation ≠ daemon.observedGeneration then
        { daemon with
          idleSince := none
          observedGeneration := activity.generation
          observedChanges := daemon.changes }
      else daemon

/-- The end of the loop of an idle daemon: `daemon_can_begin_idle_shutdown`. -/
def Daemon.tryStop (daemon : Daemon) : Daemon :=
  match daemon.activity with
  | none => { daemon with phase := .closing, stoppedIdle := true }
  | some activity =>
      match activity.tryStopAcceptingIfIdle daemon.observedGeneration with
      | none => daemon.goto .reobserving
      | some activity =>
          { daemon with phase := .closing, stoppedIdle := true, activity := some activity }

/-- The steps that move the main thread on and leave the rest of the daemon as it is. -/
def Daemon.move (owner : Nat) (files : DaemonFiles) (daemon : Daemon)
    : DaemonAction → Option (DaemonFiles × DaemonPhase)
  | .lock ok =>
      if daemon.phase ≠ .idle then none
      else if ok && files.guard.isNone then some ({ files with guard := some owner }, .checking)
      else some (files, .done)
  | .check read aged =>
      if daemon.phase ≠ .checking then none
      else some (files, if reclaimable files.metadata read aged then .publishing 0 else .unlocking)
  | .publish read aged ok lands =>
      match daemon.phase with
      | .publishing attempt =>
          if !reclaimable files.metadata read aged then some (files, .unlocking)
          else if !ok then some ({ files with metadata := some (.legacy false) }, .unlocking)
          else
            some ({ files with
                metadata := if lands then some (.advisory owner false) else files.metadata },
              .verifying attempt)
      | _ => none
  | .verify read =>
      match daemon.phase with
      | .verifying attempt =>
          some (files,
            if pidLockPathHasOwner files.metadata owner read then .starting
            else if attempt < 2 then .publishing (attempt + 1)
            else .unlocking)
      | _ => none
  | .start ok semanticEnabled =>
      if daemon.phase ≠ .starting then none
      else some (files, if !ok then .releasing else if semanticEnabled then .binding else .observing)
  | .bind ok removed =>
      if daemon.phase ≠ .binding then none
      else if ok then some ({ files with socket := some owner }, .securing)
      else some ({ files with socket := if removed then none else files.socket }, .releasing)
  | .secure ok =>
      if daemon.phase ≠ .securing then none
      else some (files, if ok then .announcing else .releasing)
  | .announce result =>
      if daemon.phase ≠ .announcing then none
      else
        match result with
        | .written => some ({ files with endpoint := some owner }, .spawning)
        | .unwritten => some ({ files with socket := none }, .releasing)
        | .unsecured => some ({ files with endpoint := some owner, socket := none }, .releasing)
  | .spawnFails endpointRemoved socketRemoved =>
      if daemon.phase ≠ .spawning then none
      else
        some ({ files with
            endpoint := if endpointRemoved then none else files.endpoint
            socket := if socketRemoved then none else files.socket },
          .releasing)
  | .work ends =>
      if daemon.phase ≠ .working then none
      else some (files, if ends then .closing else .reporting)
  | .close removed =>
      if daemon.phase ≠ .closing then none
      else if daemon.activity.isNone then some (files, .releasing)
      else some ({ files with endpoint := if removed then none else files.endpoint }, .stopping)
  | .join =>
      if daemon.phase ≠ .joining || daemon.listener ≠ .finished then none
      else some (files, .unbinding)
  | .unbind removed =>
      if daemon.phase ≠ .unbinding then none
      else some ({ files with socket := if removed then none else files.socket }, .releasing)
  | .release read ok =>
      if daemon.phase ≠ .releasing then none
      else
        some ({ files with
            metadata :=
              if pidLockPathHasOwner files.metadata owner read && ok then some (.advisory owner true)
              else files.metadata },
          .unlocking)
  | .unlock =>
      if daemon.phase ≠ .unlocking then none
      else some ({ files with guard := none }, .done)
  | _ => none

/-- The steps of both threads that leave the files as they are. -/
def Daemon.turn (daemon : Daemon) : DaemonAction → Option Daemon
  | .spawn =>
      if daemon.phase ≠ .spawning then none
      else some { daemon with phase := .observing, listener := .looking, activity := some .new }
  | .observe =>
      match daemon.phase with
      | .observing => some (daemon.observe.goto .judging)
      | .reobserving => some (daemon.observe.goto .observing)
      | .reporting => some (daemon.observe.goto .deciding)
      | _ => none
  | .judge elapsed =>
      if daemon.phase ≠ .judging then none
      else if daemon.idleSince.isSome && elapsed then some daemon.tryStop
      else some (daemon.goto .working)
  | .decide didWork =>
      if daemon.phase ≠ .deciding then none
      else
        some { daemon with
          phase := .observing
          idleSince := if didWork then none else some (daemon.idleSince.getD daemon.changes) }
  | .stop =>
      if daemon.phase ≠ .stopping then none
      else some { daemon with phase := .joining, activity := daemon.activity.map (·.stop) }
  | .look =>
      match daemon.listener, daemon.activity with
      | .looking, some activity =>
          some { daemon with listener := if activity.stopping then .finished else .accepting }
      | _, _ => none
  | .accept result =>
      if daemon.listener ≠ .accepting then none
      else
        some { daemon with
          listener :=
            match result with
            | .stream => .accepted
            | .nothing => .looking
            | .broken => .finished }
  | .beginRequest =>
      match daemon.listener, daemon.activity with
      | .accepted, some activity =>
          match activity.beginRequest with
          | none => some { daemon with listener := .looking }
          | some activity =>
              some { daemon with
                listener := .serving
                activity := some activity
                changes := daemon.changes + 1 }
      | _, _ => none
  | .endRequest =>
      match daemon.listener, daemon.activity with
      | .serving, some activity =>
          some { daemon with
            listener := .looking
            activity := some activity.endRequest
            changes := daemon.changes + 1 }
      | _, _ => none
  | _ => none

/-- One step of a daemon. The lock of one that dies is gone with it. -/
def Daemon.act (owner : Nat) (files : DaemonFiles) (daemon : Daemon) (action : DaemonAction)
    : Option (DaemonFiles × Daemon) :=
  if action = .die then
    if daemon.phase = .done || daemon.phase = .dead then none
    else
      some ({ files with guard := if files.guard = some owner then none else files.guard },
        { daemon with phase := .dead, listener := .absent, activity := none })
  else
    match daemon.move owner files action with
    | some (files, phase) => some (files, daemon.goto phase)
    | none => (daemon.turn action).map fun daemon => (files, daemon)

/-- A step of a daemon, or of a process of an older version that leaves its own metadata or removes any. -/
inductive DaemonLabel where
  | act (owner : Nat) (action : DaemonAction)
  | legacy (stale : Option Bool)

/-- One step. -/
def DaemonWorld.step (world : DaemonWorld) : DaemonLabel → Option DaemonWorld
  | .act owner action =>
      ((world.daemons owner).act owner world.files action).map fun next =>
        ⟨next.1, Function.update world.daemons owner next.2⟩
  | .legacy stale =>
      some { world with files := { world.files with metadata := stale.map .legacy } }

/-- No daemon has begun, and earlier ones left any files behind. -/
def DaemonWorld.fresh (metadata : Option LockMetadata) (endpoint socket : Option Nat) : DaemonWorld where
  files := ⟨none, metadata, endpoint, socket⟩
  daemons _ := .new

end CtxRemote.Semantic
