import CtxRemote.Library.Transition
import CtxRemote.Turso.Push
import CtxRemote.Turso.Project

/-! Any number of processes calling `push` and `project` on one remote database.

A process moves between the awaits of the source: every remote query and every transactional
batch is one step, and the steps of different processes interleave freely. A process may stop
at any point, as after a timeout or a crash. Local stores are not part of the state: each read
of a store supplies its content at that moment.
-/

namespace CtxRemote.Turso
open CtxRemote.Library

/-- The point of its program that a process has reached. -/
inductive Process
  /-- No command is running. -/
  | idle
  /-- `push` at the head of its page loop. -/
  | push (run : PushRun)
  /-- `push` after reading a page and the known keys. -/
  | pushRead (page : PushPage)
  /-- `project` at the head of its loop. -/
  | project (args : ProjectArgs) (projected : Nat)
  /-- `project` after reading `MAX(event_id)`. -/
  | projectRead (args : ProjectArgs) (projected : Nat) (after : Option String)
  /-- `project` after its batch. -/
  | projectSent (args : ProjectArgs) (projected : Nat) (after : Option String)

/-- One step of one process. -/
inductive Action
  | startPush (store : LocalStore) (args : PushArgs)
  | readPage (store : LocalStore)
  | sendPage
  | startProject (args : ProjectArgs)
  | readMax
  | sendProject
  | compareMax
  | stop

/-- The remote database and the processes that work on it. -/
structure World (Machine : Type) where
  db : RemoteDb
  process : Machine → Process

namespace World

variable {Machine : Type}

/-- A fresh projection schema next to an optional snapshot; no process runs. -/
def init (snapshot : Option Snapshot) : World Machine :=
  ⟨⟨.empty, snapshot⟩, fun _ => .idle⟩

/-- Replaces the projection tables. -/
def withProjection (world : World Machine) (projection : Projection) : World Machine :=
  { world with db := { world.db with projection := projection } }

@[simp] theorem withProjection_process (world : World Machine) (projection : Projection)
    : (world.withProjection projection).process = world.process :=
  rfl

@[simp] theorem withProjection_projection (world : World Machine) (projection : Projection)
    : (world.withProjection projection).db.projection = projection :=
  rfl

@[simp] theorem withProjection_snapshot (world : World Machine) (projection : Projection)
    : (world.withProjection projection).db.snapshot = world.db.snapshot :=
  rfl

variable [DecidableEq Machine]

/-- Moves one process, and leaves the database as it is. -/
def goto (world : World Machine) (machine : Machine) (process : Process) : World Machine :=
  { world with process := Function.update world.process machine process }

/-- The step function; `none` for an action the process cannot take where it is. -/
def step (world : World Machine) (label : Machine × Action) : Option (World Machine) :=
  let (machine, action) := label
  match world.process machine, action with
  | .idle, .startPush store args => some (world.goto machine (.push (.start store args)))
  | .push run, .readPage store =>
      match run.readPage store world.db.projection with
      | none => some (world.goto machine .idle)
      | some page => some (world.goto machine (.pushRead page))
  | .pushRead page, .sendPage =>
      some
        ((world.withProjection (page.commit world.db.projection).1).goto machine
          (.push (page.commit world.db.projection).2))
  | .idle, .startProject args =>
      if world.db.snapshot.isSome then some (world.goto machine (.project args 0)) else none
  | .project args projected, .readMax =>
      if args.continues projected then
        some
          (world.goto machine
            (.projectRead args projected world.db.projection.remoteMaxEventId))
      else some (world.goto machine .idle)
  | .projectRead args projected after, .sendProject =>
      world.db.snapshot.map fun snapshot =>
        (world.withProjection
            (world.db.projection.projectBatch snapshot after args.batchSize)).goto machine
          (.projectSent args projected after)
  | .projectSent args projected after, .compareMax =>
      if world.db.projection.remoteMaxEventId = after then some (world.goto machine .idle)
      else some (world.goto machine (.project args (projected + args.batchSize)))
  | _, .stop => some (world.goto machine .idle)
  | _, _ => none

/-- What one step does to the projection: nothing, the batch of a page that the process has
read, or the batch of a project iteration at the cursor that the process has read.
-/
theorem step_projection {world next : World Machine} {machine : Machine} {action : Action}
    (taken : world.step (machine, action) = some next)
    : next.db.projection = world.db.projection
      ∨ (∃ page,
          action = .sendPage
          ∧ world.process machine = .pushRead page
          ∧ next.db.projection = world.db.projection.commitBatch page.rows)
      ∨ ∃ args projected after snapshot,
          action = .sendProject
          ∧ world.process machine = .projectRead args projected after
          ∧ world.db.snapshot = some snapshot
          ∧ next.db.projection
            = world.db.projection.projectBatch snapshot after args.batchSize := by
  simp only [step] at taken
  split at taken
  case h_1 => cases taken; exact .inl rfl
  case h_2 => split at taken <;> cases taken <;> exact .inl rfl
  case h_3 page here =>
    cases taken
    exact .inr (.inl ⟨page, rfl, here, rfl⟩)
  case h_4 =>
    split at taken <;> cases taken
    exact .inl rfl
  case h_5 => split at taken <;> cases taken <;> exact .inl rfl
  case h_6 args projected after here =>
    obtain ⟨snapshot, present, rfl⟩ := Option.map_eq_some_iff.mp taken
    exact .inr (.inr ⟨args, projected, after, snapshot, rfl, here, present, rfl⟩)
  case h_7 => split at taken <;> cases taken <;> exact .inl rfl
  case h_8 => cases taken; exact .inl rfl
  case h_9 => cases taken

/-- A process with a page in hand after a step had it before, or has just read it. -/
theorem step_pushRead {world next : World Machine} {machine other : Machine}
    {action : Action} {page : PushPage}
    (taken : world.step (machine, action) = some next)
    (holds : next.process other = .pushRead page)
    : world.process other = .pushRead page
      ∨ ∃ run store,
          other = machine
          ∧ action = .readPage store
          ∧ world.process machine = .push run
          ∧ run.readPage store world.db.projection = some page := by
  by_cases same : other = machine
  · subst same
    simp only [step] at taken
    split at taken
    case h_2 run store here =>
      split at taken <;> cases taken
      · simp [goto] at holds
      · rename_i read found
        obtain rfl : read = page := by simpa [goto] using holds
        exact .inr ⟨run, store, rfl, rfl, here, found⟩
    case h_6 =>
      obtain ⟨_, _, rfl⟩ := Option.map_eq_some_iff.mp taken
      simp [goto] at holds
    all_goals (try split at taken) <;> cases taken <;> simp [goto] at holds
  · left
    simp only [step] at taken
    split at taken
    case h_6 =>
      obtain ⟨_, _, rfl⟩ := Option.map_eq_some_iff.mp taken
      simpa [goto, Function.update_of_ne same] using holds
    all_goals
      (try split at taken) <;> cases taken
        <;> simpa [goto, Function.update_of_ne same] using holds

end World

/-- A store of one Codex session with one event of the given id, payload and payload hash. -/
def oneEventStore (id payload hash : String) : LocalStore where
  sessions := [⟨"s1", ⟨"codex", some "thread"⟩⟩]
  captureSources := []
  events :=
    [{ id := id, sessionId := some "s1", captureSourceId := none, role := some "user"
       eventType := "message", occurredAtMs := 0
       dedupeKey := some ("provider-source:laptop:0:" ++ hash)
       payloadJson := payload, visibility := .localOnly, syncState := .localOnly }]
  ordered := List.pairwise_singleton _ _

/-- A push of a whole store, one event a page. -/
def pushEverything : PushArgs where
  batchSize := 1
  batchSizePos := Nat.one_pos
  limit := none
  afterEventId := none
  includeLocalOnly := true

/-- A snapshot with one live event of the given id and payload. -/
def oneEventSnapshot (id payload : String) : Snapshot where
  sessions := []
  events :=
    [{ id := id, sessionId := none, role := none, eventType := "message", occurredAtMs := 0
       payloadJson := payload, dedupeKey := none, deletedAtMs := none }]
  eventSearch := [⟨id, payload⟩]
  ordered := List.pairwise_singleton _ _

end CtxRemote.Turso
