import CtxRemote.Semantic.DaemonService
import Mathlib.Algebra.Order.Ring.Nat

/-! What holds in every state of every run of daemons: whose the lock, the endpoint and the socket are,
and that a daemon that stops because it is idle stops no request.
-/

namespace CtxRemote.Semantic
open CtxRemote.Library

variable {owner : Nat} {files files' : DaemonFiles} {daemon daemon' : Daemon} {action : DaemonAction}

-----------------------------------------------------------------------------------------
-- Phases
-----------------------------------------------------------------------------------------

namespace DaemonPhase

/-- The phases in which a daemon has the lock on the guard file. -/
def holds : DaemonPhase → Bool
  | .idle | .done | .dead => false
  | _ => true

/-- The phases before the thread of the service is there. -/
def early : DaemonPhase → Bool
  | .idle | .checking | .publishing _ | .verifying _ | .starting | .binding | .securing | .announcing
  | .spawning => true
  | _ => false

/-- The phases of the loop. -/
def loops : DaemonPhase → Bool
  | .observing | .judging | .reobserving | .working | .reporting | .deciding => true
  | _ => false

/-- The phases in which the thread of the service may be running. -/
def threaded (phase : DaemonPhase) : Bool :=
  phase.loops || phase = .closing || phase = .stopping || phase = .joining

end DaemonPhase

/-- Whether a daemon has its endpoint in place. -/
def Daemon.published (daemon : Daemon) : Bool :=
  daemon.phase = .spawning
    || ((daemon.phase.loops || daemon.phase = .closing) && daemon.activity.isSome)

/-- Whether a daemon has its socket in place. -/
def Daemon.bound (daemon : Daemon) : Bool :=
  daemon.phase = .securing || daemon.phase = .announcing || daemon.phase = .spawning
    || ((daemon.phase.threaded || daemon.phase = .unbinding) && daemon.activity.isSome)

/-- Whether the thread of the service is running. -/
def QueryListener.alive : QueryListener → Bool
  | .absent | .finished => false
  | _ => true

/-- The phases behind the loop. -/
def DaemonPhase.left : DaemonPhase → Bool
  | .closing | .stopping | .joining | .unbinding | .releasing | .unlocking | .done | .dead => true
  | _ => false

-----------------------------------------------------------------------------------------
-- The steps of the main thread
-----------------------------------------------------------------------------------------

/-- What a step of the main thread does: the files and the phase behind it. -/
inductive Moves (owner : Nat) (files : DaemonFiles) (daemon : Daemon)
    : DaemonFiles → DaemonPhase → Prop where
  | locks (before : daemon.phase = .idle) (free : files.guard = none)
    : Moves owner files daemon { files with guard := some owner } .checking
  | fails (before : daemon.phase = .idle) : Moves owner files daemon files .done
  | reclaims (before : daemon.phase = .checking) : Moves owner files daemon files (.publishing 0)
  | refuses (before : daemon.phase = .checking) : Moves owner files daemon files .unlocking
  | publishes {attempt : Nat} (before : daemon.phase = .publishing attempt)
      (metadata : Option LockMetadata)
    : Moves owner files daemon { files with metadata } (.verifying attempt)
  | unpublished {attempt : Nat} (before : daemon.phase = .publishing attempt)
      (metadata : Option LockMetadata)
    : Moves owner files daemon { files with metadata } .unlocking
  | verifies {attempt : Nat} (before : daemon.phase = .verifying attempt)
    : Moves owner files daemon files .starting
  | retries {attempt : Nat} (before : daemon.phase = .verifying attempt)
    : Moves owner files daemon files (.publishing (attempt + 1))
  | unverified {attempt : Nat} (before : daemon.phase = .verifying attempt)
    : Moves owner files daemon files .unlocking
  | startFails (before : daemon.phase = .starting) : Moves owner files daemon files .releasing
  | serves (before : daemon.phase = .starting) : Moves owner files daemon files .binding
  | servesNone (before : daemon.phase = .starting) : Moves owner files daemon files .observing
  | binds (before : daemon.phase = .binding)
    : Moves owner files daemon { files with socket := some owner } .securing
  | bindFails (before : daemon.phase = .binding) (socket : Option Nat)
    : Moves owner files daemon { files with socket } .releasing
  | secures (before : daemon.phase = .securing) : Moves owner files daemon files .announcing
  | secureFails (before : daemon.phase = .securing) : Moves owner files daemon files .releasing
  | announces (before : daemon.phase = .announcing)
    : Moves owner files daemon { files with endpoint := some owner } .spawning
  | announceFails (before : daemon.phase = .announcing) (endpoint socket : Option Nat)
    : Moves owner files daemon { files with endpoint, socket } .releasing
  | spawnFails (before : daemon.phase = .spawning) (endpoint socket : Option Nat)
    : Moves owner files daemon { files with endpoint, socket } .releasing
  | ends (before : daemon.phase = .working) : Moves owner files daemon files .closing
  | works (before : daemon.phase = .working) : Moves owner files daemon files .reporting
  | closesNone (before : daemon.phase = .closing) (none : daemon.activity.isNone = true)
    : Moves owner files daemon files .releasing
  | closes (before : daemon.phase = .closing) (endpoint : Option Nat)
    : Moves owner files daemon { files with endpoint } .stopping
  | joins (before : daemon.phase = .joining) (finished : daemon.listener = .finished)
    : Moves owner files daemon files .unbinding
  | unbinds (before : daemon.phase = .unbinding) (socket : Option Nat)
    : Moves owner files daemon { files with socket } .releasing
  | releases (before : daemon.phase = .releasing) (metadata : Option LockMetadata)
    : Moves owner files daemon { files with metadata } .unlocking
  | unlocks (before : daemon.phase = .unlocking)
    : Moves owner files daemon { files with guard := none } .done

/-- By cases on the step. -/
theorem moves_of_move {phase : DaemonPhase}
    (moved : daemon.move owner files action = some (files', phase))
    : Moves owner files daemon files' phase := by
  cases action with
  | lock ok =>
      simp only [Daemon.move] at moved
      split at moved
      next => cases moved
      next before =>
          rw [not_not] at before
          split at moved
          next free =>
              cases moved
              exact .locks before (Option.isNone_iff_eq_none.mp (Bool.and_eq_true_iff.mp free).2)
          next =>
              cases moved
              exact .fails before
  | check read aged =>
      simp only [Daemon.move] at moved
      split at moved
      next => cases moved
      next before =>
          rw [not_not] at before
          cases moved
          split
          next => exact .reclaims before
          next => exact .refuses before
  | publish read aged ok lands =>
      simp only [Daemon.move] at moved
      split at moved
      next attempt before =>
          split at moved
          next =>
              cases moved
              exact .unpublished before files.metadata
          next =>
              split at moved
              next =>
                  cases moved
                  exact .unpublished before _
              next =>
                  cases moved
                  exact .publishes before _
      next => cases moved
  | verify read =>
      simp only [Daemon.move] at moved
      split at moved
      next attempt before =>
          cases moved
          split
          next => exact .verifies before
          next =>
              split
              next => exact .retries before
              next => exact .unverified before
      next => cases moved
  | start ok semanticEnabled =>
      simp only [Daemon.move] at moved
      split at moved
      next => cases moved
      next before =>
          rw [not_not] at before
          cases moved
          split
          next => exact .startFails before
          next =>
              split
              next => exact .serves before
              next => exact .servesNone before
  | bind ok removed =>
      simp only [Daemon.move] at moved
      split at moved
      next => cases moved
      next before =>
          rw [not_not] at before
          split at moved
          next =>
              cases moved
              exact .binds before
          next =>
              cases moved
              exact .bindFails before _
  | secure ok =>
      simp only [Daemon.move] at moved
      split at moved
      next => cases moved
      next before =>
          rw [not_not] at before
          cases moved
          split
          next => exact .secures before
          next => exact .secureFails before
  | announce result =>
      simp only [Daemon.move] at moved
      split at moved
      next => cases moved
      next before =>
          rw [not_not] at before
          cases result with
          | written =>
              cases moved
              exact .announces before
          | unwritten =>
              cases moved
              exact .announceFails before files.endpoint _
          | unsecured =>
              cases moved
              exact .announceFails before _ _
  | spawnFails endpointRemoved socketRemoved =>
      simp only [Daemon.move] at moved
      split at moved
      next => cases moved
      next before =>
          rw [not_not] at before
          cases moved
          exact .spawnFails before _ _
  | work ends =>
      simp only [Daemon.move] at moved
      split at moved
      next => cases moved
      next before =>
          rw [not_not] at before
          cases moved
          split
          next => exact .ends before
          next => exact .works before
  | close removed =>
      simp only [Daemon.move] at moved
      split at moved
      next => cases moved
      next before =>
          rw [not_not] at before
          split at moved
          next none =>
              cases moved
              exact .closesNone before none
          next =>
              cases moved
              exact .closes before _
  | join =>
      simp only [Daemon.move] at moved
      split at moved
      next => cases moved
      next before =>
          rw [Bool.or_eq_true, not_or, decide_eq_true_eq, decide_eq_true_eq, not_not, not_not] at before
          cases moved
          exact .joins before.1 before.2
  | unbind removed =>
      simp only [Daemon.move] at moved
      split at moved
      next => cases moved
      next before =>
          rw [not_not] at before
          cases moved
          exact .unbinds before _
  | release read ok =>
      simp only [Daemon.move] at moved
      split at moved
      next => cases moved
      next before =>
          rw [not_not] at before
          cases moved
          exact .releases before _
  | unlock =>
      simp only [Daemon.move] at moved
      split at moved
      next => cases moved
      next before =>
          rw [not_not] at before
          cases moved
          exact .unlocks before
  | _ => cases moved

/-- The ways in which a daemon takes a step. -/
theorem act_cases (taken : daemon.act owner files action = some (files', daemon'))
    : (∃ phase, Moves owner files daemon files' phase ∧ daemon' = daemon.goto phase)
      ∨ files' = files ∧ daemon.turn action = some daemon'
      ∨ files' = { files with guard := if files.guard = some owner then none else files.guard }
        ∧ daemon' = { daemon with phase := .dead, listener := .absent, activity := none } := by
  unfold Daemon.act at taken
  split at taken
  next =>
      split at taken
      next => cases taken
      next =>
          cases taken
          exact .inr (.inr ⟨rfl, rfl⟩)
  next =>
      split at taken
      next moved =>
          cases taken
          exact .inl ⟨_, moves_of_move moved, rfl⟩
      next =>
          obtain ⟨turned, turns, same⟩ := Option.map_eq_some_iff.mp taken
          cases same
          exact .inr (.inl ⟨rfl, turns⟩)

-----------------------------------------------------------------------------------------
-- What a daemon knows
-----------------------------------------------------------------------------------------

/-- The activity that a daemon observes is that of its own service. A daemon that stopped because it was
idle has no request, and none has begun or ended since, unless the generation has gone all the way round.
-/
structure Daemon.Sound (daemon : Daemon) : Prop where
  early : daemon.phase.early = true
    → daemon.activity = none ∧ daemon.listener = .absent ∧ daemon.changes = 0
  unserved : daemon.activity = none
    → daemon.listener = .absent ∧ (daemon.phase ≠ .dead → daemon.changes = 0)
  threaded : daemon.listener.alive = true → daemon.phase.threaded = true
  requests : ∀ activity, daemon.activity = some activity
    → activity.activeRequests = (if daemon.listener = .serving then 1 else 0)
      ∧ activity.generation = UInt64.ofNat daemon.changes
  observed : daemon.observedGeneration = UInt64.ofNat daemon.observedChanges
    ∧ daemon.observedChanges ≤ daemon.changes
  idle : ∀ since, daemon.idleSince = some since
    → daemon.observedChanges ≤ since ∧ since ≤ daemon.changes
  stopped : daemon.stoppedIdle = true → daemon.phase.left = true
    ∧ (∀ activity, daemon.activity = some activity
      → activity.accepting = false ∧ activity.activeRequests = 0)
    ∧ ∃ since, daemon.idleSince = some since ∧ (daemon.changes = since ∨ 2 ^ 64 ≤ daemon.changes)

theorem Daemon.Sound.goto (sound : daemon.Sound) {phase : DaemonPhase} (lives : daemon.phase ≠ .dead)
    (early : phase.early = true → daemon.phase.early = true)
    (threaded : daemon.listener.alive = true → phase.threaded = true)
    (left : daemon.phase.left = true → phase.left = true) : (daemon.goto phase).Sound where
  early now := sound.early (early now)
  unserved none := ⟨(sound.unserved none).1, fun _ => (sound.unserved none).2 lives⟩
  threaded := threaded
  requests := sound.requests
  observed := sound.observed
  idle := sound.idle
  stopped now := ⟨left (sound.stopped now).1, (sound.stopped now).2⟩

/-- The main thread moves on without losing the thread of its service. -/
theorem move_sound {phase : DaemonPhase} (moves : Moves owner files daemon files' phase)
    (sound : daemon.Sound) : (daemon.goto phase).Sound := by
  have threaded := sound.threaded
  apply sound.goto
  · intro dead
    cases moves <;> simp_all
  · cases moves <;> simp_all [DaemonPhase.early]
  · intro alive
    cases moves with
    | closesNone before none =>
        rw [(sound.unserved (Option.isNone_iff_eq_none.mp none)).1] at alive
        cases alive
    | joins before finished =>
        rw [finished] at alive
        cases alive
    | _ => simp_all [DaemonPhase.threaded, DaemonPhase.loops]
  · cases moves <;> simp_all [DaemonPhase.left]

/-- Observing the activity resets the idle time unless nothing has changed. -/
theorem observe_sound (sound : daemon.Sound) (runs : daemon.stoppedIdle = false)
    : daemon.observe.Sound := by
  unfold Daemon.observe
  split
  next => exact sound
  next activity there =>
      split
      next =>
          have generation := (sound.requests activity there).2
          exact {
            early := sound.early
            unserved := sound.unserved
            threaded := sound.threaded
            requests := sound.requests
            observed := ⟨generation, Nat.le_refl _⟩
            idle := fun _ none => by cases none
            stopped := fun wrong => by rw [runs] at wrong; cases wrong }
      next => exact sound

/-- Two counts of changes with one generation are equal or far apart. -/
theorem eq_of_generation {fewer more : Nat} (le : fewer ≤ more)
    (same : UInt64.ofNat more = UInt64.ofNat fewer) : more = fewer ∨ 2 ^ 64 ≤ more := by
  have mod := congrArg UInt64.toNat same
  rw [UInt64.toNat_ofNat', UInt64.toNat_ofNat'] at mod
  omega

/-- The end of the loop of an idle daemon. -/
theorem tryStop_sound (sound : daemon.Sound) (judging : daemon.phase = .judging)
    (idle : daemon.idleSince.isSome = true) : daemon.tryStop.Sound := by
  obtain ⟨since, idle⟩ := Option.isSome_iff_exists.mp idle
  have bounds := sound.idle since idle
  have lives : daemon.phase ≠ .dead := by rw [judging]; exact DaemonPhase.noConfusion
  unfold Daemon.tryStop
  split
  next none =>
      obtain ⟨absent, unchanged⟩ := sound.unserved none
      have unchanged := unchanged lives
      have untouched : daemon.changes = since := by omega
      exact {
        early := fun wrong => by cases wrong
        unserved := fun _ => ⟨absent, fun _ => unchanged⟩
        threaded := fun _ => rfl
        requests := sound.requests
        observed := sound.observed
        idle := sound.idle
        stopped := fun _ => ⟨rfl, fun _ there => absurd (none.symm.trans there) (by simp),
          since, idle, .inl untouched⟩ }
  next activity there =>
      obtain ⟨count, generation⟩ := sound.requests activity there
      unfold DaemonQueryActivityState.tryStopAcceptingIfIdle
      by_cases busy : (activity.activeRequests ≠ 0
          || activity.generation ≠ daemon.observedGeneration) = true
      · rw [if_pos busy]
        apply sound.goto lives
        · exact fun wrong => by cases wrong
        · exact fun _ => rfl
        · exact fun wrong => by rw [judging] at wrong; cases wrong
      · rw [if_neg busy]
        rw [Bool.or_eq_true, decide_eq_true_eq, decide_eq_true_eq, not_or, not_not, not_not] at busy
        have same := eq_of_generation sound.observed.2
          (generation.symm.trans (busy.2.trans sound.observed.1))
        have untouched : daemon.changes = since ∨ 2 ^ 64 ≤ daemon.changes := by omega
        exact {
          early := fun wrong => by cases wrong
          unserved := fun none => by cases none
          threaded := fun _ => rfl
          requests := fun _ stopped => by cases stopped; exact ⟨count, generation⟩
          observed := sound.observed
          idle := sound.idle
          stopped := fun _ => ⟨rfl, fun _ stopped => by cases stopped; exact ⟨rfl, busy.1⟩,
            since, idle, untouched⟩ }

theorem succ_generation (changes : Nat) : UInt64.ofNat changes + 1 = UInt64.ofNat (changes + 1) :=
  (UInt64.ofNat_add changes 1).symm

/-- A thread of the service that goes on without a request. -/
theorem Daemon.Sound.listen (sound : daemon.Sound) (alive : daemon.listener.alive = true)
    (quiet : daemon.listener ≠ .serving) {listener : QueryListener} (later : listener ≠ .serving)
    : { daemon with listener }.Sound where
  early now := by
    rw [(sound.early now).2.1] at alive
    cases alive
  unserved none := by
    rw [(sound.unserved none).1] at alive
    cases alive
  threaded _ := sound.threaded alive
  requests activity there := by
    have requests := sound.requests activity there
    rw [if_neg quiet] at requests
    exact ⟨requests.1.trans (if_neg later).symm, requests.2⟩
  observed := sound.observed
  idle := sound.idle
  stopped := sound.stopped

theorem observe_phase : daemon.observe.phase = daemon.phase := by
  unfold Daemon.observe
  split
  next => rfl
  next => split <;> rfl

/-- A daemon that has not left its loop has not stopped. -/
theorem Daemon.Sound.runs (sound : daemon.Sound) (stays : daemon.phase.left = false)
    : daemon.stoppedIdle = false := by
  rw [Bool.eq_false_iff]
  intro stopped
  have left := (sound.stopped stopped).1
  rw [stays] at left
  cases left

theorem observe_goto_sound (sound : daemon.Sound) (loops : daemon.phase.loops = true)
    {phase : DaemonPhase} (later : phase.loops = true) : (daemon.observe.goto phase).Sound := by
  have stays : daemon.phase.left = false := by
    cases here : daemon.phase <;> simp_all [DaemonPhase.loops, DaemonPhase.left]
  apply (observe_sound sound (sound.runs stays)).goto
  · rw [observe_phase]
    intro dead
    rw [dead] at loops
    cases loops
  · cases phase <;> simp_all [DaemonPhase.loops, DaemonPhase.early]
  · cases phase <;> simp_all [DaemonPhase.loops, DaemonPhase.threaded]
  · rw [observe_phase, stays]
    exact fun wrong => by cases wrong

/-- A request begins only where the service still accepts. -/
theorem beginRequest_sound {activity : DaemonQueryActivityState} (sound : daemon.Sound)
    (accepted : daemon.listener = .accepted) (there : daemon.activity = some activity)
    {begun : DaemonQueryActivityState} (begins : activity.beginRequest = some begun)
    : { daemon with
        listener := .serving
        activity := some begun
        changes := daemon.changes + 1 }.Sound := by
  obtain ⟨count, generation⟩ := sound.requests activity there
  unfold DaemonQueryActivityState.beginRequest at begins
  split at begins
  next => cases begins
  next accepts =>
      cases begins
      have alive : daemon.listener.alive = true := by rw [accepted]; rfl
      exact {
        early := fun now => by
          rw [(sound.early now).2.1] at alive
          cases alive
        unserved := fun none => by cases none
        threaded := fun _ => sound.threaded alive
        requests := fun _ same => by
          cases same
          rw [accepted] at count
          exact ⟨congrArg (· + 1) count, by rw [generation]; exact succ_generation _⟩
        observed := ⟨sound.observed.1, Nat.le_succ_of_le sound.observed.2⟩
        idle := fun since idle =>
          ⟨(sound.idle since idle).1, Nat.le_succ_of_le (sound.idle since idle).2⟩
        stopped := fun stopped => by
          have refuses := ((sound.stopped stopped).2.1 activity there).1
          rw [refuses] at accepts
          exact absurd rfl accepts }

/-- A request that ends was the only one. -/
theorem endRequest_sound {activity : DaemonQueryActivityState} (sound : daemon.Sound)
    (serving : daemon.listener = .serving) (there : daemon.activity = some activity)
    : { daemon with
        listener := .looking
        activity := some activity.endRequest
        changes := daemon.changes + 1 }.Sound := by
  obtain ⟨count, generation⟩ := sound.requests activity there
  rw [if_pos serving] at count
  have alive : daemon.listener.alive = true := by rw [serving]; rfl
  exact {
    early := fun now => by
      rw [(sound.early now).2.1] at alive
      cases alive
    unserved := fun none => by cases none
    threaded := fun _ => sound.threaded alive
    requests := fun _ same => by
      cases same
      refine ⟨?_, by rw [← succ_generation, ← generation]; rfl⟩
      change activity.activeRequests - 1 = 0
      rw [count]
    observed := ⟨sound.observed.1, Nat.le_succ_of_le sound.observed.2⟩
    idle := fun since idle =>
      ⟨(sound.idle since idle).1, Nat.le_succ_of_le (sound.idle since idle).2⟩
    stopped := fun stopped => by
      have none := ((sound.stopped stopped).2.1 activity there).2
      rw [count] at none
      cases none }

/-- The steps of both threads keep what a daemon knows, by cases on the step. -/
theorem turn_sound (turned : daemon.turn action = some daemon') (sound : daemon.Sound)
    : daemon'.Sound := by
  cases action with
  | spawn =>
      simp only [Daemon.turn] at turned
      split at turned
      next => cases turned
      next spawning =>
          cases turned
          rw [not_not] at spawning
          have early := sound.early (by rw [spawning]; rfl)
          exact {
            early := fun wrong => by cases wrong
            unserved := fun none => by cases none
            threaded := fun _ => rfl
            requests := fun _ same => by
              cases same
              exact ⟨rfl, by rw [early.2.2]; rfl⟩
            observed := sound.observed
            idle := sound.idle
            stopped := fun stopped => by
              rw [sound.runs (by rw [spawning]; rfl)] at stopped
              cases stopped }
  | observe =>
      simp only [Daemon.turn] at turned
      split at turned
      next here => cases turned; exact observe_goto_sound sound (by rw [here]; rfl) rfl
      next here => cases turned; exact observe_goto_sound sound (by rw [here]; rfl) rfl
      next here => cases turned; exact observe_goto_sound sound (by rw [here]; rfl) rfl
      next => cases turned
  | judge elapsed =>
      simp only [Daemon.turn] at turned
      split at turned
      next => cases turned
      next judging =>
          rw [not_not] at judging
          split at turned
          next idle =>
              cases turned
              exact tryStop_sound sound judging (Bool.and_eq_true_iff.mp idle).1
          next =>
              cases turned
              apply sound.goto
              · rw [judging]; exact DaemonPhase.noConfusion
              · exact fun wrong => by cases wrong
              · exact fun _ => rfl
              · rw [judging]; exact fun wrong => by cases wrong
  | decide didWork =>
      simp only [Daemon.turn] at turned
      split at turned
      next => cases turned
      next deciding =>
          cases turned
          rw [not_not] at deciding
          exact {
            early := fun wrong => by cases wrong
            unserved := fun none =>
              ⟨(sound.unserved none).1, fun _ =>
                (sound.unserved none).2 (by rw [deciding]; exact DaemonPhase.noConfusion)⟩
            threaded := fun _ => rfl
            requests := sound.requests
            observed := sound.observed
            idle := fun since idle => by
              split at idle
              next => cases idle
              next =>
                  cases idle
                  cases before : daemon.idleSince with
                  | none => exact ⟨sound.observed.2, Nat.le_refl _⟩
                  | some since => exact sound.idle since before
            stopped := fun stopped => by
              rw [sound.runs (by rw [deciding]; rfl)] at stopped
              cases stopped }
  | stop =>
      simp only [Daemon.turn] at turned
      split at turned
      next => cases turned
      next stopping =>
          cases turned
          rw [not_not] at stopping
          exact {
            early := fun wrong => by cases wrong
            unserved := fun none => by
              have unserved := sound.unserved (Option.map_eq_none_iff.mp none)
              exact ⟨unserved.1, fun _ =>
                unserved.2 (by rw [stopping]; exact DaemonPhase.noConfusion)⟩
            threaded := fun _ => rfl
            requests := fun _ same => by
              obtain ⟨activity, there, rfl⟩ := Option.map_eq_some_iff.mp same
              exact sound.requests activity there
            observed := sound.observed
            idle := sound.idle
            stopped := fun stopped => by
              refine ⟨rfl, ?_, (sound.stopped stopped).2.2⟩
              intro _ same
              obtain ⟨activity, there, rfl⟩ := Option.map_eq_some_iff.mp same
              exact ⟨rfl, ((sound.stopped stopped).2.1 activity there).2⟩ }
  | look =>
      simp only [Daemon.turn] at turned
      split at turned
      next activity looking there =>
          cases turned
          apply sound.listen
          · rw [looking]; rfl
          · rw [looking]; exact QueryListener.noConfusion
          · split <;> exact QueryListener.noConfusion
      next => cases turned
  | accept result =>
      simp only [Daemon.turn] at turned
      split at turned
      next => cases turned
      next accepting =>
          cases turned
          rw [not_not] at accepting
          apply sound.listen
          · rw [accepting]; rfl
          · rw [accepting]; exact QueryListener.noConfusion
          · cases result <;> exact QueryListener.noConfusion
  | beginRequest =>
      simp only [Daemon.turn] at turned
      split at turned
      next activity accepted there =>
          split at turned
          next =>
              cases turned
              apply sound.listen
              · rw [accepted]; rfl
              · rw [accepted]; exact QueryListener.noConfusion
              · exact QueryListener.noConfusion
          next begun begins =>
              cases turned
              exact beginRequest_sound sound accepted there begins
      next => cases turned
  | endRequest =>
      simp only [Daemon.turn] at turned
      split at turned
      next activity serving there =>
          cases turned
          exact endRequest_sound sound serving there
      next => cases turned
  | _ => simp [Daemon.turn] at turned

theorem act_sound (taken : daemon.act owner files action = some (files', daemon'))
    (sound : daemon.Sound) : daemon'.Sound := by
  rcases act_cases taken with ⟨phase, moved, rfl⟩ | ⟨-, turned⟩ | ⟨-, rfl⟩
  · exact move_sound moved sound
  · exact turn_sound turned sound
  · exact {
      early := fun wrong => by cases wrong
      unserved := fun _ => ⟨rfl, fun wrong => absurd rfl wrong⟩
      threaded := fun wrong => by cases wrong
      requests := fun _ there => by cases there
      observed := sound.observed
      idle := sound.idle
      stopped := fun stopped =>
        ⟨rfl, fun _ there => absurd there (by simp), (sound.stopped stopped).2.2⟩ }

-----------------------------------------------------------------------------------------
-- What a daemon owns
-----------------------------------------------------------------------------------------

/-- A daemon has the lock, and what it has published is in place. -/
structure Owns (owner : Nat) (files : DaemonFiles) (daemon : Daemon) : Prop where
  guard : daemon.phase.holds = true → files.guard = some owner
  endpoint : daemon.published = true → files.endpoint = some owner
  socket : daemon.bound = true → files.socket = some owner

/-- The main thread moves on, and publishes nothing that is not in place. -/
theorem move_owns {phase : DaemonPhase} (moves : Moves owner files daemon files' phase)
    (sound : daemon.Sound) (owns : Owns owner files daemon)
    : Owns owner files' (daemon.goto phase) := by
  have unserved (early : daemon.phase.early = true) : daemon.activity = none := (sound.early early).1
  obtain ⟨guard, endpoint, socket⟩ := owns
  constructor
  · cases moves <;> simp_all [Daemon.goto, DaemonPhase.holds]
  · cases moves <;> simp_all [Daemon.goto, Daemon.published, DaemonPhase.loops, DaemonPhase.early]
  · cases moves <;>
      simp_all [Daemon.goto, Daemon.bound, DaemonPhase.threaded, DaemonPhase.loops, DaemonPhase.early]

/-- The phases that other steps lead to, and what becomes of the service in them. -/
theorem turn_phase (turned : daemon.turn action = some daemon')
    : daemon.phase = .spawning ∧ daemon'.phase = .observing
      ∨ daemon'.activity.isSome = daemon.activity.isSome
        ∧ (daemon'.phase = daemon.phase
          ∨ daemon.phase.loops = true ∧ (daemon'.phase.loops = true ∨ daemon'.phase = .closing)
          ∨ daemon.phase = .stopping ∧ daemon'.phase = .joining) := by
  cases action with
  | spawn =>
      simp only [Daemon.turn] at turned
      split at turned
      next => cases turned
      next spawning =>
          cases turned
          exact .inl ⟨not_not.mp spawning, rfl⟩
  | observe =>
      have activity : daemon.observe.activity = daemon.activity := by
        unfold Daemon.observe
        split
        next => rfl
        next => split <;> rfl
      have loops {before after : DaemonPhase} (here : daemon.phase = before)
          (left : before.loops = true) (later : after.loops = true)
          : daemon.phase.loops = true
            ∧ ((daemon.observe.goto after).phase.loops = true
              ∨ (daemon.observe.goto after).phase = .closing) :=
        ⟨by rw [here]; exact left, .inl later⟩
      simp only [Daemon.turn] at turned
      split at turned
      next here =>
          cases turned
          exact .inr ⟨congrArg Option.isSome activity, .inr (.inl (loops here rfl rfl))⟩
      next here =>
          cases turned
          exact .inr ⟨congrArg Option.isSome activity, .inr (.inl (loops here rfl rfl))⟩
      next here =>
          cases turned
          exact .inr ⟨congrArg Option.isSome activity, .inr (.inl (loops here rfl rfl))⟩
      next => cases turned
  | judge elapsed =>
      simp only [Daemon.turn] at turned
      split at turned
      next => cases turned
      next judging =>
          have loops : daemon.phase.loops = true := by
            rw [not_not.mp judging]
            rfl
          split at turned
          next =>
              cases turned
              unfold Daemon.tryStop
              split
              next => exact .inr ⟨rfl, .inr (.inl ⟨loops, .inr rfl⟩)⟩
              next there =>
                  split
                  next => exact .inr ⟨rfl, .inr (.inl ⟨loops, .inl rfl⟩)⟩
                  next => exact .inr ⟨by rw [there]; rfl, .inr (.inl ⟨loops, .inr rfl⟩)⟩
          next =>
              cases turned
              exact .inr ⟨rfl, .inr (.inl ⟨loops, .inl rfl⟩)⟩
  | decide didWork =>
      simp only [Daemon.turn] at turned
      split at turned
      next => cases turned
      next deciding =>
          cases turned
          exact .inr ⟨rfl, .inr (.inl ⟨by rw [not_not.mp deciding]; rfl, .inl rfl⟩)⟩
  | stop =>
      simp only [Daemon.turn] at turned
      split at turned
      next => cases turned
      next stopping =>
          cases turned
          exact .inr ⟨Option.isSome_map, .inr (.inr ⟨not_not.mp stopping, rfl⟩)⟩
  | look =>
      simp only [Daemon.turn] at turned
      split at turned
      next =>
          cases turned
          exact .inr ⟨rfl, .inl rfl⟩
      next => cases turned
  | accept result =>
      simp only [Daemon.turn] at turned
      split at turned
      next => cases turned
      next =>
          cases turned
          exact .inr ⟨rfl, .inl rfl⟩
  | beginRequest =>
      simp only [Daemon.turn] at turned
      split at turned
      next there =>
          split at turned
          next =>
              cases turned
              exact .inr ⟨rfl, .inl rfl⟩
          next =>
              cases turned
              exact .inr ⟨by rw [there]; rfl, .inl rfl⟩
      next => cases turned
  | endRequest =>
      simp only [Daemon.turn] at turned
      split at turned
      next there =>
          cases turned
          exact .inr ⟨by rw [there]; rfl, .inl rfl⟩
      next => cases turned
  | _ => cases turned

/-- No other step publishes anything, or goes on without the lock. -/
theorem turn_owns (turned : daemon.turn action = some daemon') (owns : Owns owner files daemon)
    : Owns owner files daemon' := by
  obtain ⟨guard, endpoint, socket⟩ := owns
  rcases turn_phase turned with ⟨before, after⟩ | ⟨activity, same | ⟨loops, after⟩ | ⟨before, after⟩⟩
  · constructor <;> simp_all [DaemonPhase.holds, Daemon.published, Daemon.bound]
  · constructor <;> simp_all [Daemon.published, Daemon.bound]
  · have holds : daemon.phase.holds = true := by
      cases here : daemon.phase <;> simp_all [DaemonPhase.loops, DaemonPhase.holds]
    have serves (there : daemon'.published = true ∨ daemon'.bound = true)
        : daemon.activity.isSome = true := by
      rw [← activity]
      rcases there with there | there <;>
        cases later : daemon'.phase <;>
          simp_all [Daemon.published, Daemon.bound, DaemonPhase.loops, DaemonPhase.threaded]
    constructor
    · exact fun _ => guard holds
    · exact fun there => endpoint (by simp [Daemon.published, loops, serves (.inl there)])
    · exact fun there =>
        socket (by simp [Daemon.bound, DaemonPhase.threaded, loops, serves (.inr there)])
  · constructor <;>
      simp_all [DaemonPhase.holds, Daemon.published, Daemon.bound, DaemonPhase.loops,
        DaemonPhase.threaded]

theorem act_owns (taken : daemon.act owner files action = some (files', daemon'))
    (sound : daemon.Sound) (owns : Owns owner files daemon) : Owns owner files' daemon' := by
  rcases act_cases taken with ⟨phase, moved, rfl⟩ | ⟨rfl, turned⟩ | ⟨rfl, rfl⟩
  · exact move_owns moved sound owns
  · exact turn_owns turned owns
  · constructor <;> intro wrong <;> cases wrong

/-- Only a daemon with the lock changes what others may own, or one that takes the lock. -/
theorem move_frame {phase : DaemonPhase} (moves : Moves owner files daemon files' phase)
    (waits : daemon.phase.holds = false)
    : files'.guard = files.guard ∧ files'.endpoint = files.endpoint ∧ files'.socket = files.socket
      ∨ files.guard = none := by
  cases moves <;> simp_all [DaemonPhase.holds]

/-- What another daemon owns is out of reach. -/
theorem act_frame {other : Nat} {held : Daemon} (apart : other ≠ owner)
    (taken : daemon.act owner files action = some (files', daemon'))
    (owns : Owns owner files daemon) (holds : Owns other files held)
    (early : held.published = true ∨ held.bound = true → held.phase.holds = true)
    : Owns other files' held := by
  have foreign (has : held.phase.holds = true) : files.guard ≠ some owner := by
    rw [holds.guard has]
    exact fun same => apart (Option.some.inj same)
  have waits (has : held.phase.holds = true) : daemon.phase.holds = false :=
    Bool.eq_false_iff.mpr fun mine => foreign has (owns.guard mine)
  have kept (has : held.phase.holds = true)
      : files'.guard = files.guard
        ∧ files'.endpoint = files.endpoint ∧ files'.socket = files.socket := by
    rcases act_cases taken with ⟨phase, moved, -⟩ | ⟨rfl, -⟩ | ⟨rfl, -⟩
    · refine (move_frame moved (waits has)).resolve_right ?_
      rw [holds.guard has]
      exact Option.some_ne_none _
    · exact ⟨rfl, rfl, rfl⟩
    · exact ⟨if_neg (foreign has), rfl, rfl⟩
  constructor
  · exact fun has => (kept has).1.trans (holds.guard has)
  · exact fun published => (kept (early (.inl published))).2.1.trans (holds.endpoint published)
  · exact fun bound => (kept (early (.inr bound))).2.2.trans (holds.socket bound)

-----------------------------------------------------------------------------------------
-- Runs
-----------------------------------------------------------------------------------------

/-- What is published is published under the lock. -/
theorem holds_of_published (daemon : Daemon)
    : (daemon.published = true ∨ daemon.bound = true → daemon.phase.holds = true)
      ∧ (daemon.phase.threaded = true → daemon.phase.holds = true) := by
  constructor
  · unfold Daemon.published Daemon.bound DaemonPhase.threaded
    cases daemon.phase <;> simp [DaemonPhase.loops, DaemonPhase.holds]
  · unfold DaemonPhase.threaded
    cases daemon.phase <;> simp [DaemonPhase.loops, DaemonPhase.holds]

/-- The invariant of a run. -/
structure DaemonWorld.Sound (world : DaemonWorld) : Prop where
  daemons : ∀ owner, (world.daemons owner).Sound
  owns : ∀ owner, Owns owner world.files (world.daemons owner)

theorem sound_fresh (metadata : Option LockMetadata) (endpoint socket : Option Nat)
    : (DaemonWorld.fresh metadata endpoint socket).Sound where
  daemons _ := {
    early := fun _ => ⟨rfl, rfl, rfl⟩
    unserved := fun _ => ⟨rfl, fun _ => rfl⟩
    threaded := fun wrong => by cases wrong
    requests := fun _ there => by cases there
    observed := ⟨rfl, Nat.le_refl _⟩
    idle := fun _ there => by cases there
    stopped := fun wrong => by cases wrong }
  owns _ := by constructor <;> intro wrong <;> cases wrong

theorem sound_step (world : DaemonWorld) (label : DaemonLabel) (next : DaemonWorld)
    (sound : world.Sound) (taken : world.step label = some next) : next.Sound := by
  cases label with
  | legacy stale =>
      cases taken
      exact ⟨sound.daemons, fun owner =>
        ⟨(sound.owns owner).guard, (sound.owns owner).endpoint, (sound.owns owner).socket⟩⟩
  | act owner action =>
      obtain ⟨⟨files, daemon⟩, acts, rfl⟩ := Option.map_eq_some_iff.mp taken
      constructor
      · intro other
        by_cases own : other = owner
        · subst own
          dsimp only
          rw [Function.update_self]
          exact act_sound acts (sound.daemons other)
        · dsimp only
          rw [Function.update_of_ne own]
          exact sound.daemons other
      · intro other
        by_cases own : other = owner
        · subst own
          dsimp only
          rw [Function.update_self]
          exact act_owns acts (sound.daemons other) (sound.owns other)
        · dsimp only
          rw [Function.update_of_ne own]
          exact act_frame own acts (sound.owns owner) (sound.owns other) (holds_of_published _).1

/-- One daemon at a time has the lock. Its endpoint and its socket stay in place until it removes them,
and no daemon without the lock has a thread that accepts or serves requests.
-/
structure DaemonWorld.Owned (world : DaemonWorld) : Prop where
  single : ∀ owner other, (world.daemons owner).phase.holds = true
    → (world.daemons other).phase.holds = true → owner = other
  endpoint : ∀ owner, (world.daemons owner).published = true → world.files.endpoint = some owner
  socket : ∀ owner, (world.daemons owner).bound = true → world.files.socket = some owner
  threads : ∀ owner, (world.daemons owner).listener.alive = true
    → (world.daemons owner).phase.holds = true

theorem DaemonWorld.Sound.owned {world : DaemonWorld} (sound : world.Sound) : world.Owned where
  single owner other mine theirs := by
    have first := (sound.owns owner).guard mine
    have second := (sound.owns other).guard theirs
    exact Option.some.inj (first.symm.trans second)
  endpoint owner := (sound.owns owner).endpoint
  socket owner := (sound.owns owner).socket
  threads owner alive := (holds_of_published _).2 ((sound.daemons owner).threaded alive)

/-- In every state of every run of daemons that take their steps in any order and die at any point. -/
theorem daemons_owned (metadata : Option LockMetadata) (endpoint socket : Option Nat)
    (labels : List DaemonLabel)
    : AllStates DaemonWorld.step DaemonWorld.Owned (.fresh metadata endpoint socket) labels :=
  (allStates_of_invariant DaemonWorld.Sound sound_step labels
    (sound_fresh metadata endpoint socket)).imp fun _ sound => sound.owned

/-- A daemon that leaves its loop because it is idle has no request, accepts none any more, and no
request has begun or ended since it became idle, unless there were so many that the generation went all
the way round.
-/
structure Daemon.StopsIdle (daemon : Daemon) : Prop where
  left : daemon.phase.left = true
  serves : daemon.listener ≠ .serving
  refuses : ∀ activity, daemon.activity = some activity
    → activity.activeRequests = 0 ∧ activity.beginRequest = none
  untouched : ∃ since, daemon.idleSince = some since
    ∧ (daemon.changes = since ∨ 2 ^ 64 ≤ daemon.changes)

theorem Daemon.Sound.stopsIdle (sound : daemon.Sound) (stopped : daemon.stoppedIdle = true)
    : daemon.StopsIdle := by
  obtain ⟨left, refuses, untouched⟩ := sound.stopped stopped
  refine ⟨left, ?_, ?_, untouched⟩
  · intro serving
    cases there : daemon.activity with
    | none =>
        rw [(sound.unserved there).1] at serving
        cases serving
    | some activity =>
        have one := (sound.requests activity there).1
        rw [if_pos serving, (refuses activity there).2] at one
        cases one
  · intro activity there
    refine ⟨(refuses activity there).2, ?_⟩
    rw [DaemonQueryActivityState.beginRequest, (refuses activity there).1]
    rfl

/-- Whatever its own service, and other daemons, do between the steps of its loop. -/
theorem idle_stop_ends_no_request (metadata : Option LockMetadata) (endpoint socket : Option Nat)
    (labels : List DaemonLabel)
    : AllStates DaemonWorld.step
      (fun world => ∀ owner, (world.daemons owner).stoppedIdle = true
        → (world.daemons owner).StopsIdle)
      (.fresh metadata endpoint socket) labels :=
  (allStates_of_invariant DaemonWorld.Sound sound_step labels
    (sound_fresh metadata endpoint socket)).imp
      fun _ sound owner stopped => (sound.daemons owner).stopsIdle stopped

end CtxRemote.Semantic
