import CtxRemote.Semantic.ModelPublication

/-! What holds in every state of every run of processes over one cache, whatever was in it: a bundle
that a process was given is in place, verified and with its marker. Interrupted acquisitions never spoil
a cache that one can repair: while no process has the lock, an acquisition gets its bundle.
-/

namespace CtxRemote.Semantic
open CtxRemote.Library

variable {Bundle : Type} (checks : BundleChecks Bundle)

-----------------------------------------------------------------------------------------
-- What a process knows of the cache
-----------------------------------------------------------------------------------------

/-- The bundle is in place, verified, with its marker. -/
structure Complete (content : CacheContent Bundle) (bundle : Bundle) : Prop where
  entry : content.entry = .directory bundle
  verified : checks.verify bundle = true
  marker : content.marker = .file (some true)

/-- Neither a bundle nor a marker is there. -/
def Vacant (content : CacheContent Bundle) : Prop :=
  content.entry = .absent ∧ content.marker = .absent

/-- Something is there for each of the two. -/
def Settled (content : CacheContent Bundle) : Prop :=
  content.entry ≠ .absent ∧ content.marker ≠ .absent

/-- A verified bundle is in place without a marker. -/
structure Unmarked (content : CacheContent Bundle) : Prop where
  entry : ∃ bundle, content.entry = .directory bundle ∧ checks.verify bundle = true
  marker : content.marker = .absent

/-- A marker is there only with something in the place of its bundle. -/
def Backed (content : CacheContent Bundle) : Prop :=
  content.marker ≠ .absent → content.entry ≠ .absent

/-- What an acquisition can start from. -/
inductive Repairable (content : CacheContent Bundle) : Prop where
  | vacant (vacant : Vacant content)
  | unmarked {bundle : Bundle} (entry : content.entry = .directory bundle)
      (marker : content.marker = .absent)
  | unbacked {matching : Option Bool} (entry : content.entry = .absent)
      (marker : content.marker = .file matching)
  | complete {bundle : Bundle} (complete : Complete checks content bundle)

/-- What a lookup without the lock knows. -/
def Lookup.Knows (content : CacheContent Bundle) : Lookup Bundle → Prop
  | .marker true => Backed content
  | .matching => Settled content
  | .verifying => Settled content ∧ content.marker = .file (some true)
  | .finished (.found bundle) => Complete checks content bundle
  | _ => True

/-- What a lookup with the lock knows. -/
def Lookup.Exact (content : CacheContent Bundle) : Lookup Bundle → Prop
  | .marker pathExists => pathExists = !content.entry.isAbsent
  | .finished .missing => Vacant content
  | lookup => lookup.Knows checks content

/-- What an outcome tells. -/
def AcquireOutcome.Knows (content : CacheContent Bundle) : AcquireOutcome Bundle → Prop
  | .acquired bundle => Complete checks content bundle
  | _ => True

/-- What a process knows, by what it does next. -/
def CachePhase.Knows (content : CacheContent Bundle) : CachePhase Bundle → Prop
  | .idle | .inspectingPath | .dead => True
  | .reading lookup => lookup.Knows checks content
  | .inspectingMarker path => path = content.entry
  | .removingDirectory => (∃ bundle, content.entry = .directory bundle) ∧ content.marker = .absent
  | .removingMarker => content.entry = .absent ∧ ∃ matching, content.marker = .file matching
  | .checking lookup | .rechecking lookup => lookup.Exact checks content
  | .downloading => Vacant content
  | .moving bundle => Vacant content ∧ checks.verify bundle = true
  | .verifyingFinal => False
  | .verifyingMarked | .matchingMarker | .publishingMarker => Unmarked checks content
  | .unlocking outcome | .done outcome => outcome.Knows checks content

/-- Whether a process has the lock. -/
def CachePhase.holds : CachePhase Bundle → Bool
  | .idle | .reading _ | .done _ | .dead => false
  | _ => true

-----------------------------------------------------------------------------------------
-- Lookups
-----------------------------------------------------------------------------------------

section Lookups

variable {checks} {content content' : CacheContent Bundle} {bundle : Bundle} {lookup : Lookup Bundle}

theorem CacheEntry.isAbsent_eq_true {entry : CacheEntry Bundle}
    : entry.isAbsent = true ↔ entry = .absent := by
  cases entry <;> simp [CacheEntry.isAbsent]

theorem Complete.settled (complete : Complete checks content bundle) : Settled content := by
  refine ⟨fun absent => ?_, fun absent => ?_⟩
  · rw [complete.entry] at absent
    cases absent
  · rw [complete.marker] at absent
    cases absent

theorem Vacant.not_settled (vacant : Vacant content) : ¬Settled content :=
  fun settled => settled.1 vacant.1

theorem Settled.backed (settled : Settled content) : Backed content :=
  fun _ => settled.1

/-- A lookup without the lock. -/
theorem next_knows (knows : lookup.Knows checks content)
    : (lookup.next checks content).Knows checks content := by
  cases lookup with
  | path =>
      cases absent : content.entry.isAbsent with
      | true => simp only [Lookup.next, absent, Bool.not_true, Lookup.Knows]
      | false =>
          simp only [Lookup.next, absent, Bool.not_false, Lookup.Knows]
          intro _ missing
          rw [CacheEntry.isAbsent_eq_true.mpr missing] at absent
          cases absent
  | marker pathExists =>
      simp only [Lookup.next]
      split
      next => trivial
      next =>
          split
          next => trivial
          next both =>
              rw [Bool.or_eq_true, not_or] at both
              obtain ⟨there, marked⟩ := both
              have present : content.marker ≠ .absent := by simpa using marked
              obtain rfl : pathExists = true := by simpa using there
              exact ⟨knows present, present⟩
  | matching =>
      simp only [Lookup.next]
      split
      next matching => exact ⟨knows, matching⟩
      next => trivial
  | verifying =>
      simp only [Lookup.next]
      split
      next there =>
          split
          next verified => exact ⟨there, verified, knows.2⟩
          next => trivial
      next => trivial
  | finished result => exact knows

theorem Lookup.Exact.knows (exact' : lookup.Exact checks content) : lookup.Knows checks content := by
  cases lookup with
  | marker pathExists =>
      cases pathExists with
      | false => trivial
      | true =>
          intro _ missing
          rw [Lookup.Exact, CacheEntry.isAbsent_eq_true.mpr missing] at exact'
          cases exact'
  | finished result =>
      cases result with
      | missing => trivial
      | _ => exact exact'
  | _ => exact exact'

/-- A lookup with the lock. -/
theorem next_exact (exact' : lookup.Exact checks content)
    : (lookup.next checks content).Exact checks content := by
  cases lookup with
  | path => rfl
  | marker pathExists =>
      have knows := next_knows exact'.knows
      obtain rfl : pathExists = !content.entry.isAbsent := exact'
      simp only [Lookup.next] at knows ⊢
      split
      next neither =>
          rw [Bool.and_eq_true] at neither
          exact ⟨CacheEntry.isAbsent_eq_true.mp (by simpa using neither.1), by simpa using neither.2⟩
      next some =>
          rw [if_neg some] at knows
          split
          next => trivial
          next both =>
              rw [if_neg both] at knows
              exact knows
  | matching =>
      simp only [Lookup.next]
      split
      next matching => exact ⟨exact', matching⟩
      next => trivial
  | verifying =>
      simp only [Lookup.next]
      split
      next there =>
          split
          next verified => exact ⟨there, verified, exact'.2⟩
          next => trivial
      next => trivial
  | finished result => exact exact'

end Lookups

-----------------------------------------------------------------------------------------
-- Steps
-----------------------------------------------------------------------------------------

section Steps

variable {checks} {content content' : CacheContent Bundle} {phase phase' : CachePhase Bundle}
  {lock lock' : Option Nat} {owner : Nat} {action : CacheAction Bundle}

/-- What a step of a process does to the cache, and what the process knows then. -/
structure Kept (checks : BundleChecks Bundle) (content content' : CacheContent Bundle)
    (phase' : CachePhase Bundle) : Prop where
  knows : phase'.Knows checks content'
  settled : Settled content → content' = content
  backed : Backed content → Backed content'
  repairable : Repairable checks content' ↔ Repairable checks content

/-- A step that only reads. -/
theorem Kept.read (knows : phase'.Knows checks content) : Kept checks content content phase' :=
  ⟨knows, fun _ => rfl, id, Iff.rfl⟩

/-- A step that goes on with a repair or a publication. -/
theorem Kept.change (knows : phase'.Knows checks content') (unsettled : ¬Settled content)
    (backed : Backed content') (before : Repairable checks content)
    (after : Repairable checks content') : Kept checks content content' phase' :=
  ⟨knows, fun settled => absurd settled unsettled, fun _ => backed, fun _ => before, fun _ => after⟩

theorem Complete.kept {bundle : Bundle} (complete : Complete checks content bundle)
    (kept : Kept checks content content' phase') : Complete checks content' bundle := by
  rw [kept.settled complete.settled]
  exact complete

theorem repairPhase_knows : (repairPhase content.entry content.marker).Knows checks content := by
  cases entry : content.entry with
  | absent =>
      cases marker : content.marker with
      | file matching => exact ⟨entry, matching, marker⟩
      | _ => trivial
  | directory bundle =>
      cases marker : content.marker with
      | absent => exact ⟨⟨bundle, entry⟩, marker⟩
      | _ => trivial
  | other => cases content.marker <;> trivial

theorem checking_kept {lookup : Lookup Bundle} (exact' : lookup.Exact checks content)
    (proceeds : proceed checks content (.checking lookup) = some (content', phase'))
    : Kept checks content content' phase' := by
  have next := next_exact exact'
  cases lookup with
  | finished result => cases result <;> cases proceeds <;> exact .read exact'
  | _ =>
      cases proceeds
      exact .read next

theorem rechecking_kept {lookup : Lookup Bundle} (exact' : lookup.Exact checks content)
    (proceeds : proceed checks content (.rechecking lookup) = some (content', phase'))
    : Kept checks content content' phase' := by
  have next := next_exact exact'
  cases lookup with
  | finished result =>
      cases result with
      | found bundle =>
          cases proceeds
          exact .read exact'
      | _ =>
          cases proceeds
          exact .read trivial
  | _ =>
      cases proceeds
      exact .read next

/-- A step that goes as it should, by cases on the phase. -/
theorem proceed_kept (knows : phase.Knows checks content)
    (proceeds : proceed checks content phase = some (content', phase'))
    : Kept checks content content' phase' := by
  cases phase with
  | reading lookup =>
      have next := next_knows knows
      cases lookup with
      | finished result => cases proceeds
      | _ =>
          cases proceeds
          exact .read next
  | inspectingPath =>
      cases proceeds
      exact .read rfl
  | inspectingMarker path =>
      obtain rfl : path = content.entry := knows
      cases proceeds
      exact .read repairPhase_knows
  | removingDirectory =>
      obtain ⟨⟨bundle, entry⟩, marker⟩ := knows
      cases proceeds
      exact .change trivial (fun settled => settled.2 marker) (fun marked => absurd marker marked)
        (.unmarked entry marker) (.vacant ⟨rfl, marker⟩)
  | removingMarker =>
      obtain ⟨entry, matching, marker⟩ := knows
      cases proceeds
      exact .change trivial (fun settled => settled.1 entry) (fun marked => absurd rfl marked)
        (.unbacked entry marker) (.vacant ⟨entry, rfl⟩)
  | checking lookup => exact checking_kept knows proceeds
  | moving bundle =>
      obtain ⟨vacant, verified⟩ := knows
      simp only [proceed, vacant.1] at proceeds
      cases proceeds
      exact .change ⟨⟨bundle, rfl, verified⟩, vacant.2⟩ vacant.not_settled
        (fun marked => absurd vacant.2 marked) (.vacant vacant) (.unmarked rfl vacant.2)
  | verifyingMarked =>
      obtain ⟨⟨bundle, there, verified⟩, unmarked⟩ := knows
      have hash := (Bool.and_eq_true_iff.mp verified).1
      simp only [proceed, there, if_pos (of_decide_eq_true hash)] at proceeds
      cases proceeds
      exact .read ⟨⟨bundle, there, verified⟩, unmarked⟩
  | matchingMarker =>
      simp only [proceed, knows.marker] at proceeds
      cases proceeds
      exact .read knows
  | publishingMarker =>
      obtain ⟨⟨bundle, there, verified⟩, unmarked⟩ := knows
      cases proceeds
      have complete
          : Complete checks { content with marker := .file (some true) } bundle :=
        ⟨there, verified, rfl⟩
      exact .change trivial (fun settled => settled.2 unmarked) complete.settled.backed
        (.unmarked there unmarked) (.complete complete)
  | rechecking lookup => exact rechecking_kept knows proceeds
  | verifyingFinal => exact knows.elim
  | _ => cases proceeds

/-- A step in which an operation fails changes nothing. -/
theorem failed_knows (knows : phase.Knows checks content) (fails : failed content phase = some phase')
    : phase'.Knows checks content := by
  cases phase with
  | moving bundle =>
      simp only [failed, CacheEntry.isAbsent_eq_true.mpr knows.1.1, if_true] at fails
      cases fails
      trivial
  | _ => cases fails <;> trivial

/-- The steps of a process, by cases on the step. -/
theorem act_kept (knows : phase.Knows checks content)
    (taken : phase.act checks owner lock content action = some (lock', content', phase'))
    : Kept checks content content' phase' := by
  cases action with
  | read =>
      simp only [CachePhase.act] at taken
      split at taken
      next =>
          cases taken
          exact .read trivial
      next => cases taken
  | lock =>
      simp only [CachePhase.act] at taken
      split at taken
      next =>
          cases taken
          exact .read trivial
      next => cases taken
  | unlock =>
      simp only [CachePhase.act] at taken
      split at taken
      next =>
          cases taken
          exact .read knows
      next => cases taken
  | proceed =>
      obtain ⟨⟨after, next⟩, proceeds, same⟩ := Option.map_eq_some_iff.mp taken
      cases same
      exact proceed_kept knows proceeds
  | fail =>
      obtain ⟨next, fails, same⟩ := Option.map_eq_some_iff.mp taken
      cases same
      exact .read (failed_knows knows fails)
  | erode rest =>
      simp only [CachePhase.act] at taken
      split at taken
      next =>
          obtain ⟨⟨bundle, entry⟩, marker⟩ := knows
          cases taken
          exact .change ⟨⟨rest, rfl⟩, marker⟩ (fun settled => settled.2 marker)
            (fun marked => absurd marker marked) (.unmarked entry marker) (.unmarked rfl marker)
      next => cases taken
  | stage bundle =>
      simp only [CachePhase.act] at taken
      split at taken
      next =>
          cases taken
          apply Kept.read
          split
          next verified => exact ⟨knows, verified⟩
          next => trivial
      next => cases taken
  | die =>
      simp only [CachePhase.act] at taken
      split at taken
      next => cases taken
      next => cases taken
      next => cases taken
      next =>
          cases taken
          exact .read trivial

/-- What a process without the lock knows stays true when another one takes a step. -/
theorem knows_of_kept {other : CachePhase Bundle} (waits : phase.holds = false)
    (knows : phase.Knows checks content) (kept : Kept checks content content' other)
    : phase.Knows checks content' := by
  cases phase with
  | reading lookup =>
      cases lookup with
      | path => trivial
      | marker pathExists =>
          cases pathExists with
          | false => trivial
          | true => exact kept.backed knows
      | matching =>
          have same := kept.settled knows
          exact same ▸ knows
      | verifying =>
          have same := kept.settled knows.1
          exact same ▸ knows
      | finished result =>
          cases result with
          | found bundle => exact Complete.kept knows kept
          | _ => trivial
  | done outcome =>
      cases outcome with
      | acquired bundle => exact Complete.kept knows kept
      | _ => trivial
  | idle => trivial
  | dead => trivial
  | _ => cases waits

/-- What a step does to the lock, and to the cache where the process has no lock. -/
structure Locks (owner : Nat) (lock lock' : Option Nat) (content content' : CacheContent Bundle)
    (phase phase' : CachePhase Bundle) : Prop where
  own : phase'.holds = true ↔ lock' = some owner
  others : ∀ other, other ≠ owner → (lock' = some other ↔ lock = some other)
  waits : phase.holds = false → content' = content

theorem proceed_holds (proceeds : proceed checks content phase = some (content', phase'))
    : phase'.holds = phase.holds := by
  cases phase with
  | reading lookup => cases lookup <;> cases proceeds <;> rfl
  | inspectingMarker path =>
      cases proceeds
      unfold repairPhase
      split <;> rfl
  | checking lookup =>
      cases lookup with
      | finished result => cases result <;> cases proceeds <;> rfl
      | _ => cases proceeds; rfl
  | moving bundle =>
      simp only [proceed] at proceeds
      split at proceeds
      next => cases proceeds; rfl
      next => split at proceeds <;> cases proceeds <;> rfl
      next => cases proceeds; rfl
  | verifyingFinal =>
      simp only [proceed] at proceeds
      split at proceeds
      next => cases proceeds; split <;> rfl
      next => cases proceeds; rfl
  | verifyingMarked =>
      simp only [proceed] at proceeds
      split at proceeds
      next => cases proceeds; split <;> rfl
      next => cases proceeds; rfl
  | matchingMarker =>
      simp only [proceed] at proceeds
      split at proceeds <;> cases proceeds <;> rfl
  | rechecking lookup =>
      cases lookup with
      | finished result => cases result <;> cases proceeds <;> rfl
      | _ => cases proceeds; rfl
  | _ => cases proceeds <;> rfl

theorem proceed_waits (waits : phase.holds = false)
    (proceeds : proceed checks content phase = some (content', phase')) : content' = content := by
  cases phase with
  | reading lookup => cases lookup <;> cases proceeds <;> rfl
  | idle => cases proceeds
  | done outcome => cases proceeds
  | dead => cases proceeds
  | _ => cases waits

theorem failed_holds (fails : failed content phase = some phase') : phase'.holds = phase.holds := by
  cases phase with
  | moving bundle =>
      cases fails
      split <;> rfl
  | _ => cases fails <;> rfl

theorem act_locks (owned : phase.holds = true ↔ lock = some owner)
    (taken : phase.act checks owner lock content action = some (lock', content', phase'))
    : Locks owner lock lock' content content' phase phase' := by
  -- a process that ends or begins does so without another one's lock
  have apart {other : Nat} (foreign : other ≠ owner) : some owner ≠ some other :=
    fun same => foreign (Option.some.inj same).symm
  cases action with
  | read =>
      simp only [CachePhase.act] at taken
      split at taken
      next =>
          cases taken
          exact ⟨owned, fun _ _ => Iff.rfl, fun _ => rfl⟩
      next => cases taken
  | lock =>
      simp only [CachePhase.act] at taken
      split at taken
      next =>
          cases taken
          refine ⟨⟨fun _ => rfl, fun _ => rfl⟩, fun other foreign => ?_, fun _ => rfl⟩
          simp [apart foreign]
      next => cases taken
  | unlock =>
      simp only [CachePhase.act] at taken
      split at taken
      next =>
          cases taken
          have mine := owned.mp rfl
          refine ⟨⟨(fun wrong => nomatch wrong), (fun wrong => nomatch wrong)⟩,
            fun other foreign => ?_, fun _ => rfl⟩
          simp [mine, apart foreign]
      next => cases taken
  | proceed =>
      obtain ⟨⟨after, next⟩, proceeds, same⟩ := Option.map_eq_some_iff.mp taken
      cases same
      exact ⟨by rw [proceed_holds proceeds]; exact owned, fun _ _ => Iff.rfl,
        fun waits => proceed_waits waits proceeds⟩
  | fail =>
      obtain ⟨next, fails, same⟩ := Option.map_eq_some_iff.mp taken
      cases same
      exact ⟨by rw [failed_holds fails]; exact owned, fun _ _ => Iff.rfl, fun _ => rfl⟩
  | erode rest =>
      simp only [CachePhase.act] at taken
      split at taken
      next =>
          cases taken
          exact ⟨owned, fun _ _ => Iff.rfl, fun wrong => by cases wrong⟩
      next => cases taken
  | stage bundle =>
      simp only [CachePhase.act] at taken
      split at taken
      next =>
          cases taken
          refine ⟨?_, fun _ _ => Iff.rfl, fun _ => rfl⟩
          split <;> exact owned
      next => cases taken
  | die =>
      have left : lock' = (if lock = some owner then none else lock) ∧ content' = content
          ∧ phase' = .dead := by
        simp only [CachePhase.act] at taken
        split at taken
        next => cases taken
        next => cases taken
        next => cases taken
        next =>
            cases taken
            exact ⟨rfl, rfl, rfl⟩
      obtain ⟨rfl, rfl, rfl⟩ := left
      refine ⟨⟨(fun wrong => nomatch wrong), fun mine => ?_⟩, fun other foreign => ?_, fun _ => rfl⟩
      · split at mine
        next => cases mine
        next other => exact absurd mine other
      · split
        next mine => simp [mine, apart foreign]
        next => exact Iff.rfl

end Steps

-----------------------------------------------------------------------------------------
-- Runs
-----------------------------------------------------------------------------------------

/-- The invariant of a run. -/
structure CacheWorld.Sound (world : CacheWorld Bundle) : Prop where
  knows : ∀ owner, (world.processes owner).Knows checks world.content
  owned : ∀ owner, (world.processes owner).holds = true ↔ world.lock = some owner

section Runs

variable {checks} {world next : CacheWorld Bundle} {label : Nat × CacheAction Bundle}

theorem CacheWorld.sound_step (sound : world.Sound checks)
    (taken : world.step checks label = some next)
    : next.Sound checks ∧ (Repairable checks next.content ↔ Repairable checks world.content) := by
  obtain ⟨owner, action⟩ := label
  obtain ⟨⟨lock, content, phase⟩, acts, rfl⟩ := Option.map_eq_some_iff.mp taken
  have kept := act_kept (sound.knows owner) acts
  have locks := act_locks (sound.owned owner) acts
  refine ⟨⟨fun other => ?_, fun other => ?_⟩, kept.repairable⟩
  · by_cases own : other = owner
    · subst own
      dsimp only
      rw [Function.update_self]
      exact kept.knows
    · dsimp only
      rw [Function.update_of_ne own]
      cases holds : (world.processes other).holds with
      | false => exact knows_of_kept holds (sound.knows other) kept
      | true =>
          have waits : (world.processes owner).holds = false := by
            rw [Bool.eq_false_iff]
            intro mine
            have theirs := (sound.owned other).mp holds
            exact own (Option.some.inj (theirs.symm.trans ((sound.owned owner).mp mine)))
          rw [locks.waits waits]
          exact sound.knows other
  · by_cases own : other = owner
    · subst own
      dsimp only
      rw [Function.update_self]
      exact locks.own
    · dsimp only
      rw [Function.update_of_ne own]
      exact (sound.owned other).trans (locks.others other own).symm

theorem CacheWorld.sound_fresh (content : CacheContent Bundle)
    : (CacheWorld.fresh content).Sound checks where
  knows _ := trivial
  owned _ := ⟨(fun wrong => nomatch wrong), (fun wrong => nomatch wrong)⟩

end Runs

/-- The bundle that a process was given. -/
def CachePhase.given : CachePhase Bundle → Option Bundle
  | .reading (.finished (.found bundle)) => some bundle
  | .unlocking (.acquired bundle) | .done (.acquired bundle) => some bundle
  | _ => none

/-- One process at a time has the lock, and each bundle that a process was given is in place, verified
and with its marker.
-/
structure CacheWorld.Safe (world : CacheWorld Bundle) : Prop where
  single : ∀ owner other, (world.processes owner).holds = true
    → (world.processes other).holds = true → owner = other
  given : ∀ owner bundle, (world.processes owner).given = some bundle
    → Complete checks world.content bundle

theorem CacheWorld.Sound.safe {world : CacheWorld Bundle} (sound : world.Sound checks)
    : world.Safe checks where
  single owner other mine theirs :=
    Option.some.inj (((sound.owned owner).mp mine).symm.trans ((sound.owned other).mp theirs))
  given owner bundle given := by
    have knows := sound.knows owner
    cases phase : world.processes owner with
    | reading lookup =>
        rw [phase] at given knows
        cases lookup with
        | finished result =>
            cases result with
            | found other => cases given; exact knows
            | _ => cases given
        | _ => cases given
    | unlocking outcome =>
        rw [phase] at given knows
        cases outcome with
        | acquired other => cases given; exact knows
        | _ => cases given
    | done outcome =>
        rw [phase] at given knows
        cases outcome with
        | acquired other => cases given; exact knows
        | _ => cases given
    | _ =>
        rw [phase] at given
        cases given


/-- Whatever was in the cache, and in whatever order processes take steps, fail and die: one of them at
a time has the lock, and a bundle that one of them was given is complete, then and in every later state.
-/
theorem publication_safe (content : CacheContent Bundle) (labels : List (Nat × CacheAction Bundle))
    : AllStates (CacheWorld.step checks) (CacheWorld.Safe checks) (.fresh content) labels := by
  have sound : AllStates (CacheWorld.step checks) (CacheWorld.Sound checks) (.fresh content) labels :=
    allStates_of_invariant (CacheWorld.Sound checks)
      (fun _ _ _ sound taken => (CacheWorld.sound_step sound taken).1) labels
      (CacheWorld.sound_fresh content)
  exact sound.imp fun _ => CacheWorld.Sound.safe checks

-----------------------------------------------------------------------------------------
-- Recovery
-----------------------------------------------------------------------------------------

/-- One step of a process, with the lock, the cache and its phase. -/
def ownStep (owner : Nat) (state : Option Nat × CacheContent Bundle × CachePhase Bundle)
    (action : CacheAction Bundle) : Option (Option Nat × CacheContent Bundle × CachePhase Bundle) :=
  state.2.2.act checks owner state.1 state.2.1 action

section Recovery

variable {checks} {content : CacheContent Bundle} {bundle : Bundle} {owner : Nat}

/-- A run in which one process takes all steps. Witness: by induction on its steps. -/
theorem run_own {world : CacheWorld Bundle} {actions : List (CacheAction Bundle)}
    {final : Option Nat × CacheContent Bundle × CachePhase Bundle}
    (ran : run (ownStep checks owner) (world.lock, world.content, world.processes owner) actions
      = some final)
    : ∃ last, run (CacheWorld.step checks) world (actions.map fun action => (owner, action)) = some last
        ∧ last.processes owner = final.2.2 := by
  induction actions generalizing world with
  | nil =>
      obtain rfl := Option.some.inj ran
      exact ⟨world, rfl, rfl⟩
  | cons action rest ih =>
      obtain ⟨⟨lock, content, phase⟩, acts, later⟩ := Option.bind_eq_some_iff.mp ran
      let next : CacheWorld Bundle := ⟨lock, content, Function.update world.processes owner phase⟩
      have taken : world.step checks (owner, action) = some next := by
        simp only [CacheWorld.step]
        rw [show (world.processes owner).act checks owner world.lock world.content action
          = some (lock, content, phase) from acts]
        rfl
      have own : next.processes owner = phase := Function.update_self ..
      have onward
          : run (ownStep checks owner) (next.lock, next.content, next.processes owner) rest
            = some final := by
        rw [own]
        exact later
      obtain ⟨last, ends, reached⟩ := ih onward
      exact ⟨last, by simp [run, taken, ends], reached⟩

variable (owner)

/-- The steps of a lookup with the lock that finds the bundle, and of what follows. -/
def foundSteps : List (CacheAction Bundle) :=
  [.proceed, .proceed, .proceed, .proceed, .proceed, .unlock]

/-- The steps of a lookup that finds nothing, of a download, and of its publication. -/
def publishSteps (bundle : Bundle) : List (CacheAction Bundle) :=
  [.proceed, .proceed, .proceed, .stage bundle, .proceed, .proceed, .proceed, .proceed]

theorem checking_found (complete : Complete checks content bundle)
    : run (ownStep checks owner) (some owner, content, .checking .path) foundSteps
        = some (none, content, .done (.acquired bundle)) := by
  simp [foundSteps, run, ownStep, CachePhase.act, proceed, Lookup.next, CacheEntry.isAbsent,
    complete.entry, complete.marker, complete.verified]

theorem rechecking_found (complete : Complete checks content bundle)
    : run (ownStep checks owner) (some owner, content, .rechecking .path) foundSteps
        = some (none, content, .done (.acquired bundle)) := by
  simp [foundSteps, run, ownStep, CachePhase.act, proceed, Lookup.next, CacheEntry.isAbsent,
    complete.entry, complete.marker, complete.verified]

theorem checking_publishes (vacant : Vacant content) (verified : checks.verify bundle = true)
    : run (ownStep checks owner) (some owner, content, .checking .path) (publishSteps bundle)
        = some (some owner, ⟨.directory bundle, .file (some true)⟩, .rechecking .path) := by
  have hash : checks.manifestSha bundle = some checks.descriptorSha :=
    of_decide_eq_true (Bool.and_eq_true_iff.mp verified).1
  simp [publishSteps, run, ownStep, CachePhase.act, proceed, Lookup.next, CacheEntry.isAbsent,
    vacant.1, vacant.2, verified, hash]

/-- An acquisition from its lock to its lookup. -/
theorem repaired (repairable : Repairable checks content)
    : ∃ steps content', run (ownStep checks owner) (none, content, .idle) steps
          = some (some owner, content', .checking .path)
        ∧ (Vacant content' ∨ ∃ bundle, Complete checks content' bundle) := by
  cases repairable with
  | vacant vacant =>
      refine ⟨[.lock, .proceed, .proceed], content, ?_, .inl vacant⟩
      simp [run, ownStep, CachePhase.act, proceed, repairPhase, vacant.1, vacant.2]
  | unmarked entry marker =>
      refine ⟨[.lock, .proceed, .proceed, .proceed], ⟨.absent, content.marker⟩, ?_, .inl ⟨rfl, marker⟩⟩
      simp [run, ownStep, CachePhase.act, proceed, repairPhase, entry, marker]
  | unbacked entry marker =>
      refine ⟨[.lock, .proceed, .proceed, .proceed], ⟨content.entry, .absent⟩, ?_, .inl ⟨entry, rfl⟩⟩
      simp [run, ownStep, CachePhase.act, proceed, repairPhase, entry, marker]
  | complete complete =>
      refine ⟨[.lock, .proceed, .proceed], content, ?_, .inr ⟨_, complete⟩⟩
      simp [run, ownStep, CachePhase.act, proceed, repairPhase, complete.entry, complete.marker]

/-- A process that no one disturbs, from its lock to its bundle. -/
theorem acquires (repairable : Repairable checks content) (verified : checks.verify bundle = true)
    : ∃ steps content' given, run (ownStep checks owner) (none, content, .idle) steps
        = some (none, content', .done (.acquired given)) := by
  obtain ⟨steps, content', ran, settled⟩ := repaired owner repairable
  rcases settled with vacant | ⟨found, complete⟩
  · have published := checking_publishes owner vacant verified
    have complete : Complete checks ⟨.directory bundle, .file (some true)⟩ bundle :=
      ⟨rfl, verified, rfl⟩
    refine ⟨steps ++ (publishSteps bundle ++ foundSteps),
      ⟨.directory bundle, .file (some true)⟩, bundle, ?_⟩
    rw [run_append, ran, Option.bind_some, run_append, published, Option.bind_some]
    exact rechecking_found owner complete
  · refine ⟨steps ++ foundSteps, content', found, ?_⟩
    rw [run_append, ran, Option.bind_some]
    exact checking_found owner complete

end Recovery

/-- A process can get the bundle by steps of its own alone. -/
def CacheWorld.CanAcquire (world : CacheWorld Bundle) (owner : Nat) : Prop :=
  ∃ (actions : List (CacheAction Bundle)) (last : CacheWorld Bundle) (given : Bundle),
    run (CacheWorld.step checks) world (actions.map fun action => (owner, action)) = some last
    ∧ last.processes owner = .done (.acquired given)

/-- In whatever order processes have taken steps, failed and died: while none has the lock, one that
begins to acquire the bundle can get it, if what it downloads is verified, exactly if the cache could be
repaired before any of them began.
-/
theorem publication_recovers {content : CacheContent Bundle} {labels : List (Nat × CacheAction Bundle)}
    {world : CacheWorld Bundle} {owner : Nat} {bundle : Bundle}
    (ran : run (CacheWorld.step checks) (.fresh content) labels = some world)
    (unlocked : world.lock = none) (begins : world.processes owner = .idle)
    (verified : checks.verify bundle = true)
    : world.CanAcquire checks owner ↔ Repairable checks content := by
  -- the invariant, and that a run leaves a cache as repairable as it was
  let Good (world : CacheWorld Bundle) : Prop :=
    world.Sound checks ∧ (Repairable checks world.content ↔ Repairable checks content)
  have kept : ∀ state label next, Good state → state.step checks label = some next → Good next := by
    intro state label next good taken
    obtain ⟨sound, same⟩ := CacheWorld.sound_step good.1 taken
    exact ⟨sound, same.trans good.2⟩
  have good : Good world := run_invariant Good kept ⟨CacheWorld.sound_fresh content, Iff.rfl⟩ ran
  constructor
  · rintro ⟨actions, last, given, goes, acquired⟩
    have ends : Good last := run_invariant Good kept good goes
    have complete := ends.1.knows owner
    rw [acquired] at complete
    exact ends.2.mp (.complete complete)
  · intro repairable
    obtain ⟨steps, content', given, goes⟩ :=
      acquires owner (good.2.mpr repairable) verified
    rw [← unlocked, ← begins] at goes
    obtain ⟨last, lasts, reached⟩ := run_own goes
    exact ⟨steps, last, given, lasts, reached⟩

/-- Acquisitions of the only bundle there is. -/
def trueBundle : BundleChecks Bool where
  manifestSha bundle := if bundle then some "manifest" else none
  matchesDescriptor _ := true
  isEmpty _ := false
  descriptorSha := "manifest"

/-- The first process dies between its publication and its marker. -/
def interruptedSteps : List (Nat × CacheAction Bool) :=
  [.lock, .proceed, .proceed, .proceed, .proceed, .proceed, .stage true, .proceed, .die].map
    fun action => (0, action)

theorem publication_recovers_interrupted
    : ∃ world,
        run (CacheWorld.step trueBundle) (.fresh ⟨.absent, .absent⟩) interruptedSteps = some world
        ∧ world.content = ⟨.directory true, .absent⟩
        ∧ world.CanAcquire trueBundle 1 := by
  have verified : trueBundle.verify true = true := by decide
  refine ⟨_, rfl, rfl, ?_⟩
  have ran
      : run (CacheWorld.step trueBundle) (.fresh ⟨.absent, .absent⟩) interruptedSteps = some _ :=
    rfl
  exact (publication_recovers trueBundle ran rfl rfl verified).mpr (.vacant ⟨rfl, rfl⟩)

end CtxRemote.Semantic
