import CtxRemote.Capture.Spool
import Mathlib.Data.List.Nodup

/-! One process alone on the inbox: it retries the failed files and imports the pending ones, to the end
of both calls.
-/

namespace CtxRemote.Capture
open CtxRemote.Library

universe u

namespace SpoolWorld

variable {Envelope : Type u} {world next : SpoolWorld Envelope} {process file : Nat}
  {accepts : Nat → Envelope → Bool}

-----------------------------------------------------------------------------------------
-- Steps of one process
-----------------------------------------------------------------------------------------

/-- The invariant, with no file listed by another process. -/
structure Alone (world : SpoolWorld Envelope) (process : Nat) : Prop where
  sound : world.Sound
  others : ∀ other, other ≠ process → (world.phases other).unchecked = []

/-- Steps of the process lead from one world to another one. -/
def Proceeds (process : Nat) (accepts : Nat → Envelope → Bool) (world final : SpoolWorld Envelope)
    : Prop :=
  ∃ count, run step world (List.replicate count (.go process accepts)) = some final

theorem Proceeds.refl (world : SpoolWorld Envelope) : Proceeds process accepts world world :=
  ⟨0, rfl⟩

theorem Proceeds.head {middle final : SpoolWorld Envelope}
    (taken : world.go process accepts (world.phases process) = some middle)
    (later : Proceeds process accepts middle final)
    : Proceeds process accepts world final := by
  obtain ⟨count, ran⟩ := later
  refine ⟨count + 1, ?_⟩
  rw [List.replicate_succ, run, show world.step (.go process accepts) = some middle from taken]
  exact ran

theorem Proceeds.trans {middle final : SpoolWorld Envelope}
    (first : Proceeds process accepts world middle)
    (second : Proceeds process accepts middle final)
    : Proceeds process accepts world final := by
  obtain ⟨early, reached⟩ := first
  obtain ⟨late, ran⟩ := second
  refine ⟨early + late, ?_⟩
  rw [← List.replicate_append_replicate, run_append, reached]
  exact ran

/-- The world is another one in which one process has gone on. -/
def WentOn (process : Nat) (world next : SpoolWorld Envelope) : Prop :=
  ∃ (base : SpoolWorld Envelope) (phase : SpoolPhase Envelope),
    base.phases = world.phases ∧ next = base.setPhase process phase

theorem wentOn (base : SpoolWorld Envelope) {phase : SpoolPhase Envelope}
    (same : base.phases = world.phases) (taken : some (base.setPhase process phase) = some next)
    : WentOn process world next :=
  ⟨base, phase, same, (Option.some.inj taken).symm⟩

/-- A rename and the phase after it, or the phase after an error. -/
theorem wentOn_rename {source target : SpoolSuffix} {phase failed : SpoolPhase Envelope}
    (taken
      : (match world.rename file source target with
          | some moved => some (moved.setPhase process phase)
          | none => some (world.setPhase process failed)) = some next)
    : WentOn process world next := by
  split at taken
  next moved renamed => exact wentOn moved (rename_fields renamed).2.2.1 taken
  next => exact wentOn world rfl taken

/-- A step changes the phase of its process only. -/
theorem go_phases {phase : SpoolPhase Envelope} (taken : world.go process accepts phase = some next)
    : WentOn process world next := by
  cases phase with
  | idle | refused | dead => cases taken
  | writing file =>
      cases renamed : world.rename file .tmp .pending with
      | none => exact wentOn _ (by rw [renamed]; rfl) taken
      | some moved => exact wentOn _ (by rw [renamed]; exact (rename_fields renamed).2.2.1) taken
  | checking unchecked sorted =>
      cases unchecked with
      | nil => exact wentOn world rfl taken
      | cons file rest => exact wentOn world rfl taken
  | claiming files =>
      cases files with
      | nil => exact wentOn world rfl taken
      | cons file rest => exact wentOn world rfl taken
  | taking file rest => exact wentOn_rename taken
  | reading file rest =>
      simp only [SpoolWorld.go] at taken
      split at taken
      next => exact wentOn world rfl taken
      next => exact wentOn world rfl taken
  | importing file left rest =>
      cases left with
      | nil => exact wentOn world rfl taken
      | cons envelope left =>
          simp only [SpoolWorld.go] at taken
          split at taken
          next => exact wentOn { world with imported := (file, envelope) :: world.imported } rfl taken
          next => exact wentOn world rfl taken
  | finishing file imported rest =>
      cases imported with
      | true => exact wentOn_rename taken
      | false => exact wentOn_rename taken
  | recording file rest =>
      exact wentOn { world with sidecars := Function.update world.sidecars file true } rfl taken
  | retrying files =>
      cases files with
      | nil => exact wentOn world rfl taken
      | cons file rest => exact wentOn world rfl taken
  | restoring file rest => exact wentOn_rename taken
  | clearing file rest => exact wentOn world rfl taken
  | unlinking file rest =>
      simp only [SpoolWorld.go] at taken
      split at taken
      next =>
          exact wentOn { world with sidecars := Function.update world.sidecars file false } rfl taken
      next => exact wentOn world rfl taken

/-- The steps of a process leave the phases of all others as they were. -/
theorem go_others (taken : world.go process accepts (world.phases process) = some next) {other : Nat}
    (different : other ≠ process)
    : next.phases other = world.phases other := by
  obtain ⟨base, now, same, rfl⟩ := go_phases taken
  rw [setPhase_of_ne different, same]

/-- A process that is alone stays alone. -/
theorem Alone.go (alone : world.Alone process)
    (taken : world.go process accepts (world.phases process) = some next)
    : next.Alone process where
  sound := by
    refine alone.sound.go (fun file rest taking other => ?_) taken
    by_cases same : other = process
    · rw [same, taking]
      exact List.not_mem_nil
    · rw [alone.others other same]
      exact List.not_mem_nil
  others := fun other different => by rw [go_others taken different, alone.others other different]

/-- What the loops of both calls keep: files that they do not visit. -/
structure Visits (files : List Nat) (world final : SpoolWorld Envelope) : Prop where
  bound : final.nextFile = world.nextFile
  others : ∀ file, file ∉ files → final.inbox file = world.inbox file

theorem Visits.cons {rest : List Nat} {middle final : SpoolWorld Envelope}
    (first : Visits [file] world middle) (later : Visits rest middle final)
    : Visits (file :: rest) world final where
  bound := later.bound.trans first.bound
  others := by
    intro other absent
    rw [List.mem_cons, not_or] at absent
    rw [later.others other absent.2, first.others other (by simpa using absent.1)]

theorem Visits.trans {files : List Nat} {middle final : SpoolWorld Envelope}
    (first : Visits files world middle) (second : Visits files middle final)
    : Visits files world final where
  bound := second.bound.trans first.bound
  others := fun file absent => (second.others file absent).trans (first.others file absent)

/-- What is visited after a step that does not touch the inbox. -/
theorem Visits.after {files : List Nat} {middle final : SpoolWorld Envelope}
    (later : Visits files middle final) (bound : middle.nextFile = world.nextFile)
    (inbox : middle.inbox = world.inbox)
    : Visits files world final :=
  ⟨later.bound.trans bound, fun file absent => by rw [later.others file absent, inbox]⟩

/-- A step that does not touch the inbox. -/
theorem visits_of_eq (files : List Nat) (bound : next.nextFile = world.nextFile)
    (inbox : next.inbox = world.inbox)
    : Visits files world next :=
  ⟨bound, fun _ _ => by rw [inbox]⟩

theorem visits_of_rename {source target : SpoolSuffix} {moved : SpoolWorld Envelope}
    (renamed : world.rename file source target = some moved) (phase : SpoolPhase Envelope)
    : Visits [file] world (moved.setPhase process phase) where
  bound := (rename_fields renamed).1
  others := fun other absent => (rename_fields renamed).2.2.2.2 other (by simpa using absent)

-----------------------------------------------------------------------------------------
-- `retry_failed_spool_files`
-----------------------------------------------------------------------------------------

/-- One failed file becomes pending. -/
theorem retryOne (accepts : Nat → Envelope → Bool) (alone : world.Alone process) {rest : List Nat}
    (phase : world.phases process = .retrying (file :: rest)) (failed : world.has file .failed = true)
    : ∃ final, Proceeds process accepts world final ∧ final.Alone process
        ∧ final.phases process = .retrying rest ∧ Visits [file] world final
        ∧ final.inbox file .pending = world.inbox file .failed := by
  have notPending : ¬ world.has file .pending = true := by
    intro pending
    exact absurd (alone.sound.unique pending failed) (by decide)
  have first
      : world.go process accepts (world.phases process)
        = some (world.setPhase process (.restoring file rest)) := by
    simp [phase, SpoolWorld.go, notPending]
  have aloneFirst := alone.go first
  obtain ⟨moved, renamed⟩
      : ∃ moved,
          (world.setPhase process (.restoring file rest)).rename file .failed .pending
          = some moved := by
    obtain ⟨contents, there⟩ := has_iff.mp failed
    exact ⟨_, congrArg (Option.map _) there⟩
  have second
      : (world.setPhase process (.restoring file rest)).go process accepts
          ((world.setPhase process (.restoring file rest)).phases process)
        = some (moved.setPhase process (.clearing file rest)) := by
    simp [SpoolWorld.go, renamed]
  have aloneSecond := aloneFirst.go second
  have visited : Visits [file] world (moved.setPhase process (.clearing file rest)) :=
    (visits_of_rename renamed _).after rfl rfl
  obtain ⟨contents, there, now⟩ := rename_target renamed
  have inboxSame : moved.inbox file .pending = world.inbox file .failed := now.trans there.symm
  by_cases sidecar : moved.sidecars file = true
  · have third
        : (moved.setPhase process (.clearing file rest)).go process accepts
            ((moved.setPhase process (.clearing file rest)).phases process)
          = some ((moved.setPhase process (.clearing file rest)).setPhase process
              (.unlinking file rest)) := by
      simp [SpoolWorld.go, SpoolWorld.setPhase, sidecar]
    have aloneThird := aloneSecond.go third
    have fourth
        : ((moved.setPhase process (.clearing file rest)).setPhase process
              (.unlinking file rest)).go process accepts
            (((moved.setPhase process (.clearing file rest)).setPhase process
              (.unlinking file rest)).phases process)
          = some ({ (moved.setPhase process (.clearing file rest)).setPhase process
              (.unlinking file rest) with
              sidecars := Function.update moved.sidecars file false }.setPhase process
                (.retrying rest)) := by
      simp [SpoolWorld.go, SpoolWorld.setPhase, sidecar]
    exact ⟨_, .head first (.head second (.head third (.head fourth (.refl _)))), aloneThird.go fourth,
      setPhase_self, visited.trans (visits_of_eq _ rfl rfl), inboxSame⟩
  · have third
        : (moved.setPhase process (.clearing file rest)).go process accepts
            ((moved.setPhase process (.clearing file rest)).phases process)
          = some ((moved.setPhase process (.clearing file rest)).setPhase process
              (.retrying rest)) := by
      simp [SpoolWorld.go, SpoolWorld.setPhase, sidecar]
    exact ⟨_, .head first (.head second (.head third (.refl _))), aloneSecond.go third,
      setPhase_self, visited.trans (visits_of_eq _ rfl rfl), inboxSame⟩

/-- All failed files become pending. Witness: induction on the files that the loop has left. -/
theorem retryAll (accepts : Nat → Envelope → Bool) (files : List Nat) (alone : world.Alone process)
    (phase : world.phases process = .retrying files) (once : files.Nodup)
    (failed : ∀ file ∈ files, world.has file .failed = true)
    : ∃ final, Proceeds process accepts world final ∧ final.Alone process
        ∧ final.phases process = .idle ∧ Visits files world final
        ∧ ∀ file ∈ files, final.inbox file .pending = world.inbox file .failed := by
  induction files generalizing world with
  | nil =>
      have last
          : world.go process accepts (world.phases process)
            = some (world.setPhase process .idle) := by
        simp [phase, SpoolWorld.go]
      exact ⟨_, .head last (.refl _), alone.go last, setPhase_self, visits_of_eq _ rfl rfl,
        fun _ member => by cases member⟩
  | cons file rest ih =>
      obtain ⟨notLater, once⟩ := List.nodup_cons.mp once
      obtain ⟨middle, early, aloneMiddle, phaseMiddle, visited, here⟩ :=
        retryOne accepts alone phase (failed file List.mem_cons_self)
      have away {other : Nat} (member : other ∈ rest) : middle.inbox other = world.inbox other :=
        visited.others other (by
          rw [List.mem_singleton]
          rintro rfl
          exact notLater member)
      obtain ⟨final, late, aloneFinal, phaseFinal, visitedRest, rest⟩ :=
        ih aloneMiddle phaseMiddle once (by
          intro other member
          rw [has, away member]
          exact failed other (List.mem_cons_of_mem _ member))
      refine ⟨final, early.trans late, aloneFinal, phaseFinal, visited.cons visitedRest, ?_⟩
      intro other member
      rcases List.mem_cons.mp member with rfl | member
      · rw [visitedRest.others other notLater, here]
      · rw [rest other member, away member]

-----------------------------------------------------------------------------------------
-- `import_spool`
-----------------------------------------------------------------------------------------

/-- All listed files are still there when they are checked. -/
theorem checkAll (accepts : Nat → Envelope → Bool) (unchecked sorted : List Nat)
    (alone : world.Alone process) (phase : world.phases process = .checking unchecked sorted)
    : ∃ final, Proceeds process accepts world final ∧ final.Alone process
        ∧ final.phases process = .claiming sorted ∧ Visits [] world final := by
  induction unchecked generalizing world with
  | nil =>
      have last
          : world.go process accepts (world.phases process)
            = some (world.setPhase process (.claiming sorted)) := by
        simp [phase, SpoolWorld.go]
      exact ⟨_, .head last (.refl _), alone.go last, setPhase_self, visits_of_eq _ rfl rfl⟩
  | cons file rest ih =>
      have member : file ∈ (world.phases process).unchecked := by
        rw [phase]
        exact List.mem_cons_self
      have pending : world.has file .pending = true := alone.sound.listed member
      have first
          : world.go process accepts (world.phases process)
            = some (world.setPhase process (.checking rest sorted)) := by
        simp [phase, SpoolWorld.go, pending]
      obtain ⟨final, late, aloneFinal, phaseFinal, visited⟩ :=
        ih (alone.go first) setPhase_self
      exact ⟨final, .head first late, aloneFinal, phaseFinal, visited.after rfl rfl⟩

/-- The envelopes of a claimed file are imported up to the first one that the store does not take. -/
theorem importEnvelopes (accepts : Nat → Envelope → Bool) (left : List Envelope) {rest : List Nat}
    (alone : world.Alone process)
    (phase : world.phases process = .importing file left rest)
    : ∃ final imported, Proceeds process accepts world final ∧ final.Alone process
        ∧ final.phases process = .finishing file imported rest ∧ Visits [] world final
        ∧ ((∀ envelope ∈ left, accepts file envelope = true) → imported = true) := by
  induction left generalizing world with
  | nil =>
      have last
          : world.go process accepts (world.phases process)
            = some (world.setPhase process (.finishing file true rest)) := by
        simp [phase, SpoolWorld.go]
      exact ⟨_, true, .head last (.refl _), alone.go last, by simp, visits_of_eq _ rfl rfl,
        fun _ => rfl⟩
  | cons envelope left ih =>
      by_cases accepted : accepts file envelope = true
      · have first
            : world.go process accepts (world.phases process)
              = some ({ world with imported := (file, envelope) :: world.imported }.setPhase process
                  (.importing file left rest)) := by
          simp [phase, SpoolWorld.go, accepted]
        obtain ⟨final, imported, late, aloneFinal, phaseFinal, visited, all⟩ :=
          ih (alone.go first) setPhase_self
        exact ⟨final, imported, .head first late, aloneFinal, phaseFinal,
          visited.after rfl rfl,
          fun takes => all fun other member => takes other (List.mem_cons_of_mem _ member)⟩
      · have last
            : world.go process accepts (world.phases process)
              = some (world.setPhase process (.finishing file false rest)) := by
          simp [phase, SpoolWorld.go, accepted]
        exact ⟨_, false, .head last (.refl _), alone.go last, by simp, visits_of_eq _ rfl rfl,
          fun takes => absurd (takes envelope List.mem_cons_self) accepted⟩

/-- A file whose import has ended becomes done or failed. -/
theorem finishOne (accepts : Nat → Envelope → Bool) (alone : world.Alone process) {imported : Bool}
    {rest : List Nat} (phase : world.phases process = .finishing file imported rest)
    : ∃ final, Proceeds process accepts world final ∧ final.Alone process
        ∧ final.phases process = .claiming rest ∧ Visits [file] world final
        ∧ (imported = true → final.has file .done = true) := by
  have works : (world.phases process).working = some file := by rw [phase]; rfl
  obtain ⟨contents, there, _⟩ := alone.sound.claimed works
  cases imported with
  | true =>
      obtain ⟨moved, renamed⟩ : ∃ moved, world.rename file .processing .done = some moved :=
        ⟨_, congrArg (Option.map _) there⟩
      have last
          : world.go process accepts (world.phases process)
            = some (moved.setPhase process (.claiming rest)) := by
        simp [phase, SpoolWorld.go, renamed]
      exact ⟨_, .head last (.refl _), alone.go last, setPhase_self, visits_of_rename renamed _,
        fun _ => (alone.sound.has_rename renamed).mpr (.inl ⟨rfl, rfl⟩)⟩
  | false =>
      obtain ⟨moved, renamed⟩ : ∃ moved, world.rename file .processing .failed = some moved :=
        ⟨_, congrArg (Option.map _) there⟩
      have first
          : world.go process accepts (world.phases process)
            = some (moved.setPhase process (.recording file rest)) := by
        simp [phase, SpoolWorld.go, renamed]
      have last
          : (moved.setPhase process (.recording file rest)).go process accepts
              ((moved.setPhase process (.recording file rest)).phases process)
            = some ({ moved.setPhase process (.recording file rest) with
                sidecars := Function.update moved.sidecars file true }.setPhase process
                  (.claiming rest)) := by
        simp [SpoolWorld.go, SpoolWorld.setPhase]
      have visited : Visits [file] world (moved.setPhase process (.recording file rest)) :=
        visits_of_rename renamed _
      exact ⟨_, .head first (.head last (.refl _)), (alone.go first).go last, setPhase_self,
        ⟨visited.bound, visited.others⟩, fun failed => by cases failed⟩

/-- The contents can be read and the store takes all envelopes. -/
def Accepted (accepts : Nat → Envelope → Bool) (file : Nat) (contents : SpoolContents Envelope)
    : Prop :=
  ∃ envelopes, contents = some envelopes ∧ ∀ envelope ∈ envelopes, accepts file envelope = true

/-- One pending file is claimed, imported and given its last name. -/
theorem importOne (accepts : Nat → Envelope → Bool) (alone : world.Alone process) {rest : List Nat}
    (phase : world.phases process = .claiming (file :: rest)) {contents : SpoolContents Envelope}
    (there : world.inbox file .pending = some contents)
    : ∃ final, Proceeds process accepts world final ∧ final.Alone process
        ∧ final.phases process = .claiming rest ∧ Visits [file] world final
        ∧ (Accepted accepts file contents → final.has file .done = true) := by
  have pending : world.has file .pending = true := has_iff.mpr ⟨contents, there⟩
  have first
      : world.go process accepts (world.phases process)
        = some (world.setPhase process (.taking file rest)) := by
    simp [phase, SpoolWorld.go, pending]
  obtain ⟨moved, renamed⟩
      : ∃ moved,
          (world.setPhase process (.taking file rest)).rename file .pending .processing
          = some moved :=
    ⟨_, congrArg (Option.map _) there⟩
  have second
      : (world.setPhase process (.taking file rest)).go process accepts
          ((world.setPhase process (.taking file rest)).phases process)
        = some (moved.setPhase process (.reading file rest)) := by
    simp [SpoolWorld.go, renamed]
  have aloneSecond := (alone.go first).go second
  have visited : Visits [file] world (moved.setPhase process (.reading file rest)) :=
    (visits_of_rename renamed _).after rfl rfl
  obtain ⟨same, before, now⟩ := rename_target renamed
  obtain rfl := Option.some.inj (before.symm.trans there)
  cases same with
  | none =>
      have third
          : (moved.setPhase process (.reading file rest)).go process accepts
              ((moved.setPhase process (.reading file rest)).phases process)
            = some ((moved.setPhase process (.reading file rest)).setPhase process
                (.finishing file false rest)) := by
        rw [setPhase_self]
        simp [SpoolWorld.go, SpoolWorld.setPhase, now]
      obtain ⟨final, late, aloneFinal, phaseFinal, visitedLast, _⟩ :=
        finishOne accepts (aloneSecond.go third) setPhase_self
      refine ⟨final, .head first (.head second (.head third late)), aloneFinal, phaseFinal,
        visited.trans (visitedLast.after rfl rfl), ?_⟩
      intro readable
      obtain ⟨_, same, _⟩ := readable
      cases same
  | some envelopes =>
      have third
          : (moved.setPhase process (.reading file rest)).go process accepts
              ((moved.setPhase process (.reading file rest)).phases process)
            = some ((moved.setPhase process (.reading file rest)).setPhase process
                (.importing file envelopes rest)) := by
        rw [setPhase_self]
        simp [SpoolWorld.go, SpoolWorld.setPhase, now]
      obtain ⟨middle, imported, between, aloneMiddle, phaseMiddle, visitedMiddle, all⟩ :=
        importEnvelopes accepts envelopes (aloneSecond.go third) setPhase_self
      obtain ⟨final, late, aloneFinal, phaseFinal, visitedLast, done⟩ :=
        finishOne accepts aloneMiddle phaseMiddle
      refine ⟨final, .head first (.head second (.head third (between.trans late))), aloneFinal,
        phaseFinal, ?_, ?_⟩
      · have nothing : Visits [file] (moved.setPhase process (.reading file rest)) middle :=
          ⟨visitedMiddle.bound, fun other _ => visitedMiddle.others other List.not_mem_nil⟩
        exact visited.trans (nothing.trans visitedLast)
      · intro readable
        obtain ⟨_, same, takes⟩ := readable
        obtain rfl := Option.some.inj same
        exact done (all takes)

/-- All pending files that can be imported become done. Witness: induction on the files that the loop has
left.
-/
theorem importAll (accepts : Nat → Envelope → Bool) (files : List Nat) (alone : world.Alone process)
    (phase : world.phases process = .claiming files) (once : files.Nodup)
    (pending : ∀ file ∈ files, world.has file .pending = true)
    : ∃ final, Proceeds process accepts world final ∧ final.phases process = .idle
        ∧ Visits files world final
        ∧ ∀ file ∈ files, ∀ contents, world.inbox file .pending = some contents →
            Accepted accepts file contents → final.has file .done = true := by
  induction files generalizing world with
  | nil =>
      have last
          : world.go process accepts (world.phases process)
            = some (world.setPhase process .idle) := by
        simp [phase, SpoolWorld.go]
      exact ⟨_, .head last (.refl _), setPhase_self, visits_of_eq _ rfl rfl,
        fun _ member => by cases member⟩
  | cons file rest ih =>
      obtain ⟨notLater, once⟩ := List.nodup_cons.mp once
      obtain ⟨contents, there⟩ := has_iff.mp (pending file List.mem_cons_self)
      obtain ⟨middle, early, aloneMiddle, phaseMiddle, visited, here⟩ :=
        importOne accepts alone phase there
      have away {other : Nat} (member : other ∈ rest) : middle.inbox other = world.inbox other :=
        visited.others other (by
          rw [List.mem_singleton]
          rintro rfl
          exact notLater member)
      obtain ⟨final, late, phaseFinal, visitedRest, done⟩ :=
        ih aloneMiddle phaseMiddle once (by
          intro other member
          rw [has, away member]
          exact pending other (List.mem_cons_of_mem _ member))
      refine ⟨final, early.trans late, phaseFinal, visited.cons visitedRest, ?_⟩
      intro other member held found accepted
      rcases List.mem_cons.mp member with rfl | member
      · obtain rfl := Option.some.inj (there.symm.trans found)
        have finished := here accepted
        rw [has] at finished ⊢
        rwa [visitedRest.others other notLater]
      · exact done other member held (by rw [away member]; exact found) accepted

-----------------------------------------------------------------------------------------
-- Runs
-----------------------------------------------------------------------------------------

theorem Stopped.unchecked (stopped : world.Stopped) (process : Nat)
    : (world.phases process).unchecked = [] := by
  rcases stopped process with rest | rest | rest <;> rw [rest] <;> rfl

/-- A finished file is pending, failed or done once all processes have stopped. -/
theorem Sound.stopped_cases (sound : world.Sound) (stopped : world.Stopped)
    (finished : world.Finished file)
    : world.has file .pending = true ∨ world.has file .failed = true
      ∨ world.has file .done = true := by
  obtain ⟨suffix, named⟩ := sound.named finished.1
  cases suffix with
  | pending => exact .inl named
  | failed => exact .inr (.inl named)
  | done => exact .inr (.inr named)
  | tmp =>
      rw [has, finished.2] at named
      cases named
  | processing =>
      obtain ⟨process, works⟩ := sound.worked named
      rcases stopped process with rest | rest | rest <;> rw [rest] at works <;> cases works

/-- After all others have stopped, a process brings every file that can be imported to done. Witness: no
file is named as processed, so each is pending, failed or done; the retry makes the failed ones pending,
and the import visits all pending ones.
-/
theorem Sound.recovers (sound : world.Sound) (stopped : world.Stopped) (process : Nat)
    (accepts : Nat → Envelope → Bool) (alive : world.phases process ≠ .dead)
    (order sort : List Nat → List Nat) (ordered : ∀ files, (order files).Perm files)
    (sorted : ∀ files, (sort files).Perm files)
    : ∃ final, world.Recovers process accepts order sort final
        ∧ ∀ file, world.Finished file → world.Importable accepts file →
            final.has file .done = true := by
  have idle : world.phases process = .idle := by
    rcases stopped process with rest | rest | rest
    · exact rest
    · exact absurd rest (sound.accepted process)
    · exact absurd rest alive
  -- the retry
  have retries
      : world.step (.retryFailed process (order (world.list .failed)))
        = some (world.setPhase process (.retrying (order (world.list .failed)))) := by
    simp [SpoolWorld.step, ready, idle, ordered]
  have aloneRetries
      : (world.setPhase process (.retrying (order (world.list .failed)))).Alone process :=
    ⟨sound.step (by trivial) retries, fun other different => by
      rw [setPhase_of_ne different, stopped.unchecked]⟩
  obtain ⟨middle, ⟨retryCount, retried⟩, aloneMiddle, idleMiddle, visitedRetry, moved⟩ :=
    retryAll accepts _ aloneRetries setPhase_self
      ((ordered _).nodup_iff.mpr (List.nodup_range.filter _))
      fun file member => (mem_list.mp ((ordered _).mem_iff.mp member)).2
  -- the import
  have imports
      : middle.step
          (.importSpool process (order (middle.list .pending)) (sort (middle.list .pending)))
        = some (middle.setPhase process
            (.checking (order (middle.list .pending)) (sort (middle.list .pending)))) := by
    simp [SpoolWorld.step, ready, idleMiddle, ordered, (sorted _).trans (ordered _).symm]
  have aloneImports
      : (middle.setPhase process
          (.checking (order (middle.list .pending)) (sort (middle.list .pending)))).Alone process :=
    ⟨aloneMiddle.sound.step (by trivial) imports, fun other different => by
      rw [setPhase_of_ne different, aloneMiddle.others other different]⟩
  obtain ⟨claims, checked, aloneClaims, phaseClaims, visitedNone⟩ :=
    checkAll accepts _ _ aloneImports setPhase_self
  have inboxClaims (file : Nat) : claims.inbox file = middle.inbox file :=
    visitedNone.others file List.not_mem_nil
  obtain ⟨final, imported, idleFinal, visitedImport, done⟩ :=
    importAll accepts _ aloneClaims phaseClaims
      ((sorted _).nodup_iff.mpr (List.nodup_range.filter _)) (by
        intro file member
        rw [has, inboxClaims]
        exact (mem_list.mp ((sorted _).mem_iff.mp member)).2)
  obtain ⟨importCount, ran⟩ := checked.trans imported
  refine ⟨final, ⟨retryCount, importCount, middle, ?_, ?_, idleFinal⟩,
    fun file finished importable => ?_⟩
  · rw [run, retries, Option.bind_some, retried]
  · rw [run, imports, Option.bind_some, ran]
  · -- what is pending after the retry is imported
    have listed {contents : SpoolContents Envelope}
        (pending : middle.inbox file .pending = some contents)
        (accepted : Accepted accepts file contents)
        : final.has file .done = true := by
      have small : file < middle.nextFile := by
        rw [visitedRetry.bound]
        exact finished.1
      refine done file ?_ contents (by rw [inboxClaims]; exact pending) accepted
      exact (sorted _).mem_iff.mpr (mem_list.mpr ⟨small, has_iff.mpr ⟨contents, pending⟩⟩)
    rcases sound.stopped_cases stopped finished with pending | failed | isDone
    · obtain ⟨contents, there⟩ := has_iff.mp pending
      have notFailed : file ∉ order (world.list .failed) := fun member =>
        absurd (sound.unique pending (mem_list.mp ((ordered _).mem_iff.mp member)).2) (by decide)
      refine listed ?_ (importable .pending contents there)
      rw [visitedRetry.others file notFailed]
      exact there
    · obtain ⟨contents, there⟩ := has_iff.mp failed
      refine listed ?_ (importable .failed contents there)
      rw [moved file ((ordered _).mem_iff.mpr (mem_list.mpr ⟨finished.1, failed⟩))]
      exact there
    · have notFailed : file ∉ order (world.list .failed) := fun member =>
        absurd (sound.unique isDone (mem_list.mp ((ordered _).mem_iff.mp member)).2) (by decide)
      have doneMiddle : middle.has file .done = true := by
        rw [has, visitedRetry.others file notFailed]
        exact isDone
      have notPending : file ∉ sort (middle.list .pending) := fun member =>
        absurd (aloneMiddle.sound.unique doneMiddle (mem_list.mp ((sorted _).mem_iff.mp member)).2)
          (by decide)
      rw [has, visitedImport.others file notPending, inboxClaims]
      exact doneMiddle

/-- What the invariant promises. -/
theorem Sound.kept (sound : world.Sound) : world.Kept where
  oneState := by
    intro file finished
    obtain ⟨suffix, named⟩ := sound.named finished.1
    exact ⟨suffix, named, fun other also => sound.unique also named⟩
  done := fun _ _ there => sound.done there
  recovers := fun stopped process accepts alive order sort ordered sorted =>
    sound.recovers stopped process accepts alive order sort ordered sorted
  neverRefused := sound.accepted

/-- An inbox without files, and processes that have not begun. -/
def empty : SpoolWorld Envelope where
  inbox _ _ := none
  sidecars _ := false
  nextFile := 0
  imported := []
  phases _ := .idle

theorem empty_sound : (empty : SpoolWorld Envelope).Sound where
  fresh := fun named => by cases named
  named := fun small => absurd small (Nat.not_lt_zero _)
  unique := fun named => by cases named
  done := fun there => by cases there
  claimed := fun works => by cases works
  alone := fun works => by cases works
  worked := fun named => by cases named
  listed := fun member => by cases member
  accepted := fun _ => by simp [empty]

/-- Where no process dies with a claimed file and none claims a file that another one has listed and not
checked, the inbox keeps its promises. Witness: the invariant along the run.
-/
theorem spool_kept {labels : List (SpoolStep Envelope)}
    (guarded : AllSteps step Guarded (empty : SpoolWorld Envelope) labels)
    : AllStates step Kept (empty : SpoolWorld Envelope) labels :=
  (allStates_of_guarded Sound (fun _ _ _ sound meets taken => sound.step meets taken)
    empty_sound guarded).imp fun _ sound => sound.kept

/-- The process that makes a step. -/
def actor : SpoolStep Envelope → Nat
  | .create process _ | .importSpool process _ _ | .retryFailed process _ | .go process _
  | .crash process => process

/-- A step leaves the phases of all processes but its own. -/
theorem step_others {label : SpoolStep Envelope} (taken : world.step label = some next) {other : Nat}
    (different : other ≠ actor label)
    : next.phases other = world.phases other := by
  cases label with
  | create process contents =>
      simp only [step] at taken
      split at taken
      next =>
          obtain rfl := Option.some.inj taken
          exact setPhase_of_ne different
      next => cases taken
  | importSpool process listed sorted =>
      simp only [step] at taken
      split at taken
      next =>
          obtain rfl := Option.some.inj taken
          exact setPhase_of_ne different
      next => cases taken
  | retryFailed process listed =>
      simp only [step] at taken
      split at taken
      next =>
          obtain rfl := Option.some.inj taken
          exact setPhase_of_ne different
      next => cases taken
  | go process accepts => exact go_others taken different
  | crash process =>
      simp only [step] at taken
      split at taken
      next => cases taken
      next =>
          obtain rfl := Option.some.inj taken
          exact setPhase_of_ne different

/-- The condition on a step of one of the first `count` processes, asked of these only. -/
def GuardedAmong (count : Nat) (world : SpoolWorld Envelope) (label : SpoolStep Envelope) : Bool :=
  decide (actor label < count)
    && match label with
      | .crash process => (world.phases process).working.isNone
      | .go process _ =>
          match world.phases process with
          | .taking file _ =>
              (List.range count).all fun other => !(world.phases other).unchecked.contains file
          | _ => true
      | _ => true

/-- Where all other processes have listed nothing, it is enough to ask the first ones. -/
theorem guarded_of_among (count : Nat) {label : SpoolStep Envelope}
    (quiet : ∀ other, count ≤ other → (world.phases other).unchecked = [])
    (among : GuardedAmong count world label = true)
    : world.Guarded label := by
  obtain ⟨_, asked⟩ := Bool.and_eq_true_iff.mp among
  cases label with
  | crash process => exact Option.isNone_iff_eq_none.mp asked
  | go process accepts =>
      intro file rest taking other
      simp only [taking] at asked
      rcases Nat.lt_or_ge other count with known | unknown
      · have absent := List.all_eq_true.mp asked other (List.mem_range.mpr known)
        simpa using absent
      · rw [quiet other unknown]
        exact List.not_mem_nil
  | create | importSpool | retryFailed => trivial

/-- A run of the first processes is checked among them. -/
theorem allSteps_of_among (count : Nat) {labels : List (SpoolStep Envelope)}
    (quiet : ∀ other, count ≤ other → (world.phases other).unchecked = [])
    (among : AllSteps step (fun world label => GuardedAmong count world label = true) world labels)
    : AllSteps step Guarded world labels := by
  refine allSteps_of_guarded
    (fun world => ∀ other, count ≤ other → (world.phases other).unchecked = [])
    (fun world label next quiet among taken => ?_) quiet among
  refine ⟨fun other unknown => ?_, guarded_of_among count quiet among⟩
  have known : actor label < count := of_decide_eq_true (Bool.and_eq_true_iff.mp among).1
  rw [step_others taken (by omega), quiet other unknown]

/-- Process 0 writes two files. Processes 1 and 2 list both, in different orders, and check them; then 1
claims the first file, and 2, which has to pass it over, the second one. The store refuses the envelope
of the second file. Process 3 retries it and imports it, while 1 is not yet through with the first file.
-/
def sharedInbox : List (SpoolStep Nat) :=
  [.create 0 (some [7, 8]), .go 0 accepts, .create 0 (some [9]), .go 0 accepts,
    .importSpool 1 [0, 1] [0, 1], .go 1 accepts, .importSpool 2 [1, 0] [0, 1], .go 2 accepts,
    .go 1 accepts, .go 2 accepts, .go 1 accepts, .go 2 accepts,
    -- the claims
    .go 1 accepts, .go 1 accepts, .go 2 accepts, .go 2 accepts, .go 1 accepts, .go 2 accepts,
    -- one envelope of the first file, and the failure of the second one
    .go 2 accepts, .go 1 accepts, .go 2 (fun _ _ => false), .go 2 accepts, .go 2 accepts,
    -- the retry, and the second import
    .retryFailed 3 [1], .go 3 accepts, .go 3 accepts, .go 3 accepts, .go 3 accepts, .go 3 accepts,
    .importSpool 3 [1] [1], .go 3 accepts, .go 3 accepts, .go 3 accepts, .go 3 accepts,
    .go 3 accepts, .go 1 accepts, .go 3 accepts, .go 1 accepts, .go 3 accepts, .go 3 accepts,
    .go 1 accepts]
where
  accepts _ _ := true

/-- The run of both importers and the retry keeps the promises, and both files come to done. -/
theorem sharedInbox_kept
    : AllStates step Kept (empty : SpoolWorld Nat) sharedInbox
      ∧ (run step empty sharedInbox).map (fun final => (final.has 0 .done, final.has 1 .done))
        = some (true, true) :=
  ⟨spool_kept (allSteps_of_among 4 (fun _ _ => rfl) (by decide +kernel)),
    by decide +kernel⟩

/-- Two processes list one pending file. The first one claims it before the second one checks it, and the
second import fails.
-/
theorem spool_refused
    : ¬ ∀ labels : List (SpoolStep Nat), AllStates step Kept (empty : SpoolWorld Nat) labels := by
  intro kept
  have ends
      : (run step (empty : SpoolWorld Nat)
          [.create 0 (some []), .go 0 fun _ _ => true, .importSpool 1 [0] [0], .importSpool 2 [0] [0],
            .go 1 fun _ _ => true, .go 1 fun _ _ => true, .go 1 fun _ _ => true,
            .go 1 fun _ _ => true, .go 2 fun _ _ => true]).map
          (fun world => match world.phases 2 with | .refused => true | _ => false) = some true := by
    decide +kernel
  obtain ⟨final, ran, refused⟩ := Option.map_eq_some_iff.mp ends
  refine ((kept _).last ran).neverRefused 2 ?_
  split at refused
  next same => exact same
  next => cases refused

end SpoolWorld

end CtxRemote.Capture
