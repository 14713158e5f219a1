import CtxRemote.Upgrade.PathInvariants

/-! The Unix self-upgrade of all its paths under one journal, and recovery from an upgrade that was
interrupted. Runs of recovery may be interrupted as well, any number of times.
-/

namespace CtxRemote.Upgrade
open CtxRemote.Library CtxRemote.Library.Interruptible

-----------------------------------------------------------------------------------------
-- The journal
-----------------------------------------------------------------------------------------

inductive JournalPhase where
  | publishing
  | committed
deriving DecidableEq

/-- `InstallTransactionJournal`. -/
structure Journal where
  phase : JournalPhase
  paths : List Label
deriving DecidableEq

/-- The journal file and the files of all paths. -/
structure InstallWorld where
  journal : Option Journal
  paths : Label → PathState

abbrev InstallProgram (α : Type) := Interruptible InstallWorld InstallError α

/-- A program that does not touch the journal. -/
def onPaths {α : Type} (program : Interruptible (Label → PathState) InstallError α)
    : InstallProgram α :=
  zoom InstallWorld.paths (fun world paths => { world with paths := paths }) program

/-- `write_install_transaction`: a temporary file is written, renamed, and the directory synced. -/
def writeInstallTransaction (journal : Journal) : InstallProgram Unit := do
  operation .io some
  operation .io fun world => some { world with journal := some journal }
  operation .io some

/-- `remove_install_transaction`. -/
def removeInstallTransaction : InstallProgram Unit := do
  let world ← read
  if world.journal.isSome then
    operation .io fun world => some { world with journal := none }
    operation .io some

-----------------------------------------------------------------------------------------
-- The upgrade
-----------------------------------------------------------------------------------------

/-- The paths of a journal, in its order. -/
def journalPaths (runtime : Bool) : List Label :=
  if runtime then [.runtime, .binary, .marker] else [.binary, .marker]

/-- What `replace_binary` does once the publication or its commit has failed. -/
def rollbackUnixPublication (runtime : Bool) (primary : InstallError) : InstallProgram Unit := do
  let errors ← onPaths (failures rollback (journalPaths runtime).reverse)
  match errors with
  | [] =>
      match ← attempt removeInstallTransaction with
      | .ok _ => fail primary
      | .error error => fail (.rollback primary [error])
  | _ => fail (.rollback primary errors)

/-- What is left to do with the backup of a path after the commit. -/
def closePublication : Label → PathProgram
  | .binary => retainBackupAs
  | label => discardBackup label

/-- The order in which `replace_binary` closes the publications. -/
def closingOrder (runtime : Bool) : List Label :=
  if runtime then [.marker, .runtime, .binary] else [.marker, .binary]

/-- `replace_binary`, with or without a staged runtime. -/
def replaceBinary (runtime : Bool) : InstallProgram Unit := do
  writeInstallTransaction ⟨.publishing, journalPaths runtime⟩
  match ← attempt (onPaths (members publish (journalPaths runtime))) with
  | .error primary => rollbackUnixPublication runtime primary
  | .ok _ =>
      match ← attempt (writeInstallTransaction ⟨.committed, journalPaths runtime⟩) with
      | .error primary => rollbackUnixPublication runtime primary
      | .ok _ =>
          onPaths (members closePublication (closingOrder runtime))
          removeInstallTransaction

/-- The staged files that `apply_artifact` removes after an error, in its order. -/
def stagedOrder (runtime : Bool) : List Label :=
  if runtime then [.binary, .marker, .runtime] else [.binary, .marker]

/-- The removal of the staged files; its errors are ignored. -/
def removeStaged (runtime : Bool) : InstallProgram (List InstallError) :=
  onPaths (failures (fun label => removePublishedPath label.kind .staged) (stagedOrder runtime))

/-- `apply_artifact` from the call of `replace_binary` on. -/
def applyArtifact (runtime : Bool) : InstallProgram Unit := do
  match ← attempt (replaceBinary runtime) with
  | .ok _ => pure ()
  | .error error =>
      let _ ← removeStaged runtime
      fail error

-----------------------------------------------------------------------------------------
-- Recovery
-----------------------------------------------------------------------------------------

/-- `finish_committed_journal`. -/
def finishCommittedJournal (paths : List Label) : InstallProgram Unit := do
  let world ← read
  match paths.find? fun label =>
      (world.paths label).target.isNone || (world.paths label).staged.isSome with
  | some label => fail (.incomplete label)
  | none => onPaths (members finishJournalPath paths)

/-- What recovery does with the paths, by the phase of the journal. -/
def recoverJournalPaths (journal : Journal) : InstallProgram Unit :=
  match journal.phase with
  | .publishing => onPaths (members rollbackJournalPath journal.paths.reverse)
  | .committed => finishCommittedJournal journal.paths

/-- `recover_interrupted_install`. Reading and checking the journal may fail. -/
def recoverInterruptedInstall : InstallProgram Bool := do
  let world ← read
  match world.journal with
  | none => pure false
  | some journal =>
      operation .io some
      recoverJournalPaths journal
      removeInstallTransaction
      pure true

-----------------------------------------------------------------------------------------
-- Runs
-----------------------------------------------------------------------------------------

/-- Before `replace_binary`: no other transaction is open, and everything is staged. -/
structure BeforeUpgrade (runtime : Bool) (start : InstallWorld) : Prop where
  journal : start.journal = none
  staged : ∀ label ∈ journalPaths runtime, Staged (start.paths label)
  binary : (start.paths .binary).target = some .old

/-- The states after an upgrade, however it ended, and after any further runs of recovery, however they
ended. Recovery starts where `allowed` says that it may.
-/
inductive Interrupted (allowed : InstallWorld → Prop) (runtime : Bool) (start : InstallWorld)
    : InstallWorld → Prop
  | upgrade {run} (ran : run ∈ applyArtifact runtime start) : Interrupted allowed runtime start run.2
  | recovery {world run} (before : Interrupted allowed runtime start world) (may : allowed world)
    (ran : run ∈ recoverInterruptedInstall world)
    : Interrupted allowed runtime start run.2

/-- All targets are the old ones, or all are the new ones and the previous binary is at the durable
path.
-/
def Atomic (runtime : Bool) (start world : InstallWorld) : Prop :=
  (∀ label, (world.paths label).target = (start.paths label).target)
      ∧ (world.paths .binary).durable = (start.paths .binary).durable
    ∨ (∀ label ∈ journalPaths runtime, (world.paths label).target = some .new)
      ∧ (∀ label ∉ journalPaths runtime, (world.paths label).target = (start.paths label).target)
      ∧ (world.paths .binary).durable = some .old

/-- Under a `Publishing` journal no path without its staged file has the old target and no whole backup.
Under a `Committed` journal the targets, where all exist, are not of both versions.
-/
def Guarded (world : InstallWorld) : Prop :=
  match world.journal with
  | none => True
  | some ⟨.publishing, paths⟩ => ∀ label ∈ paths, Unambiguous (world.paths label)
  | some ⟨.committed, paths⟩ =>
      (∀ label ∈ paths, (world.paths label).target.isSome)
      → (∀ label ∈ paths, (world.paths label).target = some .new)
        ∨ ∀ label ∈ paths, (world.paths label).target = some .old

-----------------------------------------------------------------------------------------
-- What every interruption leaves
-----------------------------------------------------------------------------------------

/-- The states that an interruption can leave, by the journal. -/
inductive Sound (runtime : Bool) (start : InstallWorld) : InstallWorld → Prop
  | restored {world} (journal : world.journal = none)
    (paths
      : Within (journalPaths runtime)
          (fun label path => path.target = (start.paths label).target
            ∧ path.durable = (start.paths label).durable)
          start.paths world.paths)
    : Sound runtime start world
  | installed {world} (journal : world.journal = none)
    (paths
      : Within (journalPaths runtime) (fun label path => path.target = some .new ∧ Settled label path)
          start.paths world.paths)
    : Sound runtime start world
  | publishing {world} (journal : world.journal = some ⟨.publishing, journalPaths runtime⟩)
    (paths
      : Within (journalPaths runtime) (fun label => Kept label (start.paths label)) start.paths
          world.paths)
    : Sound runtime start world
  | replaced {world} (journal : world.journal = some ⟨.committed, journalPaths runtime⟩)
    (paths : Within (journalPaths runtime) Replaced start.paths world.paths)
    : Sound runtime start world
  | undoing {world} (journal : world.journal = some ⟨.committed, journalPaths runtime⟩)
    (paths
      : Within (journalPaths runtime) (fun label => Undoing (start.paths label)) start.paths
          world.paths)
    : Sound runtime start world

section Steps

variable {runtime : Bool} {start world : InstallWorld} {kept : InstallWorld → Prop}

theorem nodup_journalPaths : (journalPaths runtime).Nodup := by
  cases runtime <;> decide

theorem perm_closingOrder : (closingOrder runtime).Perm (journalPaths runtime) := by
  cases runtime <;> decide

theorem perm_stagedOrder : (stagedOrder runtime).Perm (journalPaths runtime) := by
  cases runtime <;> decide

theorem ensures_writeInstallTransaction {journal : Journal} (now : kept world)
    (written : kept { world with journal := some journal })
    : Ensures (writeInstallTransaction journal) world
        (fun _ final => final = { world with journal := some journal }) (fun _ => kept) := by
  simp [writeInstallTransaction, now, written]

theorem ensures_removeInstallTransaction (there : world.journal.isSome) (now : kept world)
    (removed : kept { world with journal := none })
    : Ensures removeInstallTransaction world (fun _ final => final = { world with journal := none })
        (fun _ => kept) := by
  have present : world.journal ≠ none := Option.isSome_iff_ne_none.mp there
  simp [removeInstallTransaction, present, now, removed]

section Paths

variable (start)
variable {pre done rest : Label → PathState → Prop} {program : Label → PathProgram}
  {order : List Label}

/-- A program on the paths of the journal, in any order of these, that keeps `rest` of them. -/
theorem ensures_onPaths {Value : Type} {loop : Interruptible (Label → PathState) InstallError Value}
    (all : Value → (Label → PathState) → Prop) (perm : order.Perm (journalPaths runtime))
    (before : Within (journalPaths runtime) pre start.paths world.paths)
    (ensured
      : Ensures loop world.paths
          (fun value paths => Within order rest world.paths paths ∧ all value paths)
          (fun _ paths => Within order rest world.paths paths))
    : Ensures (onPaths loop) world
        (fun value final => final.journal = world.journal
          ∧ Within (journalPaths runtime) rest start.paths final.paths ∧ all value final.paths)
        (fun _ final => final.journal = world.journal
          ∧ Within (journalPaths runtime) rest start.paths final.paths) := by
  have same (label : Label) : label ∈ order ↔ label ∈ journalPaths runtime := perm.mem_iff
  rw [onPaths, ensures_zoom]
  refine ensured.mono ?_ ?_
  · rintro value paths ⟨within, holds⟩
    exact ⟨rfl, before.trans (within.congr same), holds⟩
  · exact fun _ paths within => ⟨rfl, before.trans (within.congr same)⟩

/-- A loop over the paths of the journal, in any order of these. -/
theorem ensures_onPaths_members (perm : order.Perm (journalPaths runtime))
    (handles
      : ∀ label ∈ journalPaths runtime,
          Handles (pre label) (done label) (rest label) (program label))
    (before : Within (journalPaths runtime) pre start.paths world.paths)
    : Ensures (onPaths (members program order)) world
        (fun _ final => final.journal = world.journal
          ∧ Within (journalPaths runtime) rest start.paths final.paths
          ∧ ∀ label ∈ journalPaths runtime, done label (final.paths label))
        (fun _ final => final.journal = world.journal
          ∧ Within (journalPaths runtime) rest start.paths final.paths) := by
  refine ensures_onPaths start
    (fun _ paths => ∀ label ∈ journalPaths runtime, done label (paths label)) perm before ?_
  simp only [← perm.mem_iff] at handles ⊢
  exact ensures_members (perm.nodup_iff.mpr nodup_journalPaths) handles fun label member =>
    before.1 label (perm.mem_iff.mp member)

/-- The same for programs that all run. -/
theorem ensures_onPaths_failures (perm : order.Perm (journalPaths runtime))
    (handles
      : ∀ label ∈ journalPaths runtime,
          Handles (pre label) (done label) (rest label) (program label))
    (before : Within (journalPaths runtime) pre start.paths world.paths)
    : Ensures (onPaths (failures program order)) world
        (fun errors final => final.journal = world.journal
          ∧ Within (journalPaths runtime) rest start.paths final.paths
          ∧ (errors = [] → ∀ label ∈ journalPaths runtime, done label (final.paths label)))
        (fun _ final => final.journal = world.journal
          ∧ Within (journalPaths runtime) rest start.paths final.paths) := by
  refine ensures_onPaths start
    (fun errors paths =>
      errors = [] → ∀ label ∈ journalPaths runtime, done label (paths label)) perm before ?_
  simp only [← perm.mem_iff] at handles ⊢
  exact ensures_failures (perm.nodup_iff.mpr nodup_journalPaths) handles fun label member =>
    before.1 label (perm.mem_iff.mp member)

end Paths

/-- The rollback inside the process always ends in an error, and leaves the journal or, once everything is
restored, none.
-/
theorem ensures_rollbackUnixPublication {journal : Journal} {pre : Label → PathState → Prop}
    (rest : Label → PathState → Prop) {primary : InstallError} (there : world.journal = some journal)
    (handles
      : ∀ label ∈ journalPaths runtime,
          Handles (pre label) (fun path => path.target = (start.paths label).target) (rest label)
            (rollback label))
    (durable : ∀ label path, rest label path → path.durable = (start.paths label).durable)
    (sound
      : ∀ final : InstallWorld, final.journal = some journal
        → Within (journalPaths runtime) rest start.paths final.paths → Sound runtime start final)
    (before : Within (journalPaths runtime) pre start.paths world.paths)
    : Ensures (rollbackUnixPublication runtime primary) world (fun _ _ => False)
        (fun _ => Sound runtime start) := by
  rw [rollbackUnixPublication, ensures_bind]
  refine (ensures_onPaths_failures start (List.reverse_perm _) handles before).mono ?_ ?_
  · rintro errors final ⟨journal, within, restored⟩
    have kept := sound final (journal.trans there) within
    cases errors with
    | cons error errors => exact ensures_fail.mpr kept
    | nil =>
        have removed : Sound runtime start { final with journal := none } :=
          .restored rfl (within.imp fun label member rest =>
            ⟨restored rfl label member, durable label _ rest⟩)
        have cleared := ensures_removeInstallTransaction (by simp [journal, there]) kept removed
        simp only [ensures_bind, ensures_attempt]
        refine cleared.mono ?_ ?_
        · rintro - final rfl
          exact ensures_fail.mpr removed
        · rintro (_ | error) final kept
          · exact kept
          · exact ensures_fail.mpr kept
  · exact fun _ final cut => sound final (cut.1.trans there) cut.2

/-- What holds of each path holds of all of them, before anything else has changed. -/
theorem within_start {rest : Label → PathState → Prop}
    (holds : ∀ label ∈ journalPaths runtime, rest label (start.paths label))
    : Within (journalPaths runtime) rest start.paths start.paths :=
  ⟨holds, fun _ _ => rfl⟩

theorem BeforeUpgrade.previous (before : BeforeUpgrade runtime start) (label : Label)
    (binary : label = .binary)
    : (start.paths label).target = some .old :=
  binary ▸ before.binary

/-- A rollback under the `Publishing` journal. -/
theorem ensures_rollback_publishing (before : BeforeUpgrade runtime start) {primary : InstallError}
    (journal : world.journal = some ⟨.publishing, journalPaths runtime⟩)
    (managed
      : Within (journalPaths runtime) (fun label => Managed label (start.paths label)) start.paths
          world.paths)
    : Ensures (rollbackUnixPublication runtime primary) world (fun _ => Sound runtime start)
        (fun _ => Sound runtime start) := by
  refine (ensures_rollbackUnixPublication (fun label => Kept label (start.paths label)) journal ?_ ?_ ?_
    managed).mono ?_ (fun _ _ sound => sound)
  · exact fun label member => handles_rollback (before.staged label member)
  · exact fun _ _ kept => kept.1
  · exact fun _ => .publishing
  · exact fun _ _ => False.elim

/-- A rollback under the `Committed` journal. -/
theorem ensures_rollback_committed (before : BeforeUpgrade runtime start) {primary : InstallError}
    (journal : world.journal = some ⟨.committed, journalPaths runtime⟩)
    (all
      : Within (journalPaths runtime) (fun label path => path = published (start.paths label))
          start.paths world.paths)
    : Ensures (rollbackUnixPublication runtime primary) world (fun _ => Sound runtime start)
        (fun _ => Sound runtime start) := by
  refine (ensures_rollbackUnixPublication (fun label => Undoing (start.paths label)) journal ?_ ?_ ?_
    all).mono ?_ (fun _ _ sound => sound)
  · exact fun label member => handles_rollback_committed (before.staged label member)
  · exact fun _ _ undoing => undoing.1
  · exact fun _ => .undoing
  · exact fun _ _ => False.elim

/-- What follows the commit. -/
theorem ensures_closePublications (before : BeforeUpgrade runtime start)
    (journal : world.journal = some ⟨.committed, journalPaths runtime⟩)
    (all
      : Within (journalPaths runtime) (fun label path => path = published (start.paths label))
          start.paths world.paths)
    : Ensures
        (onPaths (members closePublication (closingOrder runtime)) >>= fun _ =>
          removeInstallTransaction) world
        (fun _ => Sound runtime start) (fun _ => Sound runtime start) := by
  have handles
      : ∀ label ∈ journalPaths runtime,
          Handles (fun path => path = published (start.paths label)) (Settled label) (Replaced label)
            (closePublication label) := by
    intro label member
    cases label with
    | runtime => exact handles_discardBackup (by simp)
    | binary => exact handles_retainBackupAs before.binary
    | marker => exact handles_discardBackup (by simp)
  rw [ensures_bind]
  refine (ensures_onPaths_members start perm_closingOrder handles all).mono ?_ ?_
  · rintro - final ⟨same, replaced, settled⟩
    have removed : Sound runtime start { final with journal := none } :=
      .installed rfl (replaced.imp fun label member holds => ⟨holds.2.1, settled label member⟩)
    refine (ensures_removeInstallTransaction (by simp [same, journal])
      (.replaced (same.trans journal) replaced) removed).mono ?_ (fun _ _ sound => sound)
    rintro - final rfl
    exact removed
  · exact fun _ final cut => .replaced (cut.1.trans journal) cut.2

/-- However `replace_binary` ends. Witness: publication, commit and closing in turn, each with the
invariant of its paths.
-/
theorem ensures_replaceBinary (before : BeforeUpgrade runtime start)
    : Ensures (replaceBinary runtime) start (fun _ => Sound runtime start)
        (fun _ => Sound runtime start) := by
  have untouched : Sound runtime start start :=
    .restored before.journal (within_start fun _ _ => ⟨rfl, rfl⟩)
  have opened
      : Sound runtime start { start with journal := some ⟨.publishing, journalPaths runtime⟩ } :=
    .publishing rfl (within_start fun label member => (before.staged label member).managed.kept)
  rw [replaceBinary, ensures_bind]
  refine (ensures_writeInstallTransaction untouched opened).mono ?_ (fun _ _ sound => sound)
  rintro - _ rfl
  simp only [ensures_bind, ensures_attempt]
  have publishes
      : ∀ label ∈ journalPaths runtime,
          Handles (fun path => path = start.paths label)
            (fun path => path = published (start.paths label))
            (Managed label (start.paths label)) (publish label) :=
    fun label member => handles_publish (before.staged label member)
  refine Ensures.mono (ensures_onPaths_members start (List.Perm.refl _) publishes ?_) ?_ ?_
  · exact within_start fun _ _ => rfl
  · rintro - middle ⟨journal, managed, all⟩
    have all
        : Within (journalPaths runtime) (fun label path => path = published (start.paths label))
            start.paths middle.paths :=
      managed.imp fun label member _ => all label member
    have kept
        : Within (journalPaths runtime) (fun label => Kept label (start.paths label)) start.paths
            middle.paths :=
      managed.imp fun _ _ holds => holds.kept
    have replaced : Within (journalPaths runtime) Replaced start.paths middle.paths :=
      all.imp fun label _ same => same ▸ replaced_published (before.previous label)
    have written
        : Ensures (writeInstallTransaction ⟨.committed, journalPaths runtime⟩) middle
            (fun _ final => final = { middle with journal := some ⟨.committed, journalPaths runtime⟩ })
            (fun _ final =>
              final = middle
                ∨ final = { middle with journal := some ⟨.committed, journalPaths runtime⟩ }) :=
      ensures_writeInstallTransaction (.inl rfl) (.inr rfl)
    refine written.mono ?_ ?_
    · rintro - _ rfl
      exact ensures_bind.mp (ensures_closePublications before rfl all)
    · rintro (_ | primary) final (rfl | rfl)
      · exact .publishing journal kept
      · exact .replaced rfl replaced
      · exact ensures_rollback_publishing before journal managed
      · exact ensures_rollback_committed before rfl all
  · rintro (_ | primary) final ⟨journal, managed⟩
    · exact .publishing journal (managed.imp fun _ _ holds => holds.kept)
    · exact ensures_rollback_publishing before journal managed

/-- Removing staged files keeps what the paths have in common, if that does not depend on them. -/
theorem ensures_removeStaged {rest : Label → PathState → Prop}
    (put
      : ∀ label path version, rest label path → path.staged.isSome
        → rest label (path.put version .staged))
    (sound
      : ∀ final : InstallWorld, final.journal = world.journal
        → Within (journalPaths runtime) rest start.paths final.paths → Sound runtime start final)
    (within : Within (journalPaths runtime) rest start.paths world.paths)
    : Ensures (removeStaged runtime) world (fun _ => Sound runtime start)
        (fun _ => Sound runtime start) := by
  have handles
      : ∀ label ∈ journalPaths runtime,
          Handles (rest label) (fun _ => True) (rest label)
            (removePublishedPath label.kind .staged) :=
    fun label _ => handles_removeStaged (put label)
  refine (ensures_onPaths_failures start perm_stagedOrder handles within).mono ?_ ?_
  · exact fun _ final kept => sound final kept.1 kept.2.1
  · exact fun _ final kept => sound final kept.1 kept.2

theorem Sound.removeStaged (sound : Sound runtime start world)
    : Ensures (removeStaged runtime) world (fun _ => Sound runtime start)
        (fun _ => Sound runtime start) := by
  cases sound with
  | restored journal paths =>
      exact ensures_removeStaged (fun _ _ _ holds _ => holds)
        (fun _ same => .restored (same.trans journal)) paths
  | installed journal paths =>
      exact ensures_removeStaged (fun _ _ _ holds _ => holds)
        (fun _ same => .installed (same.trans journal)) paths
  | publishing journal paths =>
      exact ensures_removeStaged (fun _ _ version kept there => kept.put_staged there version)
        (fun _ same => .publishing (same.trans journal)) paths
  | replaced journal paths =>
      exact ensures_removeStaged (fun _ _ _ holds there => by simp [holds.1] at there)
        (fun _ same => .replaced (same.trans journal)) paths
  | undoing journal paths =>
      exact ensures_removeStaged (fun _ _ _ holds there => by simp [holds.2.1] at there)
        (fun _ same => .undoing (same.trans journal)) paths

/-- However the upgrade ends. -/
theorem ensures_applyArtifact (before : BeforeUpgrade runtime start)
    : Ensures (applyArtifact runtime) start (fun _ => Sound runtime start)
        (fun _ => Sound runtime start) := by
  simp only [applyArtifact, ensures_bind, ensures_attempt]
  refine (ensures_replaceBinary before).mono ?_ ?_
  · exact fun _ _ sound => ensures_pure.mpr sound
  · rintro (_ | error) final sound
    · exact sound
    · exact sound.removeStaged.mono (fun _ _ sound => ensures_fail.mpr sound) (fun _ _ sound => sound)

-----------------------------------------------------------------------------------------
-- What recovery makes of it
-----------------------------------------------------------------------------------------

/-- A state without a journal is atomic. -/
theorem Sound.atomic (sound : Sound runtime start world) (before : BeforeUpgrade runtime start)
    (journal : world.journal = none)
    : Atomic runtime start world := by
  have binary : Label.binary ∈ journalPaths runtime := by cases runtime <;> decide
  cases sound with
  | restored _ paths =>
      refine .inl ⟨fun label => ?_, (paths.1 _ binary).2⟩
      by_cases member : label ∈ journalPaths runtime
      · exact (paths.1 label member).1
      · rw [paths.2 label member]
  | installed _ paths =>
      refine .inr ⟨fun label member => (paths.1 label member).1, fun label absent => ?_, ?_⟩
      · rw [paths.2 label absent]
      · exact (paths.1 _ binary).2 rfl
  | publishing present _ => exact absurd (journal.symm.trans present) (by simp)
  | replaced present _ => exact absurd (journal.symm.trans present) (by simp)
  | undoing present _ => exact absurd (journal.symm.trans present) (by simp)

/-- The end of a recovery that has done with the paths. -/
theorem ensures_recovered (there : world.journal.isSome) (sound : Sound runtime start world)
    (removed : Sound runtime start { world with journal := none })
    : Ensures (removeInstallTransaction >>= fun _ => pure true) world
        (fun _ final => Sound runtime start final ∧ final.journal = none)
        (fun _ => Sound runtime start) := by
  simp only [ensures_bind, ensures_pure]
  refine (ensures_removeInstallTransaction there sound removed).mono ?_ (fun _ _ sound => sound)
  rintro - _ rfl
  exact ⟨removed, rfl⟩

/-- The recovery of a publication. -/
theorem ensures_recover_publishing (before : BeforeUpgrade runtime start)
    (journal : world.journal = some ⟨.publishing, journalPaths runtime⟩)
    (kept
      : Within (journalPaths runtime) (fun label => Kept label (start.paths label)) start.paths
          world.paths)
    (unambiguous : ∀ label ∈ journalPaths runtime, Unambiguous (world.paths label))
    : Ensures
        (recoverJournalPaths ⟨.publishing, journalPaths runtime⟩ >>= fun _ =>
          removeInstallTransaction >>= fun _ => pure true) world
        (fun _ final => Sound runtime start final ∧ final.journal = none)
        (fun _ => Sound runtime start) := by
  rw [ensures_bind]
  have safe
      : Within (journalPaths runtime)
          (fun label path => Kept label (start.paths label) path ∧ Unambiguous path) start.paths
          world.paths :=
    kept.imp fun label member kept => ⟨kept, unambiguous label member⟩
  refine (ensures_onPaths_members start (List.reverse_perm _)
    (fun label member => handles_rollbackJournalPath (before.staged label member)) safe).mono ?_ ?_
  · rintro - final ⟨same, kept, restored⟩
    refine ensures_recovered (by simp [same, journal]) (.publishing (same.trans journal) kept) ?_
    exact .restored rfl (kept.imp fun label member kept => ⟨restored label member, kept.1⟩)
  · exact fun _ final cut => .publishing (cut.1.trans journal) cut.2

/-- The checks of `finish_committed_journal`. -/
theorem ensures_finishCommittedJournal {paths : List Label} {done : InstallWorld → Prop}
    (now : kept world)
    (finish
      : (∀ label ∈ paths, (world.paths label).target.isSome)
        → Ensures (onPaths (members finishJournalPath paths)) world (fun _ => done) (fun _ => kept))
    : Ensures (finishCommittedJournal paths) world (fun _ => done) (fun _ => kept) := by
  simp only [finishCommittedJournal, ensures_bind, ensures_read]
  split
  next => exact ensures_fail.mpr now
  next none =>
    refine finish fun label member => ?_
    have passes := List.find?_eq_none.mp none label member
    cases there : (world.paths label).target with
    | none => simp [there] at passes
    | some version => rfl

/-- The recovery of a committed publication that was not rolled back. -/
theorem ensures_recover_replaced
    (journal : world.journal = some ⟨.committed, journalPaths runtime⟩)
    (replaced : Within (journalPaths runtime) Replaced start.paths world.paths)
    : Ensures
        (recoverJournalPaths ⟨.committed, journalPaths runtime⟩ >>= fun _ =>
          removeInstallTransaction >>= fun _ => pure true) world
        (fun _ final => Sound runtime start final ∧ final.journal = none)
        (fun _ => Sound runtime start) := by
  rw [ensures_bind]
  refine ensures_finishCommittedJournal (.replaced journal replaced) fun _ => ?_
  refine (ensures_onPaths_members start (List.Perm.refl _)
    (fun label _ => handles_finishJournalPath) replaced).mono ?_ ?_
  · rintro - final ⟨same, replaced, settled⟩
    refine ensures_recovered (by simp [same, journal]) (.replaced (same.trans journal) replaced) ?_
    exact .installed rfl (replaced.imp fun label member holds => ⟨holds.2.1, settled label member⟩)
  · exact fun _ final cut => .replaced (cut.1.trans journal) cut.2

/-- A path whose publication is being undone and that has the new target is as it was published. -/
theorem Undoing.replaced {label : Label} {start path : PathState} (undoing : Undoing start path)
    (staged : Staged start) (previous : label = .binary → start.target = some .old)
    (target : path.target = some .new)
    : Replaced label path := by
  refine ⟨undoing.2.1, target, fun binary => .inl ?_⟩
  rcases undoing.2.2 with ⟨backup, -⟩ | ⟨same, -⟩
  · exact backup.trans (previous binary)
  · rw [target] at same
    rcases staged.target with absent | old
    · exact absurd (same.trans absent) (by simp)
    · exact absurd (same.trans old) (by simp)

/-- A path whose publication is undone has the old target and no backup. -/
theorem Undoing.undone {start path : PathState} (undoing : Undoing start path)
    (target : path.target = some .old)
    : path.target = start.target ∧ path.backup = none := by
  rcases undoing.2.2 with ⟨-, different⟩ | undone
  · exact absurd target different
  · exact undone

/-- The recovery of a publication that was undone as a whole after its commit. -/
theorem ensures_recover_undone (journal : world.journal = some ⟨.committed, journalPaths runtime⟩)
    (undoing
      : Within (journalPaths runtime) (fun label => Undoing (start.paths label)) start.paths
          world.paths)
    (old : ∀ label ∈ journalPaths runtime, (world.paths label).target = some .old)
    : Ensures
        (recoverJournalPaths ⟨.committed, journalPaths runtime⟩ >>= fun _ =>
          removeInstallTransaction >>= fun _ => pure true) world
        (fun _ final => Sound runtime start final ∧ final.journal = none)
        (fun _ => Sound runtime start) := by
  have untouched
      : Within (journalPaths runtime)
          (fun label path => path.backup = none ∧ path = world.paths label) start.paths world.paths :=
    undoing.imp fun label member undoing => ⟨(undoing.undone (old label member)).2, rfl⟩
  have undoing_of {final : InstallWorld}
      (same
        : Within (journalPaths runtime) (fun label path => path = world.paths label) start.paths
            final.paths)
      : Within (journalPaths runtime) (fun label => Undoing (start.paths label)) start.paths
          final.paths :=
    same.imp fun label member same => same ▸ undoing.1 label member
  rw [ensures_bind]
  refine ensures_finishCommittedJournal (.undoing journal undoing) fun _ => ?_
  refine (ensures_onPaths_members start (List.Perm.refl _)
    (fun label _ => handles_finishJournalPath_undone) untouched).mono ?_ ?_
  · rintro - final ⟨same, within, -⟩
    refine ensures_recovered (by simp [same, journal])
      (.undoing (same.trans journal) (undoing_of within)) ?_
    refine .restored rfl (within.imp fun label member same => ?_)
    rw [same]
    have undoing := undoing.1 label member
    exact ⟨(undoing.undone (old label member)).1, undoing.1⟩
  · exact fun _ final cut => .undoing (cut.1.trans journal) (undoing_of cut.2)

/-- Recovery keeps a sound state sound however it ends, and removes the journal where it ends well.
Witness: by cases on the state that the interruption left.
-/
theorem ensures_recoverInterruptedInstall (before : BeforeUpgrade runtime start)
    (sound : Sound runtime start world) (guarded : Guarded world)
    : Ensures recoverInterruptedInstall world
        (fun _ final => Sound runtime start final ∧ final.journal = none)
        (fun _ => Sound runtime start) := by
  have reads {journal : Journal} (there : world.journal = some journal)
      (rest
        : Ensures
            (recoverJournalPaths journal >>= fun _ => removeInstallTransaction >>= fun _ => pure true)
            world (fun _ final => Sound runtime start final ∧ final.journal = none)
            (fun _ => Sound runtime start))
      : Ensures recoverInterruptedInstall world
          (fun _ final => Sound runtime start final ∧ final.journal = none)
          (fun _ => Sound runtime start) := by
    simp only [recoverInterruptedInstall, ensures_bind, ensures_read, there, ensures_operation]
    refine ⟨sound, sound, fun _ same => ?_⟩
    obtain rfl := Option.some.inj same
    simpa only [ensures_bind] using rest
  have whole := sound
  cases sound with
  | restored journal paths => simp [recoverInterruptedInstall, journal, whole]
  | installed journal paths => simp [recoverInterruptedInstall, journal, whole]
  | publishing journal kept =>
      refine reads journal (ensures_recover_publishing before journal kept ?_)
      simpa [Guarded, journal] using guarded
  | replaced journal replaced => exact reads journal (ensures_recover_replaced journal replaced)
  | undoing journal undoing =>
      refine reads journal ?_
      by_cases present : ∀ label ∈ journalPaths runtime, (world.paths label).target.isSome
      · simp only [Guarded, journal] at guarded
        rcases guarded present with new | old
        · refine ensures_recover_replaced journal (undoing.imp fun label member undoing => ?_)
          exact undoing.replaced (before.staged label member) (before.previous label)
            (new label member)
        · exact ensures_recover_undone journal undoing old
      · rw [ensures_bind]
        exact ensures_finishCommittedJournal whole fun all => absurd all present

/-- Every state that the upgrade and its recoveries leave is sound. Witness: by induction on the runs. -/
theorem Interrupted.sound (before : BeforeUpgrade runtime start)
    (reached : Interrupted Guarded runtime start world)
    : Sound runtime start world := by
  induction reached with
  | upgrade ran => exact (ensures_applyArtifact before).final ran
  | recovery _ may ran ih =>
      have ensured := ensures_recoverInterruptedInstall before ih may
      exact (ensured.mono (fun _ _ done => done.1) (fun _ _ sound => sound)).final ran

/-- Once a recovery runs to its end, the upgrade has happened whole or not at all, however often it and the
recoveries before were interrupted, as long as recovery never starts where it would misread the files.
-/
theorem recovery_atomic {recovered : InstallWorld} {found : Bool}
    (before : BeforeUpgrade runtime start) (reached : Interrupted Guarded runtime start world)
    (guarded : Guarded world) (ran : (.done found, recovered) ∈ recoverInterruptedInstall world)
    : Atomic runtime start recovered := by
  obtain ⟨sound, journal⟩ :=
    (ensures_recoverInterruptedInstall before (reached.sound before) guarded).of_done ran
  exact sound.atomic before journal

end Steps

-----------------------------------------------------------------------------------------
-- Two interruptions
-----------------------------------------------------------------------------------------

/-- An installed binary and marker, and the new ones staged. -/
def stagedUpgrade : InstallWorld where
  journal := none
  paths _ := ⟨some .new, some .old, none, none, false, false, false⟩

/-- The process died when it had written its journal. -/
def openedUpgrade : InstallWorld :=
  { stagedUpgrade with journal := some ⟨.publishing, [.binary, .marker]⟩ }

/-- A recovery died when it was done with the marker. -/
def cutOffRecovery : InstallWorld :=
  { openedUpgrade with
    paths := Function.update openedUpgrade.paths .marker
      { openedUpgrade.paths .marker with staged := none } }

theorem beforeUpgrade_staged : BeforeUpgrade false stagedUpgrade where
  journal := rfl
  staged _ _ := ⟨rfl, .inr rfl, rfl, rfl, rfl, rfl⟩
  binary := rfl

theorem opened_of_upgrade : (.died, openedUpgrade) ∈ applyArtifact false stagedUpgrade :=
  List.mem_of_getElem? (i := 16) rfl

/-- The first recovery, where nothing interrupts it. -/
theorem recovery_restores
    : ∃ recovered,
        (.done true, recovered) ∈ recoverInterruptedInstall openedUpgrade
        ∧ Atomic false stagedUpgrade recovered := by
  have reached : Interrupted Guarded false stagedUpgrade openedUpgrade := .upgrade opened_of_upgrade
  have guarded : Guarded openedUpgrade := by
    simp [Guarded, openedUpgrade, stagedUpgrade, Unambiguous]
  refine ⟨_, List.mem_of_getElem? (i := 14) rfl, ?_⟩
  exact recovery_atomic beforeUpgrade_staged reached guarded (List.mem_of_getElem? (i := 14) rfl)

/-- The second recovery removes the marker that the first had left alone. -/
theorem recovery_removes
    : Interrupted (fun _ => True) false stagedUpgrade cutOffRecovery
      ∧ ∃ recovered,
          (.done true, recovered) ∈ recoverInterruptedInstall cutOffRecovery
          ∧ ¬Atomic false stagedUpgrade recovered := by
  have opened : Interrupted (fun _ => True) false stagedUpgrade openedUpgrade :=
    .upgrade opened_of_upgrade
  have cut : (.died, cutOffRecovery) ∈ recoverInterruptedInstall openedUpgrade :=
    List.mem_of_getElem? (i := 4) rfl
  refine ⟨opened.recovery trivial cut, _, List.mem_of_getElem? (i := 14) rfl, ?_⟩
  rintro (⟨old, -⟩ | ⟨new, -⟩)
  · exact absurd (old .marker) (by decide)
  · exact absurd (new .binary (by decide)) (by decide)

end CtxRemote.Upgrade
