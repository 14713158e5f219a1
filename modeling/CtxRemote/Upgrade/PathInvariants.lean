import CtxRemote.Upgrade.PublishedPath

/-! What the steps of an upgrade and of its recovery keep of one path. -/

namespace CtxRemote.Upgrade
open CtxRemote.Library CtxRemote.Library.Interruptible

/-- A path before the upgrade publishes it. -/
structure Staged (path : PathState) : Prop where
  staged : path.staged = some .new
  target : path.target = none ∨ path.target = some .old
  backup : path.backup = none
  linked : path.linked = false
  hadPrevious : path.hadPrevious = false
  published : path.published = false

/-- The path after `publish`. -/
def published (start : PathState) : PathState :=
  { start with
    staged := none
    target := some .new
    backup := start.target
    hadPrevious := start.target.isSome
    published := true }

/-- The previous target, or that there was none, can still be told: it is in place, or the backup
says it. -/
def Kept (label : Label) (start path : PathState) : Prop :=
  path.durable = start.durable
    ∧ ((path.target = start.target
        ∧ (start.target = none ∨ label.kind = .directory → path.backup = none))
      ∨ (path.backup = start.target ∧ (path.target.isSome → path.staged = none)))

/-- Recovery takes the target of a path without its staged file for the new version. -/
def Unambiguous (path : PathState) : Prop :=
  path.staged = none → path.target = some .old → path.backup = some .old

/-- What the publishing process knows of a path while its journal says `Publishing`. -/
inductive Managed (label : Label) (start : PathState) : PathState → Prop
  | waiting {path} (durable : path.durable = start.durable) (target : path.target = start.target)
    (backup : start.target = none ∨ label.kind = .directory → path.backup = none)
    (hadPrevious : path.hadPrevious = false) (unpublished : path.published = false)
    : Managed label start path
  | backedUp {path} (durable : path.durable = start.durable) (previous : start.target = some .old)
    (backup : path.backup = some .old)
    (target : path.target = if label.kind = .file then some .old else none)
    (hadPrevious : path.hadPrevious = true) (unpublished : path.published = false)
    : Managed label start path
  | published : Managed label start (published start)

/-- A path whose publication is being undone although its journal says `Committed`. -/
def Undoing (start path : PathState) : Prop :=
  path.durable = start.durable ∧ path.staged = none
    ∧ ((path.backup = start.target ∧ path.target ≠ some .old)
      ∨ (path.target = start.target ∧ path.backup = none))

-----------------------------------------------------------------------------------------
-- File operations
-----------------------------------------------------------------------------------------

section Operations

variable {path : PathState} {kept done : PathState → Prop} {kind : PublishedPathKind} {place : Place}

theorem ensures_removePublishedPath (now : kept path)
    (partly : kind = .directory → (path.file place).isSome → kept (path.put (some .fragment) place))
    (finished : done (path.put none place))
    : Ensures (removePublishedPath kind place) path (fun _ => done) (fun _ => kept) := by
  cases there : path.file place <;> cases kind <;>
    simp_all [removePublishedPath]

theorem ensures_removeJournalPath (now : kept path)
    (partly : kind = .directory → (path.file place).isSome → kept (path.put (some .fragment) place))
    (finished : done (path.put none place)) (absent : path.file place = none → done path)
    : Ensures (removeJournalPath kind place) path (fun _ => done) (fun _ => kept) := by
  simp only [removeJournalPath, ensures_bind, ensures_read, ensures_ite, ensures_pure]
  refine ⟨fun _ => ensures_removePublishedPath now partly finished, fun missing => absent ?_⟩
  exact Option.not_isSome_iff_eq_none.mp missing

theorem ensures_rename {source destination : Place} (now : kept path)
    (apart : path.linked = false ∨ source ≠ .backup ∨ destination ≠ .target ∨ path.target = none)
    (finished
      : ∀ version, path.file source = some version
        → done ((path.put none source).put (some version) destination))
    : Ensures (rename kind source destination) path (fun _ => done) (fun _ => kept) := by
  cases there : path.file source with
  | none => simp [rename, there, now]
  | some version =>
      have different
          : ¬(path.linked ∧ source = .backup ∧ destination = .target ∧ path.target.isSome) := by
        rintro ⟨linked, rfl, rfl, present⟩
        simp_all
      simp only [rename, ensures_operation, there, if_neg different]
      refine ⟨now, now, fun final result => ?_⟩
      split at result
      · exact absurd result (by simp)
      · obtain rfl := Option.some.inj result
        exact finished version there

theorem ensures_syncDirectory (now : kept path) (finished : done path)
    : Ensures syncDirectory path (fun _ => done) (fun _ => kept) := by
  simp [syncDirectory, now, finished]

end Operations

-----------------------------------------------------------------------------------------
-- Recovery
-----------------------------------------------------------------------------------------

section Recovery

variable {label : Label} {start path : PathState}

/-- A path that lost neither its staged file nor its backup, or only both, is as the upgrade found it. -/
theorem Kept.target_eq (kept : Kept label start path) (missing : path.backup = none)
    (either : path.target = none ∨ path.staged.isSome)
    : path.target = start.target := by
  rcases kept.2 with ⟨target, -⟩ | ⟨backup, gone⟩
  · exact target
  · have absent : path.target = none := by
      rcases either with absent | present
      · exact absent
      · by_contra there
        rw [gone (Option.isSome_iff_ne_none.mpr there)] at present
        exact absurd present (by simp)
    rw [absent, ← backup, missing]

/-- A backup that is the last trace of the previous target is that target. -/
theorem Kept.backup_eq (kept : Kept label start path) (staged : Staged start)
    {version : Version} (there : path.backup = some version)
    (either : path.target = none ∨ path.staged = none ∧ Unambiguous path)
    : start.target = some .old ∧ version = .old := by
  have previous : start.target = some .old := by
    rcases staged.target with absent | previous
    · rcases kept.2 with ⟨-, backup⟩ | ⟨backup, -⟩
      · exact absurd ((backup (.inl absent)).symm.trans there) (by simp)
      · exact absurd ((backup.trans absent).symm.trans there) (by simp)
    · exact previous
  refine ⟨previous, ?_⟩
  rcases kept.2 with ⟨target, -⟩ | ⟨backup, -⟩
  · rcases either with absent | ⟨gone, unambiguous⟩
    · exact absurd ((target.trans previous).symm.trans absent) (by simp)
    · exact Option.some.inj (there.symm.trans (unambiguous gone (target.trans previous)))
  · exact Option.some.inj (there.symm.trans (backup.trans previous))

/-- What is left of the staged file says nothing about a path that has it. -/
theorem Kept.put_staged (kept : Kept label start path) (there : path.staged.isSome)
    (version : Option Version)
    : Kept label start (path.put version .staged) := by
  refine ⟨kept.1, kept.2.imp id ?_⟩
  rintro ⟨backup, gone⟩
  refine ⟨backup, fun target => ?_⟩
  rw [gone target] at there
  exact absurd there (by simp)

/-- Removing the published target leaves the backup to tell. -/
theorem Kept.put_target (kept : Kept label start path) (backup : path.backup = start.target)
    (gone : path.staged = none) (version : Option Version)
    : Kept label start (path.put version .target) :=
  ⟨kept.1, .inr ⟨backup, fun _ => gone⟩⟩

/-- A target back in its place. -/
theorem Kept.restored (durable : path.durable = start.durable) (target : path.target = start.target)
    (backup : path.backup = none)
    : Kept label start path :=
  ⟨durable, .inl ⟨target, fun _ => backup⟩⟩

/-- Recovery restores the target of an unambiguous path. Witness: by cases on the files that exist, as the
source has them.
-/
theorem handles_restoreTarget (staged : Staged start)
    : Handles (fun path => Kept label start path ∧ Unambiguous path)
        (fun path => path.target = start.target) (Kept label start) (restoreTarget label) := by
  rintro path ⟨kept, unambiguous⟩
  refine ⟨kept, ?_⟩
  simp only [restoreTarget, ensures_bind, ensures_read, ensures_ite, ensures_pure]
  refine ⟨fun backup => ⟨fun waiting => ⟨fun there => ?_, fun missing => ?_⟩, fun gone => ?_⟩,
    fun missing => ⟨?_, fun unpublished => ?_⟩⟩
  · -- The staged file is there: an existing target is the old one.
    have target : path.target = start.target := by
      rcases kept.2 with ⟨target, -⟩ | ⟨-, gone⟩
      · exact target
      · rw [gone there] at waiting
        exact absurd waiting (by simp)
    have finished : Kept label start (path.put none .backup) := .restored kept.1 target rfl
    split
    · exact ensures_removeJournalPath kept (by simp) ⟨target, finished⟩ (fun _ => ⟨target, kept⟩)
    · exact ensures_fail.mpr kept
  · obtain ⟨version, backup⟩ := Option.isSome_iff_exists.mp backup
    have missing := Option.not_isSome_iff_eq_none.mp missing
    obtain ⟨previous, rfl⟩ := kept.backup_eq staged backup (.inl missing)
    refine ensures_rename kept (.inr (.inr (.inr missing))) fun version there => ?_
    obtain rfl := Option.some.inj (backup.symm.trans there)
    exact ⟨previous.symm, .restored kept.1 previous.symm rfl⟩
  · obtain ⟨version, backup⟩ := Option.isSome_iff_exists.mp backup
    have gone := Option.not_isSome_iff_eq_none.mp gone
    obtain ⟨previous, rfl⟩ := kept.backup_eq staged backup (.inr ⟨gone, unambiguous⟩)
    have removed (version : Option Version) : Kept label start (path.put version .target) :=
      kept.put_target (backup.trans previous.symm) gone version
    have restored (path : PathState) (kept : Kept label start path) (missing : path.target = none)
        (backup : path.backup = some .old)
        : Ensures (rename label.kind .backup .target) path
            (fun _ final => final.target = start.target ∧ Kept label start final)
            (fun _ => Kept label start) := by
      refine ensures_rename kept (.inr (.inr (.inr missing))) fun version there => ?_
      obtain rfl := Option.some.inj (backup.symm.trans there)
      exact ⟨previous.symm, .restored kept.1 previous.symm rfl⟩
    refine ⟨fun there => ?_, fun missing => ?_⟩
    · refine ensures_removeJournalPath kept (fun _ _ => removed _) ?_ ?_
      · exact restored _ (removed none) rfl backup
      · exact fun absent => absurd absent (Option.isSome_iff_ne_none.mp there)
    · exact restored path kept (Option.not_isSome_iff_eq_none.mp missing) backup
  · rintro ⟨gone, there⟩
    have missing := Option.not_isSome_iff_eq_none.mp missing
    have gone := Option.isNone_iff_eq_none.mp gone
    have none : start.target = none := by
      rcases kept.2 with ⟨target, -⟩ | ⟨backup, -⟩
      · rcases staged.target with absent | previous
        · exact absent
        · exact absurd (missing.symm.trans (unambiguous gone (target.trans previous))) (by simp)
      · exact backup.symm.trans missing
    have backup := missing.trans none.symm
    refine ensures_removeJournalPath kept (fun _ _ => kept.put_target backup gone _)
      ⟨none.symm, kept.put_target backup gone _⟩ fun absent => ?_
    exact absurd absent (Option.isSome_iff_ne_none.mp there)
  · have missing := Option.not_isSome_iff_eq_none.mp missing
    refine ⟨kept.target_eq missing ?_, kept⟩
    cases waiting : path.staged with
    | some version => exact .inr rfl
    | none => exact .inl (by simpa [waiting] using unpublished)

/-- The whole body of the loop. Witness: what is left of the staged file does not matter once the target
is restored.
-/
theorem handles_rollbackJournalPath (staged : Staged start)
    : Handles (fun path => Kept label start path ∧ Unambiguous path)
        (fun path => path.target = start.target) (Kept label start) (rollbackJournalPath label) := by
  intro path safe
  obtain ⟨kept, restores⟩ := handles_restoreTarget staged path safe
  refine ⟨kept, ?_⟩
  rw [rollbackJournalPath, ensures_bind]
  refine restores.mono (fun _ path restored => ?_) (fun _ _ kept => kept)
  obtain ⟨target, kept⟩ := restored
  have sync (path : PathState) (target : path.target = start.target) (kept : Kept label start path)
      : Ensures syncDirectory path
          (fun _ final => final.target = start.target ∧ Kept label start final)
          (fun _ => Kept label start) :=
    ensures_syncDirectory kept ⟨target, kept⟩
  simp only [ensures_bind, ensures_read, ensures_ite]
  refine ⟨fun there => ?_, fun _ => sync path target kept⟩
  refine ensures_removeJournalPath kept (fun _ _ => kept.put_staged there _) ?_ ?_
  · exact sync _ target (kept.put_staged there _)
  · exact fun _ => sync path target kept

end Recovery

-----------------------------------------------------------------------------------------
-- The publishing process
-----------------------------------------------------------------------------------------

section Publishing

variable {label : Label} {start path : PathState}

/-- A path whose previous target the process has backed up. -/
def withBackup (label : Label) (start : PathState) (linked : Bool) : PathState :=
  { start with
    target := if label.kind = .file then some .old else none
    backup := some .old
    linked := linked
    hadPrevious := true }

theorem Managed.kept (managed : Managed label start path) : Kept label start path := by
  cases managed with
  | waiting durable target backup _ _ => exact ⟨durable, .inl ⟨target, backup⟩⟩
  | backedUp durable previous backup target _ _ =>
      refine ⟨durable, ?_⟩
      split at target
      next file => exact .inl ⟨target.trans previous.symm, by simp [previous, file]⟩
      next => exact .inr ⟨backup.trans previous.symm, by simp [target]⟩
  | published => exact ⟨rfl, .inr ⟨rfl, fun _ => rfl⟩⟩

theorem Staged.managed (staged : Staged start) : Managed label start start :=
  .waiting rfl rfl (fun _ => staged.backup) staged.hadPrevious staged.published

/-- A file is linked or copied. -/
theorem ensures_backupFileForAtomicReplace (staged : Staged start) (previous : start.target = some .old)
    (file : label.kind = .file)
    : Ensures backupFileForAtomicReplace start
        (fun _ path => { path with hadPrevious := true } = withBackup label start path.linked)
        (fun _ => Managed label start) := by
  have waiting (backup : Option Version)
      : Managed label start { start with backup := backup, linked := false } :=
    .waiting rfl rfl (by simp [previous, file]) staged.hadPrevious staged.published
  have linked (linked : Bool)
      : { start with backup := some .old, linked := linked, hadPrevious := true }
        = withBackup label start linked := by
    simp [withBackup, file, previous]
  have synced
      : Ensures syncDirectory { start with backup := some .old, linked := false }
          (fun _ path => { path with hadPrevious := true } = withBackup label start path.linked)
          (fun _ => Managed label start) :=
    ensures_syncDirectory (waiting _) (linked _)
  simp only [previous] at waiting linked synced
  simp [backupFileForAtomicReplace, hardLink, copy, previous, staged.backup, staged.managed, waiting,
    linked, synced]

/-- The previous target is in the backup. -/
theorem ensures_backUpTarget (staged : Staged start) (previous : start.target = some .old)
    : Ensures (backUpTarget label) start (fun _ path => ∃ linked, path = withBackup label start linked)
        (fun _ => Managed label start) := by
  have finish (path : PathState)
      (backed : { path with hadPrevious := true } = withBackup label start path.linked)
      : Ensures (note (fun path => { path with hadPrevious := true }) >>= fun _ => syncDirectory) path
          (fun _ path => ∃ linked, path = withBackup label start linked)
          (fun _ => Managed label start) := by
    rw [ensures_bind, ensures_note, backed]
    exact ensures_syncDirectory (.backedUp rfl previous rfl rfl rfl staged.published) ⟨_, rfl⟩
  rw [backUpTarget]
  split
  next file =>
    rw [ensures_bind]
    exact (ensures_backupFileForAtomicReplace staged previous file).mono (fun _ => finish)
      (fun _ _ managed => managed)
  next directory =>
    rw [ensures_bind]
    have renamed
        : Ensures (rename .directory .target .backup) start
            (fun _ path => { path with hadPrevious := true } = withBackup label start path.linked)
            (fun _ => Managed label start) := by
      refine ensures_rename staged.managed (.inl staged.linked) fun version there => ?_
      obtain rfl := Option.some.inj (previous.symm.trans there)
      simp [withBackup, directory]
    exact renamed.mono (fun _ => finish) (fun _ _ managed => managed)

theorem Managed.of_backedUp (staged : Staged start) (previous : start.target = some .old)
    (linked : Bool)
    : Managed label start (withBackup label start linked) :=
  .backedUp rfl previous rfl rfl rfl staged.published

/-- `publish` puts the new version in place. Witness: the previous target, if there is one, is in the
backup before the staged file is renamed.
-/
theorem handles_publish (staged : Staged start)
    : Handles (fun path => path = start) (fun path => path = published start) (Managed label start)
        (publish label) := by
  rintro path same
  rw [same]
  refine ⟨staged.managed, ?_⟩
  have place (path : PathState) (managed : Managed label start path)
      (waiting : path.staged = some .new)
      (rest : { path with staged := none, target := some .new, linked := false, published := true }
        = published start)
      : Ensures
          (rename label.kind .staged .target >>= fun _ =>
            note fun path => { path with published := true }) path
          (fun _ path => path = published start ∧ Managed label start path)
          (fun _ => Managed label start) := by
    rw [ensures_bind]
    have renamed
        : Ensures (rename label.kind .staged .target) path
            (fun _ path => { path with published := true } = published start)
            (fun _ => Managed label start) := by
      refine ensures_rename managed (.inr (.inl (by simp))) fun version there => ?_
      obtain rfl := Option.some.inj (waiting.symm.trans there)
      exact rest
    refine renamed.mono (fun _ path rest => ?_) (fun _ _ managed => managed)
    rw [ensures_note]
    exact ⟨rest, rest ▸ .published⟩
  simp only [publish, ensures_bind, ensures_read, ensures_ite, ensures_fail]
  refine ⟨fun backup => ?_, fun _ => ?_⟩
  · rw [staged.backup] at backup
    exact absurd backup (by simp)
  · refine ⟨fun there => ?_, fun missing => ?_⟩
    · have previous := staged.target.resolve_left (Option.isSome_iff_ne_none.mp there)
      refine (ensures_backUpTarget staged previous).mono ?_ (fun _ _ managed => managed)
      rintro - path ⟨linked, rfl⟩
      refine ensures_bind.mp (place _ (.of_backedUp staged previous linked) staged.staged ?_)
      simp [withBackup, published, previous, staged.linked]
    · have missing := Option.not_isSome_iff_eq_none.mp missing
      refine ensures_bind.mp (place start staged.managed staged.staged ?_)
      simp [published, missing, staged.linked, staged.backup, staged.hadPrevious]

section Rollback

variable {kept : PathState → Prop}

theorem ensures_restoreBackup (now : kept path)
    (idle : path.hadPrevious = false → path.target = start.target)
    (backup : path.hadPrevious → path.backup = start.target)
    (linked
      : path.hadPrevious → path.linked → path.target.isSome
        → path.target = start.target ∧ kept { path with hadPrevious := false })
    (finished
      : kept { path with
          backup := none, target := start.target, linked := false, hadPrevious := false })
    : Ensures (restoreBackup label) path (fun _ path => path.target = start.target ∧ kept path)
        (fun _ => kept) := by
  simp only [restoreBackup, ensures_bind, ensures_read, ensures_ite, ensures_note, ensures_pure]
  refine ⟨fun hadPrevious => ?_, fun none => ⟨idle (Bool.not_eq_true _ ▸ none), now⟩⟩
  by_cases one : path.linked ∧ path.target.isSome
  · have restored := linked hadPrevious one.1 one.2
    cases there : path.backup with
    | none => simp [rename, there, now]
    | some version => simpa [rename, there, now, one.1, one.2] using restored
  · refine ensures_rename now ?_ fun version there => ?_
    · rcases Bool.eq_false_or_eq_true path.linked with linked | apart
      · exact .inr (.inr (.inr (by simpa [linked] using one)))
      · exact .inl apart
    · have same : start.target = some version := (backup hadPrevious).symm.trans there
      exact ⟨same.symm, by simpa [same] using finished⟩

/-- Undoing a publication, whatever invariant it keeps on the way. -/
theorem ensures_rollback_published (staged : Staged start)
    (kept_of
      : ∀ path, path.durable = start.durable → path.staged = none
        → (path.backup = start.target ∧ path.target ≠ some .old
          ∨ path.target = start.target ∧ path.backup = none)
        → kept path)
    : Ensures (rollback label) (published start) (fun _ path => path.target = start.target ∧ kept path)
        (fun _ => kept) := by
  have previous_ne : start.target ≠ some .new := by
    rcases staged.target with absent | previous
    · simp [absent]
    · simp [previous]
  simp only [rollback, ensures_bind, ensures_read, ensures_ite, ensures_note]
  refine ⟨fun _ => ?_, fun no => absurd ⟨rfl, rfl⟩ no⟩
  change Ensures _ _ (fun _ (path : PathState) =>
    Ensures (restoreBackup label) { path with published := false }
      (fun _ path => path.target = start.target ∧ kept path) fun _ => kept) _
  refine ensures_removePublishedPath ?_ (fun _ _ => ?_) ?_
  · exact kept_of _ rfl rfl (.inl ⟨rfl, by simp [published]⟩)
  · exact kept_of _ rfl rfl (.inl ⟨rfl, by simp [published]⟩)
  · refine ensures_restoreBackup (kept_of _ rfl rfl (.inl ⟨rfl, by simp [published]⟩)) ?_ (fun _ => rfl)
      (by simp) (kept_of _ rfl rfl (.inr ⟨rfl, rfl⟩))
    intro none
    have missing : start.target = Option.none := by simpa [published] using none
    exact missing.symm

/-- Undoing what the process did of a publication. -/
theorem handles_rollback (staged : Staged start)
    : Handles (Managed label start) (fun path => path.target = start.target) (Kept label start)
        (rollback label) := by
  intro path managed
  refine ⟨managed.kept, ?_⟩
  cases managed with
  | waiting durable target backup hadPrevious unpublished =>
      have kept : Kept label start path := ⟨durable, .inl ⟨target, backup⟩⟩
      simp [rollback, restoreBackup, unpublished, hadPrevious, target, kept]
  | backedUp durable previous backup target hadPrevious unpublished =>
      have kept := (Managed.backedUp durable previous backup target hadPrevious unpublished).kept
      have linked
          : path.target.isSome
            → path.target = start.target ∧ Kept label start { path with hadPrevious := false } := by
        intro there
        split at target
        next file => exact ⟨target.trans previous.symm, kept⟩
        next => exact absurd there (by simp [target])
      have restored
          : Ensures (restoreBackup label) path
              (fun _ path => path.target = start.target ∧ Kept label start path)
              (fun _ => Kept label start) :=
        ensures_restoreBackup kept (by simp [hadPrevious]) (fun _ => backup.trans previous.symm)
          (fun _ _ => linked) (.restored durable rfl rfl)
      simpa [rollback, unpublished] using restored
  | published =>
      refine ensures_rollback_published staged fun path durable gone either => ?_
      rcases either with ⟨backup, -⟩ | ⟨target, backup⟩
      · exact ⟨durable, .inr ⟨backup, fun _ => gone⟩⟩
      · exact .restored durable target backup

/-- The same where the journal says `Committed`. -/
theorem handles_rollback_committed (staged : Staged start)
    : Handles (fun path => path = published start) (fun path => path.target = start.target)
        (Undoing start) (rollback label) := by
  rintro path same
  rw [same]
  refine ⟨⟨rfl, rfl, .inl ⟨rfl, by simp [published]⟩⟩, ?_⟩
  exact ensures_rollback_published staged fun path durable gone either => ⟨durable, gone, either⟩

end Rollback

end Publishing

-----------------------------------------------------------------------------------------
-- After the commit
-----------------------------------------------------------------------------------------

section Committed

variable {label : Label} {start path : PathState}

/-- The new version is in place, and the previous binary in its backup or at the durable path. -/
def Replaced (label : Label) (path : PathState) : Prop :=
  path.staged = none ∧ path.target = some .new
    ∧ (label = .binary
      → path.backup = some .old ∨ path.backup = none ∧ path.durable = some .old)

theorem replaced_published (previous : label = .binary → start.target = some .old)
    : Replaced label (published start) :=
  ⟨rfl, rfl, fun binary => .inl (previous binary)⟩

theorem Replaced.put_backup (replaced : Replaced label path) (other : label ≠ .binary)
    (version : Option Version)
    : Replaced label (path.put version .backup) :=
  ⟨replaced.1, replaced.2.1, fun binary => absurd binary other⟩

/-- The previous binary goes to the durable path, once what lies there is removed. -/
theorem ensures_retainJournalBinaryBackup (replaced : Replaced .binary path)
    (backup : path.backup = some .old)
    : Ensures retainJournalBinaryBackup path
        (fun _ path => path.durable = some .old ∧ Replaced .binary path)
        (fun _ => Replaced .binary) := by
  have renames (path : PathState) (replaced : Replaced .binary path) (backup : path.backup = some .old)
      : Ensures (rename .file .backup .durable) path
          (fun _ path => path.durable = some .old ∧ Replaced .binary path)
          (fun _ => Replaced .binary) := by
    refine ensures_rename replaced (.inr (.inr (.inl (by simp)))) fun version there => ?_
    obtain rfl := Option.some.inj (backup.symm.trans there)
    exact ⟨rfl, replaced.1, replaced.2.1, fun _ => .inr ⟨rfl, rfl⟩⟩
  simp only [retainJournalBinaryBackup, ensures_bind, ensures_read, ensures_ite]
  refine ⟨fun _ => ?_, fun _ => renames path replaced backup⟩
  have emptied : Replaced .binary (path.put none .durable) :=
    ⟨replaced.1, replaced.2.1, fun _ => .inl backup⟩
  exact ensures_removePublishedPath replaced (by simp) (renames _ emptied backup)

/-- What is durable of a path that recovery or the process has finished. -/
def Settled (label : Label) (path : PathState) : Prop :=
  label = .binary → path.durable = some .old

theorem handles_finishJournalPath
    : Handles (Replaced label) (Settled label) (Replaced label) (finishJournalPath label) := by
  intro path replaced
  refine ⟨replaced, ?_⟩
  have sync (path : PathState) (settled : Settled label path) (replaced : Replaced label path)
      : Ensures syncDirectory path (fun _ path => Settled label path ∧ Replaced label path)
          (fun _ => Replaced label) :=
    ensures_syncDirectory replaced ⟨settled, replaced⟩
  simp only [finishJournalPath, ensures_bind, ensures_read, ensures_ite, ensures_pure]
  refine ⟨fun there => ?_, fun missing => ⟨fun binary => ?_, replaced⟩⟩
  · have discarded (other : label ≠ .binary)
        : Ensures (removeJournalPath label.kind .backup) path
            (fun _ path => Ensures syncDirectory path
              (fun _ path => Settled label path ∧ Replaced label path) (fun _ => Replaced label))
            (fun _ => Replaced label) := by
      refine ensures_removeJournalPath replaced (fun _ _ => replaced.put_backup other _) ?_ ?_
      · exact sync _ (fun binary => absurd binary other) (replaced.put_backup other _)
      · exact fun _ => sync _ (fun binary => absurd binary other) replaced
    split
    next =>
      have backup : path.backup = some .old :=
        (replaced.2.2 rfl).resolve_right fun missing => by simp [missing.1] at there
      rw [ensures_bind]
      refine (ensures_retainJournalBinaryBackup replaced backup).mono ?_ (fun _ _ replaced => replaced)
      exact fun _ path settled => sync path (fun _ => settled.1) settled.2
    next other => exact ensures_bind.mpr (discarded other)
  · have missing := Option.not_isSome_iff_eq_none.mp missing
    rcases replaced.2.2 binary with backup | durable
    · exact absurd (missing.symm.trans backup) (by simp)
    · exact durable.2

/-- A path whose publication was undone is left as it is. -/
theorem handles_finishJournalPath_undone
    : Handles (fun path => path.backup = none ∧ path = start) (fun path => path = start)
        (fun path => path = start) (finishJournalPath label) := by
  rintro path ⟨backup, same⟩
  refine ⟨same, ?_⟩
  simp only [finishJournalPath, ensures_bind, ensures_read, ensures_ite, ensures_pure]
  exact ⟨fun there => by simp [backup] at there, fun _ => ⟨same, same⟩⟩

theorem handles_discardBackup (other : label ≠ .binary)
    : Handles (fun path => path = published start) (Settled label) (Replaced label)
        (discardBackup label) := by
  rintro path same
  have replaced : Replaced label path := same ▸ replaced_published (fun binary => absurd binary other)
  refine ⟨replaced, ?_⟩
  have settled (path : PathState) : Settled label path := fun binary => absurd binary other
  have sync (path : PathState) (replaced : Replaced label path)
      : Ensures syncDirectory path (fun _ path => Settled label path ∧ Replaced label path)
          (fun _ => Replaced label) :=
    ensures_syncDirectory replaced ⟨settled path, replaced⟩
  simp only [discardBackup, ensures_bind, ensures_read, ensures_ite, ensures_note]
  refine ⟨fun _ => ?_, fun _ => sync path replaced⟩
  change Ensures _ _ (fun _ (path : PathState) =>
    Ensures syncDirectory { path with hadPrevious := path.backup.isSome }
      (fun _ path => Settled label path ∧ Replaced label path) fun _ => Replaced label) _
  refine ensures_removePublishedPath replaced (fun _ _ => replaced.put_backup other _) ?_
  exact sync _ (replaced.put_backup other none)

theorem handles_retainBackupAs (previous : start.target = some .old)
    : Handles (fun path => path = published start) (Settled .binary) (Replaced .binary)
        retainBackupAs := by
  rintro path same
  have replaced : Replaced .binary path := same ▸ replaced_published (fun _ => previous)
  have backup : path.backup = some .old := same ▸ previous
  refine ⟨replaced, ?_⟩
  simp only [retainBackupAs, ensures_bind, ensures_read, ensures_ite, ensures_note, ensures_pure]
  refine ⟨fun _ => ?_, fun no => absurd (by simp [same, published, previous]) no⟩
  refine (ensures_retainJournalBinaryBackup replaced backup).mono ?_ (fun _ _ replaced => replaced)
  rintro - path ⟨durable, replaced⟩
  exact ensures_syncDirectory replaced ⟨fun _ => durable, replaced⟩

end Committed

-----------------------------------------------------------------------------------------
-- Staged files
-----------------------------------------------------------------------------------------

/-- Removing a staged file keeps what does not depend on it. -/
theorem handles_removeStaged {kind : PublishedPathKind} {kept : PathState → Prop}
    (put : ∀ path version, kept path → path.staged.isSome → kept (path.put version .staged))
    : Handles kept (fun _ => True) kept (removePublishedPath kind .staged) := by
  intro path now
  refine ⟨now, ensures_removePublishedPath now (fun _ there => put path _ now there) ⟨trivial, ?_⟩⟩
  cases there : path.staged with
  | none =>
      have same : path.put none .staged = path := by rw [PathState.put_staged, ← there]
      exact same ▸ now
  | some version => exact put path none now (by simp [there])

end CtxRemote.Upgrade
