import CtxRemote.Library.Interruptible

/-! One path of the Unix self-upgrade: its staged, target, backup and durable files, the steps of
`UnixPublishedPath`, and what recovery does with the path. Files are told apart by the version that
they hold, and an operation on a directory that is cut short leaves a fragment of it.
-/

namespace CtxRemote.Upgrade
open CtxRemote.Library CtxRemote.Library.Interruptible

-----------------------------------------------------------------------------------------
-- Files
-----------------------------------------------------------------------------------------

/-- The labels of the published paths. -/
inductive Label where
  | runtime
  | binary
  | marker
deriving DecidableEq

inductive PublishedPathKind where
  | file
  | directory
deriving DecidableEq

def Label.kind : Label → PublishedPathKind
  | .runtime => .directory
  | .binary => .file
  | .marker => .file

/-- What a file or directory holds. `earlier` is what the last upgrade left at the durable path. -/
inductive Version where
  | old
  | new
  | earlier
  | fragment
deriving DecidableEq

inductive Place where
  | staged
  | target
  | backup
  | durable
deriving DecidableEq

inductive InstallError where
  | io
  | backupExists (label : Label)
  | bothDirectories (label : Label)
  | incomplete (label : Label)
  | rollback (primary : InstallError) (failures : List InstallError)

/-- The files of a path, and what the process that publishes it remembers of it. `durable` is the file
at `backup_path` of the target; `linked` says that backup and target are names of one file.
-/
structure PathState where
  staged : Option Version
  target : Option Version
  backup : Option Version
  durable : Option Version
  linked : Bool
  hadPrevious : Bool
  published : Bool
deriving DecidableEq

namespace PathState

variable (path : PathState)

def file : Place → Option Version
  | .staged => path.staged
  | .target => path.target
  | .backup => path.backup
  | .durable => path.durable

/-- The path with another file, or none, at a place. -/
def put (version : Option Version) : Place → PathState
  | .staged => { path with staged := version }
  | .target => { path with target := version, linked := false }
  | .backup => { path with backup := version, linked := false }
  | .durable => { path with durable := version }

variable {path} {version : Option Version}

@[simp]
theorem file_staged : path.file .staged = path.staged :=
  rfl

@[simp]
theorem file_target : path.file .target = path.target :=
  rfl

@[simp]
theorem file_backup : path.file .backup = path.backup :=
  rfl

@[simp]
theorem file_durable : path.file .durable = path.durable :=
  rfl

@[simp]
theorem put_staged : path.put version .staged = { path with staged := version } :=
  rfl

@[simp]
theorem put_target : path.put version .target = { path with target := version, linked := false } :=
  rfl

@[simp]
theorem put_backup : path.put version .backup = { path with backup := version, linked := false } :=
  rfl

@[simp]
theorem put_durable : path.put version .durable = { path with durable := version } :=
  rfl

end PathState

/-- Programs on one path. -/
abbrev PathProgram := Interruptible PathState InstallError Unit

-----------------------------------------------------------------------------------------
-- File operations
-----------------------------------------------------------------------------------------

/-- `fs::rename`. Between two names of one file it does nothing; a directory does not replace another
one.
-/
def rename (kind : PublishedPathKind) (source destination : Place) : PathProgram :=
  operation .io fun path =>
    match path.file source with
    | none => none
    | some version =>
        if path.linked ∧ source = .backup ∧ destination = .target ∧ path.target.isSome then
          some path
        else if kind = .directory ∧ (path.file destination).isSome then none
        else some ((path.put none source).put (some version) destination)

/-- `fs::hard_link` of the target to the backup. -/
def hardLink : PathProgram :=
  operation .io fun path =>
    match path.target, path.backup with
    | some version, none => some { path with backup := some version, linked := true }
    | _, _ => none

/-- `fs::copy` of the target to the backup. -/
def copy : PathProgram :=
  lengthy .io (fun path => path.put (some .fragment) .backup)
    (fun path => path.target.map fun version => path.put (some version) .backup)

/-- `remove_published_path`. -/
def removePublishedPath (kind : PublishedPathKind) (place : Place) : PathProgram :=
  let removed (path : PathState) : Option PathState :=
    if (path.file place).isSome then some (path.put none place) else none
  let partly (path : PathState) : PathState :=
    if (path.file place).isSome then path.put (some .fragment) place else path
  match kind with
  | .file => operation .io removed
  | .directory => lengthy .io partly removed

/-- `remove_journal_path`: a missing path counts as removed. -/
def removeJournalPath (kind : PublishedPathKind) (place : Place) : PathProgram := do
  let path ← read
  if (path.file place).isSome then removePublishedPath kind place

/-- `sync_directory`. -/
def syncDirectory : PathProgram := operation .io some

-----------------------------------------------------------------------------------------
-- The publishing process
-----------------------------------------------------------------------------------------

/-- `backup_file_for_atomic_replace`. -/
def backupFileForAtomicReplace : PathProgram := do
  match ← attempt hardLink with
  | .ok _ => pure ()
  | .error _ =>
      copy
      syncDirectory

/-- The part of `publish` that keeps the previous target. -/
def backUpTarget (label : Label) : PathProgram := do
  match label.kind with
  | .file => backupFileForAtomicReplace
  | .directory => rename .directory .target .backup
  note fun path => { path with hadPrevious := true }
  syncDirectory

/-- `UnixPublishedPath::publish`. -/
def publish (label : Label) : PathProgram := do
  let path ← read
  if path.backup.isSome then fail (.backupExists label)
  if path.target.isSome then backUpTarget label
  rename label.kind .staged .target
  note fun path => { path with published := true }

/-- The part of `rollback` that restores the previous target. -/
def restoreBackup (label : Label) : PathProgram := do
  let path ← read
  if path.hadPrevious then
    rename label.kind .backup .target
    note fun path => { path with hadPrevious := false }

/-- `UnixPublishedPath::rollback`. -/
def rollback (label : Label) : PathProgram := do
  let path ← read
  if path.published ∧ path.target.isSome then
    removePublishedPath label.kind .target
    note fun path => { path with published := false }
  restoreBackup label

/-- `UnixPublishedPath::discard_backup`. -/
def discardBackup (label : Label) : PathProgram := do
  let path ← read
  if path.hadPrevious then
    removePublishedPath label.kind .backup
    note fun path => { path with hadPrevious := path.backup.isSome }
  syncDirectory

/-- `retain_journal_binary_backup`, and the file operations of `retain_backup_as`. -/
def retainJournalBinaryBackup : PathProgram := do
  let path ← read
  if path.durable.isSome then removePublishedPath .file .durable
  rename .file .backup .durable

/-- `UnixPublishedPath::retain_backup_as`. -/
def retainBackupAs : PathProgram := do
  let path ← read
  if path.hadPrevious then
    retainJournalBinaryBackup
    note fun path => { path with hadPrevious := false }
    syncDirectory

-----------------------------------------------------------------------------------------
-- Recovery
-----------------------------------------------------------------------------------------

/-- The part of `rollback_journal_paths` that decides what the target is to be. -/
def restoreTarget (label : Label) : PathProgram := do
  let path ← read
  if path.backup.isSome then
    if path.staged.isSome then
      if path.target.isSome then
        match label.kind with
        | .file => removeJournalPath .file .backup
        | .directory => fail (.bothDirectories label)
      else rename label.kind .backup .target
    else
      if path.target.isSome then removeJournalPath label.kind .target
      rename label.kind .backup .target
  else if path.staged.isNone ∧ path.target.isSome then removeJournalPath label.kind .target

/-- The body of the loop of `rollback_journal_paths`. -/
def rollbackJournalPath (label : Label) : PathProgram := do
  restoreTarget label
  let path ← read
  if path.staged.isSome then removeJournalPath label.kind .staged
  syncDirectory

/-- The body of the second loop of `finish_committed_journal`. -/
def finishJournalPath (label : Label) : PathProgram := do
  let path ← read
  if path.backup.isSome then
    match label with
    | .binary => retainJournalBinaryBackup
    | _ => removeJournalPath label.kind .backup
    syncDirectory

end CtxRemote.Upgrade
