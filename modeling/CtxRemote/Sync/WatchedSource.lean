import CtxRemote.Library.Transition
import CtxRemote.Sync.TursoImport

/-! One machine that runs import cycles while its source files are written.

A cycle moves between the points at which it reads the file system, the clock or the remote
database: the first fingerprint, the listing, the file filter, the read of one file, the push of
one store, the second fingerprint, and the checkpoint with its own clock reading. Writes and the
clock interleave freely with these steps, and a cycle may stop at any point.
-/

namespace CtxRemote.Sync
open CtxRemote.Library CtxRemote.Turso

-----------------------------------------------------------------------------------------
-- Writes
-----------------------------------------------------------------------------------------

/-- The tree after a file is written or created. Whether a file is a transcript is decided by its
name, so a write does not change it.
-/
def SourceTree.write (tree : SourceTree) (file : SourceFile) : Option SourceTree :=
  let others := tree.files.filter fun old => old.path ≠ file.path
  if allowed
    : (∀ old ∈ tree.files, old.path = file.path
        → old.transcript.isSome = file.transcript.isSome)
      ∧ (file.transcript.isSome → file.inToken)
      ∧ Compatible ((others ++ [file]).filterMap (·.transcript))
  then
    some
      { files := others ++ [file]
        paths := by
          rw [List.map_append, List.map_singleton]
          refine List.nodup_append.mpr
            ⟨tree.paths.sublist (List.filter_sublist.map _), List.nodup_singleton _, ?_⟩
          intro path inOthers other inFile same
          obtain ⟨old, member, rfl⟩ := List.mem_map.mp inOthers
          have different := (List.mem_filter.mp member).2
          simp_all
        inToken := by
          intro old member isTranscript
          rcases List.mem_append.mp member with inOthers | inFile
          · exact tree.inToken old (List.mem_of_mem_filter inOthers) isTranscript
          · obtain rfl := List.mem_singleton.mp inFile
            exact allowed.2.1 isTranscript
        compatible := allowed.2.2 }
  else none

-----------------------------------------------------------------------------------------
-- The points of a cycle
-----------------------------------------------------------------------------------------

/-- What is left of the import of the tree: files that the filter has not seen, with those it has
selected, or chunks of selected files.
-/
inductive Rest where
  | files (todo selected : List String)
  | chunks (todo : List (List String))

/-- The point of its program that a cycle has reached. -/
inductive Cycle where
  /-- No cycle is running. -/
  | idle
  /-- Behind the first fingerprint, with a pending checkpoint. -/
  | listing (before : PendingSourceCheckpoint)
  /-- Between two ephemeral stores. -/
  | importing (before : PendingSourceCheckpoint) (rest : Rest)
  /-- While the files of one ephemeral store are read. -/
  | reading (before : PendingSourceCheckpoint) (paths : List String) (staged : List Transcript)
    (rest : Rest)
  /-- Behind the import of the tree. -/
  | completing (before : PendingSourceCheckpoint)
  /-- Behind the second fingerprint, before the checkpoint is stored. -/
  | storing (current : RemoteSourceCheckpoint)

/-- What may happen next: the clock advances, a file is written, the running or the next cycle
takes a step, or it stops.
-/
inductive Happening where
  | tick (nowNs : Nat)
  | write (path : String) (len : Nat) (transcript : Option Transcript)
  | advance
  | stop

/-- The files of the source, the clock, the remote database and the running cycle. -/
structure Watched where
  tree : SourceTree
  clockNs : Nat
  remote : Remote
  cycle : Cycle

namespace SourceConfig

variable (config : SourceConfig)

/-- The first step of a cycle: the fingerprint is read and compared with the stored one. -/
def start (watched : Watched) : Watched :=
  if config.unchanged watched.tree watched.remote
  then { watched with cycle := .idle }
  else { watched with cycle := .listing (config.pendingCheckpoint watched.tree watched.remote) }

/-- The file under a path. -/
def fileAt (tree : SourceTree) (path : String) : Option SourceFile :=
  tree.files.find? fun file => file.path = path

/-- What follows a file that the filter has seen. Codex selects all files before it reads the
first one; Claude reads every selected file at once.
-/
def filtered (before : PendingSourceCheckpoint) (path : String) (keep : Bool)
    (todo selected : List String) : Cycle :=
  match config.provider with
  | .codex => .importing before (.files todo (if keep then selected ++ [path] else selected))
  | .claude =>
      if keep then .reading before [path] [] (.files todo selected)
      else .importing before (.files todo selected)

/-- One step of the import of the tree. -/
def importStep (watched : Watched) (before : PendingSourceCheckpoint) : Rest → Cycle
  | .files (path :: todo) selected =>
      match fileAt watched.tree path with
      | some file => config.filtered before path (shouldImportFile (some before) file) todo selected
      | none => .idle
  | .files [] selected =>
      match config.provider with
      | .codex => .importing before (.chunks (chunks config.provider.chunkSize selected))
      | .claude => .completing before
  | .chunks (paths :: todo) => .reading before paths [] (.chunks todo)
  | .chunks [] => .completing before

/-- The next step of the cycle. -/
def advance (watched : Watched) : Watched :=
  match watched.cycle with
  | .idle => config.start watched
  | .listing before =>
      { watched with
        cycle := .importing before (.files (watched.tree.listed.map (·.path)) []) }
  | .importing before rest => { watched with cycle := config.importStep watched before rest }
  | .reading before (path :: paths) staged rest =>
      match (fileAt watched.tree path).bind (·.transcript) with
      | some transcript =>
          { watched with cycle := .reading before paths (staged ++ [transcript]) rest }
      | none => { watched with cycle := .idle }
  | .reading before [] staged rest =>
      { watched with
        remote :=
          { watched.remote with
            projection := push config.batchSize (stage staged) watched.remote.projection }
        cycle := .importing before rest }
  | .completing before =>
      let current := config.remoteSourceCheckpoint watched.tree config.source
      if before.checkpoint.fingerprint = current.fingerprint
      then { watched with cycle := .storing current }
      else { watched with cycle := .idle }
  | .storing current =>
      { watched with
        remote :=
          { watched.remote with
            checkpoints :=
              Function.update watched.remote.checkpoints current.key
                (some ⟨current.fingerprint, asMillis watched.clockNs⟩) }
        cycle := .idle }

/-- The step function; the clock does not go back. -/
def step (watched : Watched) : Happening → Option Watched
  | .tick nowNs =>
      if watched.clockNs ≤ nowNs then some { watched with clockNs := nowNs } else none
  | .write path len transcript =>
      (watched.tree.write ⟨path, len, watched.clockNs, transcript⟩).map fun tree =>
        { watched with tree := tree }
  | .advance => some (config.advance watched)
  | .stop => some { watched with cycle := .idle }

end SourceConfig

end CtxRemote.Sync
