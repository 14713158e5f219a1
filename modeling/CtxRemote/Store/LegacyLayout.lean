import CtxRemote.Library.Interruptible
import CtxRemote.Library.Like

/-! Opening a store in a data root that still has the legacy directory `work-record`: the move of its
items, and the rewrite of artifact paths that follows it.

Rows are seen as the store shows them. The schema migration and the repairs of the search tables are
operations that may fail here and change nothing.
-/

namespace CtxRemote.Store.Legacy
open CtxRemote.Library CtxRemote.Library.Interruptible

-----------------------------------------------------------------------------------------
-- Databases
-----------------------------------------------------------------------------------------

/-- A row of `artifacts`, by its content's hash and the path that it names. -/
structure Artifact where
  blobHash : String
  blobPath : List Char
deriving DecidableEq

/-- The committed rows of a database. -/
structure Contents where
  rows : List String
  artifacts : List Artifact
deriving DecidableEq

/-- A new database. -/
def Contents.empty : Contents := ⟨[], []⟩

/-- `object_relative_path`. -/
def objectRelativePath (hash : String) : List Char :=
  "objects/".toList ++ hash.toList.take 2 ++ '/' :: hash.toList

/-- The update of `normalize_legacy_blob_paths` on a row. -/
def Artifact.normalized (artifact : Artifact) : Artifact :=
  if like none "blobs/%".toList artifact.blobPath then
    { artifact with blobPath := "objects/".toList ++ artifact.blobPath.drop 6 }
  else artifact

/-- `normalize_legacy_blob_paths`. -/
def Contents.normalizeLegacyBlobPaths (contents : Contents) : Contents :=
  { contents with artifacts := contents.artifacts.map Artifact.normalized }

-----------------------------------------------------------------------------------------
-- Data roots
-----------------------------------------------------------------------------------------

/-- The items of a data root. -/
inductive RootName
  | workSqlite
  | configToml
  | logs
  | deviceJson
  | objects
  | spool
deriving DecidableEq

/-- The items of a legacy directory. -/
inductive LegacyName
  | workSqlite
  | configToml
  | logs
  | deviceJson
  | objects
  | blobs
  | spool
  | inbox
deriving DecidableEq

/-- Where an item is moved to. -/
def LegacyName.destination : LegacyName → RootName
  | .workSqlite => .workSqlite
  | .configToml => .configToml
  | .logs => .logs
  | .deviceJson => .deviceJson
  | .objects => .objects
  | .blobs => .objects
  | .spool => .spool
  | .inbox => .spool

/-- What an item holds: the rows of a database, the lines of a file, the file names of a directory. An
object file has the hash of its content as its name.
-/
abbrev Content : RootName → Type
  | .workSqlite => Contents
  | .configToml => List String
  | .logs => List String
  | .deviceJson => List String
  | .objects => List String
  | .spool => List String

/-- What a new item holds. -/
def fresh : (name : RootName) → Content name
  | .workSqlite => Contents.empty
  | .configToml => []
  | .logs => []
  | .deviceJson => []
  | .objects => []
  | .spool => []

/-- The directory `work-record`. Its database may have a write-ahead log, that is the rows it has with
the log beside it.
-/
structure LegacyDir where
  items : (name : LegacyName) → Option (Content name.destination)
  wal : Option Contents

/-- A data root. -/
structure DataRoot where
  legacy : Option LegacyDir
  entries : (name : RootName) → Option (Content name)

/-- An item of the legacy directory, if there is one. -/
def DataRoot.item (root : DataRoot) (name : LegacyName) : Option (Content name.destination) :=
  root.legacy.bind fun legacy => legacy.items name

-----------------------------------------------------------------------------------------
-- The move
-----------------------------------------------------------------------------------------

inductive OpenError
  | io
  | sql
deriving DecidableEq

abbrev RootProgram (α : Type) := Interruptible DataRoot OpenError α

namespace LegacyDir

variable (legacy : LegacyDir)

def objectCandidates : List LegacyName := [.objects, .blobs]

def spoolCandidates : List LegacyName := [.spool, .inbox]

/-- The candidates that exist. -/
def existing (candidates : List LegacyName) : List LegacyName :=
  candidates.filter fun name => (legacy.items name).isSome

/-- `multiple_existing_paths`. -/
def multipleExistingPaths (candidates : List LegacyName) : Bool :=
  ((legacy.existing candidates).take 2).length > 1

/-- `unique_existing_path`. -/
def uniqueExistingPath (candidates : List LegacyName) : Option LegacyName :=
  match legacy.existing candidates with
  | [name] => some name
  | _ => none

/-- The moves of a legacy directory. -/
def moves : List LegacyName :=
  legacy.existing [.workSqlite, .configToml, .logs, .deviceJson]
    ++ (legacy.uniqueExistingPath objectCandidates).toList
    ++ (legacy.uniqueExistingPath spoolCandidates).toList

/-- A directory that `remove_dir` removes. -/
def IsEmpty : Prop := (∀ name, legacy.items name = none) ∧ legacy.wal = none

end LegacyDir

/-- `fs::rename` of an item to its destination. -/
def rename (name : LegacyName) (root : DataRoot) : Option DataRoot :=
  match root.legacy with
  | none => none
  | some legacy =>
      match legacy.items name with
      | none => none
      | some content =>
          some
            { legacy := some { legacy with items := Function.update legacy.items name none }
              entries := Function.update root.entries name.destination (some content) }

/-- All names of legacy items. -/
def LegacyName.all : List LegacyName :=
  [.workSqlite, .configToml, .logs, .deviceJson, .objects, .blobs, .spool, .inbox]

/-- `fs::remove_dir` of the legacy directory. -/
def removeLegacyDir (root : DataRoot) : Option DataRoot :=
  match root.legacy with
  | none => none
  | some legacy =>
      if LegacyName.all.all (fun name => (legacy.items name).isNone) && legacy.wal.isNone then
        some { root with legacy := none }
      else none

/-- The loop of renames. -/
def renameAll : List LegacyName → RootProgram Unit
  | [] => pure ()
  | name :: names => do
      operation .io (rename name)
      renameAll names

/-- `migrate_legacy_history_layout`. -/
def migrateLegacyHistoryLayout : RootProgram Bool := do
  let root ← read
  match root.legacy with
  | none => pure false
  | some legacy =>
      if legacy.multipleExistingPaths LegacyDir.objectCandidates
          || legacy.multipleExistingPaths LegacyDir.spoolCandidates then pure false
      else if legacy.moves.isEmpty
          || legacy.moves.any fun name => (root.entries name.destination).isSome then pure false
      else do
        renameAll legacy.moves
        let _ ← attempt (operation .io removeLegacyDir)
        pure true

-----------------------------------------------------------------------------------------
-- The open
-----------------------------------------------------------------------------------------

/-- Creates an item that is not there. -/
def create (name : RootName) (root : DataRoot) : DataRoot :=
  match root.entries name with
  | some _ => root
  | none => { root with entries := Function.update root.entries name (some (fresh name)) }

/-- `normalize_legacy_blob_paths` on the database of the root. -/
def normalizeRoot (root : DataRoot) : DataRoot :=
  { root with
    entries :=
      Function.update root.entries .workSqlite
        ((root.entries .workSqlite).map Contents.normalizeLegacyBlobPaths) }

/-- `open_with_busy_timeout` after the move of the legacy layout. -/
def openMoved (migratedLegacyLayout : Bool) : RootProgram Unit := do
  operation .io some
  operation .io fun root => some (create .objects root)
  operation .io some
  operation .io fun root => some (create .spool root)
  operation .io some
  operation .sql fun root => some (create .workSqlite root)
  -- The database file is restricted, configured and migrated, and an aborted bulk load repaired.
  operation .io some
  operation .sql some
  if migratedLegacyLayout then operation .sql fun root => some (normalizeRoot root)
  operation .sql some

/-- `open_with_busy_timeout`. -/
def openWithBusyTimeout : RootProgram Unit := do
  let migratedLegacyLayout ← migrateLegacyHistoryLayout
  openMoved migratedLegacyLayout

/-- The roots after opens, each of which may have failed, died or succeeded. -/
inductive Reached (start : DataRoot) : DataRoot → Prop
  | start : Reached start start
  | opened {root run} (before : Reached start root) (ran : run ∈ openWithBusyTimeout root)
    : Reached start run.2

end CtxRemote.Store.Legacy
