import CtxRemote.Library.Interruptible

/-! The install of a slash command into the directory of an agent. A file that the user changed is left as
it is unless the install is forced; which contents are the installer's own is told by the hashes that its
metadata records.

SHA-256 and the JSON of the metadata are left open. Every operation on files may fail, and the process may
die before any of them.
-/

namespace CtxRemote.Integrations
open CtxRemote.Library CtxRemote.Library.Interruptible

-----------------------------------------------------------------------------------------
-- Files
-----------------------------------------------------------------------------------------

/-- What is at a path; `resolves` is whether there is something behind the link. -/
inductive Entry where
  | file (body : List UInt8)
  | directory
  | symlink (resolves : Bool)
deriving DecidableEq

/-- The directory of an agent: what is at the names of commands, and the contents of `METADATA_FILE`. -/
structure CommandDir where
  entries : String → Option Entry
  metadata : Option (List UInt8)

/-- `CommandFileTarget`, its directory by the components of its path. -/
structure CommandFileTarget where
  baseDir : List String
  filename : String
  body : List UInt8
deriving DecidableEq

/-- `command_path`. -/
def CommandFileTarget.commandPath (target : CommandFileTarget) : List String :=
  target.baseDir ++ [target.filename]

/-- `SlashCommandMetadata`, with the hashes of the files by their names. -/
structure SlashCommandMetadata where
  schemaVersion : Nat
  installer : String
  commandName : String
  files : List (String × String)
  ctxCliVersion : String
  installedAt : String
deriving DecidableEq

/-- `sha256_hex`, and how `serde_json` writes and reads metadata. -/
structure Externals where
  sha256Hex : List UInt8 → String
  toVecPretty : SlashCommandMetadata → List UInt8
  fromSlice : List UInt8 → Option SlashCommandMetadata

/-- One install: its target, the version and the time of the program, and how many bytes a write leaves
that is cut short.
-/
structure Installation where
  target : CommandFileTarget
  force : Bool
  version : String
  now : String
  cut : Nat

/-- `COMMAND_NAME`. -/
def bundledCommandName : String := "ctx-history"

variable (externals : Externals)

/-- `bundled_hash`. -/
def CommandFileTarget.bundledHash (target : CommandFileTarget) : String :=
  externals.sha256Hex target.body

/-- `SlashCommandMetadata::current`. -/
def SlashCommandMetadata.current (install : Installation) : SlashCommandMetadata where
  schemaVersion := 1
  installer := "ctx-cli"
  commandName := bundledCommandName
  files := [(install.target.filename, install.target.bundledHash externals)]
  ctxCliVersion := install.version
  installedAt := install.now

/-- `metadata_is_current`. -/
def metadataIsCurrent (target : CommandFileTarget) (metadata : Option SlashCommandMetadata) : Bool :=
  metadata.any fun metadata =>
    metadata.schemaVersion = 1 && metadata.installer = "ctx-cli" && metadata.commandName = bundledCommandName
      && metadata.files.lookup target.filename = some (target.bundledHash externals)

-----------------------------------------------------------------------------------------
-- The install
-----------------------------------------------------------------------------------------

/-- The errors of an install. -/
inductive InstallError where
  | parentTraversal
  | escapes
  | read
  | nonRegular
  | create
  | write
deriving DecidableEq

/-- `SlashCommandInstallStatus` of a file. -/
inductive SlashCommandInstallStatus where
  | current
  | stale
  | modified
  | missing
deriving DecidableEq

/-- `StatusResult`. -/
structure StatusResult where
  status : SlashCommandInstallStatus
  metadata : Option SlashCommandMetadata

/-- `InstallResult`, without what it repeats of the target. -/
structure InstallResult where
  success : Bool
  previousStatus : SlashCommandInstallStatus
  status : SlashCommandInstallStatus
  alreadyInstalled : Bool
  updated : Bool
  error : Option String
deriving DecidableEq

abbrev CommandProgram (α : Type) := Interruptible CommandDir InstallError α

/-- `ensure_path_inside`. -/
def ensurePathInside (target : CommandFileTarget) : CommandProgram Unit :=
  if target.baseDir.contains ".." || target.commandPath.contains ".." then fail .parentTraversal
  else if !target.baseDir.isPrefixOf target.commandPath then fail .escapes
  else pure ()

/-- `read_metadata`. -/
def readMetadata : CommandProgram (Option SlashCommandMetadata) := do
  let dir ← read
  match ← attempt (operation .read some) with
  | .ok _ => pure (dir.metadata.bind externals.fromSlice)
  | .error _ => pure none

/-- The hash of a regular file at the path of a command. -/
def installedHash (target : CommandFileTarget) : CommandProgram (Option String) := do
  operation .read some
  let dir ← read
  match dir.entries target.filename with
  | some (.file body) =>
      operation .read some
      pure (some (externals.sha256Hex body))
  | _ => pure none

/-- `Path::exists`, which is false where it cannot tell. -/
def pathExists (target : CommandFileTarget) : CommandProgram Bool := do
  let dir ← read
  match ← attempt (operation .read some) with
  | .ok _ =>
      pure <| match dir.entries target.filename with
        | none => false
        | some (.symlink resolves) => resolves
        | some _ => true
  | .error _ => pure false

/-- `status_file_target`, from what is at the path and in the metadata on. -/
def classifyFileTarget (target : CommandFileTarget) (metadata : Option SlashCommandMetadata)
    : CommandProgram StatusResult := do
  match ← installedHash externals target with
  | none =>
      if ← pathExists target then pure ⟨.modified, metadata⟩ else pure ⟨.missing, metadata⟩
  | some hash =>
      if hash = target.bundledHash externals then pure ⟨.current, metadata⟩
      else if metadata.bind (·.files.lookup target.filename) = some hash then pure ⟨.stale, metadata⟩
      else pure ⟨.modified, metadata⟩

/-- `status_file_target`. -/
def statusFileTarget (target : CommandFileTarget) : CommandProgram StatusResult := do
  ensurePathInside target
  let metadata ← readMetadata externals
  classifyFileTarget externals target metadata

/-- A directory with a file at a name. -/
def CommandDir.put (dir : CommandDir) (name : String) (body : List UInt8) : CommandDir :=
  { dir with entries := Function.update dir.entries name (some (.file body)) }

/-- `fs::write` at the path of a command. It fails on a directory, and what is behind a link is not in this
one.
-/
def CommandDir.write (dir : CommandDir) (name : String) (body : List UInt8) : Option CommandDir :=
  match dir.entries name with
  | some .directory => none
  | some (.symlink _) => some dir
  | _ => some (dir.put name body)

/-- `write_metadata`. -/
def writeMetadata (install : Installation) : CommandProgram Unit := do
  operation .create some
  let metadata := externals.toVecPretty (.current externals install)
  lengthy .write (fun dir => { dir with metadata := some (metadata.take install.cut) })
    fun dir => some { dir with metadata := some metadata }

/-- `write_command_file`. -/
def writeCommandFile (install : Installation) : CommandProgram Unit := do
  let target := install.target
  ensurePathInside target
  let dir ← read
  let seen ← attempt (operation .read some)
  match seen, dir.entries target.filename with
  | .ok _, some .directory | .ok _, some (.symlink _) => fail .nonRegular
  | _, _ =>
      operation .create some
      lengthy .write (fun dir => (dir.write target.filename (target.body.take install.cut)).getD dir)
        (·.write target.filename target.body)
      writeMetadata externals install

/-- `install_file_target`. -/
def installFileTarget (install : Installation) : CommandProgram InstallResult := do
  let previous ← statusFileTarget externals install.target
  if previous.status = .current then
    if !metadataIsCurrent externals install.target previous.metadata then
      writeMetadata externals install
    pure ⟨true, previous.status, .current, true, false, none⟩
  else if previous.status = .modified ∧ !install.force then
    pure ⟨false, previous.status, previous.status, false, false,
      some "local command edits detected; rerun with --force to overwrite"⟩
  else
    writeCommandFile externals install
    pure ⟨true, previous.status, .current, false,
      previous.status = .stale || previous.status = .modified, none⟩

end CtxRemote.Integrations
