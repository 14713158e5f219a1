import CtxRemote.Library.FileTree
import CtxRemote.Library.Interruptible
import CtxRemote.Library.Lines
import Mathlib.Algebra.Order.Ring.Nat

/-! `extract_archive`: the entries of a downloaded archive become files and directories below a new
directory, or the extraction fails.

What a path is to the system is told by its characters; bytes that are none of UTF-8 are `none`. Every
operation on files may fail, and the process may die before any of them. The readers of the archive are
left open: what they yield of each entry, and whether they fail then.
-/

namespace CtxRemote.Semantic
open CtxRemote.Library CtxRemote.Library.Interruptible

-----------------------------------------------------------------------------------------
-- Paths
-----------------------------------------------------------------------------------------

/-- The text of a path. -/
abbrev OsText := List (Option Char)

/-- The name of a file or directory. -/
abbrev FileName := List Char

/-- `std::path::Component`. -/
inductive Component where
  | rootDir
  | curDir
  | parentDir
  | normal (name : OsText)
deriving DecidableEq

/-- The component of a part between slashes, if it counts. -/
def componentOf (part : OsText) : Option Component :=
  if part = [] || part = [some '.'] then none
  else if part = [some '.', some '.'] then some .parentDir
  else some (.normal part)

/-- `Path::components`. A `.` counts at the beginning only. -/
def components (path : OsText) : List Component :=
  let parts := path.splitOn (some '/')
  (if path.head? = some (some '/') then [.rootDir]
    else if parts.head? = some [some '.'] then [.curDir]
    else [])
    ++ parts.filterMap componentOf

/-- Where a path leads from a directory. -/
def locate (base : List FileName) (path : List Char) : List FileName :=
  (path.splitOn '/').foldl
    (fun place part =>
      if part = [] || part = ['.'] then place
      else if part = ['.', '.'] then place.dropLast
      else place ++ [part])
    (if path.head? = some '/' then [] else base)

/-- `parts.join("/")`. -/
def joinSlash (parts : List FileName) : List Char := ['/'].intercalate parts

-----------------------------------------------------------------------------------------
-- Archives
-----------------------------------------------------------------------------------------

/-- The entry types that are told apart. -/
inductive EntryType where
  | directory
  | file
  | other
deriving DecidableEq

/-- An entry: its path and its size where the header has them, and what its reader yields, before an error
or its end. A write of it that is cut short leaves `cut` bytes.
-/
structure ArchiveEntry where
  path : Option OsText
  entryType : EntryType
  size : Option Nat
  data : List UInt8
  fails : Bool
  cut : Nat

/-- An archive with the entries that are read from it, up to an error. -/
structure ModelArchive where
  artifactName : List Char
  opens : Bool
  items : List (Option ArchiveEntry)

/-- The integrity errors of an extraction. -/
inductive ArchiveError where
  | io
  | name
  | read
  | noNormalRoot
  | unexpectedRoot
  | traversal
  | notUtf8
  | rootEntry
  | relativePath (path : List Char)
  | duplicatePaths
  | entryType
  | tooManyFiles
  | memberSize
  | payloadOverflow
  | payloadSize
  | tooManyDirectories
  | createDirectory
  | createParent
  | collides
  | createFile
  | extractMember
  | memberExceeds
  | memberMismatch
  | syncFile
  | noPayload
deriving DecidableEq

def maxBundleFiles : Nat := 4096
def maxBundleDirectories : Nat := 1024
def maxFileBytes : Nat := 1024 * 1024 * 1024
def maxBundleBytes : Nat := 2 * 1024 * 1024 * 1024
def maxPathBytes : Nat := 512
def maxPathComponents : Nat := 64

/-- The text of a normal component. -/
def componentText : Component → Except ArchiveError FileName
  | .normal name =>
      match name.mapM id with
      | some text => .ok text
      | none => .error .notUtf8
  | _ => .error .traversal

/-- `archive_relative_path`. -/
def archiveRelativePath (path : OsText) (expectedRoot : List Char) : Except ArchiveError (List Char) :=
  match components path with
  | .normal root :: rest =>
      if root.mapM id ≠ some expectedRoot then .error .unexpectedRoot
      else (rest.mapM componentText).map joinSlash
  | _ => .error .noNormalRoot

/-- Whether a component is normal. -/
def Component.isNormal : Component → Bool
  | .normal _ => true
  | _ => false

/-- `validate_relative_path`. -/
def validateRelativePath (path : List Char) : Bool :=
  let parts := components (path.map some)
  !(path.isEmpty || maxPathBytes < utf8Len path || path.contains '\\' || path.contains ':'
      || path.head? = some '/' || path.getLast? = some '/')
    && !(parts.isEmpty || maxPathComponents < parts.length || parts.any (!·.isNormal))
    && !(path.splitOn '/').any fun part => part = [] || part = ['.'] || part = ['.', '.']

-----------------------------------------------------------------------------------------
-- The extraction
-----------------------------------------------------------------------------------------

abbrev UnpackProgram (α : Type) := Interruptible (FileTree FileName) ArchiveError α

/-- Whether an operation of the system succeeds. -/
def succeeds (f : FileTree FileName → Option (FileTree FileName)) : UnpackProgram Bool := do
  match ← attempt (operation .io f) with
  | .ok _ => pure true
  | .error _ => pure false

/-- `Path::is_dir`, which is false where it cannot tell. -/
def isDir (place : List FileName) : UnpackProgram Bool := do
  let tree ← read
  if ← succeeds some then pure (tree.node place = some .directory) else pure false

/-- What `fs::create_dir` answers. -/
inductive DirCreation where
  | created
  | alreadyExists
  | failed
deriving DecidableEq

/-- `fs::create_dir`. -/
def createDir (place : List FileName) : UnpackProgram DirCreation := do
  let tree ← read
  if ← succeeds (·.create place .directory) then pure .created
  else if (tree.node place).isNone then pure .failed
  else if ← succeeds some then pure .alreadyExists
  else pure .failed

/-- What the extraction keeps in mind. -/
structure Unpacking where
  seen : List (List Char) := []
  directories : List (List Char) := []
  files : Nat := 0
  payloadBytes : Nat := 0

/-- The loop of `create_parent_directories`. -/
def parentDirectories
    : List FileName → List Char → List (List Char) → List Component
      → UnpackProgram (List (List Char))
  | _, _, directories, [] => pure directories
  | current, name, directories, component :: rest =>
      match componentText component with
      | .error error => fail error
      | .ok text => do
          let name := (if name.isEmpty then [] else name ++ ['/']) ++ text
          let current := locate current text
          if directories.contains name then
            if ← isDir current then parentDirectories current name directories rest
            else fail .collides
          else
            let directories := directories ++ [name]
            if maxBundleDirectories < directories.length then fail .tooManyDirectories
            else
              match ← createDir current with
              | .created => parentDirectories current name directories rest
              | _ => fail .createParent

/-- `create_parent_directories`. -/
def createParentDirectories (destination : List FileName) (relative : List Char)
    (directories : List (List Char)) : UnpackProgram (List (List Char)) :=
  if (locate destination relative).dropLast = destination then pure directories
  else
    parentDirectories destination [] directories (components (relative.map some)).dropLast

/-- `register_directory`. A directory that is there already is as good as a new one. -/
def registerDirectory (destination : List FileName) (relative : List Char)
    (directories : List (List Char)) : UnpackProgram (List (List Char)) := do
  let directories ← createParentDirectories destination relative directories
  if directories.contains relative then pure directories
  else
    let directories := directories ++ [relative]
    if maxBundleDirectories < directories.length then fail .tooManyDirectories
    else
      match ← createDir (locate destination relative) with
      | .created => pure directories
      | .alreadyExists =>
          if ← isDir (locate destination relative) then pure directories else fail .createDirectory
      | .failed => fail .createDirectory

/-- `copy_exact_limited`. -/
def copyExactLimited (entry : ArchiveEntry) (place : List FileName) (size : Nat) : UnpackProgram Nat := do
  let copied := entry.data.take (size + 1)
  lengthy .extractMember (·.write place (copied.take entry.cut)) (fun tree => some (tree.write place copied))
  if entry.fails && entry.data.length ≤ size then fail .extractMember
  else if size < copied.length then fail .memberExceeds
  else pure copied.length

/-- An entry that is a file. -/
def extractFile (destination : List FileName) (relative : List Char) (entry : ArchiveEntry)
    (unpacking : Unpacking) : UnpackProgram Unpacking :=
  if maxBundleFiles < unpacking.files + 1 then fail .tooManyFiles
  else
    match entry.size with
    | none => fail .read
    | some size =>
        if maxFileBytes < size then fail .memberSize
        else if 2 ^ 64 ≤ unpacking.payloadBytes + size then fail .payloadOverflow
        else if maxBundleBytes < unpacking.payloadBytes + size then fail .payloadSize
        else do
          let directories ← createParentDirectories destination relative unpacking.directories
          let place := locate destination relative
          operation .createFile (·.create place (.file []))
          let copied ← copyExactLimited entry place size
          if copied ≠ size then fail .memberMismatch
          else
            operation .syncFile some
            pure { unpacking with
              directories
              files := unpacking.files + 1
              payloadBytes := unpacking.payloadBytes + size }

/-- One round of the loop of `extract_archive`. -/
def extractEntry (destination : List FileName) (expectedRoot : List Char) (entry : ArchiveEntry)
    (unpacking : Unpacking) : UnpackProgram Unpacking :=
  match entry.path with
  | none => fail .read
  | some path =>
      match archiveRelativePath path expectedRoot with
      | .error error => fail error
      | .ok relative =>
          if relative.isEmpty then
            if entry.entryType ≠ .directory || unpacking.seen.contains [] then fail .rootEntry
            else pure { unpacking with seen := unpacking.seen ++ [[]] }
          else if !validateRelativePath relative then fail (.relativePath relative)
          else if unpacking.seen.contains relative then fail .duplicatePaths
          else
            let unpacking := { unpacking with seen := unpacking.seen ++ [relative] }
            match entry.entryType with
            | .directory => do
                let directories ← registerDirectory destination relative unpacking.directories
                pure { unpacking with directories }
            | .file => extractFile destination relative entry unpacking
            | .other => fail .entryType

/-- The loop of `extract_archive`. -/
def extractEntries (destination : List FileName) (expectedRoot : List Char)
    : Unpacking → List (Option ArchiveEntry) → UnpackProgram Unpacking
  | unpacking, [] => pure unpacking
  | _, none :: _ => fail .read
  | unpacking, some entry :: rest => do
      let unpacking ← extractEntry destination expectedRoot entry unpacking
      extractEntries destination expectedRoot unpacking rest

/-- `strip_suffix(".tar.xz")`. -/
def archiveRoot (artifactName : List Char) : Option (List Char) :=
  let suffix := ".tar.xz".toList
  if suffix.isSuffixOf artifactName then
    some (artifactName.take (artifactName.length - suffix.length))
  else none

/-- `extract_archive`. -/
def extractArchive (archive : ModelArchive) (destination : List FileName) : UnpackProgram Unit := do
  operation .io some
  match archiveRoot archive.artifactName with
  | none => fail .name
  | some expectedRoot =>
      if !archive.opens then fail .read
      else
        let unpacking ← extractEntries destination expectedRoot {} archive.items
        if unpacking.files = 0 then fail .noPayload else pure ()

/-- The extraction of `acquire_coreml_bundle_for`, into a directory that is new. -/
def stageArchive (archive : ModelArchive) (staging : List FileName) : UnpackProgram Unit := do
  operation .io (·.create staging .directory)
  extractArchive archive staging

end CtxRemote.Semantic
