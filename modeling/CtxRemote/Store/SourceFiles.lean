import CtxRemote.Library.Keyed
import CtxRemote.Library.Keyset
import CtxRemote.Library.Transition
import CtxRemote.Store.EventKeys
import CtxRemote.Store.Preview
import Mathlib.Data.String.Basic

/-! The inventory of source files. A scan records what it finds of a file; an import that completes
records the size and the time of what it planned on. The two come from different processes.
-/

namespace CtxRemote.Store
open CtxRemote.Library

-----------------------------------------------------------------------------------------
-- Equal values
-----------------------------------------------------------------------------------------

mutual
/-- `PartialEq` of `Value` compares all there is. -/
theorem Json.eq_of_beq (left right : Json) (same : Json.beq left right = true) : left = right := by
  cases left <;> cases right <;> simp only [Json.beq, beq_iff_eq, Bool.false_eq_true] at same
  case null.null => rfl
  case bool.bool => rw [same]
  case number.number => rw [same]
  case string.string => rw [same]
  case array.array lefts rights => rw [Json.eq_of_beqItems lefts rights same]
  case object.object lefts rights => rw [Json.eq_of_beqFields lefts rights same]

theorem Json.eq_of_beqItems (lefts rights : List Json) (same : Json.beqItems lefts rights = true)
    : lefts = rights := by
  cases lefts with
  | nil =>
      cases rights with
      | nil => rfl
      | cons => simp [Json.beqItems] at same
  | cons left lefts =>
      cases rights with
      | nil => simp [Json.beqItems] at same
      | cons right rights =>
          simp only [Json.beqItems, Bool.and_eq_true] at same
          rw [Json.eq_of_beq left right same.1, Json.eq_of_beqItems lefts rights same.2]

theorem Json.eq_of_beqFields (lefts rights : List (String × Json))
    (same : Json.beqFields lefts rights = true)
    : lefts = rights := by
  cases lefts with
  | nil =>
      cases rights with
      | nil => rfl
      | cons => simp [Json.beqFields] at same
  | cons left lefts =>
      cases rights with
      | nil => simp [Json.beqFields] at same
      | cons right rights =>
          obtain ⟨leftKey, left⟩ := left
          obtain ⟨rightKey, right⟩ := right
          simp only [Json.beqFields, Bool.and_eq_true, beq_iff_eq] at same
          rw [same.1.1, Json.eq_of_beq left right same.1.2, Json.eq_of_beqFields lefts rights same.2]
end

-----------------------------------------------------------------------------------------
-- Files and rows
-----------------------------------------------------------------------------------------

/-- `capped_i64`. -/
def cappedI64 (value : UInt64) : Nat := min value.toNat 9223372036854775807

/-- The primary key of `source_import_files`: provider, root and path. -/
abbrev FileKey := CaptureProvider × String × String

/-- What is recorded of the content of a file. -/
structure Observation where
  sourceFormat : String
  fileSizeBytes : Nat
  fileModifiedAtMs : Int
  changeToken : Option String
deriving DecidableEq, Repr

/-- The change token in the metadata of a file, as text. -/
def changeToken (metadata : Json) : Option String := (metadata.get "change_token_v1").map Json.text

/-- `SourceImportFile`: a scanned file. -/
structure SourceImportFile where
  provider : CaptureProvider
  sourceFormat : String
  sourceRoot : String
  sourcePath : String
  fileSizeBytes : UInt64
  fileModifiedAtMs : Int
  observedAtMs : Int
  metadata : Json

def SourceImportFile.key (file : SourceImportFile) : FileKey :=
  (file.provider, file.sourceRoot, file.sourcePath)

def SourceImportFile.observation (file : SourceImportFile) : Observation :=
  ⟨file.sourceFormat, cappedI64 file.fileSizeBytes, file.fileModifiedAtMs, changeToken file.metadata⟩

/-- The metadata of the file of a whole source. -/
def SourceImportFile.isSourceRoot (file : SourceImportFile) : Bool :=
  (file.metadata.get "inventory_unit").bind Json.asStr = some "source_root"

/-- `CatalogIndexedStatus`. -/
inductive IndexedStatus where
  | pending | indexed | failed
deriving DecidableEq, Repr

/-- A row of `source_import_files`. The text in `metadata_json` is kept as the value it was written
from.
-/
structure SourceImportRow where
  provider : CaptureProvider
  sourceFormat : String
  sourceRoot : String
  sourcePath : String
  fileSizeBytes : Nat
  fileModifiedAtMs : Int
  observedAtMs : Int
  isStale : Bool
  indexedAtMs : Option Int
  indexedFileSizeBytes : Option Nat
  indexedFileModifiedAtMs : Option Int
  indexedStatus : IndexedStatus
  indexedError : Option String
  metadata : Json

namespace SourceImportRow

def key (row : SourceImportRow) : FileKey := (row.provider, row.sourceRoot, row.sourcePath)

def observation (row : SourceImportRow) : Observation :=
  ⟨row.sourceFormat, row.fileSizeBytes, row.fileModifiedAtMs, changeToken row.metadata⟩

/-- `source_import_file_from_row`. -/
def file (row : SourceImportRow) : SourceImportFile where
  provider := row.provider
  sourceFormat := row.sourceFormat
  sourceRoot := row.sourceRoot
  sourcePath := row.sourcePath
  fileSizeBytes := UInt64.ofNat row.fileSizeBytes
  fileModifiedAtMs := row.fileModifiedAtMs
  observedAtMs := row.observedAtMs
  metadata := row.metadata

/-- `source_import_file_pending_condition_sql`. -/
def pending (row : SourceImportRow) : Bool :=
  row.indexedStatus ≠ .indexed
    || row.indexedFileSizeBytes.isNone
    || row.indexedFileModifiedAtMs.isNone
    || row.indexedFileSizeBytes ≠ some row.fileSizeBytes
    || row.indexedFileModifiedAtMs ≠ some row.fileModifiedAtMs

/-- The columns of a file's insertion. -/
def fresh (file : SourceImportFile) : SourceImportRow where
  provider := file.provider
  sourceFormat := file.sourceFormat
  sourceRoot := file.sourceRoot
  sourcePath := file.sourcePath
  fileSizeBytes := cappedI64 file.fileSizeBytes
  fileModifiedAtMs := file.fileModifiedAtMs
  observedAtMs := file.observedAtMs
  isStale := false
  indexedAtMs := none
  indexedFileSizeBytes := none
  indexedFileModifiedAtMs := none
  indexedStatus := .pending
  indexedError := none
  metadata := file.metadata

/-- The format, size and time of a file are the row's. -/
def sameStat (row : SourceImportRow) (file : SourceImportFile) : Bool :=
  row.sourceFormat = file.sourceFormat
    && row.fileSizeBytes = cappedI64 file.fileSizeBytes
    && row.fileModifiedAtMs = file.fileModifiedAtMs

/-- The condition under which the upsert keeps the columns of the last import. -/
def keepsIndexed (row : SourceImportRow) (file : SourceImportFile) : Bool :=
  row.sameStat file && (!file.isSourceRoot || row.metadata == file.metadata)

/-- `ON CONFLICT DO UPDATE`, with its `WHERE`. -/
def observe (row : SourceImportRow) (file : SourceImportFile) : SourceImportRow :=
  if !row.sameStat file || row.isStale || row.metadata != file.metadata then
    if row.keepsIndexed file then
      { fresh file with
        indexedAtMs := row.indexedAtMs
        indexedFileSizeBytes := row.indexedFileSizeBytes
        indexedFileModifiedAtMs := row.indexedFileModifiedAtMs
        indexedStatus := row.indexedStatus
        indexedError := row.indexedError }
    else fresh file
  else row

/-- The columns that `mark_source_import_file_indexed` sets. -/
def markIndexed (row : SourceImportRow) (fileSizeBytes : UInt64) (fileModifiedAtMs : Int)
    (indexedAtMs : Int)
    : SourceImportRow :=
  { row with
    indexedAtMs := some indexedAtMs
    indexedFileSizeBytes := some (cappedI64 fileSizeBytes)
    indexedFileModifiedAtMs := some fileModifiedAtMs
    indexedStatus := .indexed
    indexedError := none }

/-- The columns that `mark_source_import_file_failed` sets. -/
def markFailed (row : SourceImportRow) (error : String) (indexedAtMs : Int) : SourceImportRow :=
  { row with
    indexedAtMs := some indexedAtMs
    indexedFileSizeBytes := none
    indexedFileModifiedAtMs := none
    indexedStatus := .failed
    indexedError := some error }

theorem observe_key {row : SourceImportRow} {file : SourceImportFile} (same : row.key = file.key)
    : (row.observe file).key = file.key := by
  unfold observe
  split
  next => split <;> rfl
  next => exact same

@[simp] theorem fresh_pending (file : SourceImportFile) : (fresh file).pending = true := by
  simp [pending, fresh]

@[simp] theorem markFailed_pending (row : SourceImportRow) (error : String) (indexedAtMs : Int)
    : (row.markFailed error indexedAtMs).pending = true := by
  simp [pending, markFailed]

/-- A row is pending after an import of another size or time. -/
theorem markIndexed_pending (row : SourceImportRow) (fileSizeBytes : UInt64)
    (fileModifiedAtMs indexedAtMs : Int)
    : (row.markIndexed fileSizeBytes fileModifiedAtMs indexedAtMs).pending = false
      ↔ cappedI64 fileSizeBytes = row.fileSizeBytes ∧ fileModifiedAtMs = row.fileModifiedAtMs := by
  simp [pending, markIndexed]

/-- An unchanged row is one whose columns are those of the file. -/
theorem unchanged_iff {row : SourceImportRow} {file : SourceImportFile}
    : ¬ (!row.sameStat file || row.isStale || row.metadata != file.metadata) = true
      ↔ row.sameStat file = true
        ∧ row.isStale = false
        ∧ (row.metadata == file.metadata) = true := by
  cases row.sameStat file <;> cases row.isStale <;>
    cases same : row.metadata == file.metadata <;> simp [bne, same]

/-- After an observation, a row records it. -/
theorem observe_observation (row : SourceImportRow) (file : SourceImportFile)
    : (row.observe file).observation = file.observation := by
  unfold observe
  split
  next => split <;> rfl
  next unchanged =>
      obtain ⟨stat, -, metadata⟩ := unchanged_iff.mp unchanged
      simp only [sameStat, Bool.and_eq_true, decide_eq_true_eq] at stat
      obtain ⟨⟨format, size⟩, time⟩ := stat
      simp only [observation, SourceImportFile.observation, format, size, time,
        Json.eq_of_beq _ _ metadata]

/-- An observation keeps the columns of the last import, or makes the row pending. -/
theorem observe_pending (row : SourceImportRow) (file : SourceImportFile)
    : (row.observe file).pending = if row.keepsIndexed file then row.pending else true := by
  unfold observe
  split
  next =>
      split
      next keeps =>
          simp only [keepsIndexed, sameStat, Bool.and_eq_true, decide_eq_true_eq] at keeps
          obtain ⟨⟨⟨-, size⟩, time⟩, -⟩ := keeps
          unfold pending fresh
          rw [size, time]
      next => exact fresh_pending file
  next unchanged =>
      obtain ⟨stat, -, metadata⟩ := unchanged_iff.mp unchanged
      simp [keepsIndexed, stat, metadata]

end SourceImportRow

-----------------------------------------------------------------------------------------
-- Statements
-----------------------------------------------------------------------------------------

/-- The table `source_import_files`. -/
abbrev SourceImportFiles := Keyed SourceImportRow SourceImportRow.key

namespace SourceImportFiles

/-- `upsert_source_import_files`, for one of its files. -/
def upsert (files : SourceImportFiles) (file : SourceImportFile) : SourceImportFiles :=
  match files.find? file.key with
  | none => files.put (.fresh file)
  | some row => files.put (row.observe file)

/-- `UPDATE … WHERE` the key is given `AND is_stale = 0`. -/
def updateLive (files : SourceImportFiles) (key : FileKey)
    (change : SourceImportRow → SourceImportRow)
    : SourceImportFiles :=
  match files.find? key with
  | none => files
  | some row => if row.isStale then files else files.put (change row)

/-- `mark_source_import_missing_paths_stale`. -/
def markMissingPathsStale (files : SourceImportFiles) (provider : CaptureProvider)
    (sourceRoot : String) (currentPaths : List String) (observedAtMs : Int)
    : SourceImportFiles :=
  files.modify
    (fun row =>
      if row.provider = provider && row.sourceRoot = sourceRoot && !row.isStale
          && row.sourcePath ∉ currentPaths then
        { row with isStale := true, observedAtMs := observedAtMs }
      else row)
    (by
      intro row
      split <;> rfl)

/-- `list_pending_source_import_files`. -/
def listPending (files : SourceImportFiles) (provider : CaptureProvider) (sourceRoot : String)
    : List SourceImportFile :=
  (orderBy SourceImportRow.sourcePath
      (files.rows.filter fun row =>
        row.provider = provider && row.sourceRoot = sourceRoot && !row.isStale && row.pending)).map
    SourceImportRow.file

@[simp] theorem find?_upsert (files : SourceImportFiles) (file : SourceImportFile) (key : FileKey)
    : (files.upsert file).find? key
      = if file.key = key then
          some (((files.find? file.key).map (·.observe file)).getD (.fresh file))
        else files.find? key := by
  unfold upsert
  split
  next absent =>
      rw [Keyed.find?_put, absent]
      rfl
  next row found =>
      rw [Keyed.find?_put, SourceImportRow.observe_key (Keyed.key_of_find? found), found]
      rfl

@[simp] theorem find?_updateLive (files : SourceImportFiles) (key other : FileKey)
    (change : SourceImportRow → SourceImportRow) (keeps : ∀ row, (change row).key = row.key)
    : (files.updateLive key change).find? other
      = if key = other then
          (files.find? key).map fun row => if row.isStale then row else change row
        else files.find? other := by
  unfold updateLive
  split
  next absent =>
      rw [absent]
      split
      next same => rw [← same, absent]; rfl
      next => rfl
  next row found =>
      have here := Keyed.key_of_find? found
      by_cases stale : row.isStale = true
      · rw [if_pos stale, found]
        split
        next same => rw [← same, found]; simp [stale]
        next => rfl
      · rw [if_neg stale, Keyed.find?_put, keeps, here, found]
        simp [stale]

/-- A stale row stays as it was observed and imported. -/
theorem find?_markMissingPathsStale {files : SourceImportFiles} {provider : CaptureProvider}
    {sourceRoot : String} {currentPaths : List String} {observedAtMs : Int} {key : FileKey}
    {row : SourceImportRow}
    (found
      : (files.markMissingPathsStale provider sourceRoot currentPaths observedAtMs).find? key
        = some row)
    : ∃ before, files.find? key = some before
        ∧ row.observation = before.observation
        ∧ row.pending = before.pending := by
  unfold markMissingPathsStale at found
  rw [Keyed.find?_modify] at found
  obtain ⟨before, here, rfl⟩ := Option.map_eq_some_iff.mp found
  refine ⟨before, here, ?_⟩
  split <;> exact ⟨rfl, rfl⟩

end SourceImportFiles

-----------------------------------------------------------------------------------------
-- Processes
-----------------------------------------------------------------------------------------

/-- One statement of one process. -/
inductive FileAction where
  /-- A scan records a file; the process may import it. -/
  | observe (file : SourceImportFile)
  /-- The end of a scan. -/
  | markMissing (provider : CaptureProvider) (sourceRoot : String) (currentPaths : List String)
      (observedAtMs : Int)
  /-- The process plans to import the files that are pending. -/
  | readPending (provider : CaptureProvider) (sourceRoot : String)
  /-- The import of the file at a position in hand has succeeded. -/
  | complete (position : Nat) (indexedAtMs : Int)
  /-- That import has failed. -/
  | fail (position : Nat) (error : String) (indexedAtMs : Int)

/-- The table and the files that each process has in hand, with what was last observed of each file,
and what the import that was last recorded for it was planned on.
-/
structure FileWorld (Process : Type) where
  files : SourceImportFiles
  inHand : Process → List SourceImportFile
  observed : FileKey → Option Observation
  imported : FileKey → Option Observation

namespace FileWorld

variable {Process : Type}

/-- The fresh schema. -/
def init : FileWorld Process := ⟨.empty, fun _ => [], fun _ => none, fun _ => none⟩

/-- A completion of an import. It is recorded for a row that is not stale. -/
def completed (world : FileWorld Process) (file : SourceImportFile)
    (change : SourceImportRow → SourceImportRow)
    : FileWorld Process :=
  { world with
    files := world.files.updateLive file.key change
    imported :=
      if (world.files.find? file.key).any (!·.isStale) then
        Function.update world.imported file.key (some file.observation)
      else world.imported }

/-- Each row that is not pending was last imported from what was last observed. -/
def ImportsCurrent (world : FileWorld Process) : Prop :=
  ∀ row ∈ world.files.rows,
    row.pending = false →
      (world.imported row.key).isSome ∧ world.imported row.key = world.observed row.key

instance (world : FileWorld Process) : Decidable world.ImportsCurrent :=
  inferInstanceAs (Decidable (∀ row ∈ world.files.rows, _ → _ ∧ _))

/-- Where a step keeps a row from being pending, it does so for what is observed last: an import
completes with the size and time of the row only if it was planned on the row's observation, and a
file that is no whole source is observed with the row's size and time only under the row's token.
-/
def StepCurrent (world : FileWorld Process) (label : Process × FileAction) : Prop :=
  match label.2 with
  | .observe file =>
      ∀ row,
        world.files.find? file.key = some row
        → row.pending = false
        → row.sameStat file = true
        → file.isSourceRoot = false
        → file.observation.changeToken = row.observation.changeToken
  | .complete position _ =>
      ∀ file row,
        (world.inHand label.1)[position]? = some file
        → world.files.find? file.key = some row
        → row.isStale = false
        → cappedI64 file.fileSizeBytes = row.fileSizeBytes
        → file.fileModifiedAtMs = row.fileModifiedAtMs
        → file.observation = row.observation
  | _ => True

-----------------------------------------------------------------------------------------
-- Observations and imports
-----------------------------------------------------------------------------------------

/-- Each row records what was last observed of its file. -/
def Recorded (world : FileWorld Process) : Prop :=
  ∀ key row, world.files.find? key = some row → world.observed key = some row.observation

/-- The rows say what was observed, so each one that is not pending was imported from what it says. -/
theorem importsCurrent_iff {world : FileWorld Process} (recorded : world.Recorded)
    : world.ImportsCurrent
      ↔ ∀ key row,
          world.files.find? key = some row
          → row.pending = false
          → world.imported key = some row.observation := by
  constructor
  · intro current key row found settled
    obtain ⟨member, rfl⟩ := Keyed.find?_eq_some.mp found
    obtain ⟨-, same⟩ := current row member settled
    rw [same, recorded _ row found]
  · intro current row member settled
    have found : world.files.find? row.key = some row := Keyed.find?_eq_some.mpr ⟨member, rfl⟩
    have here := current row.key row found settled
    rw [here, recorded row.key row found]
    exact ⟨rfl, rfl⟩

theorem recorded_init : (init : FileWorld Process).Recorded := by
  intro key row found
  cases found

/-- A completion leaves a row what was observed of it. -/
theorem Recorded.completed {world : FileWorld Process} (recorded : world.Recorded)
    (file : SourceImportFile) {change : SourceImportRow → SourceImportRow}
    (keeps : ∀ row, (change row).key = row.key)
    (same : ∀ row, (change row).observation = row.observation)
    : (world.completed file change).Recorded := by
  intro key row found
  unfold FileWorld.completed at found
  rw [SourceImportFiles.find?_updateLive _ _ _ _ keeps] at found
  split at found
  next here =>
      subst here
      obtain ⟨before, held, rfl⟩ := Option.map_eq_some_iff.mp found
      have known := recorded _ before held
      split
      next => exact known
      next => rw [same]; exact known
  next => exact recorded key row found

/-- A completion keeps the imports current where it leaves no row settled on another observation. -/
theorem Recorded.completed_current {world : FileWorld Process} (recorded : world.Recorded)
    (current : world.ImportsCurrent) (file : SourceImportFile)
    (change : SourceImportRow → SourceImportRow)
    (keeps : ∀ row, (change row).key = row.key)
    (same : ∀ row, (change row).observation = row.observation)
    : (world.completed file change).ImportsCurrent
      ↔ ∀ row,
          world.files.find? file.key = some row
          → row.isStale = false
          → (change row).pending = false
          → file.observation = row.observation := by
  rw [importsCurrent_iff recorded] at current
  rw [importsCurrent_iff (recorded.completed file keeps same)]
  unfold FileWorld.completed
  simp only [SourceImportFiles.find?_updateLive _ _ _ _ keeps]
  constructor
  · intro still row found live settled
    have here := still file.key (change row) (by simp [found, live]) settled
    rw [if_pos (by simp [found, live]), Function.update_self, same] at here
    exact Option.some.inj here
  · intro meets key row found settled
    by_cases here : file.key = key
    · subst here
      rw [if_pos rfl] at found
      obtain ⟨before, held, rfl⟩ := Option.map_eq_some_iff.mp found
      by_cases live : before.isStale = true
      · rw [if_pos live] at settled ⊢
        rw [if_neg (by simp [held, live])]
        exact current _ before held settled
      · rw [if_neg live] at settled ⊢
        rw [if_pos (by simp [held, live]), Function.update_self, same]
        rw [meets before held (by simpa using live) settled]
    · rw [if_neg here] at found
      have known := current key row found settled
      split
      next => rw [Function.update_of_ne (Ne.symm here), known]
      next => exact known

variable [DecidableEq Process]

/-- The interleaving of the processes. -/
def step (world : FileWorld Process) (label : Process × FileAction) : Option (FileWorld Process) :=
  match label.2 with
  | .observe file =>
      some
        { world with
          files := world.files.upsert file
          inHand := Function.update world.inHand label.1 (world.inHand label.1 ++ [file])
          observed := Function.update world.observed file.key (some file.observation) }
  | .markMissing provider sourceRoot currentPaths observedAtMs =>
      some
        { world with
          files :=
            world.files.markMissingPathsStale provider sourceRoot currentPaths observedAtMs }
  | .readPending provider sourceRoot =>
      some
        { world with
          inHand :=
            Function.update world.inHand label.1
              (world.inHand label.1 ++ world.files.listPending provider sourceRoot) }
  | .complete position indexedAtMs =>
      (world.inHand label.1)[position]?.map fun file =>
        world.completed file fun row =>
          row.markIndexed file.fileSizeBytes file.fileModifiedAtMs indexedAtMs
  | .fail position error indexedAtMs =>
      (world.inHand label.1)[position]?.map fun file =>
        world.completed file fun row => row.markFailed error indexedAtMs

/-- Every step keeps the record. -/
theorem Recorded.step {world next : FileWorld Process} {label : Process × FileAction}
    (recorded : world.Recorded) (taken : world.step label = some next)
    : next.Recorded := by
  obtain ⟨process, action⟩ := label
  cases action with
  | observe file =>
      obtain rfl := Option.some.inj taken
      intro key row found
      rw [SourceImportFiles.find?_upsert] at found
      split at found
      next here =>
          subst here
          obtain rfl := Option.some.inj found
          cases held : world.files.find? file.key with
          | none => simp [SourceImportRow.observation, SourceImportRow.fresh,
              SourceImportFile.observation]
          | some before => simp [SourceImportRow.observe_observation]
      next other =>
          dsimp only
          rw [Function.update_of_ne (Ne.symm other)]
          exact recorded key row found
  | markMissing provider sourceRoot currentPaths observedAtMs =>
      obtain rfl := Option.some.inj taken
      intro key row found
      obtain ⟨before, held, same, -⟩ := SourceImportFiles.find?_markMissingPathsStale found
      rw [same]
      exact recorded key before held
  | readPending provider sourceRoot =>
      obtain rfl := Option.some.inj taken
      exact recorded
  | complete position indexedAtMs =>
      obtain ⟨file, -, rfl⟩ := Option.map_eq_some_iff.mp taken
      exact recorded.completed file (fun _ => rfl) (fun _ => rfl)
  | fail position error indexedAtMs =>
      obtain ⟨file, -, rfl⟩ := Option.map_eq_some_iff.mp taken
      exact recorded.completed file (fun _ => rfl) (fun _ => rfl)

/-- An observation keeps the imports current where it keeps no row settled under another token. -/
theorem observe_current {world next : FileWorld Process} {process : Process}
    {file : SourceImportFile} (recorded : world.Recorded) (current : world.ImportsCurrent)
    (taken : world.step (process, .observe file) = some next)
    : next.ImportsCurrent ↔ world.StepCurrent (process, .observe file) := by
  have later := recorded.step taken
  obtain rfl := Option.some.inj taken
  rw [importsCurrent_iff recorded] at current
  rw [importsCurrent_iff later]
  simp only [StepCurrent, SourceImportFiles.find?_upsert]
  constructor
  · intro still row found settled stat part
    have keeps : row.keepsIndexed file = true := by simp [SourceImportRow.keepsIndexed, stat, part]
    have here := still file.key (row.observe file) (by simp [found])
      (by rw [SourceImportRow.observe_pending, if_pos keeps, settled])
    rw [SourceImportRow.observe_observation, current _ row found settled] at here
    rw [Option.some.inj here]
  · intro meets key row found settled
    by_cases here : file.key = key
    · subst here
      rw [if_pos rfl] at found
      obtain rfl := Option.some.inj found
      cases held : world.files.find? file.key with
      | none => simp [held] at settled
      | some before =>
          simp only [held, Option.map_some, Option.getD_some, SourceImportRow.observe_pending,
            SourceImportRow.observe_observation] at settled ⊢
          split at settled
          next keeps =>
              rw [current _ before held settled]
              simp only [SourceImportRow.keepsIndexed, Bool.and_eq_true, Bool.or_eq_true] at keeps
              obtain ⟨stat, whole⟩ := keeps
              have token : file.observation.changeToken = before.observation.changeToken := by
                rcases whole with part | metadata
                · exact meets before held settled stat (by simpa using part)
                · simp only [SourceImportFile.observation, SourceImportRow.observation,
                    Json.eq_of_beq _ _ metadata]
              simp only [SourceImportRow.sameStat, Bool.and_eq_true, decide_eq_true_eq] at stat
              obtain ⟨⟨format, size⟩, time⟩ := stat
              simp only [SourceImportRow.observation, SourceImportFile.observation] at token ⊢
              rw [format, size, time, token]
          next => cases settled
    · rw [if_neg here] at found
      exact current key row found settled

/-- A step keeps the imports current exactly when it meets the condition. -/
theorem step_current_iff {world next : FileWorld Process} {label : Process × FileAction}
    (recorded : world.Recorded) (current : world.ImportsCurrent)
    (taken : world.step label = some next)
    : next.ImportsCurrent ↔ world.StepCurrent label := by
  obtain ⟨process, action⟩ := label
  cases action with
  | observe file => exact observe_current recorded current taken
  | markMissing provider sourceRoot currentPaths observedAtMs =>
      refine iff_of_true ?_ trivial
      rw [importsCurrent_iff (recorded.step taken)]
      obtain rfl := Option.some.inj taken
      intro key row found settled
      obtain ⟨before, held, same, pending⟩ :=
        SourceImportFiles.find?_markMissingPathsStale found
      rw [same]
      exact (importsCurrent_iff recorded).mp current key before held (pending ▸ settled)
  | readPending provider sourceRoot =>
      refine iff_of_true ?_ trivial
      obtain rfl := Option.some.inj taken
      exact current
  | complete position indexedAtMs =>
      obtain ⟨file, inHand, rfl⟩ := Option.map_eq_some_iff.mp taken
      rw [recorded.completed_current current file
        (fun row => row.markIndexed file.fileSizeBytes file.fileModifiedAtMs indexedAtMs)
        (fun _ => rfl) (fun _ => rfl)]
      simp only [SourceImportRow.markIndexed_pending, StepCurrent, and_imp]
      constructor
      · intro meets other row here found live size time
        obtain rfl := Option.some.inj (inHand.symm.trans here)
        exact meets row found live size time
      · intro meets row
        exact meets file row inHand
  | fail position error indexedAtMs =>
      obtain ⟨file, inHand, rfl⟩ := Option.map_eq_some_iff.mp taken
      rw [recorded.completed_current current file (fun row => row.markFailed error indexedAtMs)
        (fun _ => rfl) (fun _ => rfl)]
      exact iff_of_true (by simp) trivial

/-- In a run, a row is pending unless it was last imported from what was last observed, in every
state, exactly when every step meets the condition. Witness: the record that the rows keep, and what
each step does to them.
-/
theorem importsCurrent_iff_stepsCurrent (labels : List (Process × FileAction))
    : AllStates step ImportsCurrent init labels ↔ AllSteps step StepCurrent init labels :=
  allStates_iff_allSteps Recorded (fun _ _ _ recorded taken => recorded.step taken)
    (fun _ _ _ recorded current taken => step_current_iff recorded current taken)
    recorded_init (by simp [ImportsCurrent, init, Keyed.empty])

/-- A whole source whose change token is given, always of one size and time. -/
def scannedRoot (token : String) : SourceImportFile where
  provider := .hermes
  sourceFormat := "hermes_state_sqlite"
  sourceRoot := "state.db"
  sourcePath := "state.db"
  fileSizeBytes := 42
  fileModifiedAtMs := 0
  observedAtMs := 0
  metadata :=
    .object
      [("change_token_v1", .string token), ("inventory_unit", .string "source_root"),
        ("source_files", .number (.posInt 1))]

/-- Two processes scan a source before and after a change; the first one completes its import last. -/
def lateCompletionRun : List (Bool × FileAction) :=
  [(true, .observe (scannedRoot "before")), (false, .observe (scannedRoot "after")),
    (true, .complete 0 1)]

/-- The late completion settles the row, and the change is pending no more. -/
theorem lateCompletionRun_loses_change
    : ∃ world,
        run step init lateCompletionRun = some world
        ∧ ¬ world.ImportsCurrent
        ∧ (world.files.listPending .hermes "state.db").length = 0 := by
  let world := (run step init lateCompletionRun).get (by decide)
  exact ⟨world, by simp [world], by decide, by decide⟩

end FileWorld

end CtxRemote.Store
