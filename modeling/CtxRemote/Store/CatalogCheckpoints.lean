import CtxRemote.Library.Loops
import CtxRemote.Store.Catalog

/-! The checkpoints of the catalog in every sequence of scans, imports and failures. A checkpoint that is
left is the one of the last import that completed, and a change of the file clears it unless the file
has grown on top of that import.
-/

namespace CtxRemote.Store
open CtxRemote.Library

-----------------------------------------------------------------------------------------
-- What an observation does to a row
-----------------------------------------------------------------------------------------

/-- The checkpoint of an import that completes. -/
def Catalog.SourceIndexUpdate.checkpoint (update : Catalog.SourceIndexUpdate) : Checkpoint where
  lastImportedAtMs := some update.indexedAtMs
  lastImportedFileSizeBytes := some (cappedI64 update.fileSizeBytes)
  lastImportedFileModifiedAtMs := some update.fileModifiedAtMs
  lastImportedFileSha256 := update.fileSha256
  lastImportedEventCount := update.eventCount.map fun count => (cappedI64 count : Int)

namespace CatalogSessionRow

variable {row excluded : CatalogSessionRow}

theorem holds_sameFile
    : (row.sameFile excluded).holds = true
      ↔ row.fileSizeBytes = excluded.fileSizeBytes
        ∧ row.fileModifiedAtMs = excluded.fileModifiedAtMs := by
  simp [sameFile]

/-- A file that has grown keeps the checkpoint of an import of all that was known of it. -/
theorem holds_grownImport
    : (row.grownImport excluded).holds = true
      ↔ row.fileSizeBytes < excluded.fileSizeBytes
        ∧ row.indexedStatus = .indexed
        ∧ row.indexedFileSizeBytes = some row.fileSizeBytes
        ∧ row.indexedFileModifiedAtMs = some row.fileModifiedAtMs
        ∧ row.lastImportedFileSizeBytes = some row.fileSizeBytes := by
  simp [grownImport]

/-- The columns of the checkpoint are kept together or cleared together. -/
theorem updated_checkpoint
    : (row.updated excluded).toCheckpoint
      = if (row.sameFile excluded).holds ∨ (row.grownImport excluded).holds then row.toCheckpoint
        else {} := by
  unfold updated importedCase
  by_cases same : (row.sameFile excluded).holds = true
  · simp [same]
  · by_cases grown : (row.grownImport excluded).holds = true <;> simp [same, grown]

/-- A row that the `WHERE` leaves out is of the same file. -/
theorem sameFile_of_unchanged (unchanged : ¬(row.changed excluded).holds = true)
    : (row.sameFile excluded).holds = true := by
  rw [holds_sameFile]
  simp only [changed, Condition.holds_either, Condition.holds_differ, Bool.or_eq_true,
    not_or] at unchanged
  have size := unchanged.2.2.2.2.2.2.2.2.2.2.1
  have time := unchanged.2.2.2.2.2.2.2.2.2.2.2.1
  simp only [Option.isSome_some, Bool.true_and, Bool.not_eq_true, Bool.not_eq_false',
    decide_eq_true_eq, Option.some.injEq] at size time
  exact ⟨size, time⟩

end CatalogSessionRow

-----------------------------------------------------------------------------------------
-- Histories
-----------------------------------------------------------------------------------------

/-- What has happened to a file: its last import that completed, and whether neither an import has
failed nor the file has changed since.
-/
structure FileHistory where
  lastImport : Option Catalog.SourceIndexUpdate := none
  complete : Bool := false

/-- A catalog, with what has happened to each file of it. -/
structure TrackedCatalog where
  catalog : Catalog := .empty
  histories : String → FileHistory := fun _ => {}

/-- A statement that writes to the catalog. -/
inductive CatalogWrite where
  | observe (session : CatalogSession)
  | markIndexed (provider : CaptureProvider) (update : Catalog.SourceIndexUpdate)
  | markFailed (provider : CaptureProvider) (sourceRoot sourcePath error : String) (indexedAtMs : Int)
  | markStale (provider : CaptureProvider) (sourceRoot : String) (catalogedAtMs : Int)
  | markMissingPathsStale (provider : CaptureProvider) (sourceRoot : String)
      (currentPaths : List String) (catalogedAtMs : Int)

namespace TrackedCatalog

/-- The history of a file goes on where the catalog has a row for it. -/
def goOn (tracked : TrackedCatalog) (sourcePath : String) (condition : CatalogSessionRow → Bool)
    (change : FileHistory → FileHistory)
    : String → FileHistory :=
  if (tracked.catalog.find? sourcePath).any condition then
    Function.update tracked.histories sourcePath (change (tracked.histories sourcePath))
  else tracked.histories

/-- A statement, and what it says of the files. -/
def perform (tracked : TrackedCatalog) : CatalogWrite → TrackedCatalog
  | .observe session =>
      { catalog := tracked.catalog.upsertSession session
        histories :=
          tracked.goOn session.sourcePath (fun row => !(row.sameFile (.inserted session)).holds)
            fun history => { history with complete := false } }
  | .markIndexed provider update =>
      { catalog := tracked.catalog.markCatalogSourceIndexed provider update
        histories :=
          tracked.goOn update.sourcePath (Catalog.ofFile provider update.sourceRoot update.sourcePath)
            fun _ => { lastImport := some update, complete := true } }
  | .markFailed provider sourceRoot sourcePath error indexedAtMs =>
      { catalog :=
          tracked.catalog.markCatalogSourceFailed provider sourceRoot sourcePath error indexedAtMs
        histories :=
          tracked.goOn sourcePath (Catalog.ofFile provider sourceRoot sourcePath)
            fun history => { history with complete := false } }
  | .markStale provider sourceRoot catalogedAtMs =>
      { tracked with
        catalog := tracked.catalog.markCatalogSourceStale provider sourceRoot catalogedAtMs }
  | .markMissingPathsStale provider sourceRoot currentPaths catalogedAtMs =>
      { tracked with
        catalog :=
          tracked.catalog.markCatalogSourceMissingPathsStale provider sourceRoot currentPaths
            catalogedAtMs }

/-- The catalog after statements. -/
def after (writes : List CatalogWrite) : TrackedCatalog := writes.foldl perform {}

end TrackedCatalog

-----------------------------------------------------------------------------------------
-- Soundness
-----------------------------------------------------------------------------------------

/-- A row agrees with what has happened to its file. -/
structure FileHistory.Fits (history : FileHistory) (row : CatalogSessionRow) : Prop where
  checkpoint
    : row.toCheckpoint = {}
      ∨ ∃ update, history.lastImport = some update ∧ row.toCheckpoint = update.checkpoint
  complete : row.indexedStatus = .indexed → history.complete = true
  size : row.fileSizeBytes ≤ 9223372036854775807

/-- Every row of the catalog agrees with what has happened to its file. -/
def TrackedCatalog.Sound (tracked : TrackedCatalog) : Prop :=
  ∀ sourcePath row, tracked.catalog.find? sourcePath = some row →
    (tracked.histories sourcePath).Fits row

theorem inserted_size_le (session : CatalogSession)
    : (CatalogSessionRow.inserted session).fileSizeBytes ≤ 9223372036854775807 := by
  have capped : cappedI64 session.fileSizeBytes ≤ 9223372036854775807 := Nat.min_le_right _ _
  exact Int.ofNat_le.mpr capped

/-- A row that is observed agrees with the history that goes on. -/
theorem FileHistory.Fits.observe {history : FileHistory} {row : CatalogSessionRow}
    (fits : history.Fits row) (session : CatalogSession)
    : FileHistory.Fits
        (if !(row.sameFile (.inserted session)).holds then { history with complete := false }
        else history)
        (if (row.changed (.inserted session)).holds then row.updated (.inserted session) else row) := by
  by_cases same : (row.sameFile (.inserted session)).holds = true
  · -- the file is the same, and so are the columns of its imports
    rw [same, Bool.not_true, if_neg Bool.false_ne_true]
    by_cases changed : (row.changed (.inserted session)).holds = true
    · rw [if_pos changed]
      constructor
      case checkpoint =>
        rw [CatalogSessionRow.updated_checkpoint, if_pos (Or.inl same)]
        exact fits.checkpoint
      case complete =>
        intro indexed
        apply fits.complete
        simpa [CatalogSessionRow.updated, CatalogSessionRow.indexedCase, same] using indexed
      case size => exact inserted_size_le session
    · rw [if_neg changed]
      exact fits
  · have changed : (row.changed (.inserted session)).holds = true := by
      by_contra unchanged
      exact same (CatalogSessionRow.sameFile_of_unchanged unchanged)
    rw [Bool.not_eq_true] at same
    rw [same, Bool.not_false, if_pos rfl, if_pos changed]
    constructor
    case checkpoint =>
      rw [CatalogSessionRow.updated_checkpoint]
      split
      next => exact fits.checkpoint
      next => exact .inl rfl
    case complete =>
      intro indexed
      simp [CatalogSessionRow.updated, CatalogSessionRow.indexedCase, same] at indexed
    case size => exact inserted_size_le session

namespace TrackedCatalog

variable {tracked : TrackedCatalog}

theorem goOn_self {sourcePath : String} {condition : CatalogSessionRow → Bool}
    {change : FileHistory → FileHistory} {row : CatalogSessionRow}
    (found : tracked.catalog.find? sourcePath = some row)
    : tracked.goOn sourcePath condition change sourcePath
      = if condition row then change (tracked.histories sourcePath)
        else tracked.histories sourcePath := by
  unfold goOn
  rw [found, Option.any_some]
  split
  next => exact Function.update_self ..
  next => rfl

theorem goOn_other {sourcePath other : String} {condition : CatalogSessionRow → Bool}
    {change : FileHistory → FileHistory} (different : other ≠ sourcePath)
    : tracked.goOn sourcePath condition change other = tracked.histories other := by
  unfold goOn
  split
  next => exact Function.update_of_ne different ..
  next => rfl

/-- What is observed of a path that has a row. -/
theorem find?_upsertSession {catalog : Catalog} {session : CatalogSession} {row : CatalogSessionRow}
    (found : catalog.find? session.sourcePath = some row)
    : (catalog.upsertSession session).find? session.sourcePath
      = some (if (row.changed (.inserted session)).holds then row.updated (.inserted session)
        else row) := by
  unfold Catalog.upsertSession
  rw [found]
  dsimp only
  split
  next => exact (Keyed.find?_put _ _ _).trans (if_pos rfl)
  next => exact found

/-- Other paths keep their rows. -/
theorem find?_upsertSession_other {catalog : Catalog} {session : CatalogSession}
    {sourcePath : String} (different : sourcePath ≠ session.sourcePath)
    : (catalog.upsertSession session).find? sourcePath = catalog.find? sourcePath := by
  unfold Catalog.upsertSession
  have other : ¬session.sourcePath = sourcePath := fun same => different same.symm
  split
  next => exact (Keyed.find?_put _ _ _).trans (if_neg other)
  next row found =>
      dsimp only
      split
      next => exact (Keyed.find?_put _ _ _).trans (if_neg other)
      next => rfl

theorem Sound.observe (sound : tracked.Sound) (session : CatalogSession)
    : (tracked.perform (.observe session)).Sound := by
  intro sourcePath row found
  by_cases here : sourcePath = session.sourcePath
  · subst here
    dsimp only [perform] at found ⊢
    cases before : tracked.catalog.find? session.sourcePath with
    | none =>
        have fresh : row = .inserted session := by
          unfold Catalog.upsertSession at found
          rw [before] at found
          exact (Option.some.inj (((Keyed.find?_put _ _ _).trans (if_pos rfl)).symm.trans found)).symm
        subst fresh
        exact ⟨.inl rfl, fun indexed => (by cases indexed), inserted_size_le session⟩
    | some held =>
        rw [goOn_self before]
        have observed := (find?_upsertSession before).symm.trans found
        obtain rfl := Option.some.inj observed
        exact (sound _ _ before).observe session
  · have kept := (find?_upsertSession_other here).symm.trans found
    dsimp only [perform]
    rw [goOn_other here]
    exact sound sourcePath row kept

theorem find?_updateWhere {catalog : Catalog} {condition : CatalogSessionRow → Bool}
    {change : CatalogSessionRow → CatalogSessionRow}
    {keeps : ∀ row, (change row).sourcePath = row.sourcePath} (sourcePath : String)
    : (catalog.updateWhere condition change keeps).find? sourcePath
      = (catalog.find? sourcePath).map fun row => if condition row then change row else row := by
  unfold Catalog.updateWhere
  exact Keyed.find?_modify ..

/-- An update of rows that keeps their path keeps soundness if each row that meets its condition fits
the history that goes on.
-/
theorem Sound.updateWhere {condition : CatalogSessionRow → Bool}
    {change : CatalogSessionRow → CatalogSessionRow}
    {keeps : ∀ row, (change row).sourcePath = row.sourcePath} {histories : String → FileHistory}
    (sound : tracked.Sound)
    (fits : ∀ row, tracked.catalog.find? row.sourcePath = some row →
      (tracked.histories row.sourcePath).Fits row →
      (histories row.sourcePath).Fits (if condition row then change row else row))
    : Sound ⟨tracked.catalog.updateWhere condition change keeps, histories⟩ := by
  intro sourcePath row found
  dsimp only at found ⊢
  rw [find?_updateWhere] at found
  obtain ⟨held, before, rfl⟩ := Option.map_eq_some_iff.mp found
  obtain rfl := Keyed.key_of_find? before
  exact fits held before (sound _ _ before)

theorem Sound.markIndexed (sound : tracked.Sound) (provider : CaptureProvider)
    (update : Catalog.SourceIndexUpdate)
    : (tracked.perform (.markIndexed provider update)).Sound := by
  refine sound.updateWhere fun row found fits => ?_
  by_cases file : Catalog.ofFile provider update.sourceRoot update.sourcePath row = true
  · have path : row.sourcePath = update.sourcePath := by
      simp only [Catalog.ofFile, Bool.and_eq_true, decide_eq_true_eq] at file
      exact file.1.2
    rw [if_pos file, path, goOn_self (path ▸ found), if_pos file]
    exact ⟨.inr ⟨update, rfl, rfl⟩, fun _ => rfl, fits.size⟩
  · rw [if_neg file]
    by_cases path : row.sourcePath = update.sourcePath
    · rw [path] at found fits ⊢
      rw [goOn_self found, if_neg file]
      exact fits
    · rw [goOn_other path]
      exact fits

theorem Sound.markFailed (sound : tracked.Sound) (provider : CaptureProvider)
    (sourceRoot sourcePath error : String) (indexedAtMs : Int)
    : (tracked.perform (.markFailed provider sourceRoot sourcePath error indexedAtMs)).Sound := by
  refine sound.updateWhere fun row found fits => ?_
  by_cases file : Catalog.ofFile provider sourceRoot sourcePath row = true
  · have path : row.sourcePath = sourcePath := by
      simp only [Catalog.ofFile, Bool.and_eq_true, decide_eq_true_eq] at file
      exact file.1.2
    rw [path] at found fits ⊢
    rw [if_pos file, goOn_self found, if_pos file]
    exact ⟨fits.checkpoint, fun indexed => (by cases indexed), fits.size⟩
  · rw [if_neg file]
    by_cases path : row.sourcePath = sourcePath
    · rw [path] at found fits ⊢
      rw [goOn_self found, if_neg file]
      exact fits
    · rw [goOn_other path]
      exact fits

/-- Staleness is neither a change of the file nor an import. -/
theorem Sound.stale (sound : tracked.Sound) {condition : CatalogSessionRow → Bool}
    {catalogedAtMs : Int}
    : Sound
        { tracked with
          catalog :=
            tracked.catalog.updateWhere condition
              (fun row => { row with isStale := 1, catalogedAtMs := catalogedAtMs }) fun _ => rfl } := by
  refine sound.updateWhere fun row _ fits => ?_
  split
  next => exact ⟨fits.checkpoint, fits.complete, fits.size⟩
  next => exact fits

/-- One case for each statement. -/
theorem Sound.perform (sound : tracked.Sound) (write : CatalogWrite)
    : (tracked.perform write).Sound := by
  cases write with
  | observe session => exact sound.observe session
  | markIndexed provider update => exact sound.markIndexed provider update
  | markFailed provider sourceRoot sourcePath error indexedAtMs =>
      exact sound.markFailed provider sourceRoot sourcePath error indexedAtMs
  | markStale provider sourceRoot catalogedAtMs => exact sound.stale
  | markMissingPathsStale provider sourceRoot currentPaths catalogedAtMs => exact sound.stale

/-- Every catalog that statements reach is sound. -/
theorem sound_after (writes : List CatalogWrite) : (after writes).Sound := by
  have keeps (tracked : TrackedCatalog) (sound : tracked.Sound) : (writes.foldl perform tracked).Sound := by
    induction writes generalizing tracked with
    | nil => exact sound
    | cons write writes ih => exact ih _ (sound.perform write)
  exact keeps {} fun sourcePath row found => by cases found

end TrackedCatalog

-----------------------------------------------------------------------------------------
-- What a checkpoint says
-----------------------------------------------------------------------------------------

theorem nonnegativeI64ToU64_some {column : Option Int} {value : UInt64}
    (read : Catalog.nonnegativeI64ToU64 column = .ok (some value))
    : ∃ number : Nat, column = some (number : Int) ∧ value = .ofNat number := by
  match column, read with
  | some (.ofNat number), read =>
      simp only [Catalog.nonnegativeI64ToU64, Except.ok.injEq, Option.some.injEq] at read
      exact ⟨number, rfl, read.symm⟩

/-- A state is read from the row of its path. -/
theorem row_of_state {catalog : Catalog} {provider : CaptureProvider}
    {sourceRoot sourcePath : String} {state : Catalog.SourceIndexState}
    (read : catalog.catalogSourceIndexState provider sourceRoot sourcePath = .ok (some state))
    : ∃ row, catalog.find? sourcePath = some row
      ∧ Catalog.nonnegativeI64ToU64 row.lastImportedFileSizeBytes
        = .ok state.lastImportedFileSizeBytes
      ∧ row.lastImportedFileModifiedAtMs = state.lastImportedFileModifiedAtMs
      ∧ row.lastImportedFileSha256 = state.lastImportedFileSha256 := by
  unfold Catalog.catalogSourceIndexState at read
  cases selected : (catalog.find? sourcePath).filter (Catalog.ofFile provider sourceRoot sourcePath) with
  | none =>
      rw [selected] at read
      cases read
  | some row =>
      rw [selected] at read
      obtain ⟨fileSizeBytes, size, read⟩ := bind_eq_ok.mp read
      obtain ⟨eventCount, -, read⟩ := bind_eq_ok.mp read
      cases read
      exact ⟨row, (Option.filter_eq_some_iff.mp selected).1, size, rfl, rfl⟩

/-- The file of a path has shrunk, has been written again at the same size, or has grown although its
last import had not completed.
-/
def FileHistory.LosesCheckpoint (history : FileHistory) (row observed : CatalogSessionRow) : Prop :=
  observed.fileSizeBytes < row.fileSizeBytes
  ∨ (observed.fileSizeBytes = row.fileSizeBytes ∧ observed.fileModifiedAtMs ≠ row.fileModifiedAtMs)
  ∨ (row.fileSizeBytes < observed.fileSizeBytes ∧ history.complete = false)

/-- Such an observation clears the checkpoint of a row that fits the history. -/
theorem FileHistory.LosesCheckpoint.cleared {history : FileHistory} {row observed : CatalogSessionRow}
    (loses : history.LosesCheckpoint row observed) (fits : history.Fits row)
    : (row.changed observed).holds = true ∧ (row.updated observed).toCheckpoint = {} := by
  have other : ¬(row.sameFile observed).holds = true := by
    rw [CatalogSessionRow.holds_sameFile]
    rintro ⟨size, time⟩
    rcases loses with shrunk | ⟨_, rewritten⟩ | ⟨grown, _⟩
    · omega
    · exact rewritten time.symm
    · omega
  have ungrown : ¬(row.grownImport observed).holds = true := by
    rw [CatalogSessionRow.holds_grownImport]
    rintro ⟨larger, indexed, _⟩
    rcases loses with shrunk | ⟨same, _⟩ | ⟨_, incomplete⟩
    · omega
    · omega
    · rw [fits.complete indexed] at incomplete
      cases incomplete
  constructor
  · by_contra unchanged
    exact other (CatalogSessionRow.sameFile_of_unchanged unchanged)
  · rw [CatalogSessionRow.updated_checkpoint, if_neg (not_or.mpr ⟨other, ungrown⟩)]

/-- After every sequence of statements, a checkpoint before the end of the file is the one of its last
completed import, and the observation of a change that is not a growth on top of such an import clears
it.
-/
theorem checkpoints_sound (writes : List CatalogWrite)
    : (∀ provider sourceRoot sourcePath state row size,
        (TrackedCatalog.after writes).catalog.catalogSourceIndexState provider sourceRoot sourcePath
            = .ok (some state)
        → (TrackedCatalog.after writes).catalog.find? sourcePath = some row
        → state.lastImportedFileSizeBytes = some size
        → (size.toNat : Int) < row.fileSizeBytes
        → ∃ update, ((TrackedCatalog.after writes).histories sourcePath).lastImport = some update
          ∧ update.fileSizeBytes = size
          ∧ some update.fileModifiedAtMs = state.lastImportedFileModifiedAtMs
          ∧ update.fileSha256 = state.lastImportedFileSha256)
      ∧ ∀ session row,
        (TrackedCatalog.after writes).catalog.find? session.sourcePath = some row
        → ((TrackedCatalog.after writes).histories session.sourcePath).LosesCheckpoint row
            (.inserted session)
        → ∃ next,
            ((TrackedCatalog.after writes).catalog.upsertSession session).find? session.sourcePath
              = some next
            ∧ next.toCheckpoint = {} := by
  have sound := TrackedCatalog.sound_after writes
  constructor
  · intro provider sourceRoot sourcePath state row size read found reported smaller
    obtain ⟨held, before, sizes, times, digests⟩ := row_of_state read
    obtain rfl := Option.some.inj (before.symm.trans found)
    rw [reported] at sizes
    obtain ⟨number, column, rfl⟩ := nonnegativeI64ToU64_some sizes
    have fits := sound sourcePath held found
    rcases fits.checkpoint with cleared | ⟨update, last, kept⟩
    · have none_size := congrArg Checkpoint.lastImportedFileSizeBytes cleared
      rw [column] at none_size
      cases none_size
    · have capped := congrArg Checkpoint.lastImportedFileSizeBytes kept
      rw [column] at capped
      have numbers : number = min update.fileSizeBytes.toNat 9223372036854775807 :=
        Int.ofNat.inj (Option.some.inj capped)
      have bound := fits.size
      have exact_size : (UInt64.ofNat number).toNat = number := by
        rw [UInt64.toNat_ofNat']
        omega
      refine ⟨update, last, UInt64.toNat_inj.mp ?_, ?_, ?_⟩
      · omega
      · rw [← times]
        exact (congrArg Checkpoint.lastImportedFileModifiedAtMs kept).symm
      · rw [← digests]
        exact (congrArg Checkpoint.lastImportedFileSha256 kept).symm
  · intro session row found loses
    obtain ⟨changed, cleared⟩ := loses.cleared (sound _ _ found)
    have next := TrackedCatalog.find?_upsertSession found
    rw [if_pos changed] at next
    exact ⟨_, next, cleared⟩

end CtxRemote.Store
