import CtxRemote.Sync.ProviderImport
import CtxRemote.Sync.Staging
import Mathlib.Algebra.Order.Ring.Nat

/-! `run_turso_import_once` for a machine with one Codex or Claude directory source: the source
checkpoints, the callbacks it passes to the import loop, and what a complete cycle does.

SHA-256 is modelled as free of collisions: a key or a fingerprint is what is hashed.
-/

namespace CtxRemote.Sync
open CtxRemote.Library CtxRemote.Turso

-----------------------------------------------------------------------------------------
-- Source trees
-----------------------------------------------------------------------------------------

/-- A regular file under the source directory. Its modification time is in nanoseconds, and its
transcript is `none` where the provider's listing leaves the file out.
-/
structure SourceFile where
  path : String
  len : Nat
  modifiedNs : Nat
  transcript : Option Transcript

/-- `source_stats` leaves SQLite's shared-memory files out of the change token. -/
def SourceFile.inToken (file : SourceFile) : Bool :=
  !("-shm".toList.isSuffixOf file.path.toList)

/-- The regular files under a source directory. -/
structure SourceTree where
  files : List SourceFile
  paths : (files.map (·.path)).Nodup
  inToken : ∀ file ∈ files, file.transcript.isSome → file.inToken
  compatible : Compatible (files.filterMap (·.transcript))

/-- The transcript files, as `codex_session_paths` and `collect_source_import_paths` list them. -/
def SourceTree.listed (tree : SourceTree) : List SourceFile :=
  (orderBy SourceFile.path tree.files).filter (·.transcript.isSome)

/-- The listing keeps the transcripts of one tree compatible. -/
theorem SourceTree.compatible_listed (tree : SourceTree)
    : Compatible (tree.listed.filterMap (·.transcript)) := by
  refine tree.compatible.subset fun transcript member => ?_
  obtain ⟨file, listed, is⟩ := List.mem_filterMap.mp member
  exact List.mem_filterMap.mpr ⟨file, mem_orderBy.mp (List.mem_of_mem_filter listed), is⟩

/-- Milliseconds since the epoch, `i64::MAX` from there on. -/
def asMillis (ns : Nat) : Nat := min (ns / 1000000) (2 ^ 63 - 1)

-----------------------------------------------------------------------------------------
-- Checkpoints
-----------------------------------------------------------------------------------------

/-- `SourceChangeEntry`. -/
structure SourceChangeEntry where
  path : String
  len : Nat
  modifiedNs : Nat
deriving DecidableEq

/-- `source_checkpoint_key`. -/
structure SourceKey where
  provider : String
  sourceFormat : String
  path : String
deriving DecidableEq

/-- The fingerprint of `remote_source_checkpoint`. -/
structure Fingerprint where
  provider : String
  sourceFormat : String
  files : Nat
  bytes : Nat
  changeToken : List SourceChangeEntry
deriving DecidableEq

/-- `RemoteSourceCheckpoint`. -/
structure RemoteSourceCheckpoint where
  key : SourceKey
  fingerprint : Fingerprint

/-- `RemoteCheckpointState`: a row of `ctx_turso_source_checkpoints`. -/
structure RemoteCheckpointState where
  fingerprint : Fingerprint
  updatedAtMs : Nat
deriving DecidableEq

/-- `PendingSourceCheckpoint`. -/
structure PendingSourceCheckpoint where
  checkpoint : RemoteSourceCheckpoint
  previousUpdatedAtMs : Option Nat

/-- The stored checkpoint has the fingerprint of the present one. -/
def RemoteSourceCheckpoint.isStored (checkpoint : RemoteSourceCheckpoint)
    (previous : Option RemoteCheckpointState) : Bool :=
  previous.any fun state => state.fingerprint = checkpoint.fingerprint

/-- The remote database, as the import uses it. -/
structure Remote where
  projection : Projection
  checkpoints : SourceKey → Option RemoteCheckpointState

/-- The remote database right after `ensure_remote_schema`. -/
def Remote.empty : Remote := ⟨.empty, fun _ => none⟩

/-- Every event of every transcript of the tree is represented in the projection. -/
def SourceTree.Uploaded (tree : SourceTree) (db : Projection) : Prop :=
  ∀ file ∈ tree.files, ∀ transcript, file.transcript = some transcript
    → ∀ row ∈ transcript.rows, Represented db row

theorem SourceTree.Uploaded.mono {tree : SourceTree} {db later : Projection}
    (uploaded : tree.Uploaded db) (grows : ∀ held ∈ db.events, held ∈ later.events)
    : tree.Uploaded later :=
  fun file member transcript is row inRows =>
    (uploaded file member transcript is row inRows).mono grows

/-- The entry of a file in the change token. -/
def SourceFile.changeEntry (file : SourceFile) : SourceChangeEntry :=
  ⟨file.path, file.len, file.modifiedNs⟩

/-- `source_change_token`, on the files that `source_stats` hands to it. -/
def SourceTree.changeToken (tree : SourceTree) : List SourceChangeEntry :=
  (orderBy SourceFile.path (tree.files.filter SourceFile.inToken)).map SourceFile.changeEntry

/-- The fingerprint of a source in its present state. -/
def SourceTree.fingerprint (tree : SourceTree) (source : SourceInfo) : Fingerprint where
  provider := source.provider.asStr
  sourceFormat := source.sourceFormat
  files := tree.files.length
  bytes := (tree.files.map (·.len)).sum
  changeToken := tree.changeToken

-----------------------------------------------------------------------------------------
-- A machine and its callbacks
-----------------------------------------------------------------------------------------

/-- The two providers whose directory sources are imported file by file. -/
inductive TreeProvider where
  | codex
  | claude
deriving DecidableEq

/-- The directory source of the provider. -/
def TreeProvider.source (path : String) : TreeProvider → SourceInfo
  | .codex => ⟨.codex, "codex_session_jsonl_tree", path⟩
  | .claude => ⟨.claude, "claude_projects_jsonl_tree", path⟩

/-- The number of files that share an ephemeral store. -/
def TreeProvider.chunkSize : TreeProvider → Nat
  | .codex => remoteInMemoryCodexSessionBatchSize
  | .claude => 1

/-- What does not change of a machine: its directory source, the source's canonical path, and the
batch size of its pushes.
-/
structure SourceConfig where
  provider : TreeProvider
  path : String
  canonicalPath : String
  batchSize : {size : Nat // 0 < size}

namespace SourceConfig

variable (config : SourceConfig)

/-- The source of the machine. -/
def source : SourceInfo := config.provider.source config.path

/-- `source_checkpoint_key`. -/
def sourceCheckpointKey (source : SourceInfo) : SourceKey :=
  ⟨source.provider.asStr, source.sourceFormat, config.canonicalPath⟩

/-- The checkpoint key of the machine's source. -/
def key : SourceKey := config.sourceCheckpointKey config.source

/-- The import of one listed file. -/
def importTranscript (file : SourceFile) : Except ImportError Transcript :=
  match file.transcript with
  | some transcript => .ok transcript
  | none => .error [.message "not a transcript"]

/-- The history of a machine on which nothing fails. -/
def history (tree : SourceTree) : History SourceFile Transcript where
  isDir _ := true
  sourceStats _ := .ok ⟨tree.files.length, (tree.files.map (·.len)).sum⟩
  codexSessionPaths _ := .ok tree.listed
  collectSourceImportPaths _ := .ok tree.listed
  importCodexFile _ := importTranscript
  importClaudeFile _ := importTranscript
  importSource _ := .error [.message "not a directory source"]
  summarize transcripts :=
    { importedEvents := (transcripts.flatMap (·.events)).length }

/-- The remote database and the pending checkpoints of one running cycle. -/
structure CycleState where
  remote : Remote
  checkpoints : SourceKey → Option PendingSourceCheckpoint

/-- `remote_source_checkpoint`. -/
def remoteSourceCheckpoint (tree : SourceTree) (source : SourceInfo) : RemoteSourceCheckpoint :=
  ⟨config.sourceCheckpointKey source, tree.fingerprint source⟩

/-- The file filter of `run_turso_import_once`. -/
def shouldImportFile (pending : Option PendingSourceCheckpoint) (file : SourceFile) : Bool :=
  match pending with
  | none => false
  | some pending =>
      match pending.previousUpdatedAtMs with
      | none => true
      | some updatedAtMs => updatedAtMs < asMillis file.modifiedNs

/-- The callbacks of `run_turso_import_once`; the clock reads `nowNs` when the checkpoint is
stored.
-/
def consumer (tree : SourceTree) (nowNs : Nat) : Consumer SourceFile Transcript CycleState where
  shouldImport source := do
    let checkpoint := config.remoteSourceCheckpoint tree source
    let previous := (← get).remote.checkpoints checkpoint.key
    unless checkpoint.isStored previous do
      modify fun state =>
        { state with
          checkpoints :=
            Function.update state.checkpoints checkpoint.key
              (some ⟨checkpoint, previous.map (·.updatedAtMs)⟩) }
    return ((← get).checkpoints (config.sourceCheckpointKey source)).isSome
  persist _ store :=
    modify fun state =>
      { state with
        remote :=
          { state.remote with
            projection := push config.batchSize (stage store) state.remote.projection } }
  complete source := do
    let current := config.remoteSourceCheckpoint tree source
    match (← get).checkpoints current.key with
    | none => pure ()
    | some before => do
        modify fun state =>
          { state with checkpoints := Function.update state.checkpoints current.key none }
        if before.checkpoint.fingerprint = current.fingerprint then
          modify fun state =>
            { state with
              remote :=
                { state.remote with
                  checkpoints :=
                    Function.update state.remote.checkpoints current.key
                      (some ⟨current.fingerprint, asMillis nowNs⟩) } }
  shouldImportFile source file := do
    return shouldImportFile ((← get).checkpoints (config.sourceCheckpointKey source)) file

/-- The chunks of transcripts that a cycle uploads under a pending checkpoint. -/
def uploads (tree : SourceTree) (pending : Option PendingSourceCheckpoint)
    : List (List Transcript) :=
  (chunks config.provider.chunkSize (tree.listed.filter (shouldImportFile pending))).map
    fun chunk => chunk.filterMap (·.transcript)

/-- A complete cycle of `run_turso_import_once` on a tree that does not change meanwhile. -/
def runTursoImportOnce (tree : SourceTree) (nowNs : Nat) (remote : Remote) : Remote :=
  (perform
    (importAllProvidersInMemoryBySource (history tree) (config.consumer tree nowNs)
      [config.source])
    ⟨remote, fun _ => none⟩).2.remote

/-- The chunks of a cycle hold transcripts of one tree. -/
theorem uploads_compatible (tree : SourceTree) (pending : Option PendingSourceCheckpoint)
    : ∀ transcripts ∈ config.uploads tree pending, Compatible transcripts := by
  intro transcripts member
  obtain ⟨chunk, inChunks, rfl⟩ := List.mem_map.mp member
  have selected : chunk.Sublist tree.listed :=
    (sublist_of_mem_chunks inChunks).trans List.filter_sublist
  exact tree.compatible_listed.subset (selected.filterMap _).subset

/-- A selected transcript is in one of the chunks. -/
theorem mem_uploads {tree : SourceTree} {pending : Option PendingSourceCheckpoint}
    {file : SourceFile} (member : file ∈ tree.files) {transcript : Transcript}
    (is : file.transcript = some transcript) (selected : shouldImportFile pending file)
    : ∃ transcripts ∈ config.uploads tree pending, transcript ∈ transcripts := by
  have listed : file ∈ tree.listed.filter (shouldImportFile pending) :=
    List.mem_filter.mpr
      ⟨List.mem_filter.mpr ⟨mem_orderBy.mpr member, by simp [is]⟩, selected⟩
  obtain ⟨chunk, inChunks, inside⟩ := exists_mem_chunks config.provider.chunkSize listed
  exact ⟨_, List.mem_map.mpr ⟨chunk, inChunks, rfl⟩, List.mem_filterMap.mpr ⟨file, inside, is⟩⟩

-----------------------------------------------------------------------------------------
-- What a complete cycle does
-----------------------------------------------------------------------------------------

/-- The cycle state behind the upload of one ephemeral store. -/
def CycleState.persist (state : CycleState) (batchSize : {size : Nat // 0 < size})
    (store : List Transcript) : CycleState :=
  { state with
    remote :=
      { state.remote with projection := push batchSize (stage store) state.remote.projection } }

@[simp]
theorem sourceCheckpointKey_source : config.sourceCheckpointKey config.source = config.key :=
  rfl

/-- The uploads of a cycle change the projection tables only. -/
theorem CycleState.persist_foldl (state : CycleState) (batchSize : {size : Nat // 0 < size})
    (stores : List (List Transcript))
    : stores.foldl (fun state store => state.persist batchSize store) state
      = { state with
          remote :=
            { state.remote with
              projection := pushChunks batchSize stores state.remote.projection } } := by
  induction stores generalizing state with
  | nil => rfl
  | cons store rest ih => exact ih (state.persist batchSize store)

variable {config} {tree : SourceTree} {nowNs : Nat}

theorem importTranscript_listed {file : SourceFile} (member : file ∈ tree.listed)
    : ∃ transcript,
        file.transcript = some transcript ∧ importTranscript file = .ok transcript := by
  obtain ⟨transcript, is⟩ := Option.isSome_iff_exists.mp (List.mem_filter.mp member).2
  exact ⟨transcript, is, by simp [importTranscript, is]⟩

/-- The import of one chunk of listed files. -/
theorem importCodexSessionPaths_listed {chunk : List SourceFile}
    (listed : ∀ file ∈ chunk, file ∈ tree.listed)
    : importCodexSessionPaths (history tree) config.source chunk
      = .ok (chunk.filterMap (·.transcript)) := by
  have succeed : ∀ file ∈ chunk, (importTranscript file).isOk := by
    intro file inside
    obtain ⟨_, _, imported⟩ := importTranscript_listed (listed file inside)
    simp [imported, Except.isOk, Except.toBool]
  have contents
      : (chunk.filterMap fun file => (importTranscript file).toOption)
        = chunk.filterMap (·.transcript) := by
    apply List.filterMap_congr
    intro file inside
    obtain ⟨_, is, imported⟩ := importTranscript_listed (listed file inside)
    simp [imported, is, Except.toOption]
  rw [importCodexSessionPaths, ← contents]
  exact mapM_ok succeed

variable (config tree nowNs)

/-- The Codex branch of the import loop uploads the selected files in chunks of eight. -/
theorem perform_codexTree (isCodex : config.provider = .codex) (state : CycleState)
    : ∃ summary,
        perform
            (importCodexTreeInMemoryChunks (history tree) (config.consumer tree nowNs)
              config.source)
            state
          = (.ok summary,
              (config.uploads tree (state.checkpoints config.key)).foldl
                (fun state store => state.persist config.batchSize store) state) := by
  have selects
      : perform (selectM ((config.consumer tree nowNs).shouldImportFile config.source)
            tree.listed) state
        = (.ok (tree.listed.filter (shouldImportFile (state.checkpoints config.key))), state) :=
    perform_selectM tree.listed fun _ _ => rfl
  have steps
      : ∀ chunk ∈ chunks remoteInMemoryCodexSessionBatchSize
            (tree.listed.filter (shouldImportFile (state.checkpoints config.key))),
          ∀ state, ∃ value,
            perform
                (do
                  let store ←
                    liftExcept (importCodexSessionPaths (history tree) config.source chunk)
                  (config.consumer tree nowNs).persist config.source store
                  return (history tree).summarize store
                  : ImportM CycleState ProviderImportSummary)
                state
              = (.ok value,
                  state.persist config.batchSize (chunk.filterMap (·.transcript))) := by
    intro chunk member state
    rw [importCodexSessionPaths_listed fun file inside =>
      List.mem_of_mem_filter ((sublist_of_mem_chunks member).subset inside)]
    exact ⟨_, rfl⟩
  obtain ⟨values, uploaded⟩ := perform_mapM _ steps state
  refine ⟨values.foldl ProviderImportSummary.mergeFrom {}, ?_⟩
  unfold importCodexTreeInMemoryChunks
  rw [perform_bind, show (history tree).codexSessionPaths config.source = .ok tree.listed from rfl,
    perform_liftExcept]
  dsimp only
  rw [perform_bind, selects]
  dsimp only
  rw [perform_bind, uploaded, uploads, isCodex, List.foldl_map]
  rfl

/-- The upload of one listed file, unless the file filter drops it. -/
def persistSelected (config : SourceConfig) (state : CycleState) (file : SourceFile)
    : CycleState :=
  if shouldImportFile (state.checkpoints config.key) file
  then state.persist config.batchSize file.transcript.toList
  else state

/-- The pending checkpoint is the same for all files, so the files are selected beforehand. -/
theorem persistSelected_foldl (state : CycleState) (files : List SourceFile)
    : files.foldl config.persistSelected state
      = ((files.filter (shouldImportFile (state.checkpoints config.key))).map fun file =>
          file.transcript.toList).foldl
          (fun state store => state.persist config.batchSize store) state := by
  induction files generalizing state with
  | nil => rfl
  | cons file rest ih =>
      rw [List.foldl_cons, ih, persistSelected, List.filter_cons]
      split
      · rfl
      · rfl

/-- The Claude branch of the import loop uploads the selected files one by one. -/
theorem perform_claudeTree (isClaude : config.provider = .claude) (state : CycleState)
    : ∃ summary,
        perform
            (importClaudeTreeInMemoryChunks (history tree) (config.consumer tree nowNs)
              config.source)
            state
          = (.ok summary,
              (config.uploads tree (state.checkpoints config.key)).foldl
                (fun state store => state.persist config.batchSize store) state) := by
  have steps
      : ∀ file ∈ tree.listed, ∀ state, ∃ value,
          perform
              (do
                if ← (config.consumer tree nowNs).shouldImportFile config.source file then
                  let content ← liftExcept ((history tree).importClaudeFile config.source file)
                  (config.consumer tree nowNs).persist config.source [content]
                  return (history tree).summarize [content]
                else
                  return {}
                : ImportM CycleState ProviderImportSummary)
              state
            = (.ok value, config.persistSelected state file) := by
    intro file member state
    obtain ⟨transcript, is, imported⟩ := importTranscript_listed member
    rw [show (history tree).importClaudeFile config.source file = .ok transcript from imported,
      perform_bind, show perform ((config.consumer tree nowNs).shouldImportFile config.source file)
        state = (.ok (shouldImportFile (state.checkpoints config.key) file), state) from rfl]
    dsimp only
    rw [persistSelected, is]
    split
    · exact ⟨_, rfl⟩
    · exact ⟨_, rfl⟩
  obtain ⟨values, uploaded⟩ := perform_mapM _ steps state
  refine ⟨values.foldl ProviderImportSummary.mergeFrom {}, ?_⟩
  have stores
      : (config.uploads tree (state.checkpoints config.key))
        = (tree.listed.filter (shouldImportFile (state.checkpoints config.key))).map fun file =>
            file.transcript.toList := by
    rw [uploads, isClaude, TreeProvider.chunkSize, chunks_one, List.map_map]
    apply List.map_congr_left
    intro file _
    cases is : file.transcript <;> simp [is]
  unfold importClaudeTreeInMemoryChunks
  rw [perform_bind,
    show (history tree).collectSourceImportPaths config.source = .ok tree.listed from rfl,
    perform_liftExcept]
  dsimp only
  rw [perform_bind, uploaded, persistSelected_foldl, stores]
  rfl

/-- The pending checkpoint of a source that has changed. -/
def pendingCheckpoint (config : SourceConfig) (tree : SourceTree) (remote : Remote)
    : PendingSourceCheckpoint :=
  ⟨config.remoteSourceCheckpoint tree config.source,
    (remote.checkpoints config.key).map (·.updatedAtMs)⟩

/-- The stored checkpoint has the present fingerprint of the source. -/
def unchanged (config : SourceConfig) (tree : SourceTree) (remote : Remote) : Bool :=
  (config.remoteSourceCheckpoint tree config.source).isStored (remote.checkpoints config.key)

theorem unchanged_iff {config : SourceConfig} {tree : SourceTree} {remote : Remote}
    : config.unchanged tree remote
      ↔ ∃ state,
          remote.checkpoints config.key = some state
          ∧ state.fingerprint = tree.fingerprint config.source := by
  unfold unchanged RemoteSourceCheckpoint.isStored remoteSourceCheckpoint
  cases remote.checkpoints config.key <;> simp

/-- The first decision on the source. -/
theorem perform_shouldImport (remote : Remote)
    : perform ((config.consumer tree nowNs).shouldImport config.source)
          ⟨remote, fun _ => none⟩
        = if config.unchanged tree remote
          then (.ok false, ⟨remote, fun _ => none⟩)
          else
            (.ok true,
              ⟨remote,
                Function.update (fun _ => none) config.key
                  (some (config.pendingCheckpoint tree remote))⟩) := by
  have key : (config.remoteSourceCheckpoint tree config.source).key = config.key := rfl
  cases same : config.unchanged tree remote with
  | true =>
      rw [unchanged] at same
      simp [consumer, perform_bind, key, same, Except.map]
  | false =>
      rw [unchanged] at same
      simp [consumer, perform_bind, key, same, Except.map, pendingCheckpoint]

/-- The completion of the source whose checkpoint is pending. -/
theorem perform_complete (state : CycleState) {before : PendingSourceCheckpoint}
    (pending : state.checkpoints config.key = some before)
    (present : before.checkpoint = config.remoteSourceCheckpoint tree config.source)
    : ∃ next,
        perform ((config.consumer tree nowNs).complete config.source) state = (.ok (), next)
        ∧ next.remote
          = { state.remote with
              checkpoints :=
                Function.update state.remote.checkpoints config.key
                  (some ⟨tree.fingerprint config.source, asMillis nowNs⟩) } := by
  refine ⟨_, Prod.ext ?_ rfl, ?_⟩ <;>
    simp [consumer, perform_bind, remoteSourceCheckpoint, pending, present]

/-- The upload of a tree and the completion of its source. -/
theorem perform_treeRound {program : ImportM CycleState ProviderImportSummary}
    {summary : ProviderImportSummary} (stats : SourceStats) {state : CycleState}
    {before : PendingSourceCheckpoint}
    (pending : state.checkpoints config.key = some before)
    (present : before.checkpoint = config.remoteSourceCheckpoint tree config.source)
    (uploaded
      : perform program state
        = (.ok summary,
            (config.uploads tree (state.checkpoints config.key)).foldl
              (fun state store => state.persist config.batchSize store) state))
    : ∃ add next,
        perform
            (do
              let summary ← program
              (config.consumer tree nowNs).complete config.source
              return fun totals => totals.add summary stats
              : ImportM CycleState (ImportTotals → ImportTotals))
            state
          = (.ok add, next)
        ∧ next.remote
          = { projection :=
                pushChunks config.batchSize (config.uploads tree (state.checkpoints config.key))
                  state.remote.projection
              checkpoints :=
                Function.update state.remote.checkpoints config.key
                  (some ⟨tree.fingerprint config.source, asMillis nowNs⟩) } := by
  rw [CycleState.persist_foldl] at uploaded
  obtain ⟨next, completed, stored⟩ :=
    perform_complete config tree nowNs
      { state with
        remote :=
          { state.remote with
            projection :=
              pushChunks config.batchSize (config.uploads tree (state.checkpoints config.key))
                state.remote.projection } }
      pending present
  refine ⟨fun totals => totals.add summary stats, next, ?_, stored⟩
  rw [perform_bind, uploaded]
  dsimp only
  rw [perform_bind, completed]
  rfl

/-- The round of the import loop for the source. -/
theorem perform_importPlan (stats : SourceStats) (state : CycleState)
    {before : PendingSourceCheckpoint}
    (pending : state.checkpoints config.key = some before)
    (present : before.checkpoint = config.remoteSourceCheckpoint tree config.source)
    : ∃ add next,
        perform
            (importPlan (history tree) (config.consumer tree nowNs) ⟨config.source, stats⟩) state
          = (.ok add, next)
        ∧ next.remote
          = { projection :=
                pushChunks config.batchSize
                  (config.uploads tree (state.checkpoints config.key)) state.remote.projection
              checkpoints :=
                Function.update state.remote.checkpoints config.key
                  (some ⟨tree.fingerprint config.source, asMillis nowNs⟩) } := by
  have branch
      : (history tree).branch config.source
        = match config.provider with
          | .codex => .codexTree
          | .claude => .claudeTree := by
    unfold source
    cases config.provider <;> rfl
  unfold importPlan
  rw [branch]
  cases provider : config.provider with
  | codex =>
      obtain ⟨summary, uploaded⟩ := perform_codexTree config tree nowNs provider state
      exact perform_treeRound config tree nowNs stats pending present uploaded
  | claude =>
      obtain ⟨summary, uploaded⟩ := perform_claudeTree config tree nowNs provider state
      exact perform_treeRound config tree nowNs stats pending present uploaded

/-- A complete cycle: nothing where the stored fingerprint is the present one, otherwise the
uploads under the stored time, and a new checkpoint.
-/
theorem runTursoImportOnce_eq (remote : Remote)
    : config.runTursoImportOnce tree nowNs remote
      = if config.unchanged tree remote
        then remote
        else
          { projection :=
              pushChunks config.batchSize
                (config.uploads tree (some (config.pendingCheckpoint tree remote)))
                remote.projection
            checkpoints :=
              Function.update remote.checkpoints config.key
                (some ⟨tree.fingerprint config.source, asMillis nowNs⟩) } := by
  have decided := perform_shouldImport config tree nowNs remote
  unfold runTursoImportOnce importAllProvidersInMemoryBySource
  split
  next same =>
    rw [if_pos same] at decided
    rw [perform_bind, perform_selectM_singleton decided]
    rfl
  next changed =>
    rw [if_neg changed] at decided
    have pending
        : (Function.update (fun _ => none) config.key
              (some (config.pendingCheckpoint tree remote))
            : SourceKey → Option PendingSourceCheckpoint) config.key
          = some (config.pendingCheckpoint tree remote) :=
      Function.update_self ..
    obtain ⟨add, next, went, stored⟩ :=
      perform_importPlan config tree nowNs
        ⟨tree.files.length, (tree.files.map (·.len)).sum⟩
        ⟨remote,
          Function.update (fun _ => none) config.key (some (config.pendingCheckpoint tree remote))⟩
        pending rfl
    have round := perform_mapM_singleton went
    dsimp only at stored
    rw [pending] at stored
    rw [perform_bind, perform_selectM_singleton decided]
    simp only [if_true]
    have inventory
        : [config.source].mapM (inventoryImportSource (history tree))
          = .ok [.planned ⟨config.source, ⟨tree.files.length, (tree.files.map (·.len)).sum⟩⟩] :=
      rfl
    rw [inventory, perform_bind, perform_liftExcept]
    dsimp only [List.filterMap, Inventoried.plan?]
    rw [perform_bind, round]
    exact stored

end SourceConfig

-----------------------------------------------------------------------------------------
-- A source of one file
-----------------------------------------------------------------------------------------

/-- A transcript of one event. -/
def oneEventTranscript (id hash : String) : Transcript where
  sessions := (oneEventStore id "text" hash).sessions
  captureSources := []
  events := (oneEventStore id "text" hash).events
  own := by simp [oneEventStore]
  exportable := by simp [oneEventStore]

/-- A session file of one event. -/
def sessionFile (path : String) (modifiedMs : Nat) (id hash : String) : SourceFile where
  path := path
  len := 100
  modifiedNs := 1000000 * modifiedMs
  transcript := some (oneEventTranscript id hash)

/-- A tree of one session file. -/
def oneFileTree (path : String) (modifiedMs : Nat) (id hash : String)
    (named : "-shm".toList.isSuffixOf path.toList = false) : SourceTree where
  files := [sessionFile path modifiedMs id hash]
  paths := List.nodup_singleton _
  inToken := by
    intro file member _
    obtain rfl := List.mem_singleton.mp member
    simp only [SourceFile.inToken, sessionFile, named, Bool.not_false]
  compatible := {
    distinct := by simp [sessionFile, oneEventTranscript, oneEventStore]
    sessions := by simp [sessionFile, oneEventTranscript, oneEventStore]
  }

/-- The Codex sessions under the home directory of one user name. -/
def homeSessions : SourceConfig where
  provider := .codex
  path := "/home/user/.codex/sessions"
  canonicalPath := "/home/user/.codex/sessions"
  batchSize := ⟨100, by decide⟩

end CtxRemote.Sync
