import CtxRemote.Sync.ProviderImport

/-! Isolation of failing sources and files in the import loop. The consumer is reduced to a log of
what it is handed and of the sources it completes, and the loop is compared with what each source
and each file gives alone.
-/

namespace CtxRemote.Sync
open CtxRemote.Library

-----------------------------------------------------------------------------------------
-- A machine with failing files and sources
-----------------------------------------------------------------------------------------

/-- What the consumer of the import loop sees: a content in an ephemeral store, and a source
whose checkpoint may be stored.
-/
inductive Call (Content : Type) where
  | handed (source : SourceInfo) (content : Content)
  | completed (source : SourceInfo)
deriving DecidableEq

/-- A machine and the decisions of the consumer on it. Any of them may fail. -/
structure Machine (Path Content : Type) extends History Path Content where
  shouldImport : SourceInfo → Except ImportError Bool
  shouldImportFile : SourceInfo → Path → Except ImportError Bool
  recheck : SourceInfo → Except ImportError Unit

namespace Machine

variable {Path Content : Type} (machine : Machine Path Content)

/-- The consumer that logs its calls. -/
def consumer : Consumer Path Content (List (Call Content)) where
  shouldImport source := liftExcept (machine.shouldImport source)
  persist source store := modify (· ++ store.map (.handed source))
  complete source := do
    liftExcept (machine.recheck source)
    modify (· ++ [.completed source])
  shouldImportFile source path := liftExcept (machine.shouldImportFile source path)

/-- The log of one run of the import loop. -/
def importLog (requests : List SourceInfo) : List (Call Content) :=
  (perform (importAllProvidersInMemoryBySource machine.toHistory machine.consumer requests) []).2

/-- Every failure that the loop classifies has the scope of its source. -/
structure SourceScoped : Prop where
  inventory : ∀ source error, machine.sourceStats source = .error error
    → importErrorScope error = .source
  wholeSource : ∀ source error, machine.importSource source = .error error
    → importErrorScope error = .source

-----------------------------------------------------------------------------------------
-- What a source and a file give alone
-----------------------------------------------------------------------------------------

/-- The transcript files of a tree. -/
def files (source : SourceInfo) : Except ImportError (List Path) :=
  match machine.branch source with
  | .codexTree => machine.codexSessionPaths source
  | _ => machine.collectSourceImportPaths source

/-- The import of one file of a tree. -/
def importFile (source : SourceInfo) : Path → Except ImportError Content :=
  match machine.branch source with
  | .codexTree => machine.importCodexFile source
  | _ => machine.importClaudeFile source

/-- The content of a file that the file filter selects and that does not fail. -/
def fileContent (source : SourceInfo) (path : Path) : Option Content :=
  match machine.shouldImportFile source path with
  | .ok true => (machine.importFile source path).toOption
  | _ => none

/-- The file filter fails on the file, or selects it and its import fails. -/
def fileFails (source : SourceInfo) (path : Path) : Bool :=
  match machine.shouldImportFile source path with
  | .ok selected => selected && !(machine.importFile source path).isOk
  | .error _ => true

/-- The files of a Codex tree that the file filter selects. -/
def selectedFiles (source : SourceInfo) (paths : List Path) : List Path :=
  paths.filter fun path => (machine.shouldImportFile source path).toOption == some true

/-- What a source has to hand over. -/
def goodContents (source : SourceInfo) : List Content :=
  match machine.branch source with
  | .wholeSource => (machine.importSource source).toOption.toList
  | _ =>
      match machine.files source with
      | .ok paths => paths.filterMap (machine.fileContent source)
      | .error _ => []

/-- The import of the source, or of one of its files, fails. -/
def importFails (source : SourceInfo) : Bool :=
  match machine.branch source with
  | .wholeSource => !(machine.importSource source).isOk
  | _ =>
      match machine.files source with
      | .ok paths => paths.any (machine.fileFails source)
      | .error _ => true

/-- The source has a failure anywhere behind the inventory. -/
def fails (source : SourceInfo) : Bool :=
  machine.importFails source || !(machine.recheck source).isOk

/-- The source has changed, and its inventory succeeds. -/
def planned (source : SourceInfo) : Bool :=
  (machine.shouldImport source).toOption == some true && (machine.sourceStats source).isOk

/-- The calls for a source whose failures, and those of all others, are isolated: every good
content is handed over, and a source without a failure is completed.
-/
def isolatedCalls (source : SourceInfo) : List (Call Content) :=
  if machine.planned source
  then
    (machine.goodContents source).map (.handed source)
      ++ if machine.fails source then [] else [.completed source]
  else []

-----------------------------------------------------------------------------------------
-- When failures are isolated
-----------------------------------------------------------------------------------------

/-- The import loop does not isolate the failure of this source. -/
def propagates (source : SourceInfo) : Bool :=
  match machine.branch source with
  | .wholeSource => (machine.importSource source).isOk && !(machine.recheck source).isOk
  | _ => machine.fails source

/-- No good file of the source is lost to a failing one. In a Codex tree the filter must not
fail beside a good file, and all good files lie in chunks before the first failing file; in a
Claude tree all good files lie before it.
-/
def KeepsFiles (source : SourceInfo) : Prop :=
  ∀ paths,
    machine.files source = .ok paths
    → match machine.branch source with
      | .codexTree =>
          ((∃ path ∈ paths, (machine.shouldImportFile source path).isOk = false)
              → ∀ path ∈ paths, machine.fileContent source path = none)
            ∧ ∀ before chunk after,
                chunks remoteInMemoryCodexSessionBatchSize (machine.selectedFiles source paths)
                  = before ++ chunk :: after
                → (∃ path ∈ chunk, machine.fileFails source path)
                → ∀ path ∈ chunk ++ after.flatten, machine.fileContent source path = none
      | .claudeTree =>
          ∀ before path after,
            paths = before ++ path :: after
            → machine.fileFails source path
            → ∀ later ∈ after, machine.fileContent source later = none
      | .wholeSource => True

/-- The source has nothing to hand over, and no checkpoint to store. -/
def Barren (source : SourceInfo) : Prop :=
  machine.planned source → machine.goodContents source = [] ∧ machine.fails source

/-- No failure costs anything but its own source or file. The first decision on a source that
fails stops the whole import, and a failure that the loop propagates stops everything behind it.
-/
structure IsolatesFailures (requests : List SourceInfo) : Prop where
  decisions
    : ∀ source ∈ requests,
        (machine.shouldImport source).isOk = false → ∀ other ∈ requests, machine.Barren other
  imports
    : ∀ before source after,
        requests.filter machine.planned = before ++ source :: after
        → machine.propagates source
        → machine.KeepsFiles source ∧ ∀ later ∈ after, machine.Barren later

-----------------------------------------------------------------------------------------
-- What the import of one source emits
-----------------------------------------------------------------------------------------

/-- The calls for one file. -/
def fileCalls (source : SourceInfo) (path : Path) : List (Call Content) :=
  (machine.fileContent source path).toList.map (.handed source)

/-- The calls for one chunk of a Codex tree. -/
def chunkCalls (source : SourceInfo) (chunk : List Path) : List (Call Content) :=
  if chunk.any (machine.fileFails source)
  then []
  else chunk.flatMap (machine.fileCalls source)

/-- The calls for the import of a source, its completion apart. -/
def importCalls (source : SourceInfo) : List (Call Content) :=
  match machine.branch source with
  | .wholeSource => (machine.importSource source).toOption.toList.map (.handed source)
  | .codexTree =>
      match machine.files source with
      | .error _ => []
      | .ok paths =>
          if paths.any fun path => !(machine.shouldImportFile source path).isOk
          then []
          else
            emitted (machine.chunkCalls source)
              (fun chunk => chunk.any (machine.fileFails source))
              (chunks remoteInMemoryCodexSessionBatchSize (machine.selectedFiles source paths))
  | .claudeTree =>
      match machine.files source with
      | .error _ => []
      | .ok paths =>
          emitted (machine.fileCalls source) (fun path => machine.fileFails source path) paths

variable {machine}

theorem isolatedCalls_eq_nil {source : SourceInfo}
    : machine.isolatedCalls source = [] ↔ machine.Barren source := by
  unfold isolatedCalls Barren
  by_cases planned : machine.planned source
  · cases failed : machine.fails source <;> simp [planned]
  · simp [planned]

theorem fileCalls_eq_nil {source : SourceInfo} {path : Path}
    : machine.fileCalls source path = [] ↔ machine.fileContent source path = none := by
  unfold fileCalls
  cases machine.fileContent source path <;> simp

theorem goodContents_calls (source : SourceInfo) (paths : List Path)
    : (paths.filterMap (machine.fileContent source)).map (Call.handed source)
      = paths.flatMap (machine.fileCalls source) := by
  induction paths with
  | nil => rfl
  | cons path rest ih =>
      rw [List.flatMap_cons, ← ih, List.filterMap_cons, fileCalls]
      cases machine.fileContent source path <;> rfl

theorem persist_returns (source : SourceInfo) (store : List Content)
    : Returns (machine.consumer.persist source store) (store.map (.handed source)) () :=
  fun _ => rfl

theorem complete_emits (source : SourceInfo)
    : Emits (machine.consumer.complete source)
        (if (machine.recheck source).isOk then [.completed source] else [])
        ((machine.recheck source).isOk = false) := by
  cases checked : machine.recheck source with
  | ok _ =>
      refine .inr ⟨by simp [Except.isOk, Except.toBool], (), fun log => ?_⟩
      simp only [consumer, checked, perform_bind, perform_liftExcept]
      rfl
  | error error =>
      refine .inl ⟨rfl, fun log => ⟨error, ?_⟩⟩
      simp [consumer, checked, perform_bind, Except.isOk, Except.toBool]

theorem importFile_of_codexTree {source : SourceInfo}
    (branch : machine.branch source = .codexTree)
    : machine.importFile source = machine.importCodexFile source := by
  simp only [importFile, branch]

/-- On a selected file the two failures are one. -/
theorem fileFails_of_selected {source : SourceInfo} {path : Path} {paths : List Path}
    (selected : path ∈ machine.selectedFiles source paths)
    : machine.fileFails source path = !(machine.importFile source path).isOk
      ∧ machine.fileContent source path = (machine.importFile source path).toOption := by
  have kept := (List.mem_filter.mp selected).2
  cases decided : machine.shouldImportFile source path with
  | error _ => simp [decided, Except.toOption] at kept
  | ok choice =>
      cases choice with
      | false => simp [decided, Except.toOption] at kept
      | true => simp [fileFails, fileContent, decided]

/-- A chunk is handed over whole, or stops the tree. -/
theorem chunk_emits {source : SourceInfo} {paths chunk : List Path}
    (branch : machine.branch source = .codexTree)
    (inside : ∀ path ∈ chunk, path ∈ machine.selectedFiles source paths)
    : Emits
        (do
          let store ← liftExcept (importCodexSessionPaths machine.toHistory source chunk)
          machine.consumer.persist source store
          return machine.summarize store
          : ImportM (List (Call Content)) ProviderImportSummary)
        (machine.chunkCalls source chunk) (chunk.any (machine.fileFails source)) := by
  unfold importCodexSessionPaths
  rw [← importFile_of_codexTree branch, chunkCalls]
  by_cases failed : chunk.any (machine.fileFails source)
  · rw [if_pos failed]
    obtain ⟨path, member, fails⟩ := List.any_eq_true.mp failed
    rw [(fileFails_of_selected (inside path member)).1, Bool.not_eq_true'] at fails
    have stopped := mapM_error member fails
    cases imported : chunk.mapM (machine.importFile source) with
    | ok store => simp [imported, Except.isOk, Except.toBool] at stopped
    | error error =>
        refine .inl ⟨failed, fun log => ⟨error, ?_⟩⟩
        simp [perform_bind]
  · rw [if_neg failed]
    have succeed : ∀ path ∈ chunk, (machine.importFile source path).isOk := by
      intro path member
      have fine := List.any_eq_false.mp (Bool.eq_false_iff.mpr failed) path member
      rw [(fileFails_of_selected (inside path member)).1] at fine
      simpa using fine
    have contents
        : (chunk.filterMap fun path => (machine.importFile source path).toOption)
          = chunk.filterMap (machine.fileContent source) :=
      List.filterMap_congr fun path member => (fileFails_of_selected (inside path member)).2.symm
    refine .inr ⟨failed, machine.summarize (chunk.filterMap (machine.fileContent source)), ?_⟩
    rw [mapM_ok succeed, contents]
    intro log
    simp [perform_bind, persist_returns source _ log, goodContents_calls, Except.map]

/-- A Codex tree. -/
theorem codexTree_emits {source : SourceInfo} (branch : machine.branch source = .codexTree)
    : Emits (importCodexTreeInMemoryChunks machine.toHistory machine.consumer source)
        (machine.importCalls source) (machine.importFails source) := by
  have listing : machine.files source = machine.codexSessionPaths source := by
    simp only [files, branch]
  unfold importCodexTreeInMemoryChunks
  rw [← listing]
  simp only [importCalls, importFails, branch]
  cases listed : machine.files source with
  | error error => exact (Raises.liftExcept error).bind.emits rfl
  | ok paths =>
      have lists
          : Returns (liftExcept (.ok paths : Except ImportError _)
              : ImportM (List (Call Content)) (List Path)) [] paths :=
        Returns.liftExcept paths
      dsimp only
      by_cases undecided : paths.any fun path => !(machine.shouldImportFile source path).isOk
      · rw [if_pos undecided]
        obtain ⟨path, member, open_⟩ := List.any_eq_true.mp undecided
        rw [Bool.not_eq_true'] at open_
        have failed : paths.any (machine.fileFails source) := by
          refine List.any_eq_true.mpr ⟨path, member, ?_⟩
          cases decided : machine.shouldImportFile source path with
          | ok _ => simp [decided, Except.isOk, Except.toBool] at open_
          | error _ => simp [fileFails, decided]
        exact (lists.bind_raises (selectM_raises member open_).bind).emits failed
      · rw [if_neg undecided]
        have decided
            : ∀ path ∈ paths,
                machine.shouldImportFile source path
                = .ok ((machine.shouldImportFile source path).toOption == some true) := by
          intro path member
          have settled :=
            List.any_eq_false.mp (Bool.eq_false_iff.mpr undecided) path member
          cases found : machine.shouldImportFile source path with
          | error _ => simp [found, Except.isOk, Except.toBool] at settled
          | ok selected => cases selected <;> rfl
        have selects
            : Returns (selectM (machine.consumer.shouldImportFile source) paths) []
                (machine.selectedFiles source paths) :=
          selectM_returns decided
        have steps := Emits.mapM (chunks remoteInMemoryCodexSessionBatchSize
          (machine.selectedFiles source paths)) fun chunk member =>
            chunk_emits branch fun path inside => by
              rw [← chunks_flatten remoteInMemoryCodexSessionBatchSize
                (machine.selectedFiles source paths)]
              exact List.mem_flatten.mpr ⟨chunk, member, inside⟩
        refine (lists.bind_emits (selects.bind_emits (steps.bind_pure _))).congr rfl ?_
        constructor
        · rintro ⟨chunk, inChunks, failed⟩
          obtain ⟨path, inside, fails⟩ := List.any_eq_true.mp failed
          have selected : path ∈ machine.selectedFiles source paths := by
            rw [← chunks_flatten remoteInMemoryCodexSessionBatchSize
              (machine.selectedFiles source paths)]
            exact List.mem_flatten.mpr ⟨chunk, inChunks, inside⟩
          exact List.any_eq_true.mpr ⟨path, List.mem_of_mem_filter selected, fails⟩
        · intro failed
          obtain ⟨path, member, fails⟩ := List.any_eq_true.mp failed
          have selected : path ∈ machine.selectedFiles source paths := by
            refine List.mem_filter.mpr ⟨member, ?_⟩
            rw [fileFails, decided path member] at fails
            simpa using (Bool.and_eq_true_iff.mp fails).1
          rw [← chunks_flatten remoteInMemoryCodexSessionBatchSize
            (machine.selectedFiles source paths)] at selected
          obtain ⟨chunk, inChunks, inside⟩ := List.mem_flatten.mp selected
          exact ⟨chunk, inChunks, List.any_eq_true.mpr ⟨path, inside, fails⟩⟩

/-- A file of a Claude tree is handed over, or stops the tree, or is not selected. -/
theorem file_emits {source : SourceInfo} (branch : machine.branch source = .claudeTree)
    (path : Path)
    : Emits
        (do
          if ← machine.consumer.shouldImportFile source path then
            let content ← liftExcept (machine.importClaudeFile source path)
            machine.consumer.persist source [content]
            return machine.summarize [content]
          else
            return {}
          : ImportM (List (Call Content)) ProviderImportSummary)
        (machine.fileCalls source path) (machine.fileFails source path) := by
  have own : machine.importFile source = machine.importClaudeFile source := by
    simp only [importFile, branch]
  rw [← own]
  unfold fileCalls fileFails fileContent
  cases decided : machine.shouldImportFile source path with
  | error error =>
      refine .inl ⟨rfl, fun log => ⟨error, ?_⟩⟩
      simp [consumer, decided, perform_bind]
  | ok selected =>
      cases selected with
      | false =>
          refine .inr ⟨by simp, {}, fun log => ?_⟩
          simp [consumer, decided, perform_bind]
      | true =>
          cases imported : machine.importFile source path with
          | error error =>
              refine .inl ⟨by simp [Except.isOk, Except.toBool], fun log => ⟨error, ?_⟩⟩
              simp [consumer, decided, perform_bind, Except.toOption]
          | ok content =>
              refine .inr
                ⟨by simp [Except.isOk, Except.toBool], machine.summarize [content], fun log => ?_⟩
              simp [consumer, decided, perform_bind, Except.toOption, Except.map]

/-- A Claude tree. -/
theorem claudeTree_emits {source : SourceInfo} (branch : machine.branch source = .claudeTree)
    : Emits (importClaudeTreeInMemoryChunks machine.toHistory machine.consumer source)
        (machine.importCalls source) (machine.importFails source) := by
  have listing : machine.files source = machine.collectSourceImportPaths source := by
    simp only [files, branch]
  unfold importClaudeTreeInMemoryChunks
  rw [← listing]
  simp only [importCalls, importFails, branch]
  cases listed : machine.files source with
  | error error => exact (Raises.liftExcept error).bind.emits rfl
  | ok paths =>
      have steps := Emits.mapM paths fun path _ => file_emits branch path
      refine ((Returns.liftExcept paths).bind_emits (steps.bind_pure _)).congr rfl ?_
      simp only [List.any_eq_true]

/-- The calls for a source that the import loop reaches. -/
def planCalls (machine : Machine Path Content) (source : SourceInfo) : List (Call Content) :=
  machine.importCalls source ++ if machine.fails source then [] else [.completed source]

/-- One round of the import loop. -/
theorem importPlan_emits (inScope : machine.SourceScoped) (plan : PlannedImportSource)
    : Emits (importPlan machine.toHistory machine.consumer plan)
        (machine.planCalls plan.source) (machine.propagates plan.source) := by
  unfold importPlan planCalls propagates fails
  have completes
      : Emits (machine.consumer.complete plan.source)
          (if (machine.recheck plan.source).isOk then [.completed plan.source] else [])
          ((machine.recheck plan.source).isOk = false) :=
    complete_emits plan.source
  cases branch : machine.branch plan.source with
  | codexTree =>
      refine ((codexTree_emits branch).bind_unit fun summary =>
        completes.bind_pure fun _ (totals : ImportTotals) => totals.add summary plan.stats).congr ?_ ?_
      · cases machine.importFails plan.source <;>
          cases (machine.recheck plan.source).isOk <;> simp
      · simp
  | claudeTree =>
      refine ((claudeTree_emits branch).bind_unit fun summary =>
        completes.bind_pure fun _ (totals : ImportTotals) => totals.add summary plan.stats).congr ?_ ?_
      · cases machine.importFails plan.source <;>
          cases (machine.recheck plan.source).isOk <;> simp
      · simp
  | wholeSource =>
      simp only [importCalls, importFails, branch]
      cases imported : machine.importSource plan.source with
      | error error =>
          simp only [inScope.wholeSource _ _ imported, if_true]
          exact (Returns.pure _).emits (by simp [Except.isOk, Except.toBool])
      | ok content =>
          refine ((persist_returns plan.source [content]).bind_emits
            (completes.bind_pure fun _ (totals : ImportTotals) =>
              totals.add (machine.summarize [content]) plan.stats)).congr ?_ ?_
          · cases (machine.recheck plan.source).isOk <;>
              simp [Except.toOption, Except.isOk, Except.toBool]
          · simp [Except.isOk, Except.toBool]

-----------------------------------------------------------------------------------------
-- When a source and the whole loop lose nothing
-----------------------------------------------------------------------------------------

/-- The calls for the files of a Codex tree, chunk by chunk. -/
theorem flatMap_chunks (source : SourceInfo) (size : Nat) (paths : List Path)
    : paths.flatMap (machine.fileCalls source)
      = (chunks size (machine.selectedFiles source paths)).flatMap fun chunk =>
          chunk.flatMap (machine.fileCalls source) := by
  have kept
      : (machine.selectedFiles source paths).flatMap (machine.fileCalls source)
        = paths.flatMap (machine.fileCalls source) := by
    induction paths with
    | nil => rfl
    | cons path rest ih =>
        rw [List.flatMap_cons, ← ih, selectedFiles, List.filter_cons]
        split
        next selected => rfl
        next skipped =>
          have silent : machine.fileCalls source path = [] := by
            rw [fileCalls_eq_nil, fileContent]
            cases decided : machine.shouldImportFile source path with
            | error _ => rfl
            | ok selected =>
                cases selected with
                | false => rfl
                | true => simp [decided, Except.toOption] at skipped
          rw [silent, List.nil_append]
          rfl
  rw [← kept]
  conv => lhs; rw [← chunks_flatten size (machine.selectedFiles source paths)]
  rw [← List.flatMap_id, List.flatMap_assoc]
  rfl

theorem chunkCalls_sublist (source : SourceInfo) (chunk : List Path)
    : (machine.chunkCalls source chunk).Sublist
        (chunk.flatMap (machine.fileCalls source)) := by
  unfold chunkCalls
  split
  · exact List.nil_sublist _
  · exact List.Sublist.refl _

/-- What a source hands over is part of what it has to hand over. -/
theorem importCalls_sublist (source : SourceInfo)
    : (machine.importCalls source).Sublist
        ((machine.goodContents source).map (Call.handed source)) := by
  unfold importCalls goodContents
  cases machine.branch source with
  | wholeSource => exact List.Sublist.refl _
  | codexTree =>
      cases machine.files source with
      | error _ => exact List.Sublist.refl _
      | ok paths =>
          simp only [goodContents_calls]
          split
          · exact List.nil_sublist _
          · rw [flatMap_chunks source remoteInMemoryCodexSessionBatchSize paths]
            exact emitted_sublist fun chunk _ => chunkCalls_sublist source chunk
  | claudeTree =>
      cases machine.files source with
      | error _ => exact List.Sublist.refl _
      | ok paths =>
          simp only [goodContents_calls]
          exact emitted_sublist fun _ _ => List.Sublist.refl _

/-- A source hands over all that it has just if it keeps its good files. -/
theorem importCalls_eq_iff (source : SourceInfo)
    : machine.importCalls source = (machine.goodContents source).map (Call.handed source)
      ↔ machine.KeepsFiles source := by
  unfold importCalls goodContents KeepsFiles
  cases machine.branch source with
  | wholeSource => simp
  | claudeTree =>
      cases machine.files source with
      | error _ => simp
      | ok paths =>
          simp only [Except.ok.injEq, forall_eq', goodContents_calls]
          rw [emitted_eq_flatMap_iff (fun _ _ => List.Sublist.refl _) fun _ _ _ => rfl]
          simp only [true_and, fileCalls_eq_nil]
  | codexTree =>
      cases machine.files source with
      | error _ => simp
      | ok paths =>
          simp only [Except.ok.injEq, forall_eq', goodContents_calls]
          by_cases undecided : paths.any fun path => !(machine.shouldImportFile source path).isOk
          · rw [if_pos undecided, eq_comm, List.flatMap_eq_nil_iff]
            simp only [fileCalls_eq_nil]
            obtain ⟨path, member, stuck⟩ := List.any_eq_true.mp undecided
            rw [Bool.not_eq_true'] at stuck
            constructor
            · intro nothing
              refine ⟨fun _ => nothing, fun before chunk after split _ other inside => ?_⟩
              refine nothing other (List.mem_of_mem_filter (p := fun path =>
                (machine.shouldImportFile source path).toOption == some true) ?_)
              have flat := congrArg List.flatten split
              rw [chunks_flatten] at flat
              rw [← selectedFiles, flat, List.flatten_append, List.flatten_cons]
              exact List.mem_append_right _ inside
            · intro kept
              exact kept.1 ⟨path, member, stuck⟩
          · rw [if_neg undecided,
              flatMap_chunks source remoteInMemoryCodexSessionBatchSize paths,
              emitted_eq_flatMap_iff (fun chunk _ => chunkCalls_sublist source chunk)
                fun chunk _ fine => if_neg fine]
            constructor
            · intro kept
              constructor
              · rintro ⟨path, member, stuck⟩
                exact absurd (List.any_eq_true.mpr ⟨path, member, by simpa using stuck⟩) undecided
              · intro before chunk after split failing
                have failed := List.any_eq_true.mpr failing
                obtain ⟨own, later⟩ := kept before chunk after split failed
                rw [chunkCalls, if_pos failed, eq_comm, List.flatMap_eq_nil_iff] at own
                intro path member
                rcases List.mem_append.mp member with inside | behind
                · exact fileCalls_eq_nil.mp (own path inside)
                · obtain ⟨other, inAfter, inside⟩ := List.mem_flatten.mp behind
                  have silent := later other inAfter
                  rw [List.flatMap_eq_nil_iff] at silent
                  exact fileCalls_eq_nil.mp (silent path inside)
            · rintro ⟨_, kept⟩ before chunk after split failed
              have lost := kept before chunk after split (List.any_eq_true.mp failed)
              rw [chunkCalls, if_pos failed, eq_comm]
              simp only [List.flatMap_eq_nil_iff, fileCalls_eq_nil]
              refine ⟨fun path inside => lost path (List.mem_append_left _ inside), ?_⟩
              intro other inAfter path inside
              exact lost path
                (List.mem_append_right _ (List.mem_flatten.mpr ⟨other, inAfter, inside⟩))

/-- A source whose failures do not propagate keeps its files. -/
theorem keepsFiles_of_quiet {source : SourceInfo} (quiet : ¬machine.propagates source)
    : machine.KeepsFiles source := by
  unfold propagates fails importFails at quiet
  unfold KeepsFiles
  intro paths listed
  cases branch : machine.branch source with
  | wholeSource => trivial
  | claudeTree =>
      rw [branch, listed] at quiet
      intro before path after split fails
      have failing : paths.any (machine.fileFails source) :=
        List.any_eq_true.mpr ⟨path, by rw [split]; simp, fails⟩
      exact absurd (by simp only [failing, Bool.true_or]) quiet
  | codexTree =>
      rw [branch, listed] at quiet
      have fine : ∀ path ∈ paths, ¬machine.fileFails source path := by
        intro path member fails
        exact quiet (by simp only [List.any_eq_true.mpr ⟨path, member, fails⟩, Bool.true_or])
      refine ⟨fun ⟨path, member, stuck⟩ => absurd ?_ (fine path member), ?_⟩
      · cases decided : machine.shouldImportFile source path with
        | ok _ => simp [decided, Except.isOk, Except.toBool] at stuck
        | error _ => simp [fileFails, decided]
      · rintro before chunk after split ⟨path, inside, fails⟩
        have flat := congrArg List.flatten split
        rw [chunks_flatten] at flat
        have selected : path ∈ machine.selectedFiles source paths := by
          rw [flat, List.flatten_append, List.flatten_cons]
          exact List.mem_append_right _ (List.mem_append_left _ inside)
        exact absurd fails (fine path (List.mem_of_mem_filter selected))

/-- The calls of one round are part of the isolated calls, and all of them where the source keeps
its files.
-/
theorem planCalls_sublist {source : SourceInfo} (planned : machine.planned source)
    : (machine.planCalls source).Sublist (machine.isolatedCalls source)
      ∧ (machine.planCalls source = machine.isolatedCalls source
          ↔ machine.KeepsFiles source) := by
  unfold planCalls isolatedCalls
  rw [if_pos planned, ← importCalls_eq_iff]
  exact ⟨(importCalls_sublist source).append (List.Sublist.refl _),
    by rw [List.append_cancel_right_eq]⟩

theorem inventoryImportSource_plan (source : SourceInfo)
    : ((inventoryImportSource machine.toHistory source).toOption.bind Inventoried.plan?).map
          (·.source)
      = if (machine.sourceStats source).isOk then some source else none := by
  unfold inventoryImportSource
  cases machine.sourceStats source with
  | ok stats => rfl
  | error error =>
      dsimp only
      split <;> rfl

/-- The sources of the plans that the inventory makes. -/
theorem plans_sources (requests : List SourceInfo)
    : ((((requests.filter fun source =>
            (machine.shouldImport source).toOption == some true).filterMap fun source =>
          (inventoryImportSource machine.toHistory source).toOption).filterMap
        Inventoried.plan?).map (·.source))
      = requests.filter machine.planned := by
  rw [List.filterMap_filterMap, List.map_filterMap]
  simp only [inventoryImportSource_plan, ← List.filterMap_eq_filter, List.filterMap_filterMap]
  apply List.filterMap_congr
  intro source _
  unfold planned Option.guard
  dsimp only
  by_cases changed : (machine.shouldImport source).toOption == some true
  · simp [changed]
  · simp [changed]

/-- The loop over the plans hands over all that its sources have just if what it propagates
costs nothing.
-/
theorem emitted_plans_iff (requests : List SourceInfo)
    : emitted machine.planCalls (fun source => machine.propagates source)
          (requests.filter machine.planned)
        = requests.flatMap machine.isolatedCalls
      ↔ ∀ before source after,
          requests.filter machine.planned = before ++ source :: after
          → machine.propagates source
          → machine.KeepsFiles source ∧ ∀ later ∈ after, machine.Barren later := by
  have unplanned
      : requests.flatMap machine.isolatedCalls
        = (requests.filter machine.planned).flatMap machine.isolatedCalls := by
    induction requests with
    | nil => rfl
    | cons source rest ih =>
        rw [List.flatMap_cons, ih, List.filter_cons]
        split
        next planned => rfl
        next skipped => rw [isolatedCalls, if_neg skipped, List.nil_append]
  rw [unplanned, emitted_eq_flatMap_iff]
  · constructor
    · intro kept before source after split propagated
      obtain ⟨own, later⟩ := kept before source after split propagated
      have planned := (List.mem_filter.mp (split ▸ by simp
        : source ∈ requests.filter machine.planned)).2
      exact ⟨(planCalls_sublist planned).2.mp own,
        fun other member => isolatedCalls_eq_nil.mp (later other member)⟩
    · intro kept before source after split propagated
      obtain ⟨own, later⟩ := kept before source after split propagated
      have planned := (List.mem_filter.mp (split ▸ by simp
        : source ∈ requests.filter machine.planned)).2
      exact ⟨(planCalls_sublist planned).2.mpr own,
        fun other member => isolatedCalls_eq_nil.mpr (later other member)⟩
  · intro source member
    exact (planCalls_sublist (List.mem_filter.mp member).2).1
  · intro source member quiet
    exact (planCalls_sublist (List.mem_filter.mp member).2).2.mpr (keepsFiles_of_quiet quiet)

/-- The log of a run whose first decisions on all sources succeed. -/
theorem importLog_of_decided (inScope : machine.SourceScoped) {requests : List SourceInfo}
    (decided : ∀ source ∈ requests, (machine.shouldImport source).isOk)
    : machine.importLog requests
      = emitted machine.planCalls (fun source => machine.propagates source)
          (requests.filter machine.planned) := by
  unfold importLog importAllProvidersInMemoryBySource
  have changed
      : ∀ source ∈ requests,
          machine.shouldImport source
          = .ok ((machine.shouldImport source).toOption == some true) := by
    intro source member
    have settled := decided source member
    cases found : machine.shouldImport source with
    | error _ => simp [found, Except.isOk, Except.toBool] at settled
    | ok choice => cases choice <;> rfl
  have selects
      : Returns (selectM machine.consumer.shouldImport requests) []
          (requests.filter fun source =>
            (machine.shouldImport source).toOption == some true) :=
    selectM_returns changed
  have inventoried
      : (requests.filter fun source =>
          (machine.shouldImport source).toOption == some true).mapM
            (inventoryImportSource machine.toHistory)
        = .ok ((requests.filter fun source =>
            (machine.shouldImport source).toOption == some true).filterMap fun source =>
              (inventoryImportSource machine.toHistory source).toOption) := by
    apply mapM_ok
    intro source _
    unfold inventoryImportSource
    cases counted : machine.sourceStats source with
    | ok stats => rfl
    | error error => simp [inScope.inventory _ _ counted, Except.isOk, Except.toBool]
  have steps := Emits.mapM _ fun plan
      (_ : plan ∈ ((requests.filter fun source =>
            (machine.shouldImport source).toOption == some true).filterMap fun source =>
          (inventoryImportSource machine.toHistory source).toOption).filterMap
        Inventoried.plan?) =>
    importPlan_emits inScope plan
  rw [← plans_sources, ← emitted_map]
  apply Emits.log
  apply Returns.bind_emits selects
  rw [inventoried]
  exact (Returns.liftExcept _).bind_emits (steps.bind_pure _)

/-- The import loop hands over and completes what the sources and files give alone just if its
failures are isolated.
-/
theorem importLog_eq_isolatedCalls_iff (inScope : machine.SourceScoped)
    (requests : List SourceInfo)
    : machine.importLog requests = requests.flatMap machine.isolatedCalls
      ↔ machine.IsolatesFailures requests := by
  by_cases undecided : ∃ source ∈ requests, (machine.shouldImport source).isOk = false
  · obtain ⟨source, member, stuck⟩ := undecided
    have stopped
        : Raises
            (importAllProvidersInMemoryBySource machine.toHistory machine.consumer requests)
            [] :=
      (selectM_raises member stuck).bind
    have silent : machine.importLog requests = [] := (stopped.emits trivial).log
    rw [silent, eq_comm, List.flatMap_eq_nil_iff]
    simp only [isolatedCalls_eq_nil]
    constructor
    · intro barren
      refine ⟨fun _ _ _ => barren, fun before other after split _ => ?_⟩
      have inside : ∀ later ∈ other :: after, later ∈ requests.filter machine.planned := by
        intro later member
        rw [split]
        exact List.mem_append_right _ member
      obtain ⟨known, planned⟩ := List.mem_filter.mp (inside other (by simp))
      have nothing := (barren other known planned).1
      have part : (machine.importCalls other).Sublist ([].map (Call.handed other)) :=
        nothing ▸ importCalls_sublist other
      refine ⟨(importCalls_eq_iff other).mp ?_, fun later member => ?_⟩
      · rw [nothing]
        exact List.sublist_nil.mp part
      · exact barren later (List.mem_of_mem_filter (inside later (by simp [member])))
    · intro isolates
      exact isolates.decisions source member stuck
  · have decided : ∀ source ∈ requests, (machine.shouldImport source).isOk := by
      intro source member
      by_contra stuck
      exact undecided ⟨source, member, by simpa using stuck⟩
    rw [importLog_of_decided inScope decided, emitted_plans_iff]
    constructor
    · intro kept
      refine ⟨fun source member stuck => ?_, kept⟩
      rw [decided source member] at stuck
      contradiction
    · intro isolates
      exact isolates.imports

end Machine

-----------------------------------------------------------------------------------------
-- An unreadable file and a broken database
-----------------------------------------------------------------------------------------

/-- A Codex tree of one file. -/
def codexSessions : SourceInfo := ⟨.codex, "codex_session_jsonl_tree", "/home/user/.codex/sessions"⟩

/-- The history of another provider, in one database. -/
def database (path : String) : SourceInfo := ⟨.openCode, "opencode_sqlite", path⟩

/-- The file of the Codex tree cannot be read, and the database `broken` cannot be opened. -/
def damagedMachine : Machine String String where
  isDir source := source.provider = .codex
  sourceStats _ := .ok ⟨1, 1⟩
  codexSessionPaths _ := .ok ["session.jsonl"]
  collectSourceImportPaths _ := .ok []
  importCodexFile _ _ := .error [.capture .io]
  importClaudeFile _ _ := .error [.capture .io]
  importSource source :=
    if source.path = "broken" then .error [.capture .sqlite] else .ok source.path
  summarize _ := {}
  shouldImport _ := .ok true
  shouldImportFile _ _ := .ok true
  recheck _ := .ok ()

theorem damagedMachine_scoped : damagedMachine.SourceScoped where
  inventory := by
    intro source error failed
    exact absurd failed (by simp [damagedMachine])
  wholeSource := by
    intro source error failed
    simp only [damagedMachine] at failed
    split at failed
    · cases failed
      rfl
    · cases failed

/-- The broken database is isolated. -/
theorem brokenDatabase_isolated
    : damagedMachine.IsolatesFailures [database "broken", database "intact"] :=
  (Machine.importLog_eq_isolatedCalls_iff damagedMachine_scoped _).mp (by decide)

/-- The unreadable file of the Codex tree is not: the intact database behind it is neither handed
over nor completed.
-/
theorem unreadableFile_stops_import
    : damagedMachine.SourceScoped
      ∧ damagedMachine.importLog [codexSessions, database "intact"] = []
      ∧ [codexSessions, database "intact"].flatMap damagedMachine.isolatedCalls
        = [.handed (database "intact") "intact", .completed (database "intact")] :=
  ⟨damagedMachine_scoped, by decide, by decide⟩

end CtxRemote.Sync
