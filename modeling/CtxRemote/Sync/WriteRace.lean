import CtxRemote.Sync.WatchedSource

/-! Writes that race with the import cycles of one machine.

The stored checkpoint pairs a fingerprint with a clock reading that is taken later. A transcript
that is written in between, or afterwards in the millisecond of that reading, is older than the
checkpoint for the next cycle's file filter although the fingerprint has never covered it. Without
such writes, every cycle whose two fingerprints agree has seen one state of the files.
-/

namespace CtxRemote.Sync
open CtxRemote.Library CtxRemote.Turso

-----------------------------------------------------------------------------------------
-- Trees that have grown
-----------------------------------------------------------------------------------------

/-- A file is newer than an older version of it, or longer at the same time. -/
def SourceFile.Newer (old new : SourceFile) : Prop :=
  old.modifiedNs < new.modifiedNs ∨ old.modifiedNs = new.modifiedNs ∧ old.len < new.len

instance : DecidableRel SourceFile.Newer := fun old new =>
  inferInstanceAs
    (Decidable
      (old.modifiedNs < new.modifiedNs ∨ old.modifiedNs = new.modifiedNs ∧ old.len < new.len))

/-- Every file is still there; a transcript is the same or newer. -/
def Grown (old new : SourceTree) : Prop :=
  ∀ file ∈ old.files, ∃ later ∈ new.files,
    later.path = file.path
    ∧ later.transcript.isSome = file.transcript.isSome
    ∧ (file.transcript.isSome → later = file ∨ file.Newer later)

/-- All transcripts of the new tree were in the old one. -/
def Unwritten (old new : SourceTree) : Prop :=
  ∀ file ∈ new.files, file.transcript.isSome → file ∈ old.files

theorem Grown.refl (tree : SourceTree) : Grown tree tree :=
  fun file member => ⟨file, member, rfl, rfl, fun _ => .inl rfl⟩

theorem Grown.trans {old middle new : SourceTree} (first : Grown old middle)
    (second : Grown middle new)
    : Grown old new := by
  intro file member
  obtain ⟨between, inMiddle, samePath, sameKind, grown⟩ := first file member
  obtain ⟨later, inNew, path, kind, more⟩ := second between inMiddle
  refine ⟨later, inNew, path.trans samePath, kind.trans sameKind, fun isTranscript => ?_⟩
  rcases more (sameKind.symm ▸ isTranscript) with rfl | newer
  · exact grown isTranscript
  · right
    rcases grown isTranscript with rfl | older
    · exact newer
    · unfold SourceFile.Newer at *
      omega

/-- The file under a path is the only one. -/
theorem eq_of_path {tree : SourceTree} {left right : SourceFile} (hl : left ∈ tree.files)
    (hr : right ∈ tree.files) (same : left.path = right.path)
    : left = right :=
  List.inj_on_of_nodup_map tree.paths hl hr same

/-- A tree that has grown and has its old fingerprint holds its old transcripts. Witness: the
change token gives every transcript an old file of its path, length and time, which is not newer.
-/
theorem Grown.unwritten {old new : SourceTree} {source : SourceInfo} (grown : Grown old new)
    (same : old.fingerprint source = new.fingerprint source)
    : Unwritten old new := by
  intro file member isTranscript
  have tokens : old.changeToken = new.changeToken := congrArg Fingerprint.changeToken same
  have entry : file.changeEntry ∈ new.changeToken :=
    List.mem_map.mpr
      ⟨file,
        mem_orderBy.mpr (List.mem_filter.mpr ⟨member, new.inToken file member isTranscript⟩),
        rfl⟩
  rw [← tokens] at entry
  obtain ⟨before, inToken, sameEntry⟩ := List.mem_map.mp entry
  have inOld : before ∈ old.files := List.mem_of_mem_filter (mem_orderBy.mp inToken)
  obtain ⟨path, len, modified⟩ := SourceChangeEntry.mk.inj sameEntry
  obtain ⟨later, inNew, samePath, sameKind, more⟩ := grown before inOld
  obtain rfl : later = file := eq_of_path inNew member (samePath.trans path)
  rcases more (sameKind ▸ isTranscript) with rfl | newer
  · exact inOld
  · unfold SourceFile.Newer at newer
    omega

/-- No transcript of an unwritten tree was lost on the way. -/
theorem Grown.mem_of_unwritten {old new : SourceTree} (grown : Grown old new)
    (unwritten : Unwritten old new) {file : SourceFile} (member : file ∈ old.files)
    (isTranscript : file.transcript.isSome)
    : file ∈ new.files := by
  obtain ⟨later, inNew, samePath, sameKind, _⟩ := grown file member
  have inOld : later ∈ old.files := unwritten later inNew (sameKind ▸ isTranscript)
  obtain rfl : later = file := eq_of_path inOld member samePath
  exact inNew

/-- A tree that holds its old transcripts held them all the time. Witness: a transcript that is
newer in between is not the old one at the end.
-/
theorem Unwritten.of_trans {old middle new : SourceTree} (first : Grown old middle)
    (second : Grown middle new) (unwritten : Unwritten old new)
    : Unwritten old middle := by
  intro file member isTranscript
  obtain ⟨later, inNew, samePath, sameKind, more⟩ := second file member
  have inOld : later ∈ old.files := unwritten later inNew (sameKind ▸ isTranscript)
  obtain ⟨between, inMiddle, path, _, grown⟩ := first later inOld
  obtain rfl : between = file := eq_of_path inMiddle member (path.trans samePath)
  rcases more isTranscript with rfl | newer
  · exact inOld
  · rcases grown (sameKind ▸ isTranscript) with rfl | older
    · exact inOld
    · unfold SourceFile.Newer at newer older
      omega

-----------------------------------------------------------------------------------------
-- Writes
-----------------------------------------------------------------------------------------

/-- A write keeps the other files, and the kind of the file. -/
theorem SourceTree.write_eq {tree next : SourceTree} {file : SourceFile}
    (written : tree.write file = some next)
    : next.files = (tree.files.filter fun old => old.path ≠ file.path) ++ [file]
      ∧ ∀ old ∈ tree.files, old.path = file.path
          → old.transcript.isSome = file.transcript.isSome := by
  unfold SourceTree.write at written
  dsimp only at written
  split at written
  next allowed =>
    obtain rfl := Option.some.inj written
    exact ⟨rfl, allowed.1⟩
  next => cases written

theorem SourceTree.mem_of_write {tree next : SourceTree} {file later : SourceFile}
    (written : tree.write file = some next) (member : later ∈ next.files)
    : later ∈ tree.files ∨ later = file := by
  rw [(write_eq written).1] at member
  rcases List.mem_append.mp member with inOthers | inFile
  · exact .inl (List.mem_of_mem_filter inOthers)
  · exact .inr (List.mem_singleton.mp inFile)

/-- A write to a newer transcript, or to another file, lets the tree grow. -/
theorem Grown.of_write {tree next : SourceTree} {file : SourceFile}
    (written : tree.write file = some next)
    (newer
      : file.transcript.isSome → ∀ old ∈ tree.files, old.path = file.path → old.Newer file)
    : Grown tree next := by
  obtain ⟨files, sameKind⟩ := SourceTree.write_eq written
  intro old member
  by_cases same : old.path = file.path
  · have kind := sameKind old member same
    exact ⟨file, by simp [files], same.symm, kind.symm,
      fun isTranscript => .inr (newer (kind ▸ isTranscript) old member same)⟩
  · exact ⟨old, by simp [files, member, same], rfl, rfl, fun _ => .inl rfl⟩

-----------------------------------------------------------------------------------------
-- What a cycle has covered
-----------------------------------------------------------------------------------------

/-- Every selected transcript of the tree will be read, is staged, or is uploaded; what is staged
is of the tree.
-/
structure Covered (seen : SourceTree) (before : PendingSourceCheckpoint) (db : Projection)
    (todo : List String) (staged : List Transcript)
    : Prop where
  ofTree : staged ⊆ seen.files.filterMap (·.transcript)
  selected
    : ∀ file ∈ seen.files, ∀ transcript, file.transcript = some transcript
      → SourceConfig.shouldImportFile (some before) file
      → file.path ∈ todo ∨ transcript ∈ staged ∨ ∀ row ∈ transcript.rows, Represented db row

namespace SourceConfig

variable (config : SourceConfig)

/-- The paths that the import of the tree has not read; Claude selects no files ahead. -/
def unread : Rest → List String
  | .files todo selected =>
      match config.provider with
      | .codex => todo ++ selected
      | .claude => todo
  | .chunks todo => todo.flatten

/-- The pending checkpoint was taken of a tree that has grown since. -/
structure BeganAt (tree : SourceTree) (remote : Remote) (before : PendingSourceCheckpoint)
    (seen : SourceTree)
    : Prop where
  checkpoint : before.checkpoint = config.remoteSourceCheckpoint seen config.source
  previous
    : before.previousUpdatedAtMs = (remote.checkpoints config.key).map (·.updatedAtMs)
  grown : Grown seen tree

/-- The cycle has covered the tree that it began at, if no transcript was written since. -/
def Works (tree : SourceTree) (remote : Remote) (before : PendingSourceCheckpoint)
    (todo : List String) (staged : List Transcript)
    : Prop :=
  ∃ seen,
    config.BeganAt tree remote before seen
    ∧ (Unwritten seen tree → Covered seen before remote.projection todo staged)

/-- What holds of the running cycle, at each point of its program. -/
def CycleKept (tree : SourceTree) (remote : Remote) : Cycle → Prop
  | .idle => True
  | .listing before => ∃ seen, config.BeganAt tree remote before seen
  | .importing before rest => config.Works tree remote before (config.unread rest) []
  | .reading before paths staged rest =>
      config.Works tree remote before (paths ++ config.unread rest) staged
  | .completing before => config.Works tree remote before [] []
  | .storing current =>
      current.key = config.key
      ∧ ∃ seen,
          current.fingerprint = seen.fingerprint config.source
          ∧ Grown seen tree
          ∧ Unwritten seen tree
          ∧ seen.Uploaded remote.projection

/-- The stored checkpoint was taken of a tree that is uploaded; a transcript that has been
written since is newer than the checkpoint.
-/
def CheckpointKept (tree : SourceTree) (remote : Remote) : Prop :=
  ∀ state, remote.checkpoints config.key = some state
    → ∃ covered,
        state.fingerprint = covered.fingerprint config.source
        ∧ Grown covered tree
        ∧ covered.Uploaded remote.projection
        ∧ ∀ file ∈ tree.files, file.transcript.isSome
            → file ∈ covered.files ∨ state.updatedAtMs < asMillis file.modifiedNs

/-- The invariant of a run. -/
structure Kept (watched : Watched) : Prop where
  sound : Sound watched.remote.projection
  checkpoint : config.CheckpointKept watched.tree watched.remote
  cycle : config.CycleKept watched.tree watched.remote watched.cycle

/-- The guard of a step. No transcript is written while a checkpoint is about to be stored, or at
or before the time of the stored one, and a write makes it newer. A push claims new keys for event
ids that are not stored.
-/
def WriteGuard (watched : Watched) : Happening → Prop
  | .write path len (some transcript) =>
      (∀ current, watched.cycle ≠ .storing current)
      ∧ (∀ state, watched.remote.checkpoints config.key = some state
          → state.updatedAtMs < asMillis watched.clockNs)
      ∧ ∀ old ∈ watched.tree.files, old.path = path
          → old.Newer ⟨path, len, watched.clockNs, some transcript⟩
  | .advance =>
      match watched.cycle with
      | .reading _ [] staged _ =>
          watched.remote.projection.ClaimsUnstored (pushRows (stage staged))
      | _ => True
  | _ => True

variable {config}

-----------------------------------------------------------------------------------------
-- The clock and the writes
-----------------------------------------------------------------------------------------

/-- What a cycle has covered does not depend on the clock. -/
theorem Kept.tick {watched : Watched} (kept : config.Kept watched) (nowNs : Nat)
    : config.Kept { watched with clockNs := nowNs } :=
  ⟨kept.sound, kept.checkpoint, kept.cycle⟩

theorem Kept.stop {watched : Watched} (kept : config.Kept watched)
    : config.Kept { watched with cycle := .idle } :=
  ⟨kept.sound, kept.checkpoint, trivial⟩

variable {tree : SourceTree} {remote : Remote} {before : PendingSourceCheckpoint}

/-- A write after the first fingerprint either shows in the second one or changes nothing. -/
theorem Works.grow {todo : List String} {staged : List Transcript}
    (works : config.Works tree remote before todo staged) {next : SourceTree}
    (grown : Grown tree next)
    : config.Works next remote before todo staged := by
  obtain ⟨seen, began, covered⟩ := works
  exact ⟨seen, ⟨began.checkpoint, began.previous, began.grown.trans grown⟩,
    fun unwritten => covered (unwritten.of_trans began.grown grown)⟩

theorem CycleKept.grow {cycle : Cycle} (kept : config.CycleKept tree remote cycle)
    {next : SourceTree} (grown : Grown tree next)
    (quiet : (∀ current, cycle ≠ .storing current) ∨ Unwritten tree next)
    : config.CycleKept next remote cycle := by
  cases cycle with
  | idle => trivial
  | listing before =>
      obtain ⟨seen, began⟩ := kept
      exact ⟨seen, began.checkpoint, began.previous, began.grown.trans grown⟩
  | importing before rest => exact Works.grow kept grown
  | reading before paths staged rest => exact Works.grow kept grown
  | completing before => exact Works.grow kept grown
  | storing current =>
      have unwritten : Unwritten tree next :=
        quiet.resolve_left fun never => never current rfl
      obtain ⟨sameKey, seen, same, older, unseen, uploaded⟩ := kept
      exact ⟨sameKey, seen, same, older.trans grown,
        fun file member isTranscript =>
          unseen file (unwritten file member isTranscript) isTranscript,
        uploaded⟩

/-- A guarded write keeps the invariant. Witness: a new transcript is newer than the stored
checkpoint, and other files are no transcripts.
-/
theorem Kept.write {watched : Watched} (kept : config.Kept watched) {path : String} {len : Nat}
    {transcript : Option Transcript}
    (guarded : config.WriteGuard watched (.write path len transcript)) {tree : SourceTree}
    (written
      : watched.tree.write ⟨path, len, watched.clockNs, transcript⟩ = some tree)
    : config.Kept { watched with tree := tree } := by
  have grown : Grown watched.tree tree := by
    refine .of_write written fun isTranscript => ?_
    obtain ⟨transcript, rfl⟩ := Option.isSome_iff_exists.mp isTranscript
    exact guarded.2.2
  refine ⟨kept.sound, ?_, kept.cycle.grow grown ?_⟩
  · intro state stored
    obtain ⟨covered, same, older, uploaded, newer⟩ := kept.checkpoint state stored
    refine ⟨covered, same, older.trans grown, uploaded, fun file member isTranscript => ?_⟩
    rcases SourceTree.mem_of_write written member with inTree | rfl
    · exact newer file inTree isTranscript
    · obtain ⟨transcript, rfl⟩ := Option.isSome_iff_exists.mp isTranscript
      exact .inr (guarded.2.1 state stored)
  · cases transcript with
    | some transcript => exact .inl guarded.1
    | none =>
        right
        intro file member isTranscript
        rcases SourceTree.mem_of_write written member with inTree | rfl
        · exact inTree
        · cases isTranscript

-----------------------------------------------------------------------------------------
-- The steps of a cycle
-----------------------------------------------------------------------------------------

theorem fileAt_eq_some {path : String} {file : SourceFile} (found : fileAt tree path = some file)
    : file ∈ tree.files ∧ file.path = path :=
  ⟨List.mem_of_find?_eq_some found, by simpa using List.find?_some found⟩

/-- The cycle begins at the present tree. -/
theorem Kept.start {watched : Watched} (kept : config.Kept watched)
    : config.Kept (config.start watched) := by
  unfold SourceConfig.start
  split
  · exact kept.stop
  · exact ⟨kept.sound, kept.checkpoint, watched.tree, rfl, rfl, .refl _⟩

/-- The listing has all transcripts. -/
theorem Works.listed {seen : SourceTree} (began : config.BeganAt tree remote before seen)
    : config.Works tree remote before (config.unread (.files (tree.listed.map (·.path)) []))
        [] := by
  refine ⟨seen, began, fun unwritten => ⟨List.nil_subset _, fun file member transcript is _ => ?_⟩⟩
  have inTree : file ∈ tree.files :=
    began.grown.mem_of_unwritten unwritten member (by simp [is])
  have listed : file.path ∈ tree.listed.map (·.path) :=
    List.mem_map.mpr
      ⟨file, List.mem_filter.mpr ⟨mem_orderBy.mpr inTree, by simp [is]⟩, rfl⟩
  left
  unfold unread
  cases config.provider with
  | codex => exact List.mem_append_left _ listed
  | claude => exact listed

/-- A file that the filter drops is no selected file of the tree, and another one stays to be
read.
-/
theorem Works.filter {path : String} {todo next : List String} {file : SourceFile}
    (works : config.Works tree remote before (path :: todo) [])
    (found : fileAt tree path = some file) (others : todo ⊆ next)
    (keeps : shouldImportFile (some before) file → path ∈ next)
    : config.Works tree remote before next [] := by
  obtain ⟨inTree, isPath⟩ := fileAt_eq_some found
  obtain ⟨seen, began, covered⟩ := works
  refine ⟨seen, began, fun unwritten =>
    ⟨(covered unwritten).ofTree, fun other member transcript is chosen => ?_⟩⟩
  rcases (covered unwritten).selected other member transcript is chosen with waiting | done
  · left
    rcases List.mem_cons.mp waiting with same | waiting
    · have present : other ∈ tree.files :=
        began.grown.mem_of_unwritten unwritten member (by simp [is])
      obtain rfl := eq_of_path present inTree (same.trans isPath.symm)
      exact same ▸ keeps chosen
    · exact others waiting
  · exact .inr done

theorem CycleKept.filtered {path : String} {todo selected : List String} {file : SourceFile}
    (works : config.Works tree remote before (config.unread (.files (path :: todo) selected)) [])
    (found : fileAt tree path = some file)
    : config.CycleKept tree remote
        (config.filtered before path (shouldImportFile (some before) file) todo selected) := by
  unfold SourceConfig.filtered
  unfold unread at works
  cases provider : config.provider with
  | codex =>
      rw [provider] at works
      refine Works.filter works found ?_ fun chosen => ?_
      · unfold unread
        simp only [provider]
        split <;> simp
      · simp [unread, provider, chosen]
  | claude =>
      rw [provider] at works
      dsimp only
      split
      next => exact Works.filter works found (by simp [unread, provider]) (by simp)
      next dropped =>
        exact Works.filter works found (by simp [unread, provider])
          fun chosen => absurd chosen dropped

/-- A step of the import of the tree loses no selected file. -/
theorem CycleKept.importStep {watched : Watched} {rest : Rest}
    (works : config.Works watched.tree watched.remote before (config.unread rest) [])
    : config.CycleKept watched.tree watched.remote (config.importStep watched before rest) := by
  unfold SourceConfig.importStep
  split
  next path todo selected =>
    split
    next file found => exact filtered works found
    next => trivial
  next selected =>
    unfold unread at works
    cases provider : config.provider with
    | codex =>
        rw [provider] at works
        dsimp only [CycleKept, unread]
        rw [chunks_flatten]
        exact works
    | claude =>
        rw [provider] at works
        exact works
  next paths todo => exact works
  next => exact works

/-- A file that is read is the selected one, because its path names one file. -/
theorem Works.read {path : String} {todo : List String} {staged : List Transcript}
    {transcript : Transcript} (works : config.Works tree remote before (path :: todo) staged)
    (found : (fileAt tree path).bind (·.transcript) = some transcript)
    : config.Works tree remote before todo (staged ++ [transcript]) := by
  obtain ⟨file, located, isFile⟩ := Option.bind_eq_some_iff.mp found
  obtain ⟨inTree, isPath⟩ := fileAt_eq_some located
  obtain ⟨seen, began, covered⟩ := works
  refine ⟨seen, began, fun unwritten => ⟨?_, fun other member content is chosen => ?_⟩⟩
  · have inSeen : file ∈ seen.files := unwritten file inTree (by simp [isFile])
    refine List.append_subset.mpr ⟨(covered unwritten).ofTree, ?_⟩
    exact List.cons_subset.mpr
      ⟨List.mem_filterMap.mpr ⟨file, inSeen, isFile⟩, List.nil_subset _⟩
  · rcases (covered unwritten).selected other member content is chosen with waiting | held | done
    · rcases List.mem_cons.mp waiting with same | waiting
      · have present : other ∈ tree.files :=
          began.grown.mem_of_unwritten unwritten member (by simp [is])
        obtain rfl := eq_of_path present inTree (same.trans isPath.symm)
        obtain rfl : content = transcript := Option.some.inj (is.symm.trans isFile)
        exact .inr (.inl (by simp))
      · exact .inl waiting
    · exact .inr (.inl (List.mem_append_left _ held))
    · exact .inr (.inr done)

/-- The push of a store uploads what is staged and removes no row. -/
theorem Works.push {staged : List Transcript} {todo : List String}
    (works : config.Works tree remote before todo staged) {projection : Projection}
    (grows : ∀ held ∈ remote.projection.events, held ∈ projection.events)
    (pushed : ∀ row ∈ pushRows (stage staged), Represented projection row)
    : config.Works tree { remote with projection := projection } before todo [] := by
  obtain ⟨seen, began, covered⟩ := works
  refine ⟨seen, ⟨began.checkpoint, began.previous, began.grown⟩, fun unwritten =>
    ⟨List.nil_subset _, fun file member transcript is chosen => ?_⟩⟩
  rcases (covered unwritten).selected file member transcript is chosen with waiting | held | done
  · exact .inl waiting
  · refine .inr (.inr fun row inRows => ?_)
    obtain ⟨exported, inPush, sameId, sameKey⟩ :=
      stage_represents (seen.compatible.subset (covered unwritten).ofTree) held inRows
    exact (pushed exported inPush).congr sameId sameKey
  · exact .inr (.inr fun row inRows => (done row inRows).mono grows)

theorem CheckpointKept.mono (kept : config.CheckpointKept tree remote)
    {projection : Projection}
    (grows : ∀ held ∈ remote.projection.events, held ∈ projection.events)
    : config.CheckpointKept tree { remote with projection := projection } := by
  intro state stored
  obtain ⟨covered, same, older, uploaded, newer⟩ := kept state stored
  exact ⟨covered, same, older, uploaded.mono grows, newer⟩

/-- A cycle that has covered its tree, and finds its fingerprint again, has uploaded the present
tree. Witness: a transcript that the filter has dropped is not newer than the stored checkpoint, so
it is of the tree that this one covers.
-/
theorem Works.uploaded (works : config.Works tree remote before [] [])
    (kept : config.CheckpointKept tree remote)
    (same
      : before.checkpoint.fingerprint
        = (config.remoteSourceCheckpoint tree config.source).fingerprint)
    : tree.Uploaded remote.projection := by
  obtain ⟨seen, began, covered⟩ := works
  rw [began.checkpoint] at same
  have unwritten : Unwritten seen tree := began.grown.unwritten same
  intro file member transcript is
  have isTranscript : file.transcript.isSome := by simp [is]
  by_cases chosen : shouldImportFile (some before) file
  · rcases (covered unwritten).selected file (unwritten file member isTranscript) transcript is
        chosen with waiting | held | done
    · cases waiting
    · cases held
    · exact done
  · unfold shouldImportFile at chosen
    simp only [began.previous] at chosen
    cases stored : remote.checkpoints config.key with
    | none => simp [stored] at chosen
    | some state =>
        obtain ⟨old, _, _, uploaded, newer⟩ := kept state stored
        rcases newer file member isTranscript with inOld | younger
        · exact uploaded file inOld transcript is
        · simp [stored] at chosen
          omega

/-- Every step of a cycle keeps the invariant, one case for each point of its program. -/
theorem Kept.advance {watched : Watched} (kept : config.Kept watched)
    (guarded : config.WriteGuard watched .advance)
    : config.Kept (config.advance watched) := by
  obtain ⟨tree, clockNs, remote, cycle⟩ := watched
  obtain ⟨sound, checkpoint, works⟩ := kept
  unfold WriteGuard at guarded
  unfold SourceConfig.advance
  dsimp only at *
  cases cycle with
  | idle => exact Kept.start ⟨sound, checkpoint, trivial⟩
  | listing before =>
      obtain ⟨seen, began⟩ := works
      exact ⟨sound, checkpoint, Works.listed began⟩
  | importing before rest => exact ⟨sound, checkpoint, CycleKept.importStep works⟩
  | reading before paths staged rest =>
      cases paths with
      | cons path paths =>
          dsimp only
          split
          next transcript found => exact ⟨sound, checkpoint, Works.read works found⟩
          next => exact ⟨sound, checkpoint, trivial⟩
      | nil =>
          obtain ⟨soundNext, grows, pushed⟩ := push_sound config.batchSize sound guarded
          exact ⟨soundNext, checkpoint.mono grows, Works.push works grows pushed⟩
  | completing before =>
      dsimp only
      split
      next same =>
        exact ⟨sound, checkpoint, rfl, tree, rfl, .refl _, fun _ member _ => member,
          Works.uploaded works checkpoint same⟩
      next => exact ⟨sound, checkpoint, trivial⟩
  | storing current =>
      obtain ⟨sameKey, seen, same, older, unwritten, uploaded⟩ := works
      refine ⟨sound, fun state stored => ?_, trivial⟩
      obtain rfl : ⟨current.fingerprint, asMillis clockNs⟩ = state := by
        simpa [sameKey] using stored
      exact ⟨seen, same, older, uploaded, fun file member isTranscript =>
        .inl (unwritten file member isTranscript)⟩

theorem Kept.step {watched next : Watched} {happening : Happening}
    (kept : config.Kept watched) (guarded : config.WriteGuard watched happening)
    (taken : config.step watched happening = some next)
    : config.Kept next := by
  cases happening with
  | tick nowNs =>
      unfold SourceConfig.step at taken
      dsimp only at taken
      split at taken
      next =>
        obtain rfl := Option.some.inj taken
        exact kept.tick nowNs
      next => cases taken
  | write path len transcript =>
      obtain ⟨tree, written, rfl⟩ := Option.map_eq_some_iff.mp taken
      exact kept.write guarded written
  | advance =>
      obtain rfl := Option.some.inj taken
      exact kept.advance guarded
  | stop =>
      obtain rfl := Option.some.inj taken
      exact kept.stop

-----------------------------------------------------------------------------------------
-- Runs
-----------------------------------------------------------------------------------------

variable (config)

/-- Where the stored fingerprint is the present one, all transcripts are uploaded. -/
def Settled (watched : Watched) : Prop :=
  config.unchanged watched.tree watched.remote
    → watched.tree.Uploaded watched.remote.projection

variable {config}

/-- Under the invariant, an unchanged source is an uploaded one: its transcripts are those that
the stored checkpoint covers.
-/
theorem Kept.settled {watched : Watched} (kept : config.Kept watched)
    : config.Settled watched := by
  intro same
  obtain ⟨state, stored, equal⟩ := unchanged_iff.mp same
  obtain ⟨covered, fingerprint, grown, uploaded, _⟩ := kept.checkpoint state stored
  have unwritten : Unwritten covered watched.tree :=
    grown.unwritten (fingerprint.symm.trans equal)
  exact fun file member transcript is =>
    uploaded file (unwritten file member (by simp [is])) transcript is

/-- In every run whose transcript writes stay clear of the checkpoint's time, an unchanged source
is an uploaded one in every state.
-/
theorem settled_of_guarded (config : SourceConfig) (tree : SourceTree) (clockNs : Nat)
    (happenings : List Happening)
    (guarded
      : AllSteps config.step config.WriteGuard ⟨tree, clockNs, .empty, .idle⟩ happenings)
    : AllStates config.step config.Settled ⟨tree, clockNs, .empty, .idle⟩ happenings := by
  refine (allStates_of_guarded config.Kept
    (fun _ _ _ kept meets taken => kept.step meets taken) ?_ guarded).imp fun _ kept => kept.settled
  exact ⟨Sound.empty, fun _ stored => (by cases stored), trivial⟩

end SourceConfig

-----------------------------------------------------------------------------------------
-- An append between the two readings of a cycle
-----------------------------------------------------------------------------------------

/-- The transcript of `session.jsonl` after the append of a second event. -/
def appendedTranscript : Transcript where
  sessions := (oneEventStore "e1" "text" "h1").sessions
  captureSources := []
  events := (oneEventStore "e1" "text" "h1").events ++ (oneEventStore "e2" "more" "h2").events
  own := by simp [oneEventStore]
  exportable := by simp [oneEventStore]

/-- One session file of 1 ms before the first cycle, at 2 ms. -/
def beforeAppend : Watched :=
  ⟨oneFileTree "session.jsonl" 1 "e1" "h1" (by decide), 2000000, .empty, .idle⟩

/-- The append of the second event. -/
def appendEvent : Happening := .write "session.jsonl" 200 (some appendedTranscript)

/-- The steps of a first cycle, before its checkpoint is stored. -/
def untilStored : List Happening := List.replicate 9 .advance

/-- The event is appended at 4 ms, behind the second fingerprint; the checkpoint is stored at 5 ms
and another cycle follows.
-/
def lateAppend : List Happening :=
  untilStored ++ [.tick 4000000, appendEvent, .tick 5000000, .advance]
    ++ List.replicate 7 .advance

/-- The event is appended at 6 ms, behind the checkpoint of 5 ms. -/
def laterAppend : List Happening :=
  untilStored ++ [.tick 5000000, .advance, .tick 6000000, appendEvent]
    ++ untilStored ++ [.advance]

/-- The file of an append between the second fingerprint and the checkpoint is dropped, and the
source is unchanged from then on.
-/
theorem append_before_checkpoint_lost
    : ∃ final,
        run homeSessions.step beforeAppend lateAppend = some final
        ∧ homeSessions.unchanged final.tree final.remote
        ∧ ¬final.tree.Uploaded final.remote.projection := by
  refine ⟨_, rfl, by decide, fun uploaded => ?_⟩
  have represented := uploaded _ (.head _) appendedTranscript rfl _ (.tail _ (.head _))
  exact absurd represented (by decide)

/-- An append behind the checkpoint is uploaded by the next cycle. -/
theorem append_behind_checkpoint_uploaded
    : AllStates homeSessions.step homeSessions.Settled beforeAppend laterAppend := by
  refine SourceConfig.settled_of_guarded homeSessions _ _ laterAppend ?_
  -- the first cycle pushes the first event, and its checkpoint is stored at 5 ms
  iterate 6 refine .cons rfl trivial ?_
  refine .cons rfl (claimsUnstored_of_fresh (by decide)) ?_
  iterate 5 refine .cons rfl trivial ?_
  refine .cons rfl ⟨fun current busy => ?_, ?_, by decide⟩ ?_
  · cases busy
  · intro state stored
    obtain rfl := Option.some.inj (stored : some _ = some state)
    decide
  -- the second cycle reads the longer file
  iterate 6 refine .cons rfl trivial ?_
  refine .cons rfl (claimsUnstored_of_owned (by decide)) ?_
  iterate 3 refine .cons rfl trivial ?_
  exact trivial

end CtxRemote.Sync
