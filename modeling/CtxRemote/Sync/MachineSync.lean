import CtxRemote.Library.Transition
import CtxRemote.Sync.TursoImport

/-! Machines that share one remote database and run complete import cycles in any order.

The checkpoint of a source is keyed by provider, format and canonical path, and names no machine. A
machine whose first cycle finds a checkpoint under its key skips what that checkpoint covers,
although nothing of it was uploaded from this machine.
-/

namespace CtxRemote.Sync
open CtxRemote.Library CtxRemote.Turso

-----------------------------------------------------------------------------------------
-- Machines and their cycles
-----------------------------------------------------------------------------------------

/-- The machines, with their sources and the files in them. -/
structure Fleet (Machine : Type) where
  config : Machine → SourceConfig
  tree : Machine → SourceTree

/-- The remote database, and the machines that have finished a cycle. -/
structure Shared (Machine : Type) where
  remote : Remote
  finished : List Machine

namespace Fleet

variable {Machine : Type} (fleet : Fleet Machine)

/-- A machine's cycle, with the time of its clock when it stores the checkpoint. -/
def step (shared : Shared Machine) (cycle : Machine × Nat) : Option (Shared Machine) :=
  some
    { remote :=
        (fleet.config cycle.1).runTursoImportOnce (fleet.tree cycle.1) cycle.2 shared.remote
      finished := cycle.1 :: shared.finished }

/-- A fresh remote database; no machine has run. -/
def init : Shared Machine := ⟨.empty, []⟩

/-- Every event of every file of the machine is represented in the projection. -/
def Uploaded (shared : Shared Machine) (machine : Machine) : Prop :=
  (fleet.tree machine).Uploaded shared.remote.projection

/-- Every machine that has finished a cycle has uploaded its files. -/
def AllUploaded (shared : Shared Machine) : Prop :=
  ∀ machine ∈ shared.finished, fleet.Uploaded shared machine

/-- No checkpoint covers files of a machine that has not run: there is none under its key, or
it has another fingerprint and is older than all files.
-/
def NotCovered (shared : Shared Machine) (machine : Machine) : Prop :=
  ∀ state, shared.remote.checkpoints (fleet.config machine).key = some state
    → state.fingerprint ≠ (fleet.tree machine).fingerprint (fleet.config machine).source
      ∧ ∀ file ∈ (fleet.tree machine).listed, state.updatedAtMs < asMillis file.modifiedNs

/-- The guard of a cycle: a first cycle is not covered by a checkpoint, and new keys are claimed
for event ids that are not stored.
-/
def CycleGuard (shared : Shared Machine) (cycle : Machine × Nat) : Prop :=
  (cycle.1 ∉ shared.finished → fleet.NotCovered shared cycle.1)
    ∧ ((fleet.config cycle.1).unchanged (fleet.tree cycle.1) shared.remote = false
      → ChunksClaimUnstored (fleet.config cycle.1).batchSize
        ((fleet.config cycle.1).uploads (fleet.tree cycle.1)
          (some ((fleet.config cycle.1).pendingCheckpoint (fleet.tree cycle.1) shared.remote)))
        shared.remote.projection)

variable {fleet}

-----------------------------------------------------------------------------------------
-- Guarded cycles
-----------------------------------------------------------------------------------------

/-- What the run keeps: sound tables, and every finished machine's files in them. -/
structure Kept (fleet : Fleet Machine) (shared : Shared Machine) : Prop where
  sound : Sound shared.remote.projection
  uploaded : fleet.AllUploaded shared

theorem Kept.init (fleet : Fleet Machine) : fleet.Kept init where
  sound := Sound.empty
  uploaded := fun _ member => absurd member List.not_mem_nil

/-- A cycle that is not covered selects every file, because no file is as old as the stored
checkpoint.
-/
theorem shouldImportFile_of_notCovered {shared : Shared Machine} {machine : Machine}
    (free : fleet.NotCovered shared machine) {file : SourceFile}
    (member : file ∈ (fleet.tree machine).files) {transcript : Transcript}
    (is : file.transcript = some transcript)
    : SourceConfig.shouldImportFile
        (some ((fleet.config machine).pendingCheckpoint (fleet.tree machine) shared.remote))
        file := by
  unfold SourceConfig.shouldImportFile SourceConfig.pendingCheckpoint
  cases stored : shared.remote.checkpoints (fleet.config machine).key with
  | none => rfl
  | some state =>
      have listed : file ∈ (fleet.tree machine).listed :=
        List.mem_filter.mpr ⟨mem_orderBy.mpr member, by simp [is]⟩
      simpa using (free state stored).2 file listed

/-- A guarded cycle keeps the tables sound and uploads the machine's files. Witness: an unchanged
source is not a first cycle's; otherwise a first cycle selects every file, and no push removes an
event row.
-/
theorem Kept.step {shared next : Shared Machine} {cycle : Machine × Nat}
    (kept : fleet.Kept shared) (guarded : fleet.CycleGuard shared cycle)
    (taken : fleet.step shared cycle = some next)
    : fleet.Kept next := by
  obtain ⟨machine, nowNs⟩ := cycle
  obtain ⟨first, claims⟩ := guarded
  obtain rfl := Option.some.inj taken
  dsimp only at first claims ⊢
  rw [SourceConfig.runTursoImportOnce_eq]
  cases same : (fleet.config machine).unchanged (fleet.tree machine) shared.remote with
  | true =>
      have ran : machine ∈ shared.finished := by
        by_contra fresh
        obtain ⟨state, stored, equal⟩ := SourceConfig.unchanged_iff.mp same
        exact (first fresh state stored).1 equal
      refine ⟨kept.sound, fun other member => ?_⟩
      rcases List.mem_cons.mp member with rfl | member
      · exact kept.uploaded _ ran
      · exact kept.uploaded other member
  | false =>
      obtain ⟨sound, grows, represented⟩ :=
        pushChunks_sound (fleet.config machine).batchSize kept.sound
          ((fleet.config machine).uploads_compatible (fleet.tree machine) _) (claims same)
      refine ⟨sound, fun other member => ?_⟩
      by_cases ran : other ∈ shared.finished
      · exact (kept.uploaded other ran).mono grows
      · obtain rfl : other = machine := by simpa [ran] using member
        intro file inTree transcript is row inRows
        obtain ⟨transcripts, inUploads, inside⟩ :=
          (fleet.config other).mem_uploads inTree is
            (shouldImportFile_of_notCovered (first ran) inTree is)
        exact represented transcripts inUploads transcript inside row inRows

/-- In every run of complete cycles whose first cycles are not covered by a checkpoint, every
machine that has finished a cycle has uploaded its files, in every state.
-/
theorem allUploaded_of_guarded (fleet : Fleet Machine) (cycles : List (Machine × Nat))
    (guarded : AllSteps fleet.step fleet.CycleGuard init cycles)
    : AllStates fleet.step fleet.AllUploaded init cycles :=
  (allStates_of_guarded fleet.Kept (fun _ _ _ kept meets taken => kept.step meets taken)
    (Kept.init fleet) guarded).imp fun _ kept => kept.uploaded

end Fleet

-----------------------------------------------------------------------------------------
-- Two machines with one home directory
-----------------------------------------------------------------------------------------

/-- Two machines with the same home directory. The file of the second was last modified after
that of the first, at `modifiedMs`.
-/
def twoMachines (modifiedMs : Nat) : Fleet Bool where
  config _ := homeSessions
  tree second :=
    if second then oneFileTree "second.jsonl" modifiedMs "e2" "h2" (by decide)
    else oneFileTree "first.jsonl" 1 "e1" "h1" (by decide)

/-- The first machine finishes its cycle at 5 ms, the second at 10 ms. -/
def twoCycles : List (Bool × Nat) := [(false, 5000000), (true, 10000000)]

/-- A file of 7 ms on the second machine is newer than the checkpoint of the first. -/
theorem newer_files_are_uploaded
    : AllStates (twoMachines 7).step (twoMachines 7).AllUploaded Fleet.init twoCycles := by
  refine Fleet.allUploaded_of_guarded _ _ fun first ran => ⟨⟨fun _ => ?_, fun _ => ?_⟩, ?_⟩
  · intro state stored
    cases stored
  · exact ⟨claimsUnstored_of_fresh (by decide), trivial⟩
  · obtain rfl := Option.some.inj ran
    refine fun second ran => ⟨⟨fun _ => ?_, fun _ => ?_⟩, trivial⟩
    · intro state stored
      obtain rfl := Option.some.inj (stored : some _ = some state)
      exact ⟨by decide, by decide⟩
    · exact ⟨claimsUnstored_of_fresh (by decide), trivial⟩

/-- A file of 2 ms on the second machine is dropped by the checkpoint of the first. -/
theorem foreign_checkpoint_drops_file
    : ∃ final,
        run (twoMachines 2).step Fleet.init twoCycles = some final
        ∧ final.finished = [true, false]
        ∧ (∀ second, ∀ file ∈ ((twoMachines 2).tree second).files, file.modifiedNs < 5000000)
        ∧ ¬(twoMachines 2).AllUploaded final := by
  refine ⟨_, rfl, rfl, by decide, fun uploaded => ?_⟩
  have represented :=
    uploaded true (.head _) (sessionFile "second.jsonl" 2 "e2" "h2") (.head _) _ rfl _ (.head _)
  exact absurd represented (by decide)

end CtxRemote.Sync
