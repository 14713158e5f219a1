import CtxRemote.Library.Transition
import Mathlib.Data.List.Basic
import Mathlib.Logic.Function.Basic

/-! Processes that write, import and retry spool files in one inbox, one file-system step at a time.

A spool file is a number here; its state is the suffix of the name that it has. The steps of a process
are those of `SpoolWriter::finish`, `import_spool` and `retry_failed_spool_files` between two looks at
the inbox or two changes of it. A listing is taken at once, in any order.
-/

namespace CtxRemote.Capture
open CtxRemote.Library

universe u

-----------------------------------------------------------------------------------------
-- The inbox and its processes
-----------------------------------------------------------------------------------------

/-- The suffixes of a spool file's name: `.jsonl.tmp`, `.jsonl`, `.jsonl.processing`, `.jsonl.done` and
`.jsonl.failed`.
-/
inductive SpoolSuffix where
  | tmp | pending | processing | done | failed
deriving DecidableEq, Repr

/-- What `read_jsonl` reads from a spool file: its envelopes, or an error. -/
abbrev SpoolContents (Envelope : Type u) := Option (List Envelope)

/-- Where a process is. `rest` are the files that its loop has still to visit, `sorted` the listed files
in the order of their names.
-/
inductive SpoolPhase (Envelope : Type u) where
  | idle
  | writing (file : Nat)
  | checking (unchecked sorted : List Nat)
  | claiming (files : List Nat)
  | taking (file : Nat) (rest : List Nat)
  | reading (file : Nat) (rest : List Nat)
  | importing (file : Nat) (left : List Envelope) (rest : List Nat)
  | finishing (file : Nat) (imported : Bool) (rest : List Nat)
  | recording (file : Nat) (rest : List Nat)
  | retrying (files : List Nat)
  | restoring (file : Nat) (rest : List Nat)
  | clearing (file : Nat) (rest : List Nat)
  | unlinking (file : Nat) (rest : List Nat)
  | refused
  | dead

/-- The files under their names, the `.failed.error.json` files, and the processes. `imported` are the
envelopes whose imports have been committed, each with the file that it comes from.
-/
structure SpoolWorld (Envelope : Type u) where
  inbox : Nat → SpoolSuffix → Option (SpoolContents Envelope)
  sidecars : Nat → Bool
  nextFile : Nat
  imported : List (Nat × Envelope)
  phases : Nat → SpoolPhase Envelope

/-- A new spool file with its contents, a call, the next step of a process, or its death. `listed` are
the files of the call in the order in which `fs::read_dir` lists them, `sorted` in that of their names;
`accepts` says whether the store takes an envelope of a file.
-/
inductive SpoolStep (Envelope : Type u) where
  | create (process : Nat) (contents : SpoolContents Envelope)
  | importSpool (process : Nat) (listed sorted : List Nat)
  | retryFailed (process : Nat) (listed : List Nat)
  | go (process : Nat) (accepts : Nat → Envelope → Bool)
  | crash (process : Nat)

namespace SpoolWorld

variable {Envelope : Type u} (world : SpoolWorld Envelope)

/-- The world with a process in another phase. -/
def setPhase (process : Nat) (phase : SpoolPhase Envelope) : SpoolWorld Envelope :=
  { world with phases := Function.update world.phases process phase }

/-- Whether a name exists. -/
def has (file : Nat) (suffix : SpoolSuffix) : Bool := (world.inbox file suffix).isSome

/-- The files with a name that ends in the suffix. -/
def list (suffix : SpoolSuffix) : List Nat :=
  (List.range world.nextFile).filter (world.has · suffix)

/-- `fs::rename` from one suffix to another one; `none` stands for `NotFound`. -/
def rename (file : Nat) (source target : SpoolSuffix) : Option (SpoolWorld Envelope) :=
  (world.inbox file source).map fun contents =>
    { world with
      inbox :=
        Function.update world.inbox file
          (Function.update (Function.update (world.inbox file) source none) target (some contents)) }

/-- The next step of a process, by its phase. -/
def go (process : Nat) (accepts : Nat → Envelope → Bool)
    : SpoolPhase Envelope → Option (SpoolWorld Envelope)
  | .idle | .refused | .dead => none
  -- `SpoolWriter::finish`
  | .writing file => some (((world.rename file .tmp .pending).getD world).setPhase process .idle)
  -- `pending_spool_files`
  | .checking [] sorted => some (world.setPhase process (.claiming sorted))
  | .checking (file :: rest) sorted =>
      some (world.setPhase process
        (if world.has file .pending then .checking rest sorted else .refused))
  -- `claim_pending_file`
  | .claiming [] => some (world.setPhase process .idle)
  | .claiming (file :: rest) =>
      some (world.setPhase process
        (if world.has file .pending then .taking file rest else .claiming rest))
  | .taking file rest =>
      match world.rename file .pending .processing with
      | some claimed => some (claimed.setPhase process (.reading file rest))
      | none => some (world.setPhase process (.claiming rest))
  -- `import_processing_file`
  | .reading file rest =>
      match world.inbox file .processing with
      | some (some envelopes) => some (world.setPhase process (.importing file envelopes rest))
      | _ => some (world.setPhase process (.finishing file false rest))
  | .importing file [] rest => some (world.setPhase process (.finishing file true rest))
  | .importing file (envelope :: left) rest =>
      if accepts file envelope then
        some ({ world with imported := (file, envelope) :: world.imported }.setPhase process
          (.importing file left rest))
      else some (world.setPhase process (.finishing file false rest))
  -- the end of the loop of `import_spool`
  | .finishing file true rest =>
      match world.rename file .processing .done with
      | some moved => some (moved.setPhase process (.claiming rest))
      | none => some (world.setPhase process .refused)
  | .finishing file false rest =>
      match world.rename file .processing .failed with
      | some moved => some (moved.setPhase process (.recording file rest))
      | none => some (world.setPhase process .refused)
  | .recording file rest =>
      some ({ world with sidecars := Function.update world.sidecars file true }.setPhase process
        (.claiming rest))
  -- `retry_failed_spool_files`
  | .retrying [] => some (world.setPhase process .idle)
  | .retrying (file :: rest) =>
      some (world.setPhase process
        (if world.has file .pending then .idle else .restoring file rest))
  | .restoring file rest =>
      match world.rename file .failed .pending with
      | some moved => some (moved.setPhase process (.clearing file rest))
      | none => some (world.setPhase process .idle)
  | .clearing file rest =>
      some (world.setPhase process (if world.sidecars file then .unlinking file rest else .retrying rest))
  | .unlinking file rest =>
      if world.sidecars file then
        some ({ world with sidecars := Function.update world.sidecars file false }.setPhase process
          (.retrying rest))
      else some (world.setPhase process .idle)

/-- A process that can make a call. -/
def ready (process : Nat) : Bool :=
  match world.phases process with
  | .idle | .refused => true
  | _ => false

/-- One step. -/
def step (world : SpoolWorld Envelope) : SpoolStep Envelope → Option (SpoolWorld Envelope)
  | .create process contents =>
      if world.ready process then
        some
          ({ world with
              inbox :=
                Function.update world.inbox world.nextFile
                  (Function.update (fun _ => none) .tmp (some contents))
              nextFile := world.nextFile + 1 }.setPhase process (.writing world.nextFile))
      else none
  | .importSpool process listed sorted =>
      if world.ready process ∧ listed.Perm (world.list .pending) ∧ sorted.Perm listed then
        some (world.setPhase process (.checking listed sorted))
      else none
  | .retryFailed process listed =>
      if world.ready process ∧ listed.Perm (world.list .failed) then
        some (world.setPhase process (.retrying listed))
      else none
  | .go process accepts => world.go process accepts (world.phases process)
  | .crash process =>
      match world.phases process with
      | .dead => none
      | _ => some (world.setPhase process .dead)

-----------------------------------------------------------------------------------------
-- What the inbox promises
-----------------------------------------------------------------------------------------

/-- A file that `SpoolWriter::finish` has given its final name. -/
def Finished (file : Nat) : Prop := file < world.nextFile ∧ world.inbox file .tmp = none

/-- Every envelope of the contents has been imported from the file. -/
def Imported (file : Nat) (contents : SpoolContents Envelope) : Prop :=
  ∃ envelopes, contents = some envelopes ∧ ∀ envelope ∈ envelopes, (file, envelope) ∈ world.imported

/-- No process is about to do anything. -/
def Stopped : Prop :=
  ∀ process, world.phases process = .idle ∨ world.phases process = .refused
    ∨ world.phases process = .dead

/-- A process alone retries the failed files and then imports, to the end of both calls. `order` is that
of the listings, `sort` that of the names.
-/
def Recovers (process : Nat) (accepts : Nat → Envelope → Bool) (order sort : List Nat → List Nat)
    (final : SpoolWorld Envelope)
    : Prop :=
  ∃ retries imports middle,
    run step world
      (.retryFailed process (order (world.list .failed))
        :: List.replicate retries (.go process accepts)) = some middle
    ∧ run step middle
      (.importSpool process (order (middle.list .pending)) (sort (middle.list .pending))
        :: List.replicate imports (.go process accepts)) = some final
    ∧ final.phases process = .idle

/-- A file can be imported if it can be read and the store takes all its envelopes. -/
def Importable (accepts : Nat → Envelope → Bool) (file : Nat) : Prop :=
  ∀ suffix contents, world.inbox file suffix = some contents →
    ∃ envelopes, contents = some envelopes ∧ ∀ envelope ∈ envelopes, accepts file envelope = true

/-- The promises. `recovers` is about a process that runs after all others have stopped. -/
structure Kept : Prop where
  oneState
    : ∀ file, world.Finished file →
        ∃ suffix, world.has file suffix = true ∧ ∀ other, world.has file other = true → other = suffix
  done : ∀ file contents, world.inbox file .done = some contents → world.Imported file contents
  recovers
    : world.Stopped → ∀ process accepts, world.phases process ≠ .dead →
        ∀ order sort : List Nat → List Nat,
          (∀ files, (order files).Perm files)
          → (∀ files, (sort files).Perm files)
          → ∃ final, world.Recovers process accepts order sort final
              ∧ ∀ file, world.Finished file → world.Importable accepts file →
                  final.has file .done = true
  neverRefused : ∀ process, world.phases process ≠ .refused

-----------------------------------------------------------------------------------------
-- The invariant
-----------------------------------------------------------------------------------------

end SpoolWorld

/-- The file that a process has claimed. -/
def SpoolPhase.working {Envelope : Type u} : SpoolPhase Envelope → Option Nat
  | .reading file _ => some file
  | .importing file _ _ => some file
  | .finishing file _ _ => some file
  | _ => none

/-- The files that `pending_spool_files` has listed and not checked. -/
def SpoolPhase.unchecked {Envelope : Type u} : SpoolPhase Envelope → List Nat
  | .checking unchecked _ => unchecked
  | _ => []

namespace SpoolWorld

variable {Envelope : Type u}

/-- How far a process has come with a file: what it has left of the contents is all that is not imported
yet.
-/
def Reached (world : SpoolWorld Envelope) (contents : SpoolContents Envelope)
    : SpoolPhase Envelope → Prop
  | .importing file left _ =>
      ∃ before, contents = some (before ++ left)
        ∧ ∀ envelope ∈ before, (file, envelope) ∈ world.imported
  | .finishing file true _ => world.Imported file contents
  | _ => True

/-- The condition on a step: no process dies while it has claimed a file, and none claims a file that
another one has listed and not checked yet.
-/
def Guarded (world : SpoolWorld Envelope) : SpoolStep Envelope → Prop
  | .crash process => (world.phases process).working = none
  | .go process _ =>
      ∀ file rest, world.phases process = .taking file rest
        → ∀ other, file ∉ (world.phases other).unchecked
  | _ => True

/-- Every file has one name. A file that is named as processed is worked on by one process, and a listed
file stays pending until it is checked.
-/
structure Sound (world : SpoolWorld Envelope) : Prop where
  fresh : ∀ {file suffix}, world.has file suffix = true → file < world.nextFile
  named : ∀ {file}, file < world.nextFile → ∃ suffix, world.has file suffix = true
  unique
    : ∀ {file suffix other},
        world.has file suffix = true → world.has file other = true → suffix = other
  done : ∀ {file contents}, world.inbox file .done = some contents → world.Imported file contents
  claimed
    : ∀ {process file},
        (world.phases process).working = some file
        → ∃ contents, world.inbox file .processing = some contents
            ∧ world.Reached contents (world.phases process)
  alone
    : ∀ {process other file},
        (world.phases process).working = some file
        → (world.phases other).working = some file
        → process = other
  worked
    : ∀ {file},
        world.has file .processing = true
        → ∃ process, (world.phases process).working = some file
  listed
    : ∀ {process file}, file ∈ (world.phases process).unchecked → world.has file .pending = true
  accepted : ∀ process, world.phases process ≠ .refused

variable {world next moved : SpoolWorld Envelope} {process file : Nat} {phase : SpoolPhase Envelope}
  {source target : SpoolSuffix} {contents : SpoolContents Envelope}

@[simp] theorem setPhase_self : (world.setPhase process phase).phases process = phase :=
  Function.update_self ..

@[simp] theorem setPhase_of_ne {other : Nat} (different : other ≠ process)
    : (world.setPhase process phase).phases other = world.phases other :=
  Function.update_of_ne different ..

theorem has_iff {suffix : SpoolSuffix}
    : world.has file suffix = true ↔ ∃ contents, world.inbox file suffix = some contents :=
  Option.isSome_iff_exists

theorem mem_list {suffix : SpoolSuffix}
    : file ∈ world.list suffix ↔ file < world.nextFile ∧ world.has file suffix = true := by
  rw [list, List.mem_filter, List.mem_range]

/-- A process that keeps what it works on leaves everybody's work as it was. -/
theorem working_setPhase (keeps : phase.working = (world.phases process).working) (other : Nat)
    : ((world.setPhase process phase).phases other).working = (world.phases other).working := by
  by_cases same : other = process
  · rw [same, setPhase_self, keeps]
  · rw [setPhase_of_ne same]

/-- A process goes on without touching the inbox. -/
theorem Sound.setPhase (sound : world.Sound)
    (keeps : phase.working = (world.phases process).working)
    (reached
      : ∀ file contents,
          phase.working = some file
          → world.inbox file .processing = some contents
          → world.Reached contents (world.phases process)
          → world.Reached contents phase)
    (listed : ∀ file ∈ phase.unchecked, world.has file .pending = true)
    (accepted : phase ≠ .refused)
    : (world.setPhase process phase).Sound where
  fresh := sound.fresh
  named := sound.named
  unique := sound.unique
  done := sound.done
  claimed := by
    intro other file works
    rw [working_setPhase keeps] at works
    obtain ⟨contents, there, progress⟩ := sound.claimed works
    refine ⟨contents, there, ?_⟩
    by_cases same : other = process
    · subst same
      rw [setPhase_self]
      exact reached file contents (keeps.trans works) there progress
    · rw [setPhase_of_ne same]
      exact progress
  alone := by
    intro first second file works too
    rw [working_setPhase keeps] at works too
    exact sound.alone works too
  worked := by
    intro file named
    obtain ⟨other, works⟩ := sound.worked named
    exact ⟨other, (working_setPhase keeps other).trans works⟩
  listed := by
    intro other file member
    by_cases same : other = process
    · subst same
      rw [setPhase_self] at member
      exact listed file member
    · rw [setPhase_of_ne same] at member
      exact sound.listed member
  accepted := by
    intro other
    by_cases same : other = process
    · subst same
      rwa [setPhase_self]
    · rw [setPhase_of_ne same]
      exact sound.accepted other

theorem Imported.mono (imported : world.Imported file contents)
    (kept : world.imported ⊆ next.imported)
    : next.Imported file contents := by
  obtain ⟨envelopes, same, all⟩ := imported
  exact ⟨envelopes, same, fun envelope member => kept (all envelope member)⟩

theorem Reached.mono (reached : world.Reached contents phase)
    (kept : world.imported ⊆ next.imported)
    : next.Reached contents phase := by
  cases phase with
  | importing file left rest =>
      obtain ⟨before, same, all⟩ := reached
      exact ⟨before, same, fun envelope member => kept (all envelope member)⟩
  | finishing file imported rest =>
      cases imported with
      | true => exact Imported.mono reached kept
      | false => trivial
  | _ => trivial

/-- A rename changes names only. -/
theorem rename_fields (renamed : world.rename file source target = some moved)
    : moved.nextFile = world.nextFile ∧ moved.imported = world.imported
      ∧ moved.phases = world.phases ∧ moved.sidecars = world.sidecars
      ∧ ∀ other, other ≠ file → moved.inbox other = world.inbox other := by
  obtain ⟨contents, there, rfl⟩ := Option.map_eq_some_iff.mp renamed
  exact ⟨rfl, rfl, rfl, rfl, fun other away => Function.update_of_ne away ..⟩

/-- A renamed file has its contents under the new name. -/
theorem rename_target (renamed : world.rename file source target = some moved)
    : ∃ contents, world.inbox file source = some contents
        ∧ moved.inbox file target = some contents := by
  obtain ⟨contents, there, rfl⟩ := Option.map_eq_some_iff.mp renamed
  exact ⟨contents, there, by simp⟩

/-- After a rename the file has the new name only, and all other files are as they were. -/
theorem Sound.has_rename (sound : world.Sound)
    (renamed : world.rename file source target = some moved) {other : Nat} {suffix : SpoolSuffix}
    : moved.has other suffix = true
      ↔ (other = file ∧ suffix = target) ∨ (other ≠ file ∧ world.has other suffix = true) := by
  obtain ⟨contents, there, rfl⟩ := Option.map_eq_some_iff.mp renamed
  by_cases same : other = file
  · subst same
    by_cases new : suffix = target
    · simp [has, new]
    · by_cases old : suffix = source
      · subst old
        simp [has, new]
      · have none : ¬ world.has other suffix = true :=
          fun named => old (sound.unique named (has_iff.mpr ⟨contents, there⟩))
        simpa [has, new, old] using none
  · simp [has, same]

/-- A process renames a file and goes on. -/
theorem Sound.move (sound : world.Sound) (renamed : world.rename file source target = some moved)
    (different : source ≠ target)
    (complete
      : target = .done → ∀ contents, world.inbox file source = some contents →
          world.Imported file contents)
    (works : (world.phases process).working = if source = .processing then some file else none)
    (next : phase.working = if target = .processing then some file else none)
    (reached : ∀ contents, world.Reached contents phase)
    (checked : phase.unchecked = [])
    (unlisted : source = .pending → ∀ other, file ∉ (world.phases other).unchecked)
    (accepted : phase ≠ .refused)
    : (moved.setPhase process phase).Sound := by
  obtain ⟨contents, there, now⟩ := rename_target renamed
  obtain ⟨bound, log, phases, _, elsewhere⟩ := rename_fields renamed
  have named : world.has file source = true := has_iff.mpr ⟨contents, there⟩
  have kept : world.imported ⊆ moved.imported := log ▸ List.Subset.refl _
  -- whoever else works on something works on another file
  have away {other held : Nat} (notHere : other ≠ process)
      (holds : ((moved.setPhase process phase).phases other).working = some held)
      : (world.phases other).working = some held ∧ held ≠ file := by
    rw [setPhase_of_ne notHere, phases] at holds
    refine ⟨holds, ?_⟩
    rintro rfl
    obtain ⟨_, claimed, _⟩ := sound.claimed holds
    have processing := sound.unique named (has_iff.mpr ⟨_, claimed⟩)
    rw [if_pos processing] at works
    exact notHere (sound.alone holds works)
  -- what the process works on afterwards
  have here {held : Nat} (holds : ((moved.setPhase process phase).phases process).working = some held)
      : held = file ∧ target = .processing := by
    rw [setPhase_self, next] at holds
    split at holds
    next processing => exact ⟨(Option.some.inj holds).symm, processing⟩
    next => cases holds
  exact
    { fresh := by
        intro other suffix has
        change other < moved.nextFile
        rw [bound]
        rcases (sound.has_rename renamed).mp has with ⟨rfl, _⟩ | ⟨_, has⟩
        · exact sound.fresh named
        · exact sound.fresh has
      named := by
        intro other small
        change other < moved.nextFile at small
        rw [bound] at small
        by_cases same : other = file
        · exact ⟨target, (sound.has_rename renamed).mpr (.inl ⟨same, rfl⟩)⟩
        · obtain ⟨suffix, has⟩ := sound.named small
          exact ⟨suffix, (sound.has_rename renamed).mpr (.inr ⟨same, has⟩)⟩
      unique := by
        intro other first second one two
        rcases (sound.has_rename renamed).mp one with ⟨rfl, rfl⟩ | ⟨notFile, one⟩
        · rcases (sound.has_rename renamed).mp two with ⟨_, rfl⟩ | ⟨notFile, _⟩
          · rfl
          · exact absurd rfl notFile
        · rcases (sound.has_rename renamed).mp two with ⟨rfl, _⟩ | ⟨_, two⟩
          · exact absurd rfl notFile
          · exact sound.unique one two
      done := by
        intro other held done
        refine Imported.mono ?_ kept
        by_cases same : other = file
        · subst same
          rcases (sound.has_rename renamed).mp (has_iff.mpr ⟨held, done⟩) with ⟨_, rfl⟩ | ⟨away, _⟩
          · obtain rfl := Option.some.inj (done.symm.trans now)
            exact complete rfl held there
          · exact absurd rfl away
        · change moved.inbox other .done = some held at done
          rw [elsewhere other same] at done
          exact sound.done done
      claimed := by
        intro other held holds
        by_cases same : other = process
        · subst same
          obtain ⟨rfl, rfl⟩ := here holds
          rw [setPhase_self]
          exact ⟨contents, now, (reached contents).mono kept⟩
        · obtain ⟨before, notFile⟩ := away same holds
          obtain ⟨old, found, progress⟩ := sound.claimed before
          refine ⟨old, (congrFun (elsewhere held notFile) _).trans found, ?_⟩
          rw [setPhase_of_ne same, phases]
          exact progress.mono kept
      alone := by
        intro first second held one two
        by_cases mine : first = process
        · by_cases yours : second = process
          · rw [mine, yours]
          · subst mine
            exact absurd (here one).1 (away yours two).2
        · by_cases yours : second = process
          · subst yours
            exact absurd (here two).1 (away mine one).2
          · exact sound.alone (away mine one).1 (away yours two).1
      worked := by
        intro other has
        rcases (sound.has_rename renamed).mp has with ⟨rfl, processing⟩ | ⟨notFile, has⟩
        · exact ⟨process, by rw [setPhase_self, next, if_pos processing.symm]⟩
        · obtain ⟨worker, holds⟩ := sound.worked has
          refine ⟨worker, ?_⟩
          have notHere : worker ≠ process := by
            rintro rfl
            rw [works] at holds
            split at holds
            next => exact notFile (Option.some.inj holds).symm
            next => cases holds
          rwa [setPhase_of_ne notHere, phases]
      listed := by
        intro other held member
        by_cases same : other = process
        · subst same
          rw [setPhase_self, checked] at member
          cases member
        · rw [setPhase_of_ne same, phases] at member
          refine (sound.has_rename renamed).mpr (.inr ⟨?_, sound.listed member⟩)
          rintro rfl
          exact unlisted (sound.unique named (sound.listed member)) other member
      accepted := by
        intro other
        by_cases same : other = process
        · subst same
          rwa [setPhase_self]
        · rw [setPhase_of_ne same, phases]
          exact sound.accepted other }

/-- More imports, and other sidecars. -/
theorem Sound.record (sound : world.Sound) (entries : List (Nat × Envelope)) (sidecars : Nat → Bool)
    : ({ world with imported := entries ++ world.imported, sidecars := sidecars }
        : SpoolWorld Envelope).Sound where
  fresh := sound.fresh
  named := sound.named
  unique := sound.unique
  done := fun there => (sound.done there).mono (List.subset_append_right _ _)
  claimed := by
    intro process file works
    obtain ⟨contents, there, reached⟩ := sound.claimed works
    exact ⟨contents, there, reached.mono (List.subset_append_right _ _)⟩
  alone := sound.alone
  worked := sound.worked
  listed := sound.listed
  accepted := sound.accepted

/-- The names after a new file has been created. -/
theorem has_create {contents : SpoolContents Envelope} {other : Nat} {suffix : SpoolSuffix}
    (absent : ∀ suffix, world.inbox world.nextFile suffix = none)
    : ((Function.update world.inbox world.nextFile
          (Function.update (fun _ => none) .tmp (some contents))) other suffix).isSome = true
      ↔ (other = world.nextFile ∧ suffix = .tmp) ∨ world.has other suffix = true := by
  by_cases new : other = world.nextFile
  · subst new
    by_cases tmp : suffix = .tmp
    · simp [tmp]
    · simp [tmp, has, absent]
  · simp [new, has]

/-- A writer creates a file under a name that nobody has used. -/
theorem Sound.create (sound : world.Sound) (contents : SpoolContents Envelope)
    (idle : (world.phases process).working = none)
    : ({ world with
          inbox :=
            Function.update world.inbox world.nextFile
              (Function.update (fun _ => none) .tmp (some contents))
          nextFile := world.nextFile + 1 }.setPhase process (.writing world.nextFile)).Sound := by
  have absent (suffix : SpoolSuffix) : world.inbox world.nextFile suffix = none := by
    cases there : world.inbox world.nextFile suffix with
    | none => rfl
    | some contents => exact absurd (sound.fresh (has_iff.mpr ⟨contents, there⟩)) (Nat.lt_irrefl _)
  have kept {file : Nat} {suffix : SpoolSuffix} {contents' : SpoolContents Envelope}
      (there : world.inbox file suffix = some contents')
      : (Function.update world.inbox world.nextFile
          (Function.update (fun _ => none) .tmp (some contents))) file suffix = some contents' := by
    have old : file ≠ world.nextFile := by
      rintro rfl
      rw [absent] at there
      cases there
    rwa [Function.update_of_ne old]
  let created : SpoolWorld Envelope :=
    { world with
      inbox :=
        Function.update world.inbox world.nextFile
          (Function.update (fun _ => none) .tmp (some contents))
      nextFile := world.nextFile + 1 }
  have createdSound : created.Sound :=
    { fresh := by
        intro file suffix has
        rcases (has_create absent).mp has with ⟨rfl, _⟩ | has
        · exact Nat.lt_succ_self _
        · exact Nat.lt_succ_of_lt (sound.fresh has)
      named := by
        intro file small
        rcases Nat.lt_succ_iff_lt_or_eq.mp small with old | rfl
        · obtain ⟨suffix, has⟩ := sound.named old
          exact ⟨suffix, (has_create absent).mpr (.inr has)⟩
        · exact ⟨.tmp, (has_create absent).mpr (.inl ⟨rfl, rfl⟩)⟩
      unique := by
        intro file first second one two
        rcases (has_create absent).mp one with ⟨rfl, rfl⟩ | one
        · rcases (has_create absent).mp two with ⟨_, rfl⟩ | two
          · rfl
          · exact absurd (sound.fresh two) (Nat.lt_irrefl _)
        · rcases (has_create absent).mp two with ⟨rfl, _⟩ | two
          · exact absurd (sound.fresh one) (Nat.lt_irrefl _)
          · exact sound.unique one two
      done := by
        intro file contents' there
        rcases (has_create absent).mp (Option.isSome_iff_exists.mpr ⟨_, there⟩) with ⟨_, tmp⟩ | has
        · cases tmp
        · obtain ⟨old, found⟩ := has_iff.mp has
          obtain rfl := Option.some.inj (there.symm.trans (kept found))
          exact (sound.done found).mono (List.Subset.refl _)
      claimed := by
        intro other file works
        obtain ⟨contents', there, reached⟩ := sound.claimed works
        exact ⟨contents', kept there, reached.mono (List.Subset.refl _)⟩
      alone := sound.alone
      worked := by
        intro file has
        rcases (has_create absent).mp has with ⟨_, tmp⟩ | has
        · cases tmp
        · exact sound.worked has
      listed := fun member => (has_create absent).mpr (.inr (sound.listed member))
      accepted := sound.accepted }
  refine createdSound.setPhase idle.symm (fun _ _ works => ?_) (fun _ member => ?_) ?_
  · cases works
  · cases member
  · simp

/-- Nobody starts to work without having claimed a file. -/
theorem working_of_ready (ready : world.ready process = true)
    : (world.phases process).working = none := by
  unfold SpoolWorld.ready at ready
  split at ready
  next idle => rw [idle]; rfl
  next refused => rw [refused]; rfl
  next => cases ready

/-- A phase in which nothing is claimed or listed. -/
theorem Sound.rest (sound : world.Sound) (idle : (world.phases process).working = none)
    (next : phase.working = none) (checked : phase.unchecked = []) (accepted : phase ≠ .refused)
    : (world.setPhase process phase).Sound := by
  refine sound.setPhase (next.trans idle.symm) (fun _ _ works => ?_) (fun _ member => ?_) accepted
  · rw [next] at works
    cases works
  · rw [checked] at member
    cases member

/-- Each guarded step of a process keeps the invariant. Witness: cases on the phase. -/
theorem Sound.go (sound : world.Sound) {accepts : Nat → Envelope → Bool}
    (guarded : world.Guarded (.go process accepts))
    (taken : world.go process accepts (world.phases process) = some next)
    : next.Sound := by
  cases phase : world.phases process with
  | idle | refused | dead =>
      rw [phase] at taken
      cases taken
  | writing file =>
      have idle : (world.phases process).working = none := by rw [phase]; rfl
      rw [phase] at taken
      obtain rfl := Option.some.inj taken
      cases renamed : world.rename file .tmp .pending with
      | none => exact sound.rest idle rfl rfl (by simp)
      | some moved =>
          exact sound.move renamed (by decide) (fun done => by cases done) idle rfl
            (fun _ => trivial) rfl (fun pending => by cases pending) (by simp)
  | checking unchecked sorted =>
      have idle : (world.phases process).working = none := by rw [phase]; rfl
      have listed {file : Nat} (member : file ∈ unchecked) : world.has file .pending = true :=
        sound.listed (by rw [phase]; exact member)
      rw [phase] at taken
      cases unchecked with
      | nil =>
          obtain rfl := Option.some.inj taken
          exact sound.rest idle rfl rfl (by simp)
      | cons file rest =>
          obtain rfl := Option.some.inj taken
          rw [if_pos (listed List.mem_cons_self)]
          exact sound.setPhase idle.symm (fun _ _ works => by cases works)
            (fun other member => listed (List.mem_cons_of_mem _ member)) (by simp)
  | claiming files =>
      have idle : (world.phases process).working = none := by rw [phase]; rfl
      rw [phase] at taken
      cases files with
      | nil =>
          obtain rfl := Option.some.inj taken
          exact sound.rest idle rfl rfl (by simp)
      | cons file rest =>
          obtain rfl := Option.some.inj taken
          split
          next => exact sound.rest idle rfl rfl (by simp)
          next => exact sound.rest idle rfl rfl (by simp)
  | taking file rest =>
      have idle : (world.phases process).working = none := by rw [phase]; rfl
      rw [phase] at taken
      simp only [SpoolWorld.go] at taken
      split at taken
      next moved renamed =>
          obtain rfl := Option.some.inj taken
          exact sound.move renamed (by decide) (fun done => by cases done) idle rfl
            (fun _ => trivial) rfl (fun _ => guarded file rest phase) (by simp)
      next =>
          obtain rfl := Option.some.inj taken
          exact sound.rest idle rfl rfl (by simp)
  | reading file rest =>
      rw [phase] at taken
      simp only [SpoolWorld.go] at taken
      split at taken
      next envelopes read =>
          obtain rfl := Option.some.inj taken
          refine sound.setPhase (by rw [phase]; rfl) (fun other contents works there _ => ?_)
            (fun _ member => by cases member) (by simp)
          obtain rfl := Option.some.inj works
          exact ⟨[], Option.some.inj (there.symm.trans read), fun _ member => by cases member⟩
      next =>
          obtain rfl := Option.some.inj taken
          exact sound.setPhase (by rw [phase]; rfl) (fun _ _ _ _ _ => trivial)
            (fun _ member => by cases member) (by simp)
  | importing file left rest =>
      rw [phase] at taken
      cases left with
      | nil =>
          obtain rfl := Option.some.inj taken
          refine sound.setPhase (by rw [phase]; rfl) (fun other contents _ _ reached => ?_)
            (fun _ member => by cases member) (by simp)
          rw [phase] at reached
          obtain ⟨before, same, all⟩ := reached
          exact ⟨before, by rw [same, List.append_nil], all⟩
      | cons envelope left =>
          simp only [SpoolWorld.go] at taken
          split at taken
          next =>
              obtain rfl := Option.some.inj taken
              refine (sound.record [(file, envelope)] world.sidecars).setPhase
                (by rw [show _ = _ from phase]; rfl) (fun other contents _ _ reached => ?_)
                (fun _ member => by cases member) (by simp)
              rw [show _ = _ from phase] at reached
              obtain ⟨before, same, all⟩ := reached
              refine ⟨before ++ [envelope], by simp [same], fun other member => ?_⟩
              rcases List.mem_append.mp member with early | last
              · exact all other early
              · rw [List.mem_singleton.mp last]
                exact List.mem_cons_self
          next =>
              obtain rfl := Option.some.inj taken
              exact sound.setPhase (by rw [phase]; rfl) (fun _ _ _ _ _ => trivial)
                (fun _ member => by cases member) (by simp)
  | finishing file imported rest =>
      have works : (world.phases process).working = some file := by rw [phase]; rfl
      obtain ⟨contents, there, reached⟩ := sound.claimed works
      rw [phase] at taken reached
      cases imported with
      | true =>
          simp only [SpoolWorld.go] at taken
          split at taken
          next moved renamed =>
              obtain rfl := Option.some.inj taken
              refine sound.move renamed (by decide) (fun _ other same => ?_) works rfl
                (fun _ => trivial) rfl (fun pending => by cases pending) (by simp)
              obtain rfl := Option.some.inj (same.symm.trans there)
              exact reached
          next gone => simp [rename, there] at gone
      | false =>
          simp only [SpoolWorld.go] at taken
          split at taken
          next moved renamed =>
              obtain rfl := Option.some.inj taken
              exact sound.move renamed (by decide) (fun done => by cases done) works rfl
                (fun _ => trivial) rfl (fun pending => by cases pending) (by simp)
          next gone => simp [rename, there] at gone
  | recording file rest =>
      have idle : (world.phases process).working = none := by rw [phase]; rfl
      rw [phase] at taken
      obtain rfl := Option.some.inj taken
      exact (sound.record [] _).rest idle rfl rfl (by simp)
  | retrying files =>
      have idle : (world.phases process).working = none := by rw [phase]; rfl
      rw [phase] at taken
      cases files with
      | nil =>
          obtain rfl := Option.some.inj taken
          exact sound.rest idle rfl rfl (by simp)
      | cons file rest =>
          obtain rfl := Option.some.inj taken
          split
          next => exact sound.rest idle rfl rfl (by simp)
          next => exact sound.rest idle rfl rfl (by simp)
  | restoring file rest =>
      have idle : (world.phases process).working = none := by rw [phase]; rfl
      rw [phase] at taken
      simp only [SpoolWorld.go] at taken
      split at taken
      next moved renamed =>
          obtain rfl := Option.some.inj taken
          exact sound.move renamed (by decide) (fun done => by cases done) idle rfl
            (fun _ => trivial) rfl (fun pending => by cases pending) (by simp)
      next =>
          obtain rfl := Option.some.inj taken
          exact sound.rest idle rfl rfl (by simp)
  | clearing file rest =>
      have idle : (world.phases process).working = none := by rw [phase]; rfl
      rw [phase] at taken
      obtain rfl := Option.some.inj taken
      split
      next => exact sound.rest idle rfl rfl (by simp)
      next => exact sound.rest idle rfl rfl (by simp)
  | unlinking file rest =>
      have idle : (world.phases process).working = none := by rw [phase]; rfl
      rw [phase] at taken
      simp only [SpoolWorld.go] at taken
      split at taken
      next =>
          obtain rfl := Option.some.inj taken
          exact (sound.record [] _).rest idle rfl rfl (by simp)
      next =>
          obtain rfl := Option.some.inj taken
          exact sound.rest idle rfl rfl (by simp)

/-- Each guarded step keeps the invariant. -/
theorem Sound.step {label : SpoolStep Envelope} (sound : world.Sound)
    (guarded : world.Guarded label) (taken : world.step label = some next)
    : next.Sound := by
  cases label with
  | create process contents =>
      simp only [SpoolWorld.step] at taken
      split at taken
      next ready =>
          obtain rfl := Option.some.inj taken
          exact sound.create contents (working_of_ready ready)
      next => cases taken
  | importSpool process listed sorted =>
      simp only [SpoolWorld.step] at taken
      split at taken
      next called =>
          obtain ⟨ready, all, _⟩ := called
          obtain rfl := Option.some.inj taken
          exact sound.setPhase (working_of_ready ready).symm (fun _ _ works => by cases works)
            (fun file member => (mem_list.mp (all.mem_iff.mp member)).2) (by simp)
      next => cases taken
  | retryFailed process listed =>
      simp only [SpoolWorld.step] at taken
      split at taken
      next called =>
          obtain rfl := Option.some.inj taken
          exact sound.rest (working_of_ready called.1) rfl rfl (by simp)
      next => cases taken
  | go process accepts => exact sound.go guarded taken
  | crash process =>
      simp only [SpoolWorld.step] at taken
      split at taken
      next => cases taken
      next =>
          obtain rfl := Option.some.inj taken
          exact sound.rest guarded rfl rfl (by simp)

end SpoolWorld

end CtxRemote.Capture
