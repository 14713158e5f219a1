import CtxRemote.Library.Transition
import CtxRemote.Store.Preview
import CtxRemote.Store.EventKeys
import CtxRemote.Turso.Search
import Mathlib.Logic.Function.Basic

/-! Processes that acquire, hold and drop `UpgradeLock`, one file-system step at a time.

The lock is a file at one path. What a process reads, removes or creates is the file that the path
names at that moment; what it writes goes to the file that it created, wherever that is by then. Files
are told apart by a number that the processes do not see.
-/

namespace CtxRemote.Upgrade
open CtxRemote.Library
open CtxRemote.Store (parseU64 parseU64_toDigits visible_of_isDigit)
open CtxRemote.Turso (isWhitespace splitWhitespace)

-----------------------------------------------------------------------------------------
-- The text of the file
-----------------------------------------------------------------------------------------

abbrev Pid := UInt32

/-- `str::parse::<u32>`. -/
def parseU32 (text : List Char) : Option UInt32 :=
  (parseU64 text).bind fun value =>
    if value.toNat < 2 ^ 32 then some (UInt32.ofNat value.toNat) else none

/-- The texts that `writeln!(file, "{} {}", pid, now)` writes, one after the other. -/
def lockPieces (pid : Pid) (now : UInt64) : List (List Char) :=
  [Nat.toDigits 10 pid.toNat, [' '], Nat.toDigits 10 now.toNat, ['\n']]

/-- `parse_upgrade_lock`. -/
def parseUpgradeLock (contents : List Char) : Option UInt32 × Option UInt64 :=
  let fields := splitWhitespace contents
  (fields.head?.bind parseU32, fields.tail.head?.bind parseU64)

/-- Contents that name nobody, or a given process. -/
def NamesOnly (pid : Pid) (contents : List Char) : Prop :=
  (parseUpgradeLock contents).1 = none ∨ (parseUpgradeLock contents).1 = some pid

theorem parseU32_toDigits (pid : Pid) : parseU32 (Nat.toDigits 10 pid.toNat) = some pid := by
  have small : pid.toNat < 2 ^ 32 := pid.toNat_lt
  have wide : (UInt64.ofNat pid.toNat).toNat = pid.toNat :=
    UInt64.toNat_ofNat_of_lt' (small.trans (by decide))
  have parsed := parseU64_toDigits (UInt64.ofNat pid.toNat)
  rw [wide] at parsed
  rw [parseU32, parsed, Option.bind_some, wide, if_pos small, UInt32.ofNat_toNat]

/-- The first word of digits before a blank, or of digits alone, are the digits. -/
theorem head?_splitWhitespace_toDigits (n : Nat) {rest : List Char}
    (ends : rest = [] ∨ ∃ blank later, rest = blank :: later ∧ isWhitespace blank = true)
    : (splitWhitespace (Nat.toDigits 10 n ++ rest)).head? = some (Nat.toDigits 10 n) := by
  have plain : ∀ c ∈ Nat.toDigits 10 n, isWhitespace c = false :=
    fun c member => visible_of_isDigit (Nat.isDigit_of_mem_toDigits (by decide) (by decide) member)
  have filled : (Nat.toDigits 10 n).isEmpty = false := by simp
  rcases ends with rfl | ⟨blank, later, rfl, white⟩
  · rw [List.append_nil, splitWhitespace, List.splitOnP_eq_singleton plain]
    simp [filled]
  · rw [splitWhitespace, List.splitOnP_append_cons _ _ white, List.splitOnP_eq_singleton plain]
    simp [filled]

/-- However many pieces have been written, the file names nobody or its creator. -/
theorem namesOnly_of_pieces {pid : Pid} {now : UInt64} {written left : List (List Char)}
    (pieces : written ++ left = lockPieces pid now)
    : NamesOnly pid written.flatten := by
  unfold NamesOnly parseUpgradeLock
  cases written with
  | nil => exact .inl rfl
  | cons first written =>
      obtain ⟨rfl, others⟩ := List.cons_eq_cons.mp pieces
      have ends
          : written.flatten = []
            ∨ ∃ blank later, written.flatten = blank :: later ∧ isWhitespace blank = true := by
        cases written with
        | nil => exact .inl rfl
        | cons second written =>
            obtain ⟨rfl, _⟩ := List.cons_eq_cons.mp others
            exact .inr ⟨' ', written.flatten, rfl, by decide⟩
      refine .inr ?_
      dsimp only
      rw [List.flatten_cons, head?_splitWhitespace_toDigits _ ends]
      exact parseU32_toDigits pid

-----------------------------------------------------------------------------------------
-- Processes
-----------------------------------------------------------------------------------------

/-- The file at the lock's path. -/
structure LockFile where
  file : Nat
  contents : List Char
  modified : UInt64

/-- Where a process is. `left` counts the passes that the loop of `acquire` has left, and `seen` is the
file that the process has judged.
-/
inductive Phase where
  | idle
  | creating (left : Nat)
  | reading (left : Nat)
  | judging (left : Nat) (seen : Option Nat) (pid : Option Pid) (createdAt : Option UInt64)
  | removing (left : Nat) (seen : Option Nat)
  | created (file : Nat)
  | writing (file : Nat) (pieces : List (List Char))
  | holding (file : Nat)
  | dead
deriving DecidableEq

/-- The path, the phases of all processes, and the system clock. -/
structure LockWorld where
  lockFile : Option LockFile
  nextFile : Nat
  phases : Pid → Phase
  now : UInt64

/-- The next step of a process, or of the clock. `ok` is false where the operation fails, and a failed
write may have written some characters.
-/
inductive LockStep where
  | clock (now : UInt64)
  | crash (pid : Pid)
  | acquire (pid : Pid)
  | create (pid : Pid) (ok : Bool)
  | read (pid : Pid) (ok : Bool)
  | judge (pid : Pid)
  | remove (pid : Pid) (ok : Bool)
  | format (pid : Pid)
  | write (pid : Pid)
  | writeFails (pid : Pid) (kept : Nat)
  | sync (pid : Pid) (ok : Bool)
  | drop (pid : Pid) (ok : Bool)

namespace LockWorld

variable (world : LockWorld)

/-- The world with a process in another phase. -/
def setPhase (pid : Pid) (phase : Phase) : LockWorld :=
  { world with phases := Function.update world.phases pid phase }

/-- `process_state`: whether it says `Running`. -/
def processRunning (pid : Pid) : Bool := pid ≠ 0 && world.phases pid ≠ .dead

/-- `STALE_UPGRADE_LOCK_AFTER`, in seconds. -/
def staleUpgradeLockAfter : Nat := 30 * 60

/-- `lock_age_seconds`. -/
def lockAgeSeconds (createdAt : Option UInt64) : Option Nat :=
  match createdAt with
  | some createdAt => some (world.now.toNat - createdAt.toNat)
  | none =>
      world.lockFile.bind fun held =>
        if world.now < held.modified then none
        else some (world.now.toNat - held.modified.toNat)

/-- `stale_upgrade_lock_reason`, past the read of the file: whether there is a reason. -/
def stale (pid : Option Pid) (createdAt : Option UInt64) : Bool :=
  match pid with
  | some pid => !world.processRunning pid
  | none => (world.lockAgeSeconds createdAt).any fun age => staleUpgradeLockAfter ≤ age

/-- The file that the judgement is about: the one that was read, or without a time in it the one whose
modification time is taken.
-/
def judged (seen : Option Nat) (pid : Option Pid) (createdAt : Option UInt64) : Option Nat :=
  if pid.isNone && createdAt.isNone then world.lockFile.map (·.file) else seen

/-- The write of some text to a file, wherever it is. -/
def append (file : Nat) (text : List Char) : LockWorld :=
  { world with
    lockFile := world.lockFile.map fun held =>
      if held.file = file then
        { held with contents := held.contents ++ text, modified := world.now }
      else held }

/-- `fs::remove_file` of the path. -/
def unlink : LockWorld := { world with lockFile := none }

/-- `UpgradeLock::acquire`, from the next pass of its loop on. -/
def nextPass (pid : Pid) (left : Nat) : LockWorld :=
  match left with
  | 0 => world.setPhase pid .idle
  | left + 1 => world.setPhase pid (.creating left)

/-- One step. -/
def step (world : LockWorld) : LockStep → Option LockWorld
  | .clock now => some { world with now := now }
  | .crash pid =>
      if world.phases pid = .dead then none else some (world.setPhase pid .dead)
  | .acquire pid =>
      match world.phases pid with
      | .idle => some (world.nextPass pid 2)
      | _ => none
  | .create pid ok =>
      match world.phases pid, ok, world.lockFile with
      | .creating _, false, _ => some (world.setPhase pid .idle)
      | .creating left, true, some _ => some (world.setPhase pid (.reading left))
      | .creating _, true, none =>
          some
            ({ world with
                lockFile := some ⟨world.nextFile, [], world.now⟩
                nextFile := world.nextFile + 1 }.setPhase pid (.created world.nextFile))
      | _, _, _ => none
  | .read pid ok =>
      match world.phases pid with
      | .reading left =>
          let contents := if ok then world.lockFile.map (·.contents) else none
          let fields := (contents.map parseUpgradeLock).getD (none, none)
          some (world.setPhase pid
            (.judging left (world.lockFile.map (·.file)) fields.1 fields.2))
      | _ => none
  | .judge pid =>
      match world.phases pid with
      | .judging left seen named createdAt =>
          if world.stale named createdAt then
            some (world.setPhase pid (.removing left (world.judged seen named createdAt)))
          else some (world.setPhase pid .idle)
      | _ => none
  | .remove pid ok =>
      match world.phases pid with
      | .removing left _ =>
          if ok || world.lockFile.isNone then some (world.unlink.nextPass pid left)
          else some (world.setPhase pid .idle)
      | _ => none
  | .format pid =>
      match world.phases pid with
      | .created file => some (world.setPhase pid (.writing file (lockPieces pid world.now)))
      | _ => none
  | .write pid =>
      match world.phases pid with
      | .writing file (piece :: rest) =>
          some ((world.append file piece).setPhase pid (.writing file rest))
      | _ => none
  | .writeFails pid kept =>
      match world.phases pid with
      | .writing file (piece :: _) =>
          some ((world.append file (piece.take kept)).setPhase pid .idle)
      | _ => none
  | .sync pid ok =>
      match world.phases pid with
      | .writing file [] => some (world.setPhase pid (if ok then .holding file else .idle))
      | _ => none
  | .drop pid ok =>
      match world.phases pid with
      | .holding _ => some ((if ok then world.unlink else world).setPhase pid .idle)
      | _ => none

-----------------------------------------------------------------------------------------
-- Mutual exclusion
-----------------------------------------------------------------------------------------

/-- At most one process holds the lock, and the path names the file that its holder created. So a
holder that drops its lock removes its own file, and nobody has removed it before.
-/
structure Exclusive : Prop where
  single
    : ∀ {pid other file held},
        world.phases pid = .holding file
        → world.phases other = .holding held
        → pid = other
  own : ∀ {pid file}, world.phases pid = .holding file → world.lockFile.map (·.file) = some file

end LockWorld

/-- The file that a process has created and not given up. -/
def Phase.owned : Phase → Option Nat
  | .created file => some file
  | .writing file _ => some file
  | .holding file => some file
  | _ => none

/-- What a process has written to the file that it owns. -/
def Phase.Wrote (pid : Pid) (contents : List Char) : Phase → Prop
  | .created _ => contents = []
  | .writing _ left => ∃ now written, written ++ left = lockPieces pid now ∧ contents = written.flatten
  | .holding _ => NamesOnly pid contents
  | _ => True

namespace LockWorld

/-- The condition on a step. A file without an id in it is found stale by its age only if the process
that created it has died or given up, and the file that is removed as stale is the one that was judged.
-/
def Guarded (world : LockWorld) : LockStep → Prop
  | .judge pid =>
      ∀ left seen createdAt file,
        world.phases pid = .judging left seen none createdAt
        → world.stale none createdAt = true
        → world.judged seen none createdAt = some file
        → ∀ other, (world.phases other).owned ≠ some file
  | .remove pid _ =>
      ∀ left seen held,
        world.phases pid = .removing left seen
        → world.lockFile = some held
        → seen = some held.file
  | _ => True

/-- A judgement so far is right: an id in the file that was seen is that of its owner, if it has one, and
a file that is about to be removed has none.
-/
def Fits (world : LockWorld) : Phase → Prop
  | .judging _ seen named _ =>
      ∀ file, seen = some file
        → file < world.nextFile
          ∧ ∀ pid, named = some pid → ∀ other, (world.phases other).owned = some file → other = pid
  | .removing _ seen =>
      ∀ file, seen = some file
        → file < world.nextFile ∧ ∀ other, (world.phases other).owned ≠ some file
  | _ => True

/-- Every file that a process owns is at the path and holds what the process has written, so no two
processes own one.
-/
structure Sound (world : LockWorld) : Prop where
  noProcess : world.phases 0 = .dead
  file_lt : ∀ {held}, world.lockFile = some held → held.file < world.nextFile
  owned
    : ∀ {pid file},
        (world.phases pid).owned = some file
        → ∃ held, world.lockFile = some held ∧ held.file = file
            ∧ (world.phases pid).Wrote pid held.contents
  alone
    : ∀ {pid other file},
        (world.phases pid).owned = some file
        → (world.phases other).owned = some file
        → pid = other
  fits : ∀ pid, world.Fits (world.phases pid)

end LockWorld

/-- Whatever a process has written to its file, the file names nobody or the process. -/
theorem Phase.Wrote.namesOnly {pid : Pid} {contents : List Char} {phase : Phase} {file : Nat}
    (wrote : phase.Wrote pid contents) (owned : phase.owned = some file)
    : NamesOnly pid contents := by
  cases phase with
  | created => exact .inl (by rw [show contents = [] from wrote]; rfl)
  | writing _ left =>
      obtain ⟨now, written, pieces, rfl⟩ := wrote
      exact namesOnly_of_pieces pieces
  | holding => exact wrote
  | _ => cases owned

namespace LockWorld

variable {world next : LockWorld} {pid : Pid} {phase : Phase}

@[simp] theorem setPhase_lockFile : (world.setPhase pid phase).lockFile = world.lockFile := rfl

@[simp] theorem setPhase_self : (world.setPhase pid phase).phases pid = phase :=
  Function.update_self ..

@[simp] theorem setPhase_of_ne {other : Pid} (different : other ≠ pid)
    : (world.setPhase pid phase).phases other = world.phases other :=
  Function.update_of_ne different ..

/-- A judgement stays right while no file that is there already gets another owner. -/
theorem Fits.mono (fits : world.Fits phase) (later : world.nextFile ≤ next.nextFile)
    (owners
      : ∀ {other file},
          file < world.nextFile
          → (next.phases other).owned = some file
          → (world.phases other).owned = some file)
    : next.Fits phase := by
  cases phase with
  | judging _ seen named _ =>
      intro file same
      obtain ⟨old, names⟩ := fits file same
      exact ⟨old.trans_le later, fun pid found other owns => names pid found other (owners old owns)⟩
  | removing _ seen =>
      intro file same
      obtain ⟨old, free⟩ := fits file same
      exact ⟨old.trans_le later, fun other owns => free other (owners old owns)⟩
  | _ => trivial

/-- The owners after one process has gone on: nobody gets a file that is not its own. -/
theorem owned_setPhase {other : Pid} {file : Nat}
    (keeps : phase.owned = none ∨ phase.owned = (world.phases pid).owned)
    (owns : ((world.setPhase pid phase).phases other).owned = some file)
    : (world.phases other).owned = some file := by
  by_cases same : other = pid
  · subst same
    rw [setPhase_self] at owns
    rcases keeps with none | equal
    · rw [none] at owns
      cases owns
    · rwa [← equal]
  · rwa [setPhase_of_ne same] at owns

theorem Sound.ne_of_alive (sound : world.Sound) (alive : world.phases pid ≠ .dead) : 0 ≠ pid := by
  intro zero
  rw [← zero] at alive
  exact alive sound.noProcess

/-- A process goes on without touching the path. -/
theorem Sound.setPhase (sound : world.Sound) (alive : world.phases pid ≠ .dead)
    (keeps : phase.owned = none ∨ phase.owned = (world.phases pid).owned)
    (wrote
      : ∀ {held},
          (world.phases pid).Wrote pid held
          → phase.owned = (world.phases pid).owned
          → phase.Wrote pid held)
    (fits : world.Fits phase)
    : (world.setPhase pid phase).Sound where
  noProcess := by
    rw [setPhase_of_ne (sound.ne_of_alive alive)]
    exact sound.noProcess
  file_lt := sound.file_lt
  owned := by
    intro other file owns
    obtain ⟨held, there, same, written⟩ := sound.owned (owned_setPhase keeps owns)
    refine ⟨held, there, same, ?_⟩
    by_cases equal : other = pid
    · subst equal
      rw [setPhase_self] at owns ⊢
      rcases keeps with none | kept
      · rw [none] at owns
        cases owns
      · exact wrote written kept
    · rwa [setPhase_of_ne equal]
  alone := fun first second => sound.alone (owned_setPhase keeps first) (owned_setPhase keeps second)
  fits := by
    intro other
    have mono {phase' : Phase} (fits : world.Fits phase') : (world.setPhase pid phase).Fits phase' :=
      fits.mono le_rfl fun _ owns => owned_setPhase keeps owns
    by_cases equal : other = pid
    · subst equal
      rw [setPhase_self]
      exact mono fits
    · rw [setPhase_of_ne equal]
      exact mono (sound.fits other)

/-- The removal of a file that nobody owns. -/
theorem Sound.unlink (sound : world.Sound)
    (free
      : ∀ {held other},
          world.lockFile = some held
          → (world.phases other).owned = some held.file
          → False)
    : world.unlink.Sound where
  noProcess := sound.noProcess
  file_lt := fun there => by cases there
  owned := by
    intro other file owns
    obtain ⟨held, there, rfl, _⟩ := sound.owned owns
    exact (free there owns).elim
  alone := sound.alone
  fits := fun other => (sound.fits other).mono le_rfl fun _ owns => owns

/-- A process that owns no file creates one. -/
theorem Sound.create (sound : world.Sound) (alive : world.phases pid ≠ .dead)
    (free : world.lockFile = none)
    : ({ world with
          lockFile := some ⟨world.nextFile, [], world.now⟩
          nextFile := world.nextFile + 1 }.setPhase pid (.created world.nextFile)).Sound where
  noProcess := by
    rw [setPhase_of_ne (sound.ne_of_alive alive)]
    exact sound.noProcess
  file_lt := by
    intro held there
    obtain rfl := Option.some.inj there
    exact Nat.lt_succ_self _
  owned := by
    intro other file owns
    by_cases equal : other = pid
    · subst equal
      rw [setPhase_self] at owns ⊢
      obtain rfl := Option.some.inj owns
      exact ⟨_, rfl, rfl, rfl⟩
    · rw [setPhase_of_ne equal] at owns
      obtain ⟨held, there, _⟩ := sound.owned owns
      rw [free] at there
      cases there
  alone := by
    have only {other : Pid} {file : Nat} (equal : other ≠ pid)
        (owns : (world.phases other).owned = some file)
        : False := by
      obtain ⟨held, there, _⟩ := sound.owned owns
      rw [free] at there
      cases there
    intro first second file owns holds
    by_cases one : first = pid
    · by_cases two : second = pid
      · rw [one, two]
      · rw [setPhase_of_ne two] at holds
        exact (only two holds).elim
    · rw [setPhase_of_ne one] at owns
      exact (only one owns).elim
  fits := by
    intro other
    have mono {phase : Phase} (fits : world.Fits phase)
        : ({ world with
            lockFile := some ⟨world.nextFile, [], world.now⟩
            nextFile := world.nextFile + 1 }.setPhase pid (.created world.nextFile)).Fits phase := by
      refine fits.mono (Nat.le_succ _) fun {owner file} old owns => ?_
      by_cases equal : owner = pid
      · subst equal
        rw [setPhase_self] at owns
        obtain rfl := Option.some.inj owns
        exact absurd old (lt_irrefl _)
      · rwa [setPhase_of_ne equal] at owns
    by_cases equal : other = pid
    · subst equal
      rw [setPhase_self]
      trivial
    · rw [setPhase_of_ne equal]
      exact mono (sound.fits other)

/-- Only one process owns a file at a time, whichever file that is. -/
theorem Sound.only_owner (sound : world.Sound) {other : Pid} {file held : Nat}
    (owns : (world.phases pid).owned = some file) (holds : (world.phases other).owned = some held)
    : other = pid := by
  obtain ⟨here, there, rfl, _⟩ := sound.owned owns
  obtain ⟨also, found, rfl, _⟩ := sound.owned holds
  obtain rfl := Option.some.inj (found.symm.trans there)
  exact sound.alone holds owns

/-- A process writes to the file that it owns. -/
theorem Sound.append (sound : world.Sound) {file : Nat} {left : List (List Char)} {text : List Char}
    (writes : world.phases pid = .writing file left)
    (keeps : phase.owned = none ∨ phase.owned = some file)
    (wrote
      : ∀ {contents},
          (Phase.writing file left).Wrote pid contents
          → phase.owned = some file
          → phase.Wrote pid (contents ++ text))
    (fits : world.Fits phase)
    : ((world.append file text).setPhase pid phase).Sound := by
  have owns : (world.phases pid).owned = some file := by rw [writes]; rfl
  have kept : phase.owned = none ∨ phase.owned = (world.phases pid).owned := owns ▸ keeps
  obtain ⟨held, there, rfl, written⟩ := sound.owned owns
  rw [writes] at written
  have appended
      : (world.append held.file text).lockFile
        = some { held with contents := held.contents ++ text, modified := world.now } := by
    simp [LockWorld.append, there]
  have alive : world.phases pid ≠ .dead := by rw [writes]; exact Phase.noConfusion
  have owner {other : Pid} {file : Nat}
      (owns : (((world.append held.file text).setPhase pid phase).phases other).owned = some file)
      : (world.phases other).owned = some file :=
    owned_setPhase kept owns
  have mono {phase' : Phase} (fits : world.Fits phase')
      : ((world.append held.file text).setPhase pid phase).Fits phase' :=
    fits.mono le_rfl fun _ owns => owner owns
  exact
    { noProcess := by
        rw [setPhase_of_ne (sound.ne_of_alive alive)]
        exact sound.noProcess
      file_lt := by
        intro found same
        rw [setPhase_lockFile, appended] at same
        obtain rfl := Option.some.inj same
        have old := sound.file_lt there
        exact old
      owned := by
        intro other file holds
        obtain rfl := sound.only_owner owns (owner holds)
        rw [setPhase_self] at holds ⊢
        refine ⟨_, appended, ?_, ?_⟩
        · exact Option.some.inj (owns.symm.trans (owner (by rwa [setPhase_self])))
        · rcases keeps with none | same
          · rw [none] at holds
            cases holds
          · exact wrote written same
      alone := fun first second => sound.alone (owner first) (owner second)
      fits := by
        intro other
        by_cases equal : other = pid
        · subst equal
          rw [setPhase_self]
          exact mono fits
        · rw [setPhase_of_ne equal]
          exact mono (sound.fits other) }

-----------------------------------------------------------------------------------------
-- Runs
-----------------------------------------------------------------------------------------

/-- The next pass of the loop, or the error after the last one. -/
theorem Sound.nextPass (sound : world.Sound) (alive : world.phases pid ≠ .dead) (left : Nat)
    : (world.nextPass pid left).Sound := by
  cases left with
  | zero => exact sound.setPhase alive (.inl rfl) (fun _ _ => trivial) trivial
  | succ left => exact sound.setPhase alive (.inl rfl) (fun _ _ => trivial) trivial

/-- A process that has read the file: an id in it is that of its owner. -/
theorem Sound.fits_read (sound : world.Sound) (left : Nat) (ok : Bool)
    (fields : Option UInt32 × Option UInt64)
    (read
      : fields
        = (((if ok then world.lockFile.map (·.contents) else none).map parseUpgradeLock).getD
            (none, none)))
    : world.Fits (.judging left (world.lockFile.map (·.file)) fields.1 fields.2) := by
  intro file same
  obtain ⟨held, there, rfl⟩ := Option.map_eq_some_iff.mp same
  refine ⟨sound.file_lt there, fun pid named other owns => ?_⟩
  obtain ⟨also, found, _, wrote⟩ := sound.owned owns
  obtain rfl := Option.some.inj (found.symm.trans there)
  cases ok with
  | false =>
      rw [read] at named
      cases named
  | true =>
      rw [read, there] at named
      rcases wrote.namesOnly owns with none | same
      · rw [show (parseUpgradeLock also.contents).1 = some pid from named] at none
        cases none
      · exact Option.some.inj (same.symm.trans named)

/-- A file that is found stale has no owner: the process that it names is not running, or the guard
says so.
-/
theorem Sound.fits_stale (sound : world.Sound) {left : Nat} {seen : Option Nat} {named : Option Pid}
    {createdAt : Option UInt64} (judging : world.phases pid = .judging left seen named createdAt)
    (guarded : world.Guarded (.judge pid)) (stale : world.stale named createdAt = true)
    : world.Fits (.removing left (world.judged seen named createdAt)) := by
  intro file same
  have fits := sound.fits pid
  rw [judging] at fits
  cases named with
  | none =>
      refine ⟨?_, guarded left seen createdAt file judging stale same⟩
      cases createdAt with
      | none =>
          obtain ⟨held, there, rfl⟩ := Option.map_eq_some_iff.mp same
          exact sound.file_lt there
      | some => exact (fits file same).1
  | some named =>
      obtain ⟨old, names⟩ := fits file same
      refine ⟨old, fun other owns => ?_⟩
      -- the owner would be the process that does not run
      obtain rfl := names named rfl other owns
      simp only [LockWorld.stale, processRunning, Bool.not_eq_true', Bool.and_eq_false_iff,
        decide_eq_false_iff_not, not_not] at stale
      rcases stale with zero | dead
      · rw [zero, sound.noProcess] at owns
        cases owns
      · rw [dead] at owns
        cases owns

/-- Each guarded step keeps the files and their owners together. Witness: cases on the step. -/
theorem Sound.step {label : LockStep} (sound : world.Sound) (guarded : world.Guarded label)
    (taken : world.step label = some next)
    : next.Sound := by
  cases label with
  | clock now =>
      obtain rfl := Option.some.inj taken
      exact ⟨sound.noProcess, sound.file_lt, sound.owned, sound.alone, sound.fits⟩
  | crash pid =>
      simp only [LockWorld.step] at taken
      split at taken
      next => cases taken
      next alive =>
          obtain rfl := Option.some.inj taken
          exact sound.setPhase alive (.inl rfl) (fun _ _ => trivial) trivial
  | acquire pid =>
      simp only [LockWorld.step] at taken
      split at taken
      next idle =>
          obtain rfl := Option.some.inj taken
          exact sound.nextPass (by simp [idle]) 2
      next => cases taken
  | create pid ok =>
      simp only [LockWorld.step] at taken
      split at taken
      next creating =>
          obtain rfl := Option.some.inj taken
          exact sound.setPhase (by simp [creating]) (.inl rfl) (fun _ _ => trivial) trivial
      next creating _ =>
          obtain rfl := Option.some.inj taken
          exact sound.setPhase (by simp [creating]) (.inl rfl) (fun _ _ => trivial) trivial
      next creating free =>
          obtain rfl := Option.some.inj taken
          exact sound.create (by simp [creating]) free
      next => cases taken
  | read pid ok =>
      simp only [LockWorld.step] at taken
      split at taken
      next left reading =>
          obtain rfl := Option.some.inj taken
          exact sound.setPhase (by simp [reading]) (.inl rfl) (fun _ _ => trivial)
            (sound.fits_read left ok _ rfl)
      next => cases taken
  | judge pid =>
      simp only [LockWorld.step] at taken
      split at taken
      next judging =>
          split at taken
          next stale =>
              obtain rfl := Option.some.inj taken
              exact sound.setPhase (by simp [judging]) (.inl rfl) (fun _ _ => trivial)
                (sound.fits_stale judging guarded stale)
          next =>
              obtain rfl := Option.some.inj taken
              exact sound.setPhase (by simp [judging]) (.inl rfl) (fun _ _ => trivial) trivial
      next => cases taken
  | remove pid ok =>
      simp only [LockWorld.step] at taken
      split at taken
      next left seen removing =>
          have fits := sound.fits pid
          rw [removing] at fits
          split at taken
          next =>
              obtain rfl := Option.some.inj taken
              refine Sound.nextPass (sound.unlink fun {held other} there owns => ?_)
                (by simp [LockWorld.unlink, removing]) left
              exact (fits held.file (guarded left seen held removing there)).2 other owns
          next =>
              obtain rfl := Option.some.inj taken
              exact sound.setPhase (by simp [removing]) (.inl rfl) (fun _ _ => trivial) trivial
      next => cases taken
  | format pid =>
      simp only [LockWorld.step] at taken
      split at taken
      next file created =>
          obtain rfl := Option.some.inj taken
          refine sound.setPhase (by simp [created]) (.inr (by rw [created]; rfl))
            (fun {contents} wrote _ => ?_) trivial
          rw [created] at wrote
          exact ⟨world.now, [], rfl, wrote⟩
      next => cases taken
  | write pid =>
      simp only [LockWorld.step] at taken
      split at taken
      next file piece rest writing =>
          obtain rfl := Option.some.inj taken
          refine sound.append writing (.inr rfl) (fun {contents} wrote _ => ?_) trivial
          obtain ⟨now, written, pieces, rfl⟩ := wrote
          exact ⟨now, written ++ [piece], by simpa using pieces, by simp⟩
      next => cases taken
  | writeFails pid kept =>
      simp only [LockWorld.step] at taken
      split at taken
      next file piece rest writing =>
          obtain rfl := Option.some.inj taken
          exact sound.append writing (.inl rfl) (fun _ _ => trivial) trivial
      next => cases taken
  | sync pid ok =>
      simp only [LockWorld.step] at taken
      split at taken
      next file writing =>
          obtain rfl := Option.some.inj taken
          have alive : world.phases pid ≠ .dead := by simp [writing]
          cases ok with
          | false => exact sound.setPhase alive (.inl rfl) (fun _ _ => trivial) trivial
          | true =>
              refine sound.setPhase alive (.inr (by rw [writing]; rfl))
                (fun {contents} wrote _ => ?_) trivial
              rw [writing] at wrote
              exact wrote.namesOnly rfl
      next => cases taken
  | drop pid ok =>
      simp only [LockWorld.step] at taken
      split at taken
      next file holding =>
          obtain rfl := Option.some.inj taken
          have alive : world.phases pid ≠ .dead := by simp [holding]
          have given : (world.setPhase pid .idle).Sound :=
            sound.setPhase alive (.inl rfl) (fun _ _ => trivial) trivial
          cases ok with
          | false => exact given
          | true =>
              refine given.unlink fun {held other} there owns => ?_
              -- whoever owned the file before is the process that has given it up
              have owned : (world.phases pid).owned = some file := by rw [holding]; rfl
              obtain rfl := sound.only_owner owned (owned_setPhase (.inl rfl) owns)
              rw [setPhase_self] at owns
              cases owns
      next => cases taken

/-- No process is on its way to the lock, and none has the id zero. -/
structure Initial (world : LockWorld) : Prop where
  noProcess : world.phases 0 = .dead
  resting : ∀ pid, world.phases pid = .idle ∨ world.phases pid = .dead
  file_lt : ∀ {held}, world.lockFile = some held → held.file < world.nextFile

theorem Initial.sound (initial : world.Initial) : world.Sound where
  noProcess := initial.noProcess
  file_lt := initial.file_lt
  owned := by
    intro pid file owns
    rcases initial.resting pid with rest | rest <;> rw [rest] at owns <;> cases owns
  alone := by
    intro pid other file owns
    rcases initial.resting pid with rest | rest <;> rw [rest] at owns <;> cases owns
  fits := by
    intro pid
    rcases initial.resting pid with rest | rest <;> rw [rest] <;> trivial

theorem Sound.exclusive (sound : world.Sound) : world.Exclusive where
  single := by
    intro pid other file held holding holds
    exact sound.only_owner (by rw [holds]; rfl) (by rw [holding]; rfl)
  own := by
    intro pid file holding
    have owns : (world.phases pid).owned = some file := by rw [holding]; rfl
    obtain ⟨held, there, rfl, _⟩ := sound.owned owns
    rw [there]
    rfl

/-- Where no file is removed but the one that was judged, and no process is slower than the age at which
its file without an id counts as stale, at most one process holds the lock at a time, and each holder's
file stays at the path until it drops the lock. Witness: the invariant along the run.
-/
theorem acquire_exclusive (initial : world.Initial) {labels : List LockStep}
    (guarded : AllSteps LockWorld.step Guarded world labels)
    : AllStates LockWorld.step Exclusive world labels :=
  (allStates_of_guarded Sound (fun _ _ _ sound meets taken => sound.step meets taken)
    initial.sound guarded).imp fun _ sound => sound.exclusive

/-- Two processes, and the lock file of a third one, which has died. -/
def staleLock : LockWorld where
  lockFile := some ⟨0, "7 1700000000\n".toList, 1700000000⟩
  nextFile := 1
  phases pid := if pid = 1 ∨ pid = 2 then .idle else .dead
  now := 1700000060

theorem staleLock_initial : staleLock.Initial where
  noProcess := by decide
  resting := by
    intro pid
    by_cases lives : pid = 1 ∨ pid = 2
    · exact .inl (if_pos lives)
    · exact .inr (if_neg lives)
  file_lt := by
    intro held there
    obtain rfl := Option.some.inj there
    decide

/-- A process that finds the path taken, up to its judgement. -/
def judgeLock (pid : Pid) : List LockStep :=
  [.acquire pid, .create pid true, .read pid true, .judge pid]

/-- A process that has judged, up to its lock. -/
def takeLock (pid : Pid) : List LockStep :=
  [.remove pid true, .create pid true, .format pid, .write pid, .write pid, .write pid, .write pid,
    .sync pid true]

/-- What the guard can be read off: the file that a process judges names a process, and the file that a
process removes is the one that it has judged.
-/
def guardChecks (world : LockWorld) : LockStep → Bool
  | .judge pid =>
      match world.phases pid with
      | .judging _ _ none _ => false
      | _ => true
  | .remove pid _ =>
      match world.phases pid, world.lockFile with
      | .removing _ seen, some held => seen = some held.file
      | _, _ => true
  | _ => true

theorem guarded_of_guardChecks {world : LockWorld} {label : LockStep}
    (checks : world.guardChecks label = true)
    : world.Guarded label := by
  cases label with
  | judge pid =>
      intro left seen createdAt file judging
      simp [guardChecks, judging] at checks
  | remove pid ok =>
      intro left seen held removing there
      simpa [guardChecks, removing, there] using checks
  | _ => trivial

/-- The first process takes the stale lock. The second one finds it running and gives up, and acquires
the lock when the first one has dropped it.
-/
def lockHandedOn : List LockStep :=
  judgeLock 1 ++ takeLock 1 ++ judgeLock 2 ++ [.drop 1 true, .acquire 2] ++ (takeLock 2).tail

/-- The lock goes from a dead process to one after the other. -/
theorem staleLock_taken
    : AllStates LockWorld.step Exclusive staleLock lockHandedOn
      ∧ (run LockWorld.step staleLock lockHandedOn).map
            (fun world => (world.phases 1, world.phases 2))
          = some (.idle, .holding 2) := by
  have checks
      : AllSteps LockWorld.step (fun world label => world.guardChecks label = true) staleLock
          lockHandedOn := by
    decide +kernel
  refine ⟨acquire_exclusive staleLock_initial ?_, by decide +kernel⟩
  exact allSteps_of_guarded (fun _ => True)
    (fun _ _ _ _ checks _ => ⟨trivial, guarded_of_guardChecks checks⟩) trivial checks

/-- Both processes judge the file of the dead one. The second one removes the file that the first one
has created by then.
-/
theorem staleLock_takenTwice
    : ¬ ∀ (world : LockWorld) (labels : List LockStep), world.Initial
        → AllStates LockWorld.step Exclusive world labels := by
  intro exclusive
  have ends
      : (run LockWorld.step staleLock (judgeLock 1 ++ judgeLock 2 ++ takeLock 1 ++ takeLock 2)).map
          (fun world => (world.phases 1, world.phases 2)) = some (.holding 1, .holding 2) := by
    decide +kernel
  obtain ⟨final, ran, phases⟩ := Option.map_eq_some_iff.mp ends
  obtain ⟨first, second⟩ := Prod.mk.inj phases
  exact absurd ((exclusive staleLock _ staleLock_initial).last ran |>.single first second) (by decide)

end LockWorld

end CtxRemote.Upgrade
