import CtxRemote.Store.LegacyMoves

/-! For which data roots every later open shows what the legacy layout had, wherever earlier opens
stopped.
-/

namespace CtxRemote.Store.Legacy
open CtxRemote.Library CtxRemote.Library.Interruptible

-----------------------------------------------------------------------------------------
-- What an open must preserve
-----------------------------------------------------------------------------------------

/-- The content with a hash is in an object directory of the root. -/
def DataRoot.Holds (root : DataRoot) (hash : String) : Prop :=
  (∃ names : List String, root.item .objects = some names ∧ hash ∈ names)
  ∨ (∃ names : List String, root.item .blobs = some names ∧ hash ∈ names)
  ∨ ∃ names, root.entries .objects = some names ∧ hash ∈ names

/-- An artifact names the file that holds its content. -/
def Artifact.Named (artifact : Artifact) : Prop :=
  artifact.blobPath = objectRelativePath artifact.blobHash

/-- The root after a successful open shows every row of the legacy database, with its write-ahead log;
its artifacts name the files of their contents; the other legacy items are what they were; and the
legacy directory is gone or has nothing in it.
-/
structure Preserved (start final : DataRoot) : Prop where
  rows
    : ∀ legacy main, start.legacy = some legacy → legacy.items .workSqlite = some main
      → ∃ now, final.entries .workSqlite = some now
        ∧ (∀ row ∈ (legacy.wal.getD main).rows, row ∈ now.rows)
        ∧ ∀ artifact ∈ (legacy.wal.getD main).artifacts,
            ∃ shown ∈ now.artifacts, shown.blobHash = artifact.blobHash
  named
    : ∀ now, final.entries .workSqlite = some now
      → ∀ artifact ∈ now.artifacts, start.Holds artifact.blobHash
        → artifact.Named
          ∧ ∃ names, final.entries .objects = some names ∧ artifact.blobHash ∈ names
  moved
    : ∀ name content, name ≠ .workSqlite → start.item name = some content
      → final.entries name.destination = some content
  emptied : ∀ legacy, final.legacy = some legacy → legacy.IsEmpty

/-- The database of a root: the one in the legacy directory, or the one in its place. -/
def DataRoot.database (root : DataRoot) : Option Contents :=
  (root.item .workSqlite).or (root.entries .workSqlite)

/-- A root whose layout can be moved and whose artifacts already name their contents in the new one. -/
structure Recoverable (start : DataRoot) : Prop extends Movable start where
  named
    : ∀ contents, start.database = some contents
      → ∀ artifact ∈ contents.artifacts, start.Holds artifact.blobHash → artifact.Named

section Recovery

variable {start root final : DataRoot}

-----------------------------------------------------------------------------------------
-- Roots that are preserved
-----------------------------------------------------------------------------------------

/-- A rewrite keeps rows and the hashes of artifacts. -/
theorem Rewritten.rows {before now : Contents} (close : Rewritten .workSqlite before now)
    : now.rows = before.rows
      ∧ (∀ artifact ∈ before.artifacts, ∃ shown ∈ now.artifacts, shown.blobHash = artifact.blobHash)
      ∧ ∀ shown ∈ now.artifacts, shown ∈ before.artifacts
          ∨ ∃ artifact ∈ before.artifacts, shown = artifact.normalized := by
  rcases close with rfl | rfl
  · exact ⟨rfl, fun artifact member => ⟨artifact, member, rfl⟩, fun _ => .inl⟩
  · refine ⟨rfl, fun artifact member => ?_, fun shown member => ?_⟩
    · exact ⟨_, List.mem_map_of_mem member, artifact.blobHash_normalized⟩
    · obtain ⟨artifact, inside, rfl⟩ := List.mem_map.mp member
      exact .inr ⟨artifact, inside, rfl⟩

theorem Rewritten.eq {name : RootName} {before now : Content name} (close : Rewritten name before now)
    (other : name ≠ .workSqlite)
    : now = before := by
  cases name with
  | workSqlite => exact absurd rfl other
  | configToml | logs | deviceJson | objects | spool => exact close

/-- Content that a root holds is in the directory of its objects once nothing waits. -/
theorem Kept.holds (kept : Kept start root) {hash : String}
    (held : start.Holds hash)
    : ∃ names, root.entries .objects = some names ∧ hash ∈ names := by
  rcases held with ⟨names, here, member⟩ | ⟨names, here, member⟩ | ⟨names, here, member⟩
  · obtain ⟨now, there, close⟩ := kept.1.moved .objects names here (kept.2 _)
    obtain rfl : now = names := close
    exact ⟨now, there, member⟩
  · obtain ⟨now, there, close⟩ := kept.1.moved .blobs names here (kept.2 _)
    obtain rfl : now = names := close
    exact ⟨now, there, member⟩
  · obtain ⟨now, there, close⟩ := kept.1.stayed .objects names here
    obtain rfl : now = names := close
    exact ⟨now, there, member⟩

/-- The database after opens is a rewrite of the one before, or a new one. -/
theorem Kept.database (kept : Kept start root) {now : Contents}
    (there : root.entries .workSqlite = some now)
    : now = Contents.empty ∨ ∃ contents, start.database = some contents
        ∧ Rewritten .workSqlite contents now := by
  cases legacy : start.item .workSqlite with
  | some main =>
      obtain ⟨other, same, close⟩ := kept.1.moved .workSqlite main legacy (kept.2 _)
      obtain rfl := Option.some.inj (there.symm.trans same)
      exact .inr ⟨main, by rw [DataRoot.database, legacy]; rfl, close⟩
  | none =>
      cases before : start.entries .workSqlite with
      | some contents =>
          obtain ⟨other, same, close⟩ := kept.1.stayed .workSqlite contents before
          obtain rfl := Option.some.inj (there.symm.trans same)
          exact .inr ⟨contents, by rw [DataRoot.database, legacy, before]; rfl, close⟩
      | none =>
          have sources (source : LegacyName) (same : source.destination = .workSqlite)
              : start.item source = none := by
            cases source with
            | workSqlite => exact legacy
            | configToml | logs | deviceJson | objects | blobs | spool | inbox => cases same
          rcases kept.1.created .workSqlite before sources with gone | new
          · exact absurd (gone.symm.trans there) (by simp)
          · exact .inl (Option.some.inj (there.symm.trans new))

theorem Kept.preserved (kept : Kept start final) (recoverable : Recoverable start)
    : Preserved start final where
  rows legacy main present here := by
    have item : start.item .workSqlite = some main := by simp [DataRoot.item, present, here]
    obtain ⟨now, there, close⟩ := kept.1.moved .workSqlite main item (kept.2 _)
    obtain ⟨rows, artifacts, -⟩ := Rewritten.rows close
    rw [recoverable.wal legacy present]
    exact ⟨now, there, fun row member => rows ▸ member, artifacts⟩
  named now there artifact member held := by
    refine ⟨?_, kept.holds held⟩
    rcases kept.database there with rfl | ⟨contents, database, close⟩
    · simp [Contents.empty] at member
    · rcases (Rewritten.rows close).2.2 artifact member with same | ⟨before, same, rfl⟩
      · exact recoverable.named contents database artifact same held
      · rw [Artifact.blobHash_normalized] at held
        have named := recoverable.named contents database before same held
        rwa [Artifact.normalized_of_named named]
  moved name content other here := by
    obtain ⟨now, there, close⟩ := kept.1.moved name content here (kept.2 _)
    have elsewhere : name.destination ≠ .workSqlite := by cases name <;> simp_all [LegacyName.destination]
    rw [there, close.eq elsewhere]
  emptied legacy present := by
    refine ⟨fun name => ?_, kept.1.wal legacy present⟩
    simpa [DataRoot.item, present] using kept.2 name

-----------------------------------------------------------------------------------------
-- Runs that end
-----------------------------------------------------------------------------------------

/-- The move does nothing where nothing waits. -/
theorem migrate_emptied (single : ∀ legacy, root.legacy = some legacy → ¬legacy.Ambiguous)
    (emptied : Emptied root)
    : Returns migrateLegacyHistoryLayout root false root := by
  simp only [migrateLegacyHistoryLayout, returns_bind, returns_read]
  refine ⟨root, root, ⟨rfl, rfl⟩, ?_⟩
  cases present : root.legacy with
  | none => simp
  | some legacy =>
      have none : legacy.moves = [] := by
        rw [List.eq_nil_iff_forall_not_mem]
        intro name member
        have gone := emptied name
        rw [DataRoot.item, present, Option.bind_some] at gone
        simp [LegacyDir.mem_moves (single legacy present), gone] at member
      simp [none]

theorem isSome_of_rename {name : LegacyName} {next : DataRoot} (renamed : rename name root = some next)
    : next.legacy.isSome := by
  unfold rename at renamed
  split at renamed
  · cases renamed
  · split at renamed
    · cases renamed
    · obtain rfl := Option.some.inj renamed
      rfl

/-- The renames can all succeed, by induction on the items that are left. They do not touch a write-ahead
log.
-/
theorem renameAll_returns {names : List LegacyName} (unique : names.Nodup)
    (waits : ∀ name ∈ names, (root.item name).isSome) {legacy : LegacyDir}
    (present : root.legacy = some legacy)
    : ∃ next, Returns (renameAll names) root () next
        ∧ ∃ after, next.legacy = some after ∧ after.wal = legacy.wal := by
  induction names generalizing root legacy with
  | nil => exact ⟨root, returns_pure.mpr ⟨rfl, rfl⟩, legacy, present, rfl⟩
  | cons name names ih =>
      obtain ⟨fresh, unique⟩ := List.nodup_cons.mp unique
      obtain ⟨next, renamed⟩ := exists_rename (waits name List.mem_cons_self)
      have rest := renamed_of_rename renamed
      have waits : ∀ other ∈ names, (next.item other).isSome := by
        intro other member
        rw [rest.others other (ne_of_mem_of_not_mem member fresh)]
        exact waits other (List.mem_cons_of_mem _ member)
      have there : next.legacy.isSome := isSome_of_rename renamed
      obtain ⟨after, there⟩ := Option.isSome_iff_exists.mp there
      obtain ⟨last, returns, kept⟩ := ih unique waits there
      obtain ⟨before, same, wal⟩ := rest.wal after there
      obtain rfl := Option.some.inj (present.symm.trans same)
      refine ⟨last, ?_, by rwa [wal] at kept⟩
      rw [renameAll, returns_bind]
      exact ⟨next, (), returns_operation.mpr renamed, returns⟩

/-- Either the move does nothing, or the legacy directory has items with one candidate each and free
destinations.
-/
theorem migrate_or (root : DataRoot)
    : Returns migrateLegacyHistoryLayout root false root
      ∨ ∃ legacy, root.legacy = some legacy ∧ ¬legacy.Ambiguous
        ∧ (∀ name, (legacy.items name).isSome → root.entries name.destination = none)
        ∧ ∃ next,
            Returns migrateLegacyHistoryLayout root true next
            ∧ ∃ after, next.legacy = some after ∧ after.wal = legacy.wal := by
  simp only [migrateLegacyHistoryLayout, returns_bind, returns_read]
  cases present : root.legacy with
  | none => exact .inl ⟨root, root, ⟨rfl, rfl⟩, by simp [present]⟩
  | some legacy =>
      by_cases single : legacy.Ambiguous
      · exact .inl ⟨root, root, ⟨rfl, rfl⟩, by simp [present, LegacyDir.ambiguous_iff.mpr single]⟩
      have one := LegacyDir.ambiguous_iff.not.mpr single
      by_cases taken
        : (legacy.moves.isEmpty
            || legacy.moves.any fun name => (root.entries name.destination).isSome) = true
      · exact .inl ⟨root, root, ⟨rfl, rfl⟩, by simp only [present, if_neg one, if_pos taken, returns_pure, and_self]⟩
      have free (name : LegacyName) (here : (legacy.items name).isSome)
          : root.entries name.destination = none := by
        by_contra there
        refine taken ((Bool.or_eq_true _ _).mpr (.inr (List.any_eq_true.mpr ⟨name, ?_, ?_⟩)))
        · exact (LegacyDir.mem_moves single).mpr here
        · exact Option.isSome_iff_ne_none.mpr there
      have waits (name : LegacyName) (member : name ∈ legacy.moves) : (root.item name).isSome := by
        rw [DataRoot.item, present, Option.bind_some]
        exact (LegacyDir.mem_moves single).mp member
      obtain ⟨next, returns, kept⟩ := renameAll_returns (LegacyDir.nodup_moves single) waits present
      refine .inr ⟨legacy, rfl, single, free, next, ⟨root, root, ⟨rfl, rfl⟩, ?_⟩, kept⟩
      simp only [present, if_neg one, if_neg taken, returns_bind]
      exact ⟨next, (), returns, next, _, returns_attempt_operation _ _ _, returns_pure.mpr ⟨rfl, rfl⟩⟩

@[simp] theorem legacy_create (name : RootName) (root : DataRoot)
    : (create name root).legacy = root.legacy := by
  unfold create
  split <;> rfl

/-- Creating an item leaves what is there. -/
theorem entries_create {entry : RootName} {content : Content entry}
    (there : root.entries entry = some content) (name : RootName)
    : (create name root).entries entry = some content := by
  unfold create
  split
  · exact there
  next absent =>
    have different : entry ≠ name := by
      rintro rfl
      simp [absent] at there
    exact (Function.update_of_ne different _ _).trans there

/-- The root after the items of a new store have been created. -/
def opened (root : DataRoot) : DataRoot := create .workSqlite (create .spool (create .objects root))

@[simp] theorem legacy_opened (root : DataRoot) : (opened root).legacy = root.legacy := by
  simp [opened]

theorem entries_opened {entry : RootName} {content : Content entry}
    (there : root.entries entry = some content)
    : (opened root).entries entry = some content :=
  entries_create (entries_create (entries_create there _) _) _

/-- The rest of an open can succeed, with the rewrite of paths or without it. -/
theorem openMoved_returns (root : DataRoot) (migrated : Bool)
    : Returns (openMoved migrated) root ()
        (if migrated then normalizeRoot (opened root) else opened root) := by
  cases migrated <;> simp [openMoved, opened]

/-- An open that does not move anything can succeed. -/
theorem open_returns {next : DataRoot} {migrated : Bool}
    (moved : Returns migrateLegacyHistoryLayout root migrated next)
    : Returns openWithBusyTimeout root ()
        (if migrated then normalizeRoot (opened next) else opened next) :=
  returns_bind.mpr ⟨next, migrated, moved, openMoved_returns next migrated⟩

/-- The process may die between the move and the rest. -/
theorem reached_moved {next : DataRoot} {migrated : Bool}
    (moved : Returns migrateLegacyHistoryLayout start migrated next)
    : Reached start next := by
  have died : (.died, next) ∈ openWithBusyTimeout start :=
    moved.died (by simp [openMoved, bind, operation])
  exact .opened .start died

-----------------------------------------------------------------------------------------
-- The condition
-----------------------------------------------------------------------------------------

/-- Every later open that succeeds shows what the root had, wherever the opens before it stopped. -/
def Recovers (start : DataRoot) : Prop :=
  ∀ root, Reached start root
    → ∀ final, Returns openWithBusyTimeout root () final → Preserved start final

/-- A first open that succeeds shows that the layout can be moved. -/
theorem Recovers.movable (recovers : Recovers start) : Movable start := by
  rcases migrate_or start with still | ⟨legacy, present, single, free, next, moved, after, there, wal⟩
  · have emptied := (recovers start .start _ (open_returns still)).emptied
    simp only [Bool.false_eq_true, if_false, legacy_opened] at emptied
    refine ⟨fun legacy present => (emptied legacy present).2, fun legacy present => ?_, fun name here => ?_⟩
    · have none := (emptied legacy present).1
      simp [LegacyDir.Ambiguous, none]
    · cases present : start.legacy with
      | none => simp [DataRoot.item, present] at here
      | some legacy => simp [DataRoot.item, present, (emptied legacy present).1] at here
  · have emptied := (recovers start .start _ (open_returns moved)).emptied after (by simpa [normalizeRoot])
    refine ⟨fun other same => ?_, fun other same => ?_, fun name here => ?_⟩
    · obtain rfl := Option.some.inj (present.symm.trans same)
      exact wal.symm.trans emptied.2
    · obtain rfl := Option.some.inj (present.symm.trans same)
      exact single
    · simp only [DataRoot.item, present, Option.bind_some] at here
      exact free name here

/-- A root whose layout can be moved reaches one where nothing waits and no path has been rewritten. -/
theorem Movable.reached (movable : Movable start)
    : ∃ next, Reached start next ∧ Sound (fun _ before after => after = before) start next
        ∧ Emptied next := by
  have refl (name : RootName) (content : Content name) : content = content := rfl
  have moves :=
    @ensures_migrate (fun _ before after => after = before) start start movable refl (movable.sound refl)
  rcases migrate_or start with still | ⟨_, _, _, _, next, moved, -⟩
  · exact ⟨start, .start, moves.of_done still⟩
  · exact ⟨next, reached_moved moved, moves.of_done moved⟩

/-- A later open that succeeds does not rewrite paths. -/
theorem Recovers.recoverable (recovers : Recovers start) : Recoverable start := by
  have movable := recovers.movable
  obtain ⟨next, reached, sound, emptied⟩ := movable.reached
  have later := open_returns (migrate_emptied (sound.single movable) emptied)
  have shown := (recovers next reached _ later).named
  refine ⟨movable, fun contents database artifact member held => ?_⟩
  have there : next.entries .workSqlite = some contents := by
    rcases Option.or_eq_some_iff.mp database with here | ⟨-, here⟩
    · obtain ⟨now, there, same⟩ := sound.moved .workSqlite contents here (emptied _)
      exact there.trans (congrArg some same)
    · obtain ⟨now, there, same⟩ := sound.stayed .workSqlite contents here
      exact there.trans (congrArg some same)
  exact (shown contents (entries_opened there) artifact member held).1

/-- A root recovers exactly when its layout can be moved and its artifacts already name their contents
in the new one. Witness: what opens keep is kept by every open, and conversely an open that dies before
the rewrite of paths is followed by one that does not rewrite them.
-/
theorem recovers_iff (start : DataRoot) : Recovers start ↔ Recoverable start := by
  refine ⟨Recovers.recoverable, fun recoverable root reached final returns => ?_⟩
  have sound := reached.sound recoverable.toMovable
  have done := (ensures_open recoverable.toMovable sound).of_done returns
  exact done.1.preserved recoverable

/-- The log's transaction is not shown: the database is moved without its write-ahead log. And an artifact
keeps its old path when the process dies after the renames.
-/
theorem not_recovers
    : ¬Recovers
        { legacy :=
            some
              { items := Function.update (fun _ => none) .workSqlite (some Contents.empty)
                wal := some ⟨["imported"], []⟩ }
          entries := fun _ => none }
      ∧ ¬Recovers
          { legacy :=
              some
                { items :=
                    Function.update (Function.update (fun _ => none) .blobs (some ["c0ffee"])) .workSqlite
                      (some ⟨[], [⟨"c0ffee", "blobs/c0/c0ffee".toList⟩]⟩)
                  wal := none }
            entries := fun _ => none } := by
  constructor
  · intro recovers
    have none := recovers.movable.wal _ rfl
    cases none
  · intro recovers
    have named := recovers.recoverable.named _ rfl _ List.mem_cons_self
    have held := named (.inr (.inl ⟨["c0ffee"], rfl, by simp⟩))
    have old : "blobs/c0/c0ffee".toList ≠ objectRelativePath "c0ffee" := by decide
    exact old held

end Recovery

end CtxRemote.Store.Legacy
