import CtxRemote.Store.LegacyLayout

/-! What interrupted opens leave of a legacy layout, and for which data roots a later open shows all of
it.
-/

namespace CtxRemote.Store.Legacy
open CtxRemote.Library CtxRemote.Library.Interruptible

-----------------------------------------------------------------------------------------
-- Artifact paths
-----------------------------------------------------------------------------------------

/-- A path in the new layout does not match the pattern of the rewrite. -/
theorem not_like_objects (rest : List Char)
    : like none "blobs/%".toList ("objects/".toList ++ rest) = false := by
  simp [like, parseLike_none, likeToken, matchTokens, LikeEq]

theorem Artifact.normalized_of_named {artifact : Artifact}
    (named : artifact.blobPath = objectRelativePath artifact.blobHash)
    : artifact.normalized = artifact := by
  obtain ⟨rest, split⟩ : ∃ rest, artifact.blobPath = "objects/".toList ++ rest :=
    ⟨_, named.trans (List.append_assoc _ _ _)⟩
  have other := not_like_objects rest
  rw [← split] at other
  exact if_neg (ne_true_of_eq_false other)

@[simp] theorem Artifact.blobHash_normalized (artifact : Artifact)
    : artifact.normalized.blobHash = artifact.blobHash := by
  unfold Artifact.normalized
  split <;> rfl

/-- A path is rewritten at most once. -/
theorem Artifact.normalized_normalized (artifact : Artifact)
    : artifact.normalized.normalized = artifact.normalized := by
  by_cases old : like none "blobs/%".toList artifact.blobPath = true
  · have once : artifact.normalized.blobPath = "objects/".toList ++ artifact.blobPath.drop 6 :=
      congrArg Artifact.blobPath (if_pos old)
    have other : ¬like none "blobs/%".toList artifact.normalized.blobPath = true := by
      rw [once, not_like_objects]
      exact Bool.false_ne_true
    rw [Artifact.normalized, if_neg other]
  · have same : artifact.normalized = artifact := if_neg old
    rw [same, same]

theorem Contents.normalize_normalize (contents : Contents)
    : contents.normalizeLegacyBlobPaths.normalizeLegacyBlobPaths
      = contents.normalizeLegacyBlobPaths := by
  simp [Contents.normalizeLegacyBlobPaths, Artifact.normalized_normalized]

-----------------------------------------------------------------------------------------
-- The moves of a directory
-----------------------------------------------------------------------------------------

namespace LegacyDir

variable {legacy : LegacyDir}

/-- Both candidates of an item are there. -/
def Ambiguous (legacy : LegacyDir) : Prop :=
  ((legacy.items .objects).isSome ∧ (legacy.items .blobs).isSome)
  ∨ ((legacy.items .spool).isSome ∧ (legacy.items .inbox).isSome)

theorem ambiguous_iff
    : (legacy.multipleExistingPaths objectCandidates
        || legacy.multipleExistingPaths spoolCandidates) = true ↔ legacy.Ambiguous := by
  have pair (left right : LegacyName)
      : legacy.multipleExistingPaths [left, right] = true
        ↔ (legacy.items left).isSome ∧ (legacy.items right).isSome := by
    cases first : legacy.items left <;> cases second : legacy.items right <;>
      simp [multipleExistingPaths, existing, first, second]
  rw [Bool.or_eq_true, objectCandidates, spoolCandidates, pair, pair]
  rfl

/-- The moves of a directory without two candidates are its items. -/
theorem moves_eq (single : ¬legacy.Ambiguous) : legacy.moves = legacy.existing LegacyName.all := by
  have pair (left right : LegacyName)
      (one : ¬((legacy.items left).isSome ∧ (legacy.items right).isSome))
      : (legacy.uniqueExistingPath [left, right]).toList = legacy.existing [left, right] := by
    cases first : legacy.items left <;> cases second : legacy.items right <;>
      simp_all [uniqueExistingPath, existing]
  obtain ⟨oneObjects, oneSpool⟩ := not_or.mp single
  rw [moves, objectCandidates, spoolCandidates, pair _ _ oneObjects, pair _ _ oneSpool]
  simp only [existing, ← List.filter_append, List.cons_append, List.nil_append, LegacyName.all]

theorem mem_moves (single : ¬legacy.Ambiguous) {name : LegacyName}
    : name ∈ legacy.moves ↔ (legacy.items name).isSome = true := by
  have all : name ∈ LegacyName.all := by cases name <;> decide
  rw [moves_eq single, existing, List.mem_filter, and_iff_right all]

theorem nodup_moves (single : ¬legacy.Ambiguous) : legacy.moves.Nodup := by
  have all : LegacyName.all.Nodup := by decide
  rw [moves_eq single]
  exact all.filter _

end LegacyDir

-----------------------------------------------------------------------------------------
-- What opens keep
-----------------------------------------------------------------------------------------

/-- What opens may make of the content of an item. -/
def Rewritten : (name : RootName) → Content name → Content name → Prop
  | .workSqlite, before, after => after = before ∨ after = before.normalizeLegacyBlobPaths
  | .configToml, before, after => after = before
  | .logs, before, after => after = before
  | .deviceJson, before, after => after = before
  | .objects, before, after => after = before
  | .spool, before, after => after = before

/-- The items of a root after opens: each legacy item is where it was, with its destination free, or at
its destination, and what the root had or has been created is there.
-/
structure Sound (near : (name : RootName) → Content name → Content name → Prop)
    (start root : DataRoot) : Prop where
  wal : ∀ legacy, root.legacy = some legacy → legacy.wal = none
  waiting
    : ∀ name content, root.item name = some content
      → start.item name = some content ∧ root.entries name.destination = none
  moved
    : ∀ name content, start.item name = some content → root.item name = none
      → ∃ now, root.entries name.destination = some now ∧ near _ content now
  stayed
    : ∀ name content, start.entries name = some content
      → ∃ now, root.entries name = some now ∧ near _ content now
  created
    : ∀ name, start.entries name = none
      → (∀ source, source.destination = name → start.item source = none)
      → root.entries name = none ∨ root.entries name = some (fresh name)

/-- Nothing waits in the legacy directory. -/
def Emptied (root : DataRoot) : Prop := ∀ name, root.item name = none

/-- The legacy layout of a root can be moved: its database has no write-ahead log, no item has two
candidates, and no destination is taken.
-/
structure Movable (start : DataRoot) : Prop where
  wal : ∀ legacy, start.legacy = some legacy → legacy.wal = none
  single : ∀ legacy, start.legacy = some legacy → ¬legacy.Ambiguous
  free : ∀ name, (start.item name).isSome → start.entries name.destination = none

section Keeps

variable {near : (name : RootName) → Content name → Content name → Prop} {start root : DataRoot}

theorem Movable.sound (movable : Movable start) (refl : ∀ name content, near name content content)
    : Sound near start start where
  wal := movable.wal
  waiting name content here := ⟨here, movable.free name (by simp [here])⟩
  moved name content here gone := by simp [gone] at here
  stayed name content here := ⟨content, here, refl _ _⟩
  created name gone _ := .inl gone

/-- No item of a kept root has two candidates. -/
theorem Sound.single (sound : Sound near start root) (movable : Movable start) (legacy : LegacyDir)
    (there : root.legacy = some legacy)
    : ¬legacy.Ambiguous := by
  have before {name : LegacyName} (here : (legacy.items name).isSome)
      : (start.item name).isSome := by
    obtain ⟨content, here⟩ := Option.isSome_iff_exists.mp here
    have item : root.item name = some content := by simp [DataRoot.item, there, here]
    simp [(sound.waiting name content item).1]
  cases present : start.legacy with
  | none =>
      have none {name : LegacyName} (here : (legacy.items name).isSome) : False := by
        simpa [DataRoot.item, present] using before here
      rintro (⟨here, -⟩ | ⟨here, -⟩) <;> exact none here
  | some first =>
      have single := movable.single first present
      simp only [DataRoot.item, present, Option.bind_some] at before
      rintro (⟨left, right⟩ | ⟨left, right⟩)
      · exact single (.inl ⟨before left, before right⟩)
      · exact single (.inr ⟨before left, before right⟩)

/-- Two items that wait do not have one destination. -/
theorem Sound.apart (sound : Sound near start root) (movable : Movable start) {left right : LegacyName}
    (inLeft : (root.item left).isSome) (inRight : (root.item right).isSome)
    (same : left.destination = right.destination)
    : left = right := by
  cases present : root.legacy with
  | none => simp [DataRoot.item, present] at inLeft
  | some legacy =>
      have single := sound.single movable legacy present
      simp only [DataRoot.item, present, Option.bind_some] at inLeft inRight
      simp only [LegacyDir.Ambiguous] at single
      cases left <;> cases right <;> simp_all [LegacyName.destination]

/-- What a rename does: an item goes to its destination. -/
structure Renamed (name : LegacyName) (root next : DataRoot) : Prop where
  gone : next.item name = none
  others : ∀ other, other ≠ name → next.item other = root.item other
  wal
    : ∀ legacy, next.legacy = some legacy
      → ∃ before, root.legacy = some before ∧ legacy.wal = before.wal
  content
    : ∃ content, root.item name = some content
      ∧ next.entries = Function.update root.entries name.destination (some content)

theorem renamed_of_rename {name : LegacyName} {next : DataRoot} (renamed : rename name root = some next)
    : Renamed name root next := by
  unfold rename at renamed
  split at renamed
  · cases renamed
  next legacy present =>
    split at renamed
    · cases renamed
    next content there =>
      obtain rfl := Option.some.inj renamed
      refine ⟨?_, fun other different => ?_, fun after same => ?_, content, ?_, rfl⟩
      · simp [DataRoot.item]
      · simp [DataRoot.item, present, Function.update_of_ne different]
      · exact ⟨legacy, present, by rw [← Option.some.inj same]⟩
      · simp [DataRoot.item, present, there]

theorem exists_rename {name : LegacyName} (waits : (root.item name).isSome)
    : ∃ next, rename name root = some next := by
  unfold rename
  cases present : root.legacy with
  | none => simp [DataRoot.item, present] at waits
  | some legacy =>
      cases there : legacy.items name with
      | none => simp [DataRoot.item, present, there] at waits
      | some content => simp [there]

/-- A rename keeps what opens keep: it takes a waiting item to its free destination. -/
theorem Sound.renamed (sound : Sound near start root) (movable : Movable start)
    (refl : ∀ name content, near name content content) {name : LegacyName} {next : DataRoot}
    (renamed : Renamed name root next)
    : Sound near start next := by
  obtain ⟨content, here, entries⟩ := renamed.content
  obtain ⟨before, free⟩ := sound.waiting name content here
  have occupied {entry : RootName} (there : (root.entries entry).isSome) : entry ≠ name.destination := by
    rintro rfl
    simp [free] at there
  have kept {entry : RootName} (different : entry ≠ name.destination)
      : next.entries entry = root.entries entry := by
    rw [entries, Function.update_of_ne different]
  refine ⟨fun legacy present => ?_, fun source now waits => ?_, fun source old was gone => ?_,
    fun entry old was => ?_, fun entry none sources => ?_⟩
  · obtain ⟨before, there, same⟩ := renamed.wal legacy present
    exact same.trans (sound.wal before there)
  · have other : source ≠ name := by
      rintro rfl
      simp [renamed.gone] at waits
    rw [renamed.others source other] at waits
    obtain ⟨was, open_⟩ := sound.waiting source now waits
    have different : source.destination ≠ name.destination := fun same =>
      other (sound.apart movable (by simp [waits]) (by simp [here]) same)
    exact ⟨was, (kept different).trans open_⟩
  · by_cases same : source = name
    · subst same
      obtain rfl := Option.some.inj (before.symm.trans was)
      exact ⟨content, by rw [entries, Function.update_self], refl _ _⟩
    · rw [renamed.others source same] at gone
      obtain ⟨now, there, close⟩ := sound.moved source old was gone
      exact ⟨now, (kept (occupied (by simp [there]))).trans there, close⟩
  · obtain ⟨now, there, close⟩ := sound.stayed entry old was
    exact ⟨now, (kept (occupied (by simp [there]))).trans there, close⟩
  · have different : entry ≠ name.destination := by
      rintro rfl
      simp [sources name rfl] at before
    rw [kept different]
    exact sound.created entry none sources

/-- Removing the legacy directory keeps what opens keep: it held nothing. -/
theorem Sound.removed (sound : Sound near start root) {next : DataRoot}
    (removed : removeLegacyDir root = some next)
    : Sound near start next ∧ Emptied next := by
  unfold removeLegacyDir at removed
  split at removed
  · cases removed
  next legacy present =>
    split at removed
    next empty =>
      obtain rfl := Option.some.inj removed
      have none (name : LegacyName) : root.item name = none := by
        rw [Bool.and_eq_true, List.all_eq_true] at empty
        have gone := empty.1 name (by cases name <;> decide)
        simpa [DataRoot.item, present] using gone
      refine ⟨⟨fun legacy there => ?_, fun name content here => ?_, fun name content was _ => ?_, ?_, ?_⟩,
        fun _ => rfl⟩
      · cases there
      · cases here
      · exact sound.moved name content was (none name)
      · exact sound.stayed
      · exact sound.created
    · cases removed

/-- Creating an item keeps what opens keep once nothing waits. -/
theorem Sound.create (sound : Sound near start root) (emptied : Emptied root) (name : RootName)
    : Sound near start (create name root) ∧ Emptied (create name root) := by
  unfold Legacy.create
  split
  · exact ⟨sound, emptied⟩
  next absent =>
    have kept {entry : RootName} (there : (root.entries entry).isSome)
        : Function.update root.entries name (some (fresh name)) entry = root.entries entry := by
      refine Function.update_of_ne ?_ _ _
      rintro rfl
      simp [absent] at there
    refine ⟨⟨sound.wal, fun source content waits => ?_, fun source content was gone => ?_,
      fun entry content was => ?_, fun entry none sources => ?_⟩, emptied⟩
    · exact absurd ((emptied source).symm.trans waits) (by simp)
    · obtain ⟨now, there, close⟩ := sound.moved source content was (emptied source)
      exact ⟨now, (kept (Option.isSome_of_eq_some there)).trans there, close⟩
    · obtain ⟨now, there, close⟩ := sound.stayed entry content was
      exact ⟨now, (kept (Option.isSome_of_eq_some there)).trans there, close⟩
    · by_cases same : entry = name
      · subst same
        exact .inr (Function.update_self _ _ _)
      · have other
            : Function.update root.entries name (some (fresh name)) entry = root.entries entry :=
          Function.update_of_ne same _ _
        rcases sound.created entry none sources with gone | new
        · exact .inl (other.trans gone)
        · exact .inr (other.trans new)

theorem rewritten_refl (name : RootName) (content : Content name) : Rewritten name content content := by
  cases name
  · exact .inl rfl
  all_goals rfl

/-- The rewrite of artifact paths keeps what opens keep. -/
theorem Sound.normalized (sound : Sound Rewritten start root) : Sound Rewritten start (normalizeRoot root) := by
  have others {entry : RootName} (different : entry ≠ .workSqlite)
      : (normalizeRoot root).entries entry = root.entries entry :=
    Function.update_of_ne different _ _
  have database
      : (normalizeRoot root).entries .workSqlite
        = (root.entries .workSqlite).map Contents.normalizeLegacyBlobPaths :=
    Function.update_self RootName.workSqlite _ root.entries
  have still {entry : RootName} {content now : Content entry} (there : root.entries entry = some now)
      (close : Rewritten entry content now)
      : ∃ now, (normalizeRoot root).entries entry = some now ∧ Rewritten entry content now := by
    by_cases same : entry = .workSqlite
    · subst same
      refine ⟨_, by rw [database, there]; rfl, ?_⟩
      rcases close with rfl | rfl
      · exact .inr rfl
      · exact .inr (Contents.normalize_normalize content)
    · exact ⟨now, (others same).trans there, close⟩
  refine ⟨sound.wal, fun name content waits => ?_, fun name content was gone => ?_,
    fun entry content was => ?_, fun entry none sources => ?_⟩
  · obtain ⟨was, free⟩ := sound.waiting name content waits
    refine ⟨was, ?_⟩
    by_cases same : name.destination = .workSqlite
    · rw [same] at free ⊢
      rw [database, free]
      rfl
    · exact (others same).trans free
  · obtain ⟨now, there, close⟩ := sound.moved name content was gone
    exact still there close
  · obtain ⟨now, there, close⟩ := sound.stayed entry content was
    exact still there close
  · by_cases same : entry = .workSqlite
    · subst same
      rw [database]
      rcases sound.created _ none sources with gone | new
      · exact .inl (by rw [gone]; rfl)
      · exact .inr (by rw [new]; rfl)
    · rw [others same]
      exact sound.created entry none sources

-----------------------------------------------------------------------------------------
-- Programs
-----------------------------------------------------------------------------------------

/-- The loop of renames, by induction on the items that are left. -/
theorem ensures_renameAll (movable : Movable start)
    (refl : ∀ name content, near name content content) {names : List LegacyName} (unique : names.Nodup)
    (sound : Sound near start root) (waits : ∀ name, name ∈ names ↔ (root.item name).isSome)
    : Ensures (renameAll names) root (fun _ next => Sound near start next ∧ Emptied next)
        (fun _ => Sound near start) := by
  induction names generalizing root with
  | nil =>
      rw [renameAll, ensures_pure]
      refine ⟨sound, fun name => ?_⟩
      simpa using (waits name).not.mp (by simp)
  | cons name names ih =>
      obtain ⟨fresh, unique⟩ := List.nodup_cons.mp unique
      rw [renameAll, ensures_bind, ensures_operation]
      refine ⟨sound, sound, fun next renamed => ?_⟩
      have renamed := renamed_of_rename renamed
      refine ih unique (sound.renamed movable refl renamed) fun other => ?_
      by_cases same : other = name
      · subst same
        simp [fresh, renamed.gone]
      · rw [renamed.others other same, ← waits other, List.mem_cons, or_iff_right same]

/-- The move keeps what opens keep, and leaves nothing that waits. -/
theorem ensures_migrate (movable : Movable start) (refl : ∀ name content, near name content content)
    (sound : Sound near start root)
    : Ensures migrateLegacyHistoryLayout root (fun _ next => Sound near start next ∧ Emptied next)
        (fun _ => Sound near start) := by
  rw [migrateLegacyHistoryLayout, ensures_bind, ensures_read]
  cases present : root.legacy with
  | none =>
      have emptied : Emptied root := fun name => by simp [DataRoot.item, present]
      simpa using ⟨sound, emptied⟩
  | some legacy =>
      have single := sound.single movable legacy present
      have item (name : LegacyName) : root.item name = legacy.items name := by
        simp [DataRoot.item, present]
      have waits (name : LegacyName) : name ∈ legacy.moves ↔ (root.item name).isSome = true := by
        rw [item, LegacyDir.mem_moves single]
      simp only [ensures_ite, LegacyDir.ambiguous_iff, single, false_imp_iff, true_and, not_false_eq_true,
        true_imp_iff, ensures_pure]
      constructor
      · intro nothing
        refine ⟨sound, fun name => ?_⟩
        rcases (Bool.or_eq_true _ _).mp nothing with none | taken
        · rw [List.isEmpty_iff] at none
          simpa [none] using waits name
        · obtain ⟨other, member, taken⟩ := List.any_eq_true.mp taken
          obtain ⟨content, here⟩ := Option.isSome_iff_exists.mp ((waits other).mp member)
          rw [(sound.waiting other content here).2] at taken
          cases taken
      · intro _
        rw [ensures_bind]
        refine (ensures_renameAll movable refl (LegacyDir.nodup_moves single) sound waits).mono
          ?_ (fun _ _ sound => sound)
        rintro - next ⟨sound, emptied⟩
        simp only [ensures_bind, ensures_attempt, ensures_operation, ensures_pure]
        exact ⟨sound, ⟨sound, emptied⟩, fun last removed => sound.removed removed⟩

/-- What an open has kept while nothing waits. -/
def Kept (start root : DataRoot) : Prop := Sound Rewritten start root ∧ Emptied root

theorem Kept.create (kept : Kept start root) (name : RootName) : Kept start (create name root) :=
  kept.1.create kept.2 name

/-- An operation that keeps a property, and what follows it. -/
theorem ensures_step {kept : DataRoot → Prop} {done : Unit → DataRoot → Prop} {error : OpenError}
    {f : DataRoot → DataRoot} {next : RootProgram Unit} (now : kept root)
    (after : Ensures next (f root) done (fun _ => kept))
    : Ensures (operation error (fun root => some (f root)) >>= fun _ => next) root done
        (fun _ => kept) := by
  rw [ensures_bind, ensures_operation]
  refine ⟨now, now, fun final same => ?_⟩
  obtain rfl := Option.some.inj same
  exact after

theorem isSome_create (name : RootName) (root : DataRoot)
    : ((create name root).entries name).isSome = true := by
  unfold Legacy.create
  split
  next there => simp [there]
  next => simp

/-- The rest of an open keeps what opens keep, and leaves a database. -/
theorem ensures_openMoved (migrated : Bool) (kept : Kept start root)
    : Ensures (openMoved migrated) root
        (fun _ next => Kept start next ∧ (next.entries .workSqlite).isSome)
        (fun _ => Kept start) := by
  have objects := kept.create .objects
  have spool := objects.create .spool
  have database := spool.create .workSqlite
  unfold openMoved
  refine ensures_step kept (ensures_step kept (ensures_step objects ?_))
  refine ensures_step objects (ensures_step spool (ensures_step spool ?_))
  refine ensures_step database (ensures_step database ?_)
  have there := isSome_create .workSqlite (create .spool (create .objects root))
  cases migrated
  · simp [database, there]
  · have normalized : Kept start (normalizeRoot _) := ⟨database.1.normalized, database.2⟩
    refine ensures_step database ?_
    simp only [ensures_operation]
    refine ⟨normalized, normalized, fun final same => ?_⟩
    obtain rfl := Option.some.inj same
    exact ⟨normalized, by simpa [normalizeRoot] using there⟩

/-- An open keeps what opens keep. -/
theorem ensures_open (movable : Movable start) (sound : Sound Rewritten start root)
    : Ensures openWithBusyTimeout root
        (fun _ next => Kept start next ∧ (next.entries .workSqlite).isSome)
        (fun _ => Sound Rewritten start) := by
  rw [openWithBusyTimeout, ensures_bind]
  refine (ensures_migrate movable rewritten_refl sound).mono ?_ (fun _ _ sound => sound)
  exact fun migrated next kept =>
    (ensures_openMoved migrated kept).mono (fun _ _ done => done) (fun _ _ kept => kept.1)

/-- What opens keep holds after any of them, by induction on the opens. -/
theorem Reached.sound (reached : Reached start root) (movable : Movable start)
    : Sound Rewritten start root := by
  induction reached with
  | start => exact movable.sound rewritten_refl
  | opened before ran ih =>
      have ensured := (ensures_open movable ih).mono (fun _ _ done => done.1.1) (fun _ _ sound => sound)
      exact ensured.final ran

end Keeps

end CtxRemote.Store.Legacy
