import CtxRemote.Library.Loops
import CtxRemote.Library.Transition
import CtxRemote.Semantic.SidecarSearch

/-! Processes with and without the sqlite-vec runtime on one sidecar. A call is a list of
transactions; between two of them any other process may go on, and any process may crash.
-/

namespace CtxRemote.Semantic
open CtxRemote.Library
open CtxRemote.Store (Uuid)

-----------------------------------------------------------------------------------------
-- Calls
-----------------------------------------------------------------------------------------

/-- A transaction of a call, or a look at the sidecar that decides how the call goes on. -/
inductive SidecarTransaction (Vector : Type) where
  /-- `sqlite_vec0_schema_compatible`. -/
  | checkSchema
  | dropVec0
  | dropVec0Meta
  | createVec0Meta
  | createVec0
  /-- The test of `sync_sqlite_vec0_from_chunks_if_needed`. Its six `SELECT`s are taken as one look at
  the sidecar; in the source each is a transaction of its own.
  -/
  | checkSync
  | rebuild
  /-- `maintain_sqlite_vec0`, in front of a write. -/
  | plan (eventIds : List Uuid) (items : List (SemanticChunk × Vector))
  | write (maintainSqliteVec0 : Bool) (eventIds : List Uuid) (items : List (SemanticChunk × Vector))
  /-- The two halves of `refresh_cached_stats`. -/
  | readStats
  | writeStats (stats : SemanticSidecarStats)

/-- The calls that change the sidecar. -/
inductive SidecarCall (Vector : Type) where
  | openStore
  | openReadOnly
  /-- `upsert_chunk_embeddings`. -/
  | upsert (items : List (SemanticChunk × Vector))
  /-- `prune_ineligible_events`, with the events that each batch deletes. -/
  | prune (batches : List (List Uuid))
  /-- `delete_embedding_chunks_for_event_ids`. -/
  | delete (eventIds : List Uuid)

/-- What a call starts with. -/
def SidecarCall.transactions {Vector : Type} (runtime : Bool)
    : SidecarCall Vector → List (SidecarTransaction Vector)
  | openStore => if runtime then [.checkSchema, .createVec0Meta, .createVec0, .checkSync] else []
  | openReadOnly => []
  | upsert items =>
      if items.isEmpty then []
      else [.plan (items.map (·.1.eventId)).dedup items, .readStats]
  | prune batches =>
      ((batches.filter (! ·.isEmpty)).map fun eventIds => .plan eventIds []) ++ [.readStats]
  | delete eventIds => if eventIds.isEmpty then [] else [.plan eventIds []]

namespace SidecarTransaction

variable {Vector : Type} [DecidableEq Vector]

/-- A transaction and what its call does next. `none` stands for an error, which ends the call. -/
def perform (runtime : Bool) (sidecar : Sidecar Vector)
    : SidecarTransaction Vector → Option (Sidecar Vector × List (SidecarTransaction Vector))
  | checkSchema =>
      some (sidecar, if sidecar.sqliteVec0SchemaCompatible then [] else [dropVec0, dropVec0Meta])
  | dropVec0 => some ({ sidecar with vec0 := none }, [])
  | dropVec0Meta => some ({ sidecar with vec0Meta := none }, [])
  | createVec0Meta => some ({ sidecar with vec0Meta := some sidecar.metaTable }, [])
  | createVec0 => some ({ sidecar with vec0 := some sidecar.vecTable }, [])
  | checkSync =>
      some
        (sidecar,
          if sidecar.sqliteVec0InSync runtime then []
          else [dropVec0, dropVec0Meta, createVec0Meta, createVec0, rebuild])
  | rebuild => sidecar.rebuildRows.map (·, [])
  | plan eventIds items =>
      some
        (sidecar,
          [write (runtime && sidecar.vec0.isSome && sidecar.vec0Meta.isSome) eventIds items])
  | write maintainSqliteVec0 eventIds items =>
      (sidecar.writeChunks maintainSqliteVec0 eventIds items).map (·, [])
  | readStats => some (sidecar, [writeStats sidecar.exactStats])
  | writeStats stats => some ({ sidecar with stats := some stats }, [])

end SidecarTransaction

-----------------------------------------------------------------------------------------
-- What keeps the mirror sound
-----------------------------------------------------------------------------------------

namespace Sidecar

variable {Vector : Type}

/-- A mirror without descriptions says nothing. -/
theorem mirrorSound_of_noMeta {sidecar : Sidecar Vector} (none : sidecar.metaTable = Keyed.empty)
    : sidecar.MirrorSound := by
  have vacant (row : Vec0MetaRow) : row ∉ sidecar.metaTable := by
    rw [none]
    exact List.not_mem_nil
  exact ⟨fun row member => absurd member (vacant row), fun row member => absurd member (vacant row),
    .inl fun row member => absurd member (vacant row)⟩

theorem mirrorSound_of_noVec0 {sidecar : Sidecar Vector} (sound : sidecar.MirrorSound)
    : { sidecar with vec0 := none }.MirrorSound :=
  ⟨sound.isChunk, fun _ _ _ member => absurd member List.not_mem_nil,
    .inr fun _ member => absurd member List.not_mem_nil⟩

/-- A new chunk leaves the rows of the others. -/
theorem mirrorSound_put {sidecar : Sidecar Vector} (sound : sidecar.MirrorSound)
    {row : ChunkRow Vector} (fresh : sidecar.chunks.holds row.rowid = false)
    : { sidecar with chunks := sidecar.chunks.put row }.MirrorSound := by
  have apart (held : ChunkRow Vector) (member : held ∈ sidecar.chunks) : held.rowid ≠ row.rowid := by
    intro same
    rw [Keyed.holds_iff.mpr ⟨held, member, same⟩] at fresh
    cases fresh
  refine ⟨fun found member => ?_, fun found member vector inside held here same sameRowid => ?_,
    sound.nested⟩
  · obtain ⟨held, here, sameRowid, sameChunk⟩ := sound.isChunk found member
    exact ⟨held, Keyed.mem_put.mpr (.inr ⟨here, apart held here⟩), sameRowid, sameChunk⟩
  · rcases Keyed.mem_put.mp here with rfl | ⟨old, -⟩
    · obtain ⟨other, there, otherRowid, -⟩ := sound.isChunk found member
      exact absurd (otherRowid.trans sameRowid.symm) (apart other there)
    · exact sound.isEmbedding found member vector inside held old same sameRowid

/-- The mirror of a chunk that is there. -/
theorem mirrorRow_sound {sidecar next : Sidecar Vector} {row : ChunkRow Vector}
    (sound : sidecar.MirrorSound) (inside : row ∈ sidecar.chunks)
    (mirrored : mirrorRow row sidecar = some next)
    : next.MirrorSound ∧ next.chunks = sidecar.chunks := by
  unfold mirrorRow at mirrored
  split at mirrored
  next vec0Meta vec0 isMeta isVec0 =>
      split at mirrored
      next => cases mirrored
      next free =>
          obtain rfl := Option.some.inj mirrored
          simp only [Bool.or_eq_true, not_or, Bool.not_eq_true] at free
          obtain ⟨isChunk, isEmbedding, nested⟩ := sound
          simp only [metaTable, vecTable, isMeta, isVec0, Option.getD_some] at nested isEmbedding isChunk
          refine ⟨⟨fun found member => ?_, fun found member vector there held here same sameRowid => ?_,
            ?_⟩, rfl⟩
          · rcases Keyed.mem_put.mp member with rfl | ⟨old, -⟩
            · exact ⟨row, inside, rfl, rfl⟩
            · exact isChunk found old
          · rcases Keyed.mem_put.mp there with rfl | ⟨oldVector, otherVector⟩
            · rw [Keyed.eq_of_key here inside (sameRowid.trans same.symm)]
            · rcases Keyed.mem_put.mp member with rfl | ⟨old, -⟩
              · exact absurd same otherVector
              · exact isEmbedding found old vector oldVector held here same sameRowid
          · rcases nested with covered | covers
            · refine .inl fun found member => ?_
              simp only [vecTable, Option.getD_some, Keyed.holds_put, Bool.or_eq_true,
                decide_eq_true_eq]
              rcases Keyed.mem_put.mp member with rfl | ⟨old, -⟩
              · exact .inl rfl
              · exact .inr (covered found old)
            · refine .inr fun vector there => ?_
              simp only [metaTable, Option.getD_some, Keyed.holds_put, Bool.or_eq_true,
                decide_eq_true_eq]
              rcases Keyed.mem_put.mp there with rfl | ⟨old, -⟩
              · exact .inl rfl
              · exact .inr (covers vector old)
  next => cases mirrored

/-- The next rowid is larger than every one in use. -/
theorem nextRowid_free (sidecar : Sidecar Vector)
    : sidecar.chunks.holds sidecar.nextRowid = false := by
  have below (rows : List (ChunkRow Vector)) (row : ChunkRow Vector) (member : row ∈ rows)
      : row.rowid ≤ (rows.map (·.rowid)).foldr max 0 := by
    induction rows with
    | nil => cases member
    | cons first rest ih =>
        rw [List.map_cons, List.foldr_cons]
        rcases List.mem_cons.mp member with rfl | later
        · exact le_max_left _ _
        · exact (ih later).trans (le_max_right _ _)
  rw [← Bool.not_eq_true, Keyed.holds_iff]
  rintro ⟨row, member, same⟩
  have inside := below _ row member
  change row.rowid = _ + 1 at same
  omega

theorem insertChunk_sound {sidecar next : Sidecar Vector} {item : SemanticChunk × Vector}
    (sound : sidecar.MirrorSound) (inserted : insertChunk true sidecar item = some next)
    : next.MirrorSound := by
  unfold insertChunk at inserted
  simp only [if_true] at inserted
  split at inserted
  next => cases inserted
  next =>
      have free
          : sidecar.chunks.holds (⟨sidecar.nextRowid, item.1, item.2⟩ : ChunkRow Vector).rowid = false :=
        sidecar.nextRowid_free
      have placed := mirrorSound_put sound free
      exact (mirrorRow_sound placed (Keyed.mem_put.mpr (.inl rfl)) inserted).1

/-- Events are deleted from the mirror with their chunks. -/
theorem deleteEvents_sound {sidecar : Sidecar Vector} (eventIds : List Uuid)
    (sound : sidecar.MirrorSound)
    : (sidecar.deleteEvents true eventIds).MirrorSound := by
  have mem_meta (row : Vec0MetaRow)
      : row ∈ (sidecar.deleteEvents true eventIds).metaTable
        ↔ row ∈ sidecar.metaTable ∧ row.chunk.eventId ∉ eventIds := by
    unfold deleteEvents metaTable
    cases sidecar.vec0Meta with
    | none => simp [Keyed.mem_def, Keyed.empty]
    | some vec0Meta => simp [Keyed.mem_def, Keyed.filter]
  have mem_vec (vector : Vec0Row Vector)
      : vector ∈ (sidecar.deleteEvents true eventIds).vecTable
        ↔ vector ∈ sidecar.vecTable
          ∧ ∀ row ∈ sidecar.metaTable, row.rowid = vector.rowid → row.chunk.eventId ∉ eventIds := by
    have named : sidecar.vec0Meta.bind (·.find? vector.rowid) = sidecar.metaTable.find? vector.rowid := by
      unfold metaTable
      cases sidecar.vec0Meta <;> rfl
    have kept
        : (sidecar.metaTable.find? vector.rowid).any (fun row => row.chunk.eventId ∈ eventIds) = false
          ↔ ∀ row ∈ sidecar.metaTable, row.rowid = vector.rowid → row.chunk.eventId ∉ eventIds := by
      simp only [← Bool.not_eq_true, Option.any_eq_true, not_exists, not_and, decide_eq_true_eq,
        Keyed.find?_eq_some, and_imp]
    rw [← kept, ← named]
    unfold deleteEvents vecTable
    cases sidecar.vec0 with
    | none => simp [Keyed.mem_def, Keyed.empty]
    | some vec0 => simp [Keyed.mem_def, Keyed.keep]
  have mem_chunks (row : ChunkRow Vector)
      : row ∈ (sidecar.deleteEvents true eventIds).chunks
        ↔ row ∈ sidecar.chunks ∧ row.chunk.eventId ∉ eventIds := by
    simp [deleteEvents, Keyed.mem_def, Keyed.filter]
  refine ⟨fun row member => ?_, fun row member vector there held here same sameRowid => ?_, ?_⟩
  · obtain ⟨old, kept⟩ := (mem_meta row).mp member
    obtain ⟨held, here, sameRowid, sameChunk⟩ := sound.isChunk row old
    exact ⟨held, (mem_chunks held).mpr ⟨here, sameChunk ▸ kept⟩, sameRowid, sameChunk⟩
  · exact sound.isEmbedding row ((mem_meta row).mp member).1 vector ((mem_vec vector).mp there).1
      held ((mem_chunks held).mp here).1 same sameRowid
  · rcases sound.nested with covered | covers
    · refine .inl fun row member => ?_
      obtain ⟨old, kept⟩ := (mem_meta row).mp member
      obtain ⟨vector, there, same⟩ := Keyed.holds_iff.mp (covered row old)
      refine Keyed.holds_iff.mpr ⟨vector, (mem_vec vector).mpr ⟨there, fun other inside sameRowid => ?_⟩,
        same⟩
      obtain rfl := Keyed.eq_of_key inside old (sameRowid.trans same)
      exact kept
    · refine .inr fun vector there => ?_
      obtain ⟨old, kept⟩ := (mem_vec vector).mp there
      obtain ⟨row, here, same⟩ := Keyed.holds_iff.mp (covers vector old)
      exact Keyed.holds_iff.mpr ⟨row, (mem_meta row).mpr ⟨here, kept row here same⟩, same⟩

/-- A write that keeps the mirror leaves it sound. -/
theorem writeChunks_sound {sidecar next : Sidecar Vector} {eventIds : List Uuid}
    {items : List (SemanticChunk × Vector)} (sound : sidecar.MirrorSound)
    (written : writeChunks true eventIds items sidecar = some next)
    : next.MirrorSound := by
  unfold writeChunks at written
  split at written
  next => cases written
  next =>
      exact foldlM_invariant_some MirrorSound written (deleteEvents_sound eventIds sound)
        fun _ _ _ _ held inserted => insertChunk_sound held inserted

/-- A write that skips the mirror leaves its descriptions. -/
theorem writeChunks_unmirrored {sidecar next : Sidecar Vector} {eventIds : List Uuid}
    {items : List (SemanticChunk × Vector)}
    (written : writeChunks false eventIds items sidecar = some next)
    : next.metaTable = sidecar.metaTable := by
  unfold writeChunks at written
  rw [if_neg (by simp)] at written
  refine foldlM_invariant_some (fun held => held.metaTable = sidecar.metaTable) written rfl
    fun item _ held after same inserted => ?_
  unfold insertChunk at inserted
  simp only [Bool.false_eq_true, if_false] at inserted
  split at inserted
  next => cases inserted
  next =>
      obtain rfl := Option.some.inj inserted
      exact same

theorem rebuildRows_sound {sidecar next : Sidecar Vector} (sound : sidecar.MirrorSound)
    (rebuilt : sidecar.rebuildRows = some next)
    : next.MirrorSound := by
  have kept := foldlM_invariant_some
    (fun held : Sidecar Vector => held.MirrorSound ∧ held.chunks = sidecar.chunks) rebuilt
    ⟨sound, rfl⟩ fun row member held after good mirrored => ?_
  · exact kept.1
  · obtain ⟨soundAfter, same⟩ := mirrorRow_sound good.1 (good.2 ▸ member) mirrored
    exact ⟨soundAfter, same.trans good.2⟩

/-- A mirror without a mismatch is sound, whatever was written before. -/
theorem mirrorSound_of_inSync [DecidableEq Vector] {sidecar : Sidecar Vector} {runtime : Bool}
    (counted : (sidecar.sqliteVec0Counts runtime).isSome)
    (inSync : sidecar.sqliteVec0InSync runtime = true)
    : sidecar.MirrorSound := by
  unfold sqliteVec0Counts at counted
  unfold sqliteVec0InSync at inSync
  split at counted
  next vec0Meta vec0 isMeta isVec0 =>
      simp only [isMeta, isVec0, Bool.and_eq_true, decide_eq_true_eq] at inSync
      obtain ⟨-, agrees⟩ := inSync
      simp only [mismatchCount, Nat.add_eq_zero_iff, List.countP_eq_zero, Bool.not_eq_true',
        Bool.not_eq_false, Option.any_eq_true, decide_eq_true_eq] at agrees
      obtain ⟨⟨described, known⟩, embedded⟩ := agrees
      have isChunk (row : Vec0MetaRow) (member : row ∈ vec0Meta)
          : ∃ held ∈ sidecar.chunks, held.rowid = row.rowid ∧ held.chunk = row.chunk := by
        obtain ⟨held, here, same⟩ := Keyed.holds_iff.mp (known row member)
        obtain ⟨found, isFound, sameChunk⟩ := described held here
        rw [same, Keyed.find?_eq_some.mpr ⟨member, rfl⟩] at isFound
        obtain rfl := Option.some.inj isFound
        exact ⟨held, here, same, sameChunk.symm⟩
      refine ⟨?_, ?_, ?_⟩ <;>
        simp only [metaTable, vecTable, isMeta, isVec0, Option.getD_some]
      · exact isChunk
      · intro row _ vector there held here same sameRowid
        obtain ⟨found, isFound, sameEmbedding⟩ := embedded held here
        rw [sameRowid, ← same, Keyed.find?_eq_some.mpr ⟨there, rfl⟩] at isFound
        obtain rfl := Option.some.inj isFound
        exact sameEmbedding
      · refine .inl fun row member => ?_
        obtain ⟨held, here, same, -⟩ := isChunk row member
        obtain ⟨vector, isVector, -⟩ := embedded held here
        obtain ⟨there, sameRowid⟩ := Keyed.find?_eq_some.mp isVector
        exact Keyed.holds_iff.mpr ⟨vector, there, sameRowid.trans same⟩
  next => cases counted


end Sidecar

-----------------------------------------------------------------------------------------
-- Runs
-----------------------------------------------------------------------------------------

/-- The sidecar, and what each process has left of its call. -/
structure SidecarWorld (Process Vector : Type) where
  sidecar : Sidecar Vector
  pending : Process → List (SidecarTransaction Vector)

inductive SidecarAction (Process Vector : Type) where
  | start (process : Process) (call : SidecarCall Vector)
  | advance (process : Process)
  | crash (process : Process)
  /-- `search_with_event_filter` over all events. -/
  | search (process : Process) (query : Vector) (limit : Nat)

section Runs

variable {Process Vector : Type} [DecidableEq Process] [DecidableEq Vector]
  (runtime : Process → Bool)

/-- No sidecar was opened before. -/
def SidecarWorld.initial : SidecarWorld Process Vector := ⟨Sidecar.empty, fun _ => []⟩

/-- One action. A process has one call at a time. -/
def SidecarWorld.step (world : SidecarWorld Process Vector)
    : SidecarAction Process Vector → Option (SidecarWorld Process Vector)
  | .start process call =>
      if (world.pending process).isEmpty then
        some
          { world with
            pending :=
              Function.update world.pending process (call.transactions (runtime process)) }
      else none
  | .advance process =>
      match world.pending process with
      | [] => none
      | transaction :: rest =>
          match transaction.perform (runtime process) world.sidecar with
          | some (sidecar, next) =>
              some ⟨sidecar, Function.update world.pending process (next ++ rest)⟩
          | none => some { world with pending := Function.update world.pending process [] }
  | .crash process => some { world with pending := Function.update world.pending process [] }
  | .search _ _ _ => some world

/-- What a transaction does to the record of a bypassed mirror. A write that skips the mirror while
it has rows sets it; the record ends when the descriptions are dropped, or when the test of an open
finds no mismatch.
-/
def SidecarTransaction.bypasses (runtime : Bool) (sidecar : Sidecar Vector) (bypassed : Bool)
    : SidecarTransaction Vector → Bool
  | write false _ _ => bypassed || !sidecar.metaTable.rows.isEmpty
  | dropVec0Meta => false
  | checkSync =>
      bypassed && !((sidecar.sqliteVec0Counts runtime).isSome && sidecar.sqliteVec0InSync runtime)
  | _ => bypassed

/-- The record after a transaction; one that fails leaves it. -/
def SidecarTransaction.watch (runtime : Bool) (sidecar : Sidecar Vector) (bypassed : Bool)
    (transaction : SidecarTransaction Vector)
    : Bool :=
  if (transaction.perform runtime sidecar).isSome
  then transaction.bypasses runtime sidecar bypassed
  else bypassed

/-- A world, and whether its mirror was bypassed since it was last dropped or found in sync. -/
structure WatchedSidecar (Process Vector : Type) where
  world : SidecarWorld Process Vector
  bypassed : Bool

/-- The record after an action. -/
def WatchedSidecar.bypassedAfter (watched : WatchedSidecar Process Vector)
    : SidecarAction Process Vector → Bool
  | .advance process =>
      match watched.world.pending process with
      | [] => watched.bypassed
      | transaction :: _ =>
          transaction.watch (runtime process) watched.world.sidecar watched.bypassed
  | .start _ _ => watched.bypassed
  | .crash _ => watched.bypassed
  | .search _ _ _ => watched.bypassed

def WatchedSidecar.step (watched : WatchedSidecar Process Vector)
    (action : SidecarAction Process Vector)
    : Option (WatchedSidecar Process Vector) :=
  (watched.world.step runtime action).map (⟨·, watched.bypassedAfter runtime action⟩)

variable {runtime}

/-- One transaction keeps the mirror sound, or it bypasses the mirror. -/
theorem SidecarTransaction.perform_sound {runtime : Bool} {sidecar next : Sidecar Vector}
    {transaction : SidecarTransaction Vector} {more : List (SidecarTransaction Vector)}
    {bypassed : Bool} (sound : bypassed = false → sidecar.MirrorSound)
    (performed : transaction.perform runtime sidecar = some (next, more))
    (kept : transaction.bypasses runtime sidecar bypassed = false)
    : next.MirrorSound := by
  cases transaction with
  | checkSchema =>
      cases performed
      exact sound kept
  | dropVec0 =>
      cases performed
      exact Sidecar.mirrorSound_of_noVec0 (sound kept)
  | dropVec0Meta =>
      cases performed
      exact Sidecar.mirrorSound_of_noMeta rfl
  | createVec0Meta =>
      cases performed
      exact ⟨(sound kept).isChunk, (sound kept).isEmbedding, (sound kept).nested⟩
  | createVec0 =>
      cases performed
      exact ⟨(sound kept).isChunk, (sound kept).isEmbedding, (sound kept).nested⟩
  | checkSync =>
      cases performed
      rcases Bool.and_eq_false_iff.mp kept with clean | checked
      · exact sound clean
      · obtain ⟨counted, inSync⟩ := Bool.and_eq_true_iff.mp (Bool.not_eq_eq_eq_not.mp checked)
        exact Sidecar.mirrorSound_of_inSync counted inSync
  | rebuild =>
      obtain ⟨rebuilt, done, same⟩ := Option.map_eq_some_iff.mp performed
      cases same
      exact Sidecar.rebuildRows_sound (sound kept) done
  | plan eventIds items =>
      cases performed
      exact sound kept
  | write maintainSqliteVec0 eventIds items =>
      obtain ⟨written, done, same⟩ := Option.map_eq_some_iff.mp performed
      cases same
      cases maintainSqliteVec0 with
      | true => exact Sidecar.writeChunks_sound (sound kept) done
      | false =>
          obtain ⟨-, vacant⟩ := Bool.or_eq_false_iff.mp kept
          have noRows := List.isEmpty_iff.mp (Bool.not_eq_eq_eq_not.mp vacant)
          refine Sidecar.mirrorSound_of_noMeta ((Sidecar.writeChunks_unmirrored done).trans ?_)
          exact Keyed.ext_rows noRows
  | readStats =>
      cases performed
      exact sound kept
  | writeStats stats =>
      cases performed
      exact ⟨(sound kept).isChunk, (sound kept).isEmbedding, (sound kept).nested⟩

/-- Where the mirror was not bypassed, it is sound. -/
def WatchedSidecar.Safe (watched : WatchedSidecar Process Vector) : Prop :=
  watched.bypassed = false → watched.world.sidecar.MirrorSound

/-- Every action keeps the mirror sound, unless it is bypassed. -/
theorem WatchedSidecar.Safe.step {watched next : WatchedSidecar Process Vector}
    {action : SidecarAction Process Vector} (safe : watched.Safe)
    (taken : watched.step runtime action = some next)
    : next.Safe := by
  obtain ⟨world, moved, rfl⟩ := Option.map_eq_some_iff.mp taken
  intro kept
  cases action with
  | start process call =>
      simp only [SidecarWorld.step] at moved
      split at moved
      next =>
          cases moved
          exact safe kept
      next => cases moved
  | advance process =>
      simp only [SidecarWorld.step] at moved
      simp only [bypassedAfter] at kept
      cases waiting : watched.world.pending process with
      | nil =>
          rw [waiting] at moved
          cases moved
      | cons transaction rest =>
          rw [waiting] at moved kept
          simp only [SidecarTransaction.watch] at moved kept
          cases performed : transaction.perform (runtime process) watched.world.sidecar with
          | none =>
              rw [performed] at moved kept
              cases moved
              exact safe kept
          | some outcome =>
              rw [performed] at moved kept
              cases moved
              exact SidecarTransaction.perform_sound safe performed kept
  | crash process =>
      cases moved
      exact safe kept
  | search process query limit =>
      cases moved
      exact safe kept

variable [UnitVectors Vector]

/-- The search of sqlite-vec finds what the scan finds, or fails: where readiness holds, its answer has
the top events of the chunks, as many as the limit asks for or as there are.
-/
def SidecarWorld.SearchFaithful (runtime : Process → Bool) (world : SidecarWorld Process Vector)
    : SidecarAction Process Vector → Prop
  | .search process query limit =>
      world.sidecar.sqliteVec0SearchReady (runtime process) = true →
        ∀ index hits, world.sidecar.searchSqliteVec0 index query limit = some hits →
          world.sidecar.TopEvents query (max limit 1) hits
          ∧ hits.length = min (max limit 1) world.sidecar.exactStats.embeddedItems
  | _ => True

/-- The same where the mirror was not bypassed and the statistics count all chunks, and with limits
above the largest number of rows taken for that number. Within the limits of the scan, the hits
have the similarities of its hits.
-/
def WatchedSidecar.SearchMatches (runtime : Process → Bool)
    (watched : WatchedSidecar Process Vector)
    : SidecarAction Process Vector → Prop
  | .search process query limit =>
      let sidecar := watched.world.sidecar
      let capped := min (max limit 1) semanticSqliteVec0MaxK
      watched.bypassed = false →
        sidecar.chunks.rows.length ≤ sidecar.cachedOrExactStats.embeddedChunks →
          sidecar.sqliteVec0SearchReady (runtime process) = true →
            ∀ index hits, sidecar.searchSqliteVec0 index query limit = some hits →
              sidecar.TopEvents query capped hits
              ∧ hits.length = min capped sidecar.exactStats.embeddedItems
              ∧ (sidecar.chunks.rows.length ≤ semanticRustFullScanChunkLimit →
                  hits.map (·.similarity)
                    = (sidecar.searchChunks query capped).map (·.similarity))
  | _ => True

omit [DecidableEq Process] [DecidableEq Vector] in
/-- A safe sidecar is searched as the scan would. -/
theorem WatchedSidecar.searchMatches_of_safe {watched : WatchedSidecar Process Vector}
    (safe : watched.Safe) (action : SidecarAction Process Vector)
    : watched.SearchMatches runtime action := by
  cases action with
  | start process call => trivial
  | advance process => trivial
  | crash process => trivial
  | search process query limit =>
      intro clean counted ready index hits answered
      obtain ⟨vec0Meta, vec0, isMeta, isVec0, mirrored⟩ :=
        Sidecar.mirrored_of_ready (safe clean) ready
      have found :=
        Sidecar.searchSqliteVec0_topEvents index isMeta isVec0 mirrored counted query limit answered
      refine ⟨found, ?_, fun within => ?_⟩
      · have events
            : (watched.world.sidecar.chunks.rows.map (Sidecar.hitOf query)).map (·.eventId)
              = watched.world.sidecar.chunks.rows.map (·.chunk.eventId) := by
          rw [List.map_map]
          rfl
        have length := TopGroups.length_eq found
        rw [events] at length
        exact length
      · have scanned := Sidecar.searchChunks_topEvents watched.world.sidecar query
          (min (max limit 1) semanticSqliteVec0MaxK) within
        have positive
            : max (min (max limit 1) semanticSqliteVec0MaxK) 1
              = min (max limit 1) semanticSqliteVec0MaxK :=
          max_eq_left (le_min (le_max_right _ _) (by decide))
        rw [positive] at scanned
        exact TopGroups.scores_eq found scanned

/-- In every run of any processes on a sidecar, with crashes anywhere, each search of sqlite-vec that
readiness admits fails or answers with the top events of the chunks, unless a write has bypassed the
mirror since it was last dropped or found in sync, or the statistics count too few chunks.
-/
theorem searches_topEvents (runtime : Process → Bool) (actions : List (SidecarAction Process Vector))
    : AllSteps (WatchedSidecar.step runtime) (WatchedSidecar.SearchMatches runtime)
        ⟨SidecarWorld.initial, false⟩ actions :=
  allSteps_of_invariant WatchedSidecar.Safe (fun _ _ _ safe taken => safe.step taken)
    (fun _ action safe => WatchedSidecar.searchMatches_of_safe safe action) actions fun _ =>
      Sidecar.mirrorSound_of_noMeta rfl

end Runs

-----------------------------------------------------------------------------------------
-- A write past the mirror
-----------------------------------------------------------------------------------------

/-- Two orthogonal embeddings. -/
inductive Axis where
  | first | second
deriving DecidableEq, Repr

instance : UnitVectors Axis where
  dotProduct left right := if left = right then 1 else 0
  bounded left right := by split <;> norm_num

/-- The index that sorts all rows by their distances. -/
def exactIndex : Vec0Index Axis where
  nearest rows query k := newest (fun row => -Sidecar.cosineDistance query row.embedding) k rows
  isNearest rows _ k := isNearest_newest rows k

/-- The only chunk of an event, before and after the event was edited. -/
def editedChunk (sourceTextHash : String) : SemanticChunk where
  eventId := ⟨"00000000-0000-7000-8000-0000000000e1", by decide, by decide⟩
  historyRecordId := none
  sessionId := none
  eventSeq := 1
  chunkIndex := 0
  sourceTextHash := sourceTextHash
  startChar := 0
  endChar := 4

/-- One process with the runtime opens the sidecar and embeds the event. Another one without the
runtime embeds it again.
-/
def writePastMirror : List (SidecarAction Bool Axis) :=
  [.start true .openStore, .advance true, .advance true, .advance true, .advance true,
    .start true (.upsert [(editedChunk "before", .first)]), .advance true, .advance true,
    .advance true, .advance true,
    .start false (.upsert [(editedChunk "after", .second)]), .advance false, .advance false,
    .advance false, .advance false]

/-- The rows of the mirror are as many as before, and stale: the search of the first process answers
with the old embedding.
-/
theorem writePastMirror_searchStale
    : ¬AllSteps (SidecarWorld.step id) (SidecarWorld.SearchFaithful id) SidecarWorld.initial
        (writePastMirror ++ [.search true .second 1]) := by
  intro all
  have observed
      : (run (SidecarWorld.step id) SidecarWorld.initial writePastMirror).map
            (fun world =>
              (world.sidecar.sqliteVec0SearchReady true, world.sidecar.chunks.rows.length,
                (world.sidecar.searchSqliteVec0 exactIndex .second 1).map (·.map (·.similarity)),
                (world.sidecar.searchChunks .second 1).map (·.similarity)))
          = some (true, 1, some [0], [1]) := by
    decide +kernel
  obtain ⟨world, ran, same⟩ := Option.map_eq_some_iff.mp observed
  simp only [Prod.mk.injEq] at same
  obtain ⟨ready, one, stale, current⟩ := same
  obtain ⟨hits, answered, similarities⟩ := Option.map_eq_some_iff.mp stale
  have faithful : world.SearchFaithful id (.search true .second 1) := all.after ran rfl
  have within : world.sidecar.chunks.rows.length ≤ semanticRustFullScanChunkLimit := by
    rw [one]
    decide
  have scanned := Sidecar.searchChunks_topEvents world.sidecar .second 1 within
  have equal := TopGroups.scores_eq (faithful ready exactIndex hits answered).1 scanned
  rw [similarities, current] at equal
  exact absurd equal (by decide)

/-- Before that write, the search of the first process answers with the event. -/
theorem embeddedEvent_searched
    : ∃ watched hits,
        run (WatchedSidecar.step id) ⟨SidecarWorld.initial, false⟩ (writePastMirror.take 10)
          = some watched
        ∧ watched.world.sidecar.searchSqliteVec0 exactIndex .first 1 = some hits
        ∧ watched.world.sidecar.TopEvents .first 1 hits
        ∧ hits.map (·.eventId) = [(editedChunk "before").eventId] := by
  have observed
      : (run (WatchedSidecar.step id) ⟨SidecarWorld.initial, false⟩ (writePastMirror.take 10)).map
            (fun watched =>
              (!watched.bypassed && watched.world.sidecar.sqliteVec0SearchReady true
                  && watched.world.sidecar.chunks.rows.length
                    ≤ watched.world.sidecar.cachedOrExactStats.embeddedChunks,
                (watched.world.sidecar.searchSqliteVec0 exactIndex .first 1).map
                  (·.map (·.eventId))))
          = some (true, some [(editedChunk "before").eventId]) := by
    decide +kernel
  obtain ⟨watched, ran, same⟩ := Option.map_eq_some_iff.mp observed
  obtain ⟨checked, answer⟩ := Prod.mk.inj same
  simp only [Bool.and_eq_true, Bool.not_eq_true', decide_eq_true_eq] at checked
  obtain ⟨⟨clean, ready⟩, counted⟩ := checked
  obtain ⟨hits, answered, events⟩ := Option.map_eq_some_iff.mp answer
  have all := searches_topEvents id (writePastMirror.take 10 ++ [.search true Axis.first 1])
  have found := (all.after ran rfl) clean counted ready exactIndex hits answered
  exact ⟨watched, hits, ran, answered, found.1, events⟩

end CtxRemote.Semantic
