import CtxRemote.Semantic.Sidecar

/-! When the search of sqlite-vec answers what the scan of the chunks does. Readiness compares counts
of rows only; what it needs beside that is a mirror whose rows, however many there are, are rows of
chunks.
-/

namespace CtxRemote.Semantic
open CtxRemote.Library
open CtxRemote.Store (Uuid)

namespace Sidecar

variable {Vector : Type}

-----------------------------------------------------------------------------------------
-- The mirror
-----------------------------------------------------------------------------------------

/-- `event_embedding_vec0_meta`, a missing table taken for an empty one. -/
def metaTable (sidecar : Sidecar Vector) : Keyed Vec0MetaRow (·.rowid) :=
  sidecar.vec0Meta.getD Keyed.empty

/-- `event_embedding_vec0`, a missing table taken for an empty one. -/
def vecTable (sidecar : Sidecar Vector) : Keyed (Vec0Row Vector) (·.rowid) :=
  sidecar.vec0.getD Keyed.empty

/-- What the mirror says is true, though it need not say all: each of its rows that a search can
return is a chunk, and one of its tables covers the other.
-/
structure MirrorSound (sidecar : Sidecar Vector) : Prop where
  isChunk :
    ∀ row ∈ sidecar.metaTable, ∃ held ∈ sidecar.chunks, held.rowid = row.rowid ∧ held.chunk = row.chunk
  isEmbedding :
    ∀ row ∈ sidecar.metaTable, ∀ vector ∈ sidecar.vecTable, ∀ held ∈ sidecar.chunks,
      vector.rowid = row.rowid → held.rowid = row.rowid → vector.embedding = held.embedding
  nested :
    (∀ row ∈ sidecar.metaTable, sidecar.vecTable.holds row.rowid = true)
    ∨ ∀ vector ∈ sidecar.vecTable, sidecar.metaTable.holds vector.rowid = true

/-- Both tables are there, and have the rows of the chunks. -/
structure Mirrored (sidecar : Sidecar Vector) (vec0Meta : Keyed Vec0MetaRow (·.rowid))
    (vec0 : Keyed (Vec0Row Vector) (·.rowid))
    : Prop where
  isMeta : ∀ row ∈ sidecar.chunks, vec0Meta.find? row.rowid = some ⟨row.rowid, row.chunk⟩
  isVec0 : vec0.rows.Perm (sidecar.chunks.rows.map fun row => ⟨row.rowid, row.embedding⟩)

/-- Among rows with distinct keys, as many as another table has with keys of that table are all of
them.
-/
theorem holds_of_length {First Second : Type} {first : First → Nat} {second : Second → Nat}
    {left : Keyed First first} {right : Keyed Second second}
    (inside : ∀ row ∈ left, right.holds (first row) = true)
    (many : right.rows.length ≤ left.rows.length) {row : Second} (member : row ∈ right)
    : left.holds (second row) = true := by
  have keys : left.rows.map first ⊆ right.rows.map second := by
    intro key present
    obtain ⟨held, here, rfl⟩ := List.mem_map.mp present
    obtain ⟨other, there, same⟩ := Keyed.holds_iff.mp (inside held here)
    exact List.mem_map.mpr ⟨other, there, same⟩
  have all := (List.subperm_of_subset left.distinct keys).perm_of_length_le (by simpa using many)
  obtain ⟨held, here, same⟩ := List.mem_map.mp (all.mem_iff.mpr (List.mem_map_of_mem member))
  exact Keyed.holds_iff.mpr ⟨held, here, same⟩

/-- Readiness is a comparison of counts. -/
theorem tables_of_ready {sidecar : Sidecar Vector} {runtime : Bool}
    (ready : sidecar.sqliteVec0SearchReady runtime = true)
    : ∃ vec0Meta vec0, sidecar.vec0Meta = some vec0Meta ∧ sidecar.vec0 = some vec0
        ∧ vec0Meta.rows.length = sidecar.chunks.rows.length
        ∧ vec0.rows.length = sidecar.chunks.rows.length := by
  unfold sqliteVec0SearchReady sqliteVec0Counts at ready
  cases runtime with
  | false => cases ready
  | true =>
      cases isMeta : sidecar.vec0Meta with
      | none =>
          rw [isMeta] at ready
          cases ready
      | some vec0Meta =>
          cases isVec0 : sidecar.vec0 with
          | none =>
              rw [isMeta, isVec0] at ready
              cases ready
          | some vec0 =>
              rw [isMeta, isVec0] at ready
              simp only [Bool.and_eq_true, decide_eq_true_eq] at ready
              exact ⟨vec0Meta, vec0, rfl, rfl, ready.1.2, ready.2⟩

/-- Equal counts of a sound mirror are a full mirror. -/
theorem mirrored_of_ready {sidecar : Sidecar Vector} (sound : sidecar.MirrorSound) {runtime : Bool}
    (ready : sidecar.sqliteVec0SearchReady runtime = true)
    : ∃ vec0Meta vec0, sidecar.vec0Meta = some vec0Meta ∧ sidecar.vec0 = some vec0
        ∧ sidecar.Mirrored vec0Meta vec0 := by
  obtain ⟨vec0Meta, vec0, isMeta, isVec0, metaRows, vecRows⟩ := tables_of_ready ready
  have sameMeta : sidecar.metaTable = vec0Meta := by rw [metaTable, isMeta, Option.getD_some]
  have sameVec0 : sidecar.vecTable = vec0 := by rw [vecTable, isVec0, Option.getD_some]
  obtain ⟨isChunk, isEmbedding, nested⟩ := sound
  rw [sameMeta, sameVec0] at nested isEmbedding
  rw [sameMeta] at isChunk
  refine ⟨vec0Meta, vec0, isMeta, isVec0, ?_⟩
  have metaInside (row : Vec0MetaRow) (member : row ∈ vec0Meta)
      : sidecar.chunks.holds row.rowid = true := by
    obtain ⟨held, here, same, -⟩ := isChunk row member
    exact Keyed.holds_iff.mpr ⟨held, here, same⟩
  have hasMeta (row : ChunkRow Vector) (member : row ∈ sidecar.chunks)
      : vec0Meta.find? row.rowid = some ⟨row.rowid, row.chunk⟩ := by
    obtain ⟨found, here, same⟩ :=
      Keyed.holds_iff.mp (holds_of_length metaInside metaRows.ge member)
    obtain ⟨held, there, sameRowid, sameChunk⟩ := isChunk found here
    obtain rfl := Keyed.eq_of_key there member (sameRowid.trans same)
    exact Keyed.find?_eq_some.mpr ⟨by rw [sameChunk, ← same]; exact here, rfl⟩
  -- of two tables with as many rows, the one that covers the other is covered by it
  have hasVec0 (row : Vec0MetaRow) (member : row ∈ vec0Meta) : vec0.holds row.rowid = true := by
    rcases nested with covered | covers
    · exact covered row member
    · exact holds_of_length covers (metaRows.trans vecRows.symm).le member
  have entry (row : ChunkRow Vector) (member : row ∈ sidecar.chunks)
      : (⟨row.rowid, row.embedding⟩ : Vec0Row Vector) ∈ vec0 := by
    have here := (Keyed.find?_eq_some.mp (hasMeta row member)).1
    obtain ⟨vector, there, same⟩ := Keyed.holds_iff.mp (hasVec0 _ here)
    have equal := isEmbedding _ here vector there row member same rfl
    obtain ⟨rowid, embedding⟩ := vector
    cases same
    cases equal
    exact there
  refine ⟨hasMeta, ?_⟩
  have distinct
      : (sidecar.chunks.rows.map fun row => (⟨row.rowid, row.embedding⟩ : Vec0Row Vector)).Nodup := by
    refine List.Nodup.of_map (·.rowid) ?_
    rw [List.map_map]
    exact sidecar.chunks.distinct
  have inside
      : (sidecar.chunks.rows.map fun row => (⟨row.rowid, row.embedding⟩ : Vec0Row Vector))
        ⊆ vec0.rows := by
    intro vector member
    obtain ⟨row, here, rfl⟩ := List.mem_map.mp member
    exact entry row here
  exact ((List.subperm_of_subset distinct inside).perm_of_length_le (by simp [vecRows])).symm

-----------------------------------------------------------------------------------------
-- The searches
-----------------------------------------------------------------------------------------

variable [UnitVectors Vector]

/-- The top events of the chunks for a query. -/
def TopEvents (sidecar : Sidecar Vector) (query : Vector) (limit : Nat)
    (hits : List SemanticVectorHit)
    : Prop :=
  TopGroups (·.eventId) (·.similarity) (sidecar.chunks.rows.map (hitOf query)) limit hits

/-- The scan finds the top events of a sidecar that its limits do not cut. -/
theorem searchChunks_topEvents (sidecar : Sidecar Vector) (query : Vector) (limit : Nat)
    (within : sidecar.chunks.rows.length ≤ semanticRustFullScanChunkLimit)
    : sidecar.TopEvents query (max limit 1) (sidecar.searchChunks query limit) := by
  have all
      : (newest (·.chunk.eventSeq) semanticRustFullScanChunkLimit sidecar.chunks.rows).Perm
          sidecar.chunks.rows := by
    unfold newest
    rw [List.take_of_length_le ((newestFirst_perm _).length_eq.trans_le within)]
    exact newestFirst_perm _
  exact (topGroups_newest _ _).perm (all.map (hitOf query))

/-- The similarity of a normalized vector survives the way over its distance. -/
theorem clamp_cosineDistance (left right : Vector)
    : max (-1) (min 1 (1 - cosineDistance left right)) = UnitVectors.dotProduct left right := by
  obtain ⟨lower, upper⟩ := UnitVectors.bounded left right
  rw [cosineDistance, sub_sub_cancel, min_eq_right upper, max_eq_right lower]

/-- The rows of a mirror that a query returns are the nearest chunks. -/
theorem vec0Hits_isNearest {sidecar : Sidecar Vector} (index : Vec0Index Vector)
    {vec0Meta : Keyed Vec0MetaRow (·.rowid)} {vec0 : Keyed (Vec0Row Vector) (·.rowid)}
    (mirrored : sidecar.Mirrored vec0Meta vec0) (query : Vector) (k : Nat)
    : IsNearest (·.similarity) (sidecar.chunks.rows.map (hitOf query)) k
        (vec0Hits index vec0Meta vec0 query k) := by
  obtain ⟨rest, same, length, nearer⟩ := index.isNearest vec0.rows query k
  let joined (row : Vec0Row Vector) : Option SemanticVectorHit :=
    (vec0Meta.find? row.rowid).map fun held =>
      held.chunk.hit (max (-1) (min 1 (1 - cosineDistance query row.embedding)))
  -- every row of the mirror joins its chunk, with the similarity of its own embedding
  have joins (row : ChunkRow Vector) (member : row ∈ sidecar.chunks.rows)
      : joined ⟨row.rowid, row.embedding⟩ = some (hitOf query row) := by
    simp only [joined, mirrored.isMeta row member, Option.map_some, clamp_cosineDistance]
    rfl
  have similar {row : Vec0Row Vector} {hit : SemanticVectorHit} (joinsHit : joined row = some hit)
      : hit.similarity = 1 - cosineDistance query row.embedding := by
    obtain ⟨held, -, rfl⟩ := Option.map_eq_some_iff.mp joinsHit
    rw [SemanticChunk.hit, clamp_cosineDistance, cosineDistance, sub_sub_cancel]
  have total (row : Vec0Row Vector) (member : row ∈ index.nearest vec0.rows query k)
      : (joined row).isSome := by
    have inside := mirrored.isVec0.mem_iff.mp (same.mem_iff.mp (List.mem_append_left _ member))
    obtain ⟨chunk, present, rfl⟩ := List.mem_map.mp inside
    rw [joins chunk present, Option.isSome_some]
  have hits
      : (vec0.rows.filterMap joined).Perm (sidecar.chunks.rows.map (hitOf query)) := by
    refine (mirrored.isVec0.filterMap joined).trans ?_
    rw [List.filterMap_map, ← List.filterMap_eq_map]
    exact .of_eq (List.filterMap_congr joins)
  refine ⟨rest.filterMap joined, ?_, ?_, ?_⟩
  · rw [vec0Hits, ← List.filterMap_append]
    exact (same.filterMap joined).trans hits
  · have kept
        : (vec0Hits index vec0Meta vec0 query k).length
          = (index.nearest vec0.rows query k).length := by
      rw [vec0Hits, List.length_filterMap_eq_countP, List.countP_eq_length]
      exact total
    rw [kept, length, mirrored.isVec0.length_eq, List.length_map, List.length_map]
  · intro hit close other far
    obtain ⟨row, near, joinsHit⟩ := List.mem_filterMap.mp close
    obtain ⟨otherRow, beyond, joinsOther⟩ := List.mem_filterMap.mp far
    have order : -cosineDistance query otherRow.embedding ≤ -cosineDistance query row.embedding :=
      nearer row near otherRow beyond
    have first := similar joinsHit
    have second := similar joinsOther
    change other.similarity ≤ hit.similarity
    linarith

/-- The loop stops at enough events, at all rows, or at the largest number. Witness: induction on the
bound of the steps, each of which brings the number of rows closer to the largest one.
-/
theorem growRows_stops (hits : Nat → List SemanticVectorHit) (limit maxK fuel k : Nat)
    (positive : 0 < k) (below : k ≤ maxK) (enough : maxK ≤ k + fuel)
    : ∃ last, growRows hits limit maxK fuel k = (last, hits last) ∧ last ≤ maxK
        ∧ ((bestByEvent (hits last)).length ≥ limit ∨ (hits last).length < last ∨ last ≥ maxK) := by
  induction fuel generalizing k with
  | zero => exact ⟨k, rfl, below, .inr (.inr (by omega))⟩
  | succ fuel ih =>
      unfold growRows
      split
      next stop => exact ⟨k, rfl, below, stop⟩
      next goes =>
          have short : k < maxK := by omega
          exact ih _ (by omega) (by omega) (by omega)

/-- Over a full mirror, and statistics that do not fall behind the chunks, an answer of the search of
sqlite-vec has the top events of the chunks.
-/
theorem searchSqliteVec0_topEvents {sidecar : Sidecar Vector} (index : Vec0Index Vector)
    {vec0Meta : Keyed Vec0MetaRow (·.rowid)} {vec0 : Keyed (Vec0Row Vector) (·.rowid)}
    (isMeta : sidecar.vec0Meta = some vec0Meta) (isVec0 : sidecar.vec0 = some vec0)
    (mirrored : sidecar.Mirrored vec0Meta vec0)
    (counted : sidecar.chunks.rows.length ≤ sidecar.cachedOrExactStats.embeddedChunks)
    (query : Vector) (limit : Nat) {hits : List SemanticVectorHit}
    (answered : sidecar.searchSqliteVec0 index query limit = some hits)
    : sidecar.TopEvents query (min (max limit 1) semanticSqliteVec0MaxK) hits := by
  unfold searchSqliteVec0 at answered
  rw [isMeta, isVec0] at answered
  simp only at answered
  set stats := sidecar.cachedOrExactStats with isStats
  set top := min (max limit 1) semanticSqliteVec0MaxK with isTop
  set maxK := min (max (max stats.embeddedChunks top) 1) semanticSqliteVec0MaxK with isMaxK
  have cap : semanticSqliteVec0MaxK = 4096 := rfl
  obtain ⟨last, grown, below, stops⟩ :=
    growRows_stops (vec0Hits index vec0Meta vec0 query) top maxK maxK (min top maxK) (by omega)
      (by omega) (by omega)
  rw [grown] at answered
  simp only at answered
  split at answered
  next => cases answered
  next complete =>
      obtain rfl := Option.some.inj answered
      refine topGroups_of_nearest (vec0Hits_isNearest index mirrored query last) ?_
      rcases stops with many | all | most
      · exact .inl many
      · exact .inr (.inl all)
      · by_cases few : (bestByEvent (vec0Hits index vec0Meta vec0 query last)).length < top
        · by_cases short : (vec0Hits index vec0Meta vec0 query last).length < last
          · exact .inr (.inl short)
          · -- no error, so the largest number of rows is that of the statistics
            have bounded : stats.embeddedChunks ≤ maxK := by
              by_contra beyond
              exact complete ⟨few, not_lt.mp short, most, not_le.mp beyond⟩
            refine .inr (.inr ?_)
            rw [List.length_map]
            omega
        · exact .inl (not_lt.mp few)

end Sidecar

end CtxRemote.Semantic
