import CtxRemote.Turso.Push

/-! What the statements of one exported event do to the tables, and the facts about keys and
event rows that every batch keeps.
-/

namespace CtxRemote.Turso
open CtxRemote.Library

namespace Projection

/-- An event row with a key owns that key, and the owner of a key has an event row. -/
structure Backed (db : Projection) : Prop where
  keyed : ∀ row ∈ db.events, ∀ key, row.dedupeKey = some key → ⟨key, row.eventId⟩ ∈ db.keys
  owners : ∀ row ∈ db.keys, db.Stored row.eventId

/-- The fresh schema has no rows to back. -/
theorem Backed.empty : Backed Projection.empty where
  keyed := fun _ member => absurd member Table.not_mem_empty
  owners := fun _ member => absurd member Table.not_mem_empty

/-- Claiming an owned key changes nothing. -/
theorem claimKey_owned {db : Projection} {key owner : String} (id : String)
    (owned : db.keyOwner key = some owner)
    : db.claimKey key id = db := by
  have member := keyOwner_eq_some.mp owned
  have clash : KeyRow.Clash ⟨key, owner⟩ ⟨key, id⟩ := rfl
  rw [claimKey, Table.insertOrIgnore_clash member clash]

/-- Claiming a free key adds its row. -/
theorem mem_claimKey {db : Projection} {key id : String} (unowned : db.keyOwner key = none)
    {row : KeyRow}
    : row ∈ (db.claimKey key id).keys ↔ row ∈ db.keys ∨ row = ⟨key, id⟩ := by
  have free : ∀ held ∈ db.keys, ¬ KeyRow.Clash held ⟨key, id⟩ := keyOwner_eq_none.mp unowned
  exact Table.mem_insertOrIgnore.trans (or_congr_right (and_iff_left free))

/-- Who owns a key after some key is claimed. -/
theorem keyOwner_claimKey {db : Projection} {key : String}
    (unowned : db.keyOwner key = none) (id other : String)
    : (db.claimKey key id).keyOwner other = if other = key then some id else db.keyOwner other := by
  split
  case isTrue same =>
    subst same
    exact keyOwner_eq_some.mpr ((mem_claimKey unowned).mpr (.inr rfl))
  case isFalse different =>
    apply Option.ext
    intro owner
    rw [keyOwner_eq_some, keyOwner_eq_some, mem_claimKey unowned, or_iff_left]
    exact fun same => different (congrArg KeyRow.dedupeKey same)

@[simp] theorem keyOwner_insertEvent (db : Projection) (row : EventRow) (key : String)
    : (db.insertEvent row).keyOwner key = db.keyOwner key :=
  rfl

/-- The four ways the statements of one exported event can go. -/
theorem exportEvent_cases (db : Projection) (row : EventRow)
    : (row.dedupeKey = none ∧ db.exportEvent row = db.insertEvent row)
      ∨ ∃ key,
          row.dedupeKey = some key
          ∧ ((∃ owner, db.keyOwner key = some owner ∧ owner ≠ row.eventId
                ∧ db.exportEvent row = db)
            ∨ (db.keyOwner key = some row.eventId ∧ db.exportEvent row = db.insertEvent row)
            ∨ (db.keyOwner key = none
                ∧ db.exportEvent row = (db.claimKey key row.eventId).insertEvent row)) := by
  cases keyed : row.dedupeKey with
  | none => exact .inl ⟨rfl, by simp only [exportEvent, keyed]⟩
  | some key =>
      refine .inr ⟨key, rfl, ?_⟩
      cases owned : db.keyOwner key with
      | none =>
          refine .inr (.inr ⟨rfl, ?_⟩)
          simp only [exportEvent, keyed, keyOwner_claimKey owned, ↓reduceIte]
      | some owner =>
          have same := claimKey_owned row.eventId owned
          by_cases own : owner = row.eventId
          · subst own
            refine .inr (.inl ⟨rfl, ?_⟩)
            simp only [exportEvent, keyed, same, owned, ↓reduceIte]
          · refine .inl ⟨owner, rfl, own, ?_⟩
            simp only [exportEvent, keyed, same, owned, Option.some.injEq, own, ↓reduceIte]

/-- Statements never remove event rows. -/
theorem mem_exportEvent_events {db : Projection} {row held : EventRow}
    (member : held ∈ db.events)
    : held ∈ (db.exportEvent row).events := by
  obtain ⟨_, same⟩ | ⟨key, _, ⟨_, _, _, same⟩ | ⟨_, same⟩ | ⟨_, same⟩⟩ :=
    exportEvent_cases db row
  all_goals rw [same]
  · exact Table.mem_insertOrIgnore_of_mem member
  · exact member
  · exact Table.mem_insertOrIgnore_of_mem member
  · exact Table.mem_insertOrIgnore_of_mem member

/-- Statements never remove key rows. -/
theorem mem_exportEvent_keys {db : Projection} {row : EventRow} {held : KeyRow}
    (member : held ∈ db.keys)
    : held ∈ (db.exportEvent row).keys := by
  obtain ⟨_, same⟩ | ⟨key, _, ⟨_, _, _, same⟩ | ⟨_, same⟩ | ⟨_, same⟩⟩ :=
    exportEvent_cases db row
  all_goals rw [same]
  · exact member
  · exact member
  · exact member
  · exact Table.mem_insertOrIgnore_of_mem member

/-- A stored event row was there before, or is the exported one. -/
theorem mem_or_eq_of_mem_exportEvent {db : Projection} {row found : EventRow}
    (member : found ∈ (db.exportEvent row).events)
    : found ∈ db.events ∨ found = row := by
  obtain ⟨_, same⟩ | ⟨key, _, ⟨_, _, _, same⟩ | ⟨_, same⟩ | ⟨_, same⟩⟩ :=
    exportEvent_cases db row
  all_goals rw [same] at member
  · exact (Table.mem_insertOrIgnore.mp member).imp_right And.left
  · exact .inl member
  · exact (Table.mem_insertOrIgnore.mp member).imp_right And.left
  · exact (Table.mem_insertOrIgnore.mp member).imp_right And.left

theorem Stored.exportEvent {db : Projection} {id : String} (stored : db.Stored id)
    (row : EventRow)
    : (db.exportEvent row).Stored id := by
  obtain ⟨held, member, same⟩ := stored
  exact ⟨held, mem_exportEvent_events member, same⟩

/-- Who owns a key after an exported event: as before, or the event itself where the key was
free and is the event's own.
-/
theorem keyOwner_exportEvent {db : Projection} {row : EventRow} (key : String)
    : (db.exportEvent row).keyOwner key
      = if db.keyOwner key = none ∧ row.dedupeKey = some key then some row.eventId
        else db.keyOwner key := by
  obtain ⟨keyed, same⟩ | ⟨own, keyed, ⟨_, owned, _, same⟩ | ⟨owned, same⟩ | ⟨unowned, same⟩⟩ :=
    exportEvent_cases db row
  all_goals rw [same, keyed]
  · simp
  · split
    case isTrue fresh =>
      obtain ⟨free, eq⟩ := fresh
      simp [Option.some.inj eq ▸ free] at owned
    case isFalse => rfl
  · rw [keyOwner_insertEvent]
    split
    case isTrue fresh =>
      obtain ⟨free, eq⟩ := fresh
      simp [Option.some.inj eq ▸ free] at owned
    case isFalse => rfl
  · have claimed := keyOwner_claimKey unowned row.eventId key
    by_cases eq : key = own
    · subst eq
      simpa [unowned] using claimed
    · simpa [eq, Ne.symm eq] using claimed

/-- Where no other event row holds the new row's key, an insert leaves its id stored. -/
theorem stored_insertEvent {db : Projection} {row : EventRow}
    (sole
      : ∀ held ∈ db.events,
          held.dedupeKey ≠ none → held.dedupeKey = row.dedupeKey → held.eventId = row.eventId)
    : (db.insertEvent row).Stored row.eventId := by
  obtain ⟨held, member, clash⟩ := Table.insertOrIgnore_covers db.events row
  refine ⟨held, member, ?_⟩
  rcases clash with same | ⟨present, same⟩
  · exact same
  · rcases Table.mem_insertOrIgnore.mp member with old | ⟨rfl, _⟩
    · exact sole held old present same
    · rfl

/-- The facts about keys and their owners survive every exported event. Witness: a free key
has no event row, so that the row of a new owner is inserted or its id is stored already.
-/
theorem Backed.exportEvent {db : Projection} (backed : db.Backed) (row : EventRow)
    : (db.exportEvent row).Backed where
  keyed := by
    intro found member key keyed
    have owner : (db.exportEvent row).keyOwner key = some found.eventId := by
      rcases mem_or_eq_of_mem_exportEvent member with old | rfl
      · have before := keyOwner_eq_some.mpr (backed.keyed found old key keyed)
        rw [keyOwner_exportEvent, before]
        simp
      · obtain ⟨none, _⟩ | ⟨own, has, ⟨owner, owned, foreign, same⟩ | ⟨owned, _⟩ | ⟨free, _⟩⟩ :=
          exportEvent_cases db found
        · simp [keyed] at none
        · obtain rfl : own = key := Option.some.inj (has.symm.trans keyed)
          rw [same] at member
          have before := keyOwner_eq_some.mpr (backed.keyed found member own keyed)
          exact absurd (Option.some.inj (owned.symm.trans before)) foreign
        · obtain rfl : own = key := Option.some.inj (has.symm.trans keyed)
          rw [keyOwner_exportEvent, owned]
          simp
        · obtain rfl : own = key := Option.some.inj (has.symm.trans keyed)
          simp [keyOwner_exportEvent, free, keyed]
    exact keyOwner_eq_some.mp owner
  owners := by
    intro held member
    have owner := keyOwner_eq_some.mpr member
    rw [keyOwner_exportEvent] at owner
    split at owner
    case isTrue fresh =>
      obtain ⟨free, keyed⟩ := fresh
      obtain ⟨none, _⟩ | ⟨own, has, ⟨_, owned, _⟩ | ⟨owned, _⟩ | ⟨_, same⟩⟩ :=
        exportEvent_cases db row
      · simp [keyed] at none
      · simp [Option.some.inj (has.symm.trans keyed), free] at owned
      · simp [Option.some.inj (has.symm.trans keyed), free] at owned
      · rw [same, ← Option.some.inj owner]
        refine stored_insertEvent fun other old present eq => ?_
        obtain ⟨key, otherKey⟩ := Option.ne_none_iff_exists'.mp present
        have taken := keyOwner_eq_some.mpr (backed.keyed other old key otherKey)
        have here : key = held.dedupeKey :=
          Option.some.inj (otherKey.symm.trans (eq.trans keyed))
        simp [here, free] at taken
    case isFalse =>
      exact (backed.owners held (keyOwner_eq_some.mp owner)).exportEvent row

/-- The facts about keys and their owners survive a list of exported events. -/
theorem Backed.exportEvents {db : Projection} (backed : db.Backed) (rows : List EventRow)
    : (db.exportEvents rows).Backed := by
  induction rows generalizing db with
  | nil => exact backed
  | cons row rest ih => exact ih (backed.exportEvent row)

theorem mem_exportEvents_events {db : Projection} {rows : List EventRow} {held : EventRow}
    (member : held ∈ db.events)
    : held ∈ (db.exportEvents rows).events := by
  induction rows generalizing db with
  | nil => exact member
  | cons row rest ih => exact ih (mem_exportEvent_events member)

/-- An insert appends the row or nothing. -/
theorem insertEvent_append (db : Projection) (row : EventRow)
    : ∃ added, (db.insertEvent row).events.rows = db.events.rows ++ added
        ∧ ∀ other ∈ added, other = row := by
  by_cases free : ∀ held ∈ db.events, ¬ EventRow.Clash held row
  · exact ⟨[row], Table.insertOrIgnore_free free, by simp⟩
  · simp only [not_forall, not_not, exists_prop] at free
    obtain ⟨held, member, clash⟩ := free
    refine ⟨[], ?_, by simp⟩
    rw [insertEvent, Table.insertOrIgnore_clash member clash, List.append_nil]

/-- Exported events append event rows taken from the list and leave the full-text table alone. -/
theorem exportEvents_append (db : Projection) (rows : List EventRow)
    : (db.exportEvents rows).search = db.search
      ∧ ∃ added, (db.exportEvents rows).events.rows = db.events.rows ++ added
          ∧ ∀ row ∈ added, row ∈ rows := by
  induction rows generalizing db with
  | nil => exact ⟨rfl, [], by simp [exportEvents], by simp⟩
  | cons row rest ih =>
      obtain ⟨untouched, later, grown, fromRest⟩ := ih (db.exportEvent row)
      have first : (db.exportEvent row).search = db.search
          ∧ ∃ added, (db.exportEvent row).events.rows = db.events.rows ++ added
              ∧ ∀ other ∈ added, other = row := by
        obtain ⟨_, same⟩ | ⟨key, _, ⟨_, _, _, same⟩ | ⟨_, same⟩ | ⟨_, same⟩⟩ :=
          exportEvent_cases db row
        all_goals rw [same]
        · exact ⟨rfl, insertEvent_append db row⟩
        · exact ⟨rfl, [], by simp, by simp⟩
        · exact ⟨rfl, insertEvent_append db row⟩
        · exact ⟨rfl, insertEvent_append (db.claimKey key row.eventId) row⟩
      obtain ⟨sameSearch, added, appended, fromRow⟩ := first
      refine ⟨untouched.trans sameSearch, added ++ later, ?_, ?_⟩
      · rw [← List.append_assoc, ← appended]
        exact grown
      · intro other member
        rcases List.mem_append.mp member with here | there
        · exact fromRow other here ▸ List.mem_cons_self
        · exact List.mem_cons_of_mem _ (fromRest other there)

/-- The batch of a page does to `events` and `keys` what its exported events do. -/
theorem commitBatch_events (db : Projection) (rows : List EventRow)
    : (db.commitBatch rows).events = (db.exportEvents rows).events := by
  cases rows <;> rfl

theorem commitBatch_keys (db : Projection) (rows : List EventRow)
    : (db.commitBatch rows).keys = (db.exportEvents rows).keys := by
  cases rows <;> rfl

/-- Backing does not depend on the full-text table. -/
theorem Backed.congr {left right : Projection} (backed : left.Backed)
    (events : right.events = left.events) (keys : right.keys = left.keys)
    : right.Backed where
  keyed := by rw [events, keys]; exact backed.keyed
  owners := by
    rw [keys]
    intro row member
    obtain ⟨held, stored, same⟩ := backed.owners row member
    exact ⟨held, events ▸ stored, same⟩

theorem Backed.commitBatch {db : Projection} (backed : db.Backed) (rows : List EventRow)
    : (db.commitBatch rows).Backed :=
  (backed.exportEvents rows).congr (commitBatch_events db rows) (commitBatch_keys db rows)

end Projection

end CtxRemote.Turso
