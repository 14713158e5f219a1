import Mathlib.Data.String.Basic
import CtxRemote.Library.Table

/-! The remote projection tables created by `ensure_schema`, with their SQLite constraints.

Text columns compare by code point (SQLite's `BINARY` collation of UTF-8), which is the order
of `String`.
-/

namespace CtxRemote.Turso
open CtxRemote.Library

-----------------------------------------------------------------------------------------
-- ctx_turso_events
-----------------------------------------------------------------------------------------

/-- A row of `ctx_turso_events`. -/
structure EventRow where
  eventId : String
  sessionId : Option String
  provider : String
  role : Option String
  eventType : String
  occurredAtMs : Int
  dedupeKey : Option String
  payloadJson : String
  searchText : String
deriving DecidableEq, Repr

/-- Two rows violate the primary key on `event_id`, or the unique index on `dedupe_key`
`WHERE dedupe_key IS NOT NULL`.
-/
def EventRow.Clash (left right : EventRow) : Prop :=
  left.eventId = right.eventId ∨ left.dedupeKey ≠ none ∧ left.dedupeKey = right.dedupeKey

instance : DecidableRel EventRow.Clash := fun left right =>
  inferInstanceAs
    (Decidable
      (left.eventId = right.eventId
        ∨ left.dedupeKey ≠ none ∧ left.dedupeKey = right.dedupeKey))

instance : Std.Refl EventRow.Clash := ⟨fun _ => .inl rfl⟩

instance : Std.Symm EventRow.Clash where
  symm := fun _ _ clash =>
    clash.imp Eq.symm fun ⟨present, same⟩ => ⟨same ▸ present, same.symm⟩

/-- Rows without a dedupe key clash exactly on the event id. -/
theorem EventRow.clash_of_no_key {left right : EventRow} (noKey : right.dedupeKey = none)
    : left.Clash right ↔ left.eventId = right.eventId := by
  simp only [EventRow.Clash, noKey, or_iff_left_iff_imp]
  exact fun ⟨present, same⟩ => absurd same present

/-- Rows that share a dedupe key clash. -/
theorem EventRow.clash_of_key {left right : EventRow} {key : String}
    (hl : left.dedupeKey = some key) (hr : right.dedupeKey = some key)
    : left.Clash right :=
  .inr ⟨by simp [hl], hl.trans hr.symm⟩

-----------------------------------------------------------------------------------------
-- ctx_turso_event_keys
-----------------------------------------------------------------------------------------

/-- A row of `ctx_turso_event_keys`. -/
structure KeyRow where
  dedupeKey : String
  eventId : String
deriving DecidableEq, Repr

/-- Two rows violate the primary key on `dedupe_key`. -/
def KeyRow.Clash (left right : KeyRow) : Prop := left.dedupeKey = right.dedupeKey

instance : DecidableRel KeyRow.Clash := fun left right =>
  inferInstanceAs (Decidable (left.dedupeKey = right.dedupeKey))

instance : Std.Refl KeyRow.Clash := ⟨fun _ => rfl⟩

instance : Std.Symm KeyRow.Clash := ⟨fun _ _ => Eq.symm⟩

-----------------------------------------------------------------------------------------
-- ctx_turso_search
-----------------------------------------------------------------------------------------

/-- A row of the full-text table `ctx_turso_search`, which has no uniqueness constraint. -/
structure SearchRow where
  eventId : String
  searchText : String
deriving DecidableEq, Repr

/-- The full-text row that belongs to an event row. -/
def EventRow.searchRow (row : EventRow) : SearchRow := ⟨row.eventId, row.searchText⟩

-----------------------------------------------------------------------------------------
-- The projection
-----------------------------------------------------------------------------------------

/-- The three projection tables. `events` and `keys` carry their constraints. -/
structure Projection where
  events : Table EventRow EventRow.Clash
  keys : Table KeyRow KeyRow.Clash
  search : List SearchRow

namespace Projection

/-- The schema right after `ensure_schema` on a fresh database. -/
def empty : Projection := ⟨.empty, .empty, []⟩

/-- `SELECT event_id FROM ctx_turso_event_keys WHERE dedupe_key = ?`. -/
def keyOwner (db : Projection) (key : String) : Option String :=
  (db.keys.rows.find? fun row => row.dedupeKey = key).map (·.eventId)

/-- The owner of a key is the event id of the only key row for it. -/
theorem keyOwner_eq_some {db : Projection} {key id : String}
    : db.keyOwner key = some id ↔ ⟨key, id⟩ ∈ db.keys := by
  constructor
  · intro owner
    obtain ⟨row, found, rfl⟩ := Option.map_eq_some_iff.mp owner
    have matching : row.dedupeKey = key := by simpa using List.find?_some found
    obtain rfl := matching
    exact List.mem_of_find?_eq_some found
  · intro member
    cases found : db.keys.rows.find? fun row => row.dedupeKey = key with
    | none => simpa using List.find?_eq_none.mp found _ member
    | some row =>
        have matching : row.dedupeKey = key := by simpa using List.find?_some found
        have same : row = ⟨key, id⟩ :=
          Table.eq_of_clash (List.mem_of_find?_eq_some found) member matching
        simp [keyOwner, found, same]

/-- A key without owner has no key row. -/
theorem keyOwner_eq_none {db : Projection} {key : String}
    : db.keyOwner key = none ↔ ∀ row ∈ db.keys, row.dedupeKey ≠ key := by
  simp only [keyOwner, Option.map_eq_none_iff, List.find?_eq_none, decide_eq_true_eq,
    Table.mem_def, ne_eq]

/-- An event id is stored when some event row carries it. -/
def Stored (db : Projection) (id : String) : Prop := ∃ row ∈ db.events, row.eventId = id

instance (db : Projection) (id : String) : Decidable (db.Stored id) :=
  inferInstanceAs (Decidable (∃ row ∈ db.events.rows, row.eventId = id))

/-- Event rows with one event id are one row. -/
theorem eq_of_eventId {db : Projection} {left right : EventRow}
    (hl : left ∈ db.events) (hr : right ∈ db.events) (same : left.eventId = right.eventId)
    : left = right :=
  Table.eq_of_clash hl hr (.inl same)

/-- The stored event ids are pairwise different. -/
theorem nodup_eventIds (db : Projection) : (db.events.rows.map (·.eventId)).Nodup :=
  List.pairwise_map.mpr (db.events.distinct.imp fun free same => free (.inl same))

end Projection

end CtxRemote.Turso
