import CtxRemote.Library.Loops
import CtxRemote.Store.EventWrites

/-! The event search projection that event writes maintain against the one that
`rebuild_search_projection` makes of the same events table.

The rebuild projects deleted events too, and gives an event without a record of its own the record
of its run, session or run's session; the writers do neither.
-/

namespace CtxRemote.Store
open CtxRemote.Library
open CtxRemote.Turso (trim Visibility SyncState)

/-- A text without a character that is not white space. -/
def Blank (text : String) : Prop := (trim text.toList).isEmpty = true

instance : DecidablePred Blank := fun text =>
  inferInstanceAs (Decidable ((trim text.toList).isEmpty = true))

/-- The projection has the rows that a rebuild would give it. -/
def ProjectionRebuilds (externals : Externals) (db : Database) : Prop :=
  ∃ rebuilt, rebuildSearchProjection externals db = some rebuilt ∧ db.projection.Perm rebuilt

/-- The rebuild sees an event as its writer did: the serialized payload is read back; where the
writer finds nothing to project, because the event is deleted or has a blank preview, the preview
read back is blank; else it is the same preview, and the event is given the record it names itself.
-/
def RebuildsAlike (externals : Externals) (references : References) (event : Event) : Prop :=
  ∃ payload, externals.fromStr event.payload.text = some payload
    ∧ let written :=
        eventSearchPreviewFromPayload event.eventType event.role event.payload .safePreview
      let stored := eventSearchPreviewFromPayload event.eventType event.role payload .safePreview
      (event.sync.deletedAt.isSome ∨ Blank written → Blank stored)
      ∧ (¬ event.sync.deletedAt.isSome → ¬ Blank written →
          stored = written ∧ coalescedRecordId references event.row = event.historyRecordId)

-----------------------------------------------------------------------------------------
-- The rows of one event
-----------------------------------------------------------------------------------------

/-- All rows that are inserted for an event carry its id. -/
theorem eventId_of_mem_searchRows {externals : Externals} {eventId : Uuid}
    {historyRecordId sessionId : Option Uuid} {role : Option EventRole} {eventType : EventType}
    {preview : String} {row : SearchRow}
    (member
      : row ∈ searchRows externals eventId historyRecordId sessionId role eventType preview)
    : row.eventId = eventId := by
  unfold searchRows at member
  split at member
  next => cases member
  next =>
      simp only [List.mem_append, List.mem_ite_nil_left, List.mem_ite_nil_right,
        List.mem_singleton] at member
      rcases member with (rfl | ⟨_, rfl⟩) | ⟨_, rfl⟩ <;> rfl

/-- Two previews of one event give the same rows when both are blank, or when they and the record
are the same. Witness: the row of the full-text table names both.
-/
theorem searchRows_perm_iff {externals : Externals} {eventId : Uuid}
    {leftRecord rightRecord sessionId : Option Uuid} {role : Option EventRole}
    {eventType : EventType} {left right : String}
    : (searchRows externals eventId leftRecord sessionId role eventType left).Perm
        (searchRows externals eventId rightRecord sessionId role eventType right)
      ↔ (Blank left → Blank right)
        ∧ (¬ Blank left → right = left ∧ rightRecord = leftRecord) := by
  have blank (record : Option Uuid) {text : String} (empty : Blank text)
      : searchRows externals eventId record sessionId role eventType text = [] := if_pos empty
  have mem (record : Option Uuid) {text : String} (filled : ¬ Blank text) {row : SearchRow}
      (full : row.table = .eventSearch)
      : row ∈ searchRows externals eventId record sessionId role eventType text
        ↔ row = ⟨.eventSearch, eventId, record, sessionId, role, text, eventType.asStr⟩ := by
    unfold searchRows
    rw [if_neg (show ¬ (trim text.toList).isEmpty = true from filled)]
    simp only [List.mem_append, List.mem_ite_nil_left, List.mem_ite_nil_right, List.mem_singleton]
    constructor
    · rintro ((same | ⟨_, rfl⟩) | ⟨_, rfl⟩)
      · exact same
      · cases full
      · cases full
    · exact fun same => .inl (.inl same)
  by_cases leftBlank : Blank left
  · rw [blank leftRecord leftBlank, List.nil_perm]
    constructor
    · intro none
      refine ⟨fun _ => ?_, fun filled => absurd leftBlank filled⟩
      by_contra rightFilled
      have member := (mem rightRecord rightFilled rfl).mpr rfl
      simp [none] at member
    · exact fun same => blank rightRecord (same.1 leftBlank)
  · constructor
    · intro same
      have member := same.mem_iff.mp ((mem leftRecord leftBlank rfl).mpr rfl)
      have rightFilled : ¬ Blank right := by
        intro rightBlank
        simp [blank rightRecord rightBlank] at member
      have equal := (mem rightRecord rightFilled rfl).mp member
      simp only [SearchRow.mk.injEq] at equal
      exact ⟨fun empty => absurd empty leftBlank,
        fun _ => ⟨equal.2.2.2.2.2.1.symm, equal.2.2.1.symm⟩⟩
    · intro same
      obtain ⟨rfl, rfl⟩ := same.2 leftBlank
      exact .rfl

theorem blank_empty : Blank "" := by decide

/-- A writer inserts the rows of the event's preview, and none for a deleted event. -/
theorem insertedSearchRows_eq {externals : Externals} {event : Event}
    (legal : event.row.checked)
    : insertedSearchRows externals event.id event
      = searchRows externals event.id event.historyRecordId event.sessionId event.role
          event.eventType
          (if event.sync.deletedAt.isSome then ""
            else eventSearchPreviewFromPayload event.eventType event.role event.payload
              .safePreview) := by
  obtain ⟨visible, synced⟩ := EventRow.checked_iff.mp legal
  simp only [Event.row] at visible synced
  unfold insertedSearchRows eventSearchableEventParts
  generalize eventSearchPreviewFromPayload event.eventType event.role event.payload .safePreview
    = preview
  by_cases deleted : event.sync.deletedAt.isSome = true
  · have blank : (trim "".toList).isEmpty = true := blank_empty
    simp only [deleted, Bool.true_or, if_true, Bool.not_false, searchRows, blank]
  · by_cases blank : (trim preview.toList).isEmpty = true
    · simp [deleted, blank, searchRows]
    · simp [deleted, visible, synced, blank]

/-- What the rebuild makes of a written event. -/
theorem rebuiltSearchRows_row {externals : Externals} {references : References} {event : Event}
    : rebuiltSearchRows externals references event.row
      = (externals.fromStr event.payload.text).map fun payload =>
          searchRows externals event.id (coalescedRecordId references event.row) event.sessionId
            event.role event.eventType
            (eventSearchPreviewFromPayload event.eventType event.role payload .safePreview) := by
  unfold rebuiltSearchRows
  simp only [Event.row, Option.map_eq_bind]
  rfl

/-- The rows an event's writer inserts are those the rebuild makes of its row exactly when the
rebuild sees the event alike.
-/
theorem rebuildsAlike_iff {externals : Externals} {references : References} {event : Event}
    (legal : event.row.checked)
    : (∃ rows, rebuiltSearchRows externals references event.row = some rows
        ∧ (insertedSearchRows externals event.id event).Perm rows)
      ↔ RebuildsAlike externals references event := by
  unfold RebuildsAlike
  rw [insertedSearchRows_eq legal, rebuiltSearchRows_row]
  simp only [Option.map_eq_some_iff]
  constructor
  · rintro ⟨rows, ⟨payload, parsed, rfl⟩, same⟩
    refine ⟨payload, parsed, ?_⟩
    rw [searchRows_perm_iff] at same
    by_cases deleted : event.sync.deletedAt.isSome = true
    · rw [if_pos deleted] at same
      exact ⟨fun _ => same.1 blank_empty, fun shown => absurd deleted shown⟩
    · rw [if_neg deleted] at same
      exact ⟨fun either => same.1 (either.resolve_left deleted), fun _ => same.2⟩
  · rintro ⟨payload, parsed, blank, filled⟩
    refine ⟨_, ⟨payload, parsed, rfl⟩, ?_⟩
    rw [searchRows_perm_iff]
    by_cases deleted : event.sync.deletedAt.isSome = true
    · rw [if_pos deleted]
      exact ⟨fun _ => blank (.inl deleted), fun shown => absurd blank_empty shown⟩
    · rw [if_neg deleted]
      exact ⟨fun empty => blank (.inr empty), filled deleted⟩

-----------------------------------------------------------------------------------------
-- The rebuild as a whole
-----------------------------------------------------------------------------------------

/-- The rows of the rebuild are those of the events, where all of them are read back. -/
theorem projectionRebuilds_iff {externals : Externals} {db : Database}
    : ProjectionRebuilds externals db
      ↔ (∀ row ∈ db.events.rows, (rebuiltSearchRows externals db.references row).isSome)
        ∧ db.projection.Perm
            (db.events.rows.flatMap fun row =>
              (rebuiltSearchRows externals db.references row).getD []) := by
  have sorted : (db.events.rows.insertionSort EventRow.before).Perm db.events.rows :=
    List.perm_insertionSort _ _
  unfold ProjectionRebuilds rebuildSearchProjection
  simp only [foldlM_append_eq_some_iff, List.nil_append]
  constructor
  · rintro ⟨_, ⟨readable, rfl⟩, same⟩
    exact ⟨fun row member => readable row (sorted.mem_iff.mpr member),
      same.trans (sorted.flatMap_right _)⟩
  · rintro ⟨readable, same⟩
    exact ⟨_, ⟨fun row member => readable row (sorted.mem_iff.mp member), rfl⟩,
      same.trans (sorted.flatMap_right _).symm⟩

/-- The rebuilt rows of an event carry its id. -/
theorem eventId_of_mem_rebuiltSearchRows {externals : Externals} {references : References}
    {event : EventRow} {row : SearchRow}
    (member : row ∈ (rebuiltSearchRows externals references event).getD [])
    : row.eventId = event.id := by
  unfold rebuiltSearchRows at member
  cases parsed : externals.fromStr event.payloadJson with
  | none => simp [parsed] at member
  | some payload =>
      simp only [parsed, Option.bind_eq_bind, Option.bind_some, Option.pure_def,
        Option.getD_some] at member
      exact eventId_of_mem_searchRows member

-----------------------------------------------------------------------------------------
-- Runs
-----------------------------------------------------------------------------------------

/-- Where the projection is the rebuilt one, without the rows of an event it is that of the other
events.
-/
theorem kept_perm {externals : Externals} {db : Database} {id : Uuid} {kept : List SearchRow}
    (same
      : db.projection.Perm
          (db.events.rows.flatMap fun row =>
            (rebuiltSearchRows externals db.references row).getD []))
    (without
      : kept = db.projection.filter (fun row => row.eventId ≠ id)
        ∨ (kept = db.projection ∧ db.eventById id = none))
    : kept.Perm
        ((db.events.others (·.id) id).flatMap fun row =>
          (rebuiltSearchRows externals db.references row).getD []) := by
  rcases without with rfl | ⟨rfl, fresh⟩
  · refine (same.filter _).trans ?_
    rw [Table.filter_flatMap_key (·.id) (·.eventId) fun row _ member =>
      eventId_of_mem_rebuiltSearchRows member]
    exact .rfl
  · have all : db.events.others (·.id) id = db.events.rows := by
      rw [Table.others, List.filter_eq_self]
      simpa [Database.eventById] using fresh
    rw [all]
    exact same

/-- An accepted write keeps the projection the rebuilt one exactly when the rebuild sees its event
alike.
-/
theorem projectionRebuilds_perform_iff {externals : Externals} {db : Database} {write : EventWrite}
    (rebuilds : ProjectionRebuilds externals db)
    (accepted : write.accepted externals db = true)
    : ProjectionRebuilds externals (write.perform externals db)
      ↔ RebuildsAlike externals db.references write.event := by
  obtain ⟨previous, events, kept, -, legal, -, rows, without, performed⟩ :=
    EventWrite.perform_accepted accepted
  obtain ⟨readable, same⟩ := projectionRebuilds_iff.mp rebuilds
  have keptSame := kept_perm same without
  rw [projectionRebuilds_iff, performed, ← rebuildsAlike_iff legal]
  simp only [references_adjustStats, events_adjustStats, projection_adjustStats, rows,
    List.flatMap_append, List.flatMap_singleton, List.mem_append, List.mem_singleton]
  have split (inserted rebuilt : List SearchRow)
      : (kept ++ inserted).Perm
          (((db.events.others (·.id) write.event.id).flatMap fun row =>
            (rebuiltSearchRows externals db.references row).getD []) ++ rebuilt)
        ↔ inserted.Perm rebuilt := by
    have moved := keptSame.append_right inserted
    exact Iff.trans ⟨moved.symm.trans, moved.trans⟩ (List.perm_append_left_iff _)
  rw [split]
  constructor
  · rintro ⟨readableNext, inserted⟩
    obtain ⟨made, rebuilt⟩ := Option.isSome_iff_exists.mp (readableNext _ (.inr rfl))
    exact ⟨made, rebuilt, by simpa [rebuilt] using inserted⟩
  · rintro ⟨made, rebuilt, inserted⟩
    refine ⟨?_, by simpa [rebuilt] using inserted⟩
    rintro row (other | rfl)
    · exact readable row (List.mem_filter.mp other).1
    · simp [rebuilt]

/-- Every accepted write of a run meets the condition on its event. -/
def AcceptedRebuildAlike (externals : Externals) (db : Database) (write : EventWrite) : Prop :=
  write.accepted externals db = true → RebuildsAlike externals db.references write.event

/-- The maintained projection is the rebuilt one in every state of a run exactly when the rebuild
sees every event that the run stores as its writer did.
-/
theorem allStates_projectionRebuilds_iff {externals : Externals} {db : Database}
    {writes : List EventWrite} (rebuilds : ProjectionRebuilds externals db)
    : AllStates (EventWrite.step externals) (ProjectionRebuilds externals) db writes
      ↔ AllSteps (EventWrite.step externals) (AcceptedRebuildAlike externals) db writes := by
  refine allStates_iff_allSteps (fun _ => True) (fun _ _ _ _ _ => trivial) ?_ trivial rebuilds
  intro db write next _ rebuilds taken
  obtain rfl : write.perform externals db = next := Option.some.inj taken
  unfold AcceptedRebuildAlike
  cases accepted : write.accepted externals db with
  | true => simpa using projectionRebuilds_perform_iff rebuilds accepted
  | false => simpa [EventWrite.perform_refused accepted] using rebuilds

/-- A user message, `hi`. -/
def greeting : Event where
  id := ⟨"00000000-0000-0000-0000-000000000001", by decide, by decide⟩
  seq := 1
  historyRecordId := none
  sessionId := none
  runId := none
  eventType := .message
  role := some .user
  occurredAt := ⟨0⟩
  captureSourceId := none
  payload := .string "hi"
  payloadBlobId := none
  dedupeKey := none
  sync := {}

/-- A JSON reader for the payload of `greeting`, and the analyzer on texts of word scripts. -/
def greetingExternals : Externals where
  fromStr := fun text => if text = "\"hi\"" then some (.string "hi") else none
  scriptgramIndexText := fun _ => ""

/-- The answer of an assistant. -/
def farewell : Event :=
  { greeting with
    id := ⟨"00000000-0000-0000-0000-000000000003", by decide, by decide⟩
    seq := 2
    role := some .assistant
    payload := .string "bye" }

/-- A JSON reader for the payloads of both. -/
def farewellExternals : Externals where
  fromStr := fun text =>
    if text = "\"hi\"" then some (.string "hi")
    else if text = "\"bye\"" then some (.string "bye")
    else if text = "\"\"" then some (.string "")
    else if text = "\x7b\x7d" then some (.object [])
    else none
  scriptgramIndexText := fun _ => ""

/-- A database of one session, which has a record. -/
def recordedSession : Database :=
  { Database.empty with
    references :=
      { historyRecords := [greeting.id]
        captureSources := []
        artifacts := []
        sessions := [⟨farewell.id, some greeting.id⟩]
        runs := [] } }

/-- `greeting` in that session. -/
def recordedGreeting : Event :=
  { greeting with historyRecordId := some greeting.id, sessionId := some farewell.id }

/-- An event with a record, an answer without, and the first event again with another text. -/
def recordedWrites : List EventWrite :=
  [.insert recordedGreeting, .upsert farewell, .upsert { recordedGreeting with payload := .string "bye" }]

theorem recordedWrites_projectionRebuilds
    : AllStates (EventWrite.step farewellExternals) (ProjectionRebuilds farewellExternals)
        recordedSession recordedWrites
      ∧ (run (EventWrite.step farewellExternals) recordedSession recordedWrites).map
          (fun db => db.projection.map fun row => (row.eventId, row.historyRecordId, row.text))
        = some
          [(farewell.id, none, "bye"), (farewell.id, none, "bye"),
            (greeting.id, some greeting.id, "bye"), (greeting.id, some greeting.id, "bye")] := by
  refine ⟨(allStates_projectionRebuilds_iff ⟨[], rfl, .rfl⟩).mpr ?_, by decide⟩
  refine AllSteps.cons rfl ?_ (AllSteps.cons rfl ?_ (AllSteps.cons rfl ?_ trivial))
  · exact fun _ => ⟨.string "hi", rfl, fun either => absurd either (by decide), fun _ _ => ⟨rfl, by decide⟩⟩
  · exact fun _ => ⟨.string "bye", rfl, fun either => absurd either (by decide), fun _ _ => ⟨rfl, by decide⟩⟩
  · exact fun _ => ⟨.string "bye", rfl, fun either => absurd either (by decide), fun _ _ => ⟨rfl, by decide⟩⟩

/-- A rebuild projects the deleted message that its writer left out. -/
theorem deleted_greeting_not_projectionRebuilds
    : ¬ AllStates (EventWrite.step greetingExternals) (ProjectionRebuilds greetingExternals) .empty
        [.upsert { greeting with sync := { deletedAt := some ⟨0⟩ } }] := by
  intro rebuilds
  obtain ⟨rebuilt, made, same⟩ := (rebuilds.2 _ rfl).start
  have nothing : rebuilt = [] := by
    simpa using same.symm.eq_nil
  have projected : (rebuildSearchProjection greetingExternals
      ((EventWrite.upsert { greeting with sync := { deletedAt := some ⟨0⟩ } }).perform
        greetingExternals .empty)).map (·.isEmpty) = some false := by
    decide
  rw [made, nothing] at projected
  cases projected

end CtxRemote.Store
