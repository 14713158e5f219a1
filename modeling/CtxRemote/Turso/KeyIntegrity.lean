import CtxRemote.Turso.ExportEffects
import CtxRemote.Turso.Interleaving

/-! Agreement of `ctx_turso_event_keys` with `ctx_turso_events`.

An event id that comes back with another dedupe key claims the new key while its stored row
keeps the old one. The batches that do this are described by the tables before the batch alone,
and they are the only steps of any interleaving that break the agreement.
-/

namespace CtxRemote.Turso
open CtxRemote.Library

namespace Projection

/-- Every key row has an event row with its event id and its key. -/
def KeyIntegrity (db : Projection) : Prop :=
  ∀ held ∈ db.keys, ∃ row ∈ db.events,
    row.eventId = held.eventId ∧ row.dedupeKey = some held.dedupeKey

instance (db : Projection) : Decidable db.KeyIntegrity :=
  inferInstanceAs
    (Decidable
      (∀ held ∈ db.keys.rows, ∃ row ∈ db.events.rows,
        row.eventId = held.eventId ∧ row.dedupeKey = some held.dedupeKey))

/-- No two event rows carry the same non-null dedupe key. -/
def UniqueKeys (db : Projection) : Prop :=
  db.events.rows.Pairwise fun left right =>
    left.dedupeKey ≠ none → left.dedupeKey ≠ right.dedupeKey

/-- The row of a batch that first claims a free key belongs to an event id that is not stored. -/
def ClaimsUnstored (db : Projection) (rows : List EventRow) : Prop :=
  ∀ before row after key,
    rows = before ++ row :: after
    → row.dedupeKey = some key
    → db.keyOwner key = none
    → (∀ earlier ∈ before, earlier.dedupeKey ≠ some key)
    → ¬ db.Stored row.eventId

/-- The unique index of the table gives key uniqueness in every state. -/
theorem uniqueKeys (db : Projection) : db.UniqueKeys :=
  db.events.distinct.imp fun free present same => free (.inr ⟨present, same⟩)

theorem KeyIntegrity.empty : Projection.empty.KeyIntegrity :=
  fun _ member => absurd member Table.not_mem_empty

/-- A broken key row is never mended: the event id of its owner is stored, so no later
statement inserts a row for it.
-/
theorem KeyIntegrity.of_exportEvent {db : Projection} (backed : db.Backed) {row : EventRow}
    (sound : (db.exportEvent row).KeyIntegrity)
    : db.KeyIntegrity := by
  intro held member
  obtain ⟨found, inside, sameId, sameKey⟩ := sound held (mem_exportEvent_keys member)
  obtain ⟨stored, old, storedId⟩ := backed.owners held member
  have same : stored = found :=
    eq_of_eventId (mem_exportEvent_events old) inside (storedId.trans sameId.symm)
  exact ⟨stored, old, storedId, same ▸ sameKey⟩

/-- A broken key row survives every list of exported events. -/
theorem KeyIntegrity.of_exportEvents {db : Projection} (backed : db.Backed)
    (rows : List EventRow) (sound : (db.exportEvents rows).KeyIntegrity)
    : db.KeyIntegrity := by
  induction rows generalizing db with
  | nil => exact sound
  | cons row rest ih => exact (ih (backed.exportEvent row) sound).of_exportEvent backed

/-- One exported event keeps the agreement exactly when it does not claim a free key for a
stored event id. Witness: a claim for a stored id leaves a row with another key in place; a
claim for a new id is followed by the insertion of its row.
-/
theorem keyIntegrity_exportEvent_iff {db : Projection} (backed : db.Backed)
    (sound : db.KeyIntegrity) (row : EventRow)
    : (db.exportEvent row).KeyIntegrity
      ↔ ∀ key, row.dedupeKey = some key → db.keyOwner key = none → ¬ db.Stored row.eventId := by
  constructor
  · intro after key keyed free stored
    have owner : (db.exportEvent row).keyOwner key = some row.eventId := by
      simp [keyOwner_exportEvent, free, keyed]
    obtain ⟨found, inside, sameId, sameKey⟩ := after _ (keyOwner_eq_some.mp owner)
    obtain ⟨held, old, heldId⟩ := stored
    have same : held = found :=
      eq_of_eventId (mem_exportEvent_events old) inside (heldId.trans sameId.symm)
    subst same
    have owned := keyOwner_eq_some.mpr (backed.keyed held old key sameKey)
    simp [free] at owned
  · intro unstored held member
    have owner := keyOwner_eq_some.mpr member
    rw [keyOwner_exportEvent] at owner
    split at owner
    case isFalse =>
      obtain ⟨found, inside, same⟩ := sound held (keyOwner_eq_some.mp owner)
      exact ⟨found, mem_exportEvent_events inside, same⟩
    case isTrue fresh =>
      obtain ⟨free, keyed⟩ := fresh
      obtain ⟨found, inside, sameId⟩ := (backed.exportEvent row).owners held member
      have here : held.eventId = row.eventId := (Option.some.inj owner).symm
      rcases mem_or_eq_of_mem_exportEvent inside with old | rfl
      · exact absurd ⟨found, old, sameId.trans here⟩ (unstored held.dedupeKey keyed free)
      · exact ⟨found, inside, sameId, keyed⟩

/-- The condition on a batch splits into the condition on its first row and the condition on
the rest after that row, because the event ids of a batch are pairwise different.
-/
theorem claimsUnstored_cons {db : Projection} {row : EventRow} {rest : List EventRow}
    (alone : ∀ later ∈ rest, later.eventId ≠ row.eventId)
    : db.ClaimsUnstored (row :: rest)
      ↔ (∀ key, row.dedupeKey = some key → db.keyOwner key = none → ¬ db.Stored row.eventId)
        ∧ (db.exportEvent row).ClaimsUnstored rest := by
  have storedAfter
      : ∀ later ∈ rest, (db.exportEvent row).Stored later.eventId → db.Stored later.eventId := by
    rintro later member ⟨held, inside, same⟩
    rcases mem_or_eq_of_mem_exportEvent inside with old | rfl
    · exact ⟨held, old, same⟩
    · exact absurd same.symm (alone later member)
  constructor
  · intro whole
    refine ⟨fun key keyed free => whole [] row rest key rfl keyed free (by simp), ?_⟩
    intro before later after key split keyed free first stored
    have freeBefore : db.keyOwner key = none ∧ row.dedupeKey ≠ some key := by
      rw [keyOwner_exportEvent] at free
      split at free
      case isTrue => cases free
      case isFalse other => exact ⟨free, fun own => other ⟨free, own⟩⟩
    have member : later ∈ rest := by simp [split]
    refine whole (row :: before) later after key (by simp [split]) keyed freeBefore.1 ?_
      (storedAfter later member stored)
    intro earlier inside
    rcases List.mem_cons.mp inside with rfl | inside
    · exact freeBefore.2
    · exact first earlier inside
  · rintro ⟨head, tail⟩ before later after key split keyed free first stored
    cases before with
    | nil =>
        obtain ⟨rfl, rfl⟩ : row = later ∧ rest = after := by simpa using split
        exact head key keyed free stored
    | cons earlier before =>
        obtain ⟨rfl, rfl⟩ : row = earlier ∧ rest = before ++ later :: after := by
          simpa using split
        have own : row.dedupeKey ≠ some key := first row List.mem_cons_self
        refine tail before later after key rfl keyed ?_ ?_ (stored.exportEvent row)
        · rw [keyOwner_exportEvent, if_neg fun fresh => own fresh.2]
          exact free
        · exact fun earlier inside => first earlier (List.mem_cons_of_mem _ inside)

/-- A batch keeps the agreement exactly when its first claims are for ids that are not stored,
by induction on the batch. Once an event breaks the agreement, the rest cannot restore it.
-/
theorem keyIntegrity_exportEvents_iff {db : Projection} (backed : db.Backed)
    (sound : db.KeyIntegrity) {rows : List EventRow}
    (ids : (rows.map (·.eventId)).Nodup)
    : (db.exportEvents rows).KeyIntegrity ↔ db.ClaimsUnstored rows := by
  induction rows generalizing db with
  | nil =>
      refine ⟨fun _ before row after _ split => ?_, fun _ => sound⟩
      simp at split
  | cons row rest ih =>
      obtain ⟨head, tail⟩ := List.nodup_cons.mp ids
      have alone : ∀ later ∈ rest, later.eventId ≠ row.eventId :=
        fun later member same => head (List.mem_map.mpr ⟨later, member, same⟩)
      have one := keyIntegrity_exportEvent_iff backed sound row
      rw [claimsUnstored_cons alone, ← one]
      have next := backed.exportEvent row
      constructor
      · intro whole
        have first : (db.exportEvent row).KeyIntegrity :=
          KeyIntegrity.of_exportEvents next rest whole
        exact ⟨first, (ih next first tail).mp whole⟩
      · exact fun ⟨first, later⟩ => (ih next first tail).mpr later

/-- The agreement reads only the key table and the event table. -/
theorem keyIntegrity_commitBatch_iff {db : Projection} (backed : db.Backed)
    (sound : db.KeyIntegrity) {rows : List EventRow}
    (ids : (rows.map (·.eventId)).Nodup)
    : (db.commitBatch rows).KeyIntegrity ↔ db.ClaimsUnstored rows := by
  rw [← keyIntegrity_exportEvents_iff backed sound ids]
  simp only [KeyIntegrity, commitBatch_events, commitBatch_keys]

/-- A project batch adds event rows without keys, so it keeps the facts about keys. -/
theorem Backed.projectBatch {db : Projection} (backed : db.Backed) (snapshot : Snapshot)
    (after : Option String) (batchSize : Nat)
    : (db.projectBatch snapshot after batchSize).Backed where
  keyed := by
    intro row member key keyed
    rcases Table.mem_or_mem_of_mem_insertAll member with old | new
    · exact backed.keyed row old key keyed
    · simp [(Snapshot.mem_projectPage new).2.1] at keyed
  owners := by
    intro held member
    obtain ⟨row, old, same⟩ := backed.owners held member
    exact ⟨row, Table.mem_insertAll_of_mem old, same⟩

/-- A project batch keeps the agreement: it adds no key and removes no event row. -/
theorem KeyIntegrity.projectBatch {db : Projection} (sound : db.KeyIntegrity)
    (snapshot : Snapshot) (after : Option String) (batchSize : Nat)
    : (db.projectBatch snapshot after batchSize).KeyIntegrity := by
  intro held member
  obtain ⟨row, old, same⟩ := sound held member
  exact ⟨row, Table.mem_insertAll_of_mem old, same⟩

end Projection

namespace World

variable {Machine : Type} [DecidableEq Machine]

/-- What the tables owe to a reader of the known keys: keys and events agree, and every event
that a process skips for a known key is stored under that key.
-/
structure KeysSound (world : World Machine) : Prop where
  agree : world.db.projection.KeyIntegrity
  unique : world.db.projection.UniqueKeys
  skipped
    : ∀ machine page,
        world.process machine = .pushRead page
        → ∀ event ∈ page.events, ∀ key,
            remoteDedupeKey page.run.context event = some key
            → key ∈ page.knownDedupeKeys
            → ∃ row ∈ world.db.projection.events, row.dedupeKey = some key

/-- The guard of a batch: each key that it claims anew is claimed for an event id that is not
stored. Other steps are not restricted.
-/
def NewClaimsUnstored (world : World Machine) (label : Machine × Action) : Prop :=
  ∀ page,
    label.2 = .sendPage
    → world.process label.1 = .pushRead page
    → world.db.projection.ClaimsUnstored page.rows

/-- No step removes an event row. -/
theorem step_keeps_events {world next : World Machine} {label : Machine × Action}
    (taken : world.step label = some next) {row : EventRow}
    (member : row ∈ world.db.projection.events)
    : row ∈ next.db.projection.events := by
  obtain same | ⟨page, _, _, same⟩ | ⟨args, _, after, snapshot, _, _, _, same⟩ :=
    step_projection taken
  · rwa [same]
  · rw [same, Projection.commitBatch_events]
    exact Projection.mem_exportEvents_events member
  · rw [same]
    exact Table.mem_insertAll_of_mem member

theorem step_backed {world next : World Machine} {label : Machine × Action}
    (backed : world.db.projection.Backed) (taken : world.step label = some next)
    : next.db.projection.Backed := by
  obtain same | ⟨page, _, _, same⟩ | ⟨args, _, after, snapshot, _, _, _, same⟩ :=
    step_projection taken
  all_goals rw [same]
  · exact backed
  · exact backed.commitBatch page.rows
  · exact backed.projectBatch snapshot after args.batchSize

/-- The keys a page read knows are keys of the key table at that moment. -/
theorem known_of_readPage {run : PushRun} {store : LocalStore} {db : Projection}
    {page : PushPage} (read : run.readPage store db = some page) {key : String}
    (known : key ∈ page.knownDedupeKeys)
    : ∃ held ∈ db.keys, held.dedupeKey = key := by
  obtain ⟨pageSize, _, read⟩ := Option.bind_eq_some_iff.mp read
  obtain ⟨last, _, rfl⟩ := Option.map_eq_some_iff.mp read
  exact List.mem_map.mp (List.mem_of_mem_filter known)

/-- Known keys stay stored: they were stored when they were read, and rows are never removed. -/
theorem skipped_step {world next : World Machine} {label : Machine × Action}
    (sound : world.KeysSound) (taken : world.step label = some next)
    : ∀ machine page,
        next.process machine = .pushRead page
        → ∀ event ∈ page.events, ∀ key,
            remoteDedupeKey page.run.context event = some key
            → key ∈ page.knownDedupeKeys
            → ∃ row ∈ next.db.projection.events, row.dedupeKey = some key := by
  intro machine page holds event inside key keyed known
  have before : ∃ row ∈ world.db.projection.events, row.dedupeKey = some key := by
    rcases step_pushRead taken holds with held | ⟨run, store, _, _, _, read⟩
    · exact sound.skipped machine page held event inside key keyed known
    · obtain ⟨held, member, rfl⟩ := known_of_readPage read known
      obtain ⟨row, stored, _, same⟩ := sound.agree held member
      exact ⟨row, stored, same⟩
  obtain ⟨row, stored, same⟩ := before
  exact ⟨row, step_keeps_events taken stored, same⟩

/-- One step keeps the tables sound exactly when it meets the guard. -/
theorem step_keysSound_iff {world next : World Machine} {label : Machine × Action}
    (backed : world.db.projection.Backed) (sound : world.KeysSound)
    (taken : world.step label = some next)
    : next.KeysSound ↔ world.NewClaimsUnstored label := by
  have whole : next.KeysSound ↔ next.db.projection.KeyIntegrity :=
    ⟨KeysSound.agree, fun agree => ⟨agree, Projection.uniqueKeys _, skipped_step sound taken⟩⟩
  rw [whole]
  obtain same | ⟨page, sends, holds, same⟩ | ⟨args, _, after, snapshot, sends, _, _, same⟩ :=
    step_projection taken
  · rw [same]
    refine ⟨fun agree page sends holds => ?_, fun _ => sound.agree⟩
    -- A batch that leaves the projection as it was is still judged by its own effect.
    have batch : next.db.projection = world.db.projection.commitBatch page.rows := by
      obtain ⟨machine, action⟩ := label
      obtain rfl : action = .sendPage := sends
      simp only [step, show world.process machine = .pushRead page from holds,
        Option.some.injEq] at taken
      rw [← taken]
      rfl
    rw [← Projection.keyIntegrity_commitBatch_iff backed sound.agree page.nodup_rows, ← batch,
      same]
    exact agree
  · rw [same, Projection.keyIntegrity_commitBatch_iff backed sound.agree page.nodup_rows]
    refine ⟨fun claims other _ here => ?_, fun guard => guard page sends holds⟩
    obtain rfl : page = other := by simpa [holds] using here
    exact claims
  · rw [same]
    refine ⟨fun _ page here => ?_, fun _ => sound.agree.projectBatch snapshot after _⟩
    simp [show label.2 = .sendProject from sends] at here

/-- Over every interleaving of any number of processes from the fresh schema, the tables are
sound in every state exactly when every batch claims its new keys for event ids that are not
stored.
-/
theorem keysSound_iff_newClaimsUnstored (snapshot : Option Snapshot)
    (labels : List (Machine × Action))
    : AllStates step KeysSound (init snapshot) labels
      ↔ AllSteps step NewClaimsUnstored (init snapshot) labels := by
  have initial : (init snapshot : World Machine).KeysSound := {
    agree := Projection.KeyIntegrity.empty
    unique := Projection.uniqueKeys _
    skipped := fun _ _ holds => by cases holds
  }
  exact allStates_iff_allSteps (fun world => world.db.projection.Backed)
    (fun _ _ _ backed taken => step_backed backed taken)
    (fun _ _ _ backed sound taken => step_keysSound_iff backed sound taken)
    Projection.Backed.empty initial

/-- One machine pushes its store, the event's payload changes, and it pushes again. -/
def rewrittenRun : List (Unit × Action) :=
  let before := oneEventStore "e1" "old" "h1"
  let after := oneEventStore "e1" "new" "h2"
  [((), .startPush before pushEverything), ((), .readPage before), ((), .sendPage),
    ((), .readPage before), ((), .startPush after pushEverything), ((), .readPage after),
    ((), .sendPage)]

/-- The second push leaves a key row without an event row of its key. -/
theorem rewrittenRun_breaks_keys
    : ∃ final,
        run step (init none) rewrittenRun = some final
        ∧ ¬ final.db.projection.KeyIntegrity := by
  refine ⟨(run step (init none) rewrittenRun).get (by decide), by simp, by decide⟩

end World

end CtxRemote.Turso
