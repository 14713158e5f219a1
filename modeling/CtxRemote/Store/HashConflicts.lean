import CtxRemote.Library.Loops
import CtxRemote.Store.ArchiveImport
import CtxRemote.Store.SearchProjection

/-! Payload hashes of one provider event. `upsert_event` and `import_archive` look for a stored key
of the same event with another hash before they write, in the range of keys that start with the
canonical spelling of the event; `insert_event_if_absent` looks only when its insert was ignored.
-/

namespace CtxRemote.Store
open CtxRemote.Library
open CtxRemote.Turso (Visibility SyncState)

-----------------------------------------------------------------------------------------
-- Conflicting keys
-----------------------------------------------------------------------------------------

/-- The two keys are read as keys of one event with two payload hashes. -/
def KeysConflict (left right : String) : Prop :=
  ∃ leftParsed rightParsed,
    parseProviderEventDedupeKey left = some leftParsed
    ∧ parseProviderEventDedupeKey right = some rightParsed
    ∧ leftParsed.hasSameEventIdentity rightParsed = true
    ∧ leftParsed.payloadHash ≠ rightParsed.payloadHash

theorem KeysConflict.symm {left right : String} (conflict : KeysConflict left right)
    : KeysConflict right left := by
  obtain ⟨leftParsed, rightParsed, readLeft, readRight, same, other⟩ := conflict
  refine ⟨rightParsed, leftParsed, readRight, readLeft, ?_, other.symm⟩
  rw [ParsedProviderEventDedupeKey.hasSameEventIdentity_iff] at same ⊢
  exact ⟨same.1.symm, same.2.1.symm, same.2.2.1.symm, same.2.2.2.symm⟩

theorem not_keysConflict_self (key : String) : ¬ KeysConflict key key := by
  rintro ⟨left, right, readLeft, readRight, -, other⟩
  rw [readLeft] at readRight
  exact other (by rw [Option.some.inj readRight])

/-- The dedupe keys of rows. -/
def rowKeys (rows : List EventRow) : List String := rows.filterMap (·.dedupeKey)

/-- No two of the rows have keys of one event with two payload hashes. -/
def HashesAgree (rows : List EventRow) : Prop :=
  ∀ left ∈ rowKeys rows, ∀ right ∈ rowKeys rows, ¬ KeysConflict left right

/-- The range scan that looks for conflicts with a key visits the stored key. -/
def Scanned (dedupeKey stored : String) : Prop :=
  ∀ parsed, parseProviderEventDedupeKey dedupeKey = some parsed →
    providerEventDedupeKeyPrefix parsed ≤ stored
    ∧ stored < providerEventDedupeKeyUpperBound (providerEventDedupeKeyPrefix parsed)

/-- A conflicting stored key that the scan visits is reported. -/
theorem rejectConflictingKey_of_scanned {db : Database} {dedupeKey stored : String}
    (member : stored ∈ db.dedupeKeys) (conflict : KeysConflict stored dedupeKey)
    (scanned : Scanned dedupeKey stored)
    : ∃ found, rejectConflictingKey db (some dedupeKey) = .error (.providerEventConflict found) := by
  obtain ⟨existing, incoming, readStored, readKey, same, other⟩ := conflict
  have row : conflictingRow incoming stored = some existing :=
    conflictingRow_eq_some.mpr ⟨readStored, same, other⟩
  have visited : stored ∈ keysInRange db.dedupeKeys (providerEventDedupeKeyPrefix incoming) :=
    mem_keysInRange.mpr ⟨member, scanned incoming readKey⟩
  unfold rejectConflictingKey rejectProviderEventHashConflict
    rejectProviderEventHashConflictFromRows
  simp only [readKey]
  cases found
      : (keysInRange db.dedupeKeys (providerEventDedupeKeyPrefix incoming)).findSome?
          (conflictingRow incoming) with
  | none =>
      have missed := List.findSome?_eq_none_iff.mp found stored visited
      rw [row] at missed
      cases missed
  | some _ => exact ⟨_, rfl⟩

/-- The check of a key fails with a conflict only. -/
theorem rejectConflictingKey_error {db : Database} {dedupeKey : Option String} {error : StoreError}
    (failed : rejectConflictingKey db dedupeKey = .error error)
    : ∃ found, error = .providerEventConflict found := by
  unfold rejectConflictingKey at failed
  split at failed
  next => cases failed
  next =>
      split at failed
      next => cases failed
      next conflict _ =>
          cases failed
          exact ⟨conflict, rfl⟩

-----------------------------------------------------------------------------------------
-- Calls
-----------------------------------------------------------------------------------------

/-- A call that stores events. -/
inductive StoreCall (Entities : Type) where
  | write (write : EventWrite)
  | importArchive (archive : SessionHistoryArchive Entities) (overwrite : Bool)

variable {Entities : Type}

namespace StoreCall

/-- The outcome of a call, and the database after it. -/
def perform (externals : Externals) (imports : EntityImport Entities) (db : Database)
    : StoreCall Entities → Except StoreError Unit × Database
  | write (.upsert event) =>
      match upsertEvent externals db event with
      | .ok (_, next) => (.ok (), next)
      | .error error => (.error error, db)
  | write (.insert event) =>
      match insertEventIfAbsent externals db event with
      | .ok (_, next) => (.ok (), next)
      | .error error => (.error error, db)
  | importArchive archive overwrite => Store.importArchive externals imports db archive overwrite

def step (externals : Externals) (imports : EntityImport Entities) (db : Database)
    (call : StoreCall Entities)
    : Option Database :=
  some (call.perform externals imports db).2

/-- But for the checks of payload hashes, the call would leave conflicting keys: its statements
succeed and do so.
-/
def WouldConflict (imports : EntityImport Entities) (db : Database) : StoreCall Entities → Prop
  | write (.upsert event) =>
      event.dedupeKey.bind db.eventIdByDedupeKey = none
      ∧ ∃ events, upsertEventRow db event.row = .ok events ∧ ¬ HashesAgree events.rows
  | write (.insert event) =>
      ∃ events, insertEventRowOrIgnore db event.row = .ok (some events)
        ∧ ¬ HashesAgree events.rows
  | importArchive archive _ =>
      validateArchiveVersion archive = .ok ()
      ∧ (∀ kind id,
          rejectArchiveEventInternalConflicts archive.events ≠ .error (.importConflict kind id))
      ∧ ∃ next, importEntitiesTx imports db archive = .ok next ∧ ¬ HashesAgree next.events.rows

/-- A call that would leave conflicting keys reports a conflict and stores nothing. -/
def ReportsConflict (externals : Externals) (imports : EntityImport Entities) (db : Database)
    (call : StoreCall Entities)
    : Prop :=
  call.WouldConflict imports db →
    ∃ conflict, call.perform externals imports db = (.error (.providerEventConflict conflict), db)

/-- The stored keys that conflict with a key of the call are ones its check visits: for an upsert and
an import they lie in the scanned range; an insert that stores its event has none.
-/
def ChecksConflicts (db : Database) : StoreCall Entities → Prop
  | write (.upsert event) =>
      ∀ dedupeKey, event.dedupeKey = some dedupeKey → ∀ stored ∈ db.dedupeKeys,
        KeysConflict stored dedupeKey → Scanned dedupeKey stored
  | write (.insert event) =>
      (∃ events, insertEventRowOrIgnore db event.row = .ok (some events)) →
        ∀ dedupeKey, event.dedupeKey = some dedupeKey → ∀ stored ∈ db.dedupeKeys,
          ¬ KeysConflict stored dedupeKey
  | importArchive archive _ =>
      ∀ event ∈ archive.events, ∀ dedupeKey, event.dedupeKey = some dedupeKey →
        ∀ stored ∈ db.dedupeKeys, KeysConflict stored dedupeKey → Scanned dedupeKey stored

end StoreCall

-----------------------------------------------------------------------------------------
-- Single events
-----------------------------------------------------------------------------------------

/-- Conflicting keys of a table with one new row: the new row's key conflicts with an old one. -/
theorem conflict_of_added {db : Database} {id : Uuid} {row : EventRow} {rows : List EventRow}
    (agree : HashesAgree db.events.rows) (split : rows = db.events.others (·.id) id ++ [row])
    (disagree : ¬ HashesAgree rows)
    : ∃ dedupeKey, row.dedupeKey = some dedupeKey ∧ ∃ stored ∈ db.dedupeKeys,
        KeysConflict stored dedupeKey := by
  have keys {key : String} (member : key ∈ rowKeys rows)
      : key ∈ db.dedupeKeys ∨ row.dedupeKey = some key := by
    rw [split, rowKeys, List.filterMap_append] at member
    rcases List.mem_append.mp member with old | new
    · obtain ⟨held, inside, same⟩ := List.mem_filterMap.mp old
      exact .inl (List.mem_filterMap.mpr ⟨held, (List.mem_filter.mp inside).1, same⟩)
    · obtain ⟨held, inside, same⟩ := List.mem_filterMap.mp new
      obtain rfl := List.mem_singleton.mp inside
      exact .inr same
  unfold HashesAgree at disagree
  push Not at disagree
  obtain ⟨left, leftMember, right, rightMember, conflict⟩ := disagree
  rcases keys leftMember with leftOld | leftNew
  · rcases keys rightMember with rightOld | rightNew
    · exact absurd conflict (agree left leftOld right rightOld)
    · exact ⟨right, rightNew, left, leftOld, conflict⟩
  · rcases keys rightMember with rightOld | rightNew
    · exact ⟨left, leftNew, right, rightOld, conflict.symm⟩
    · obtain rfl : left = right := Option.some.inj (leftNew.symm.trans rightNew)
      exact absurd conflict (not_keysConflict_self left)

theorem reportsConflict_upsert {externals : Externals} {imports : EntityImport Entities}
    {db : Database} {event : Event} (agree : HashesAgree db.events.rows)
    (checks : @StoreCall.ChecksConflicts Entities db (.write (.upsert event)))
    : StoreCall.ReportsConflict externals imports db (.write (.upsert event)) := by
  rintro ⟨-, events, written, disagree⟩
  obtain ⟨-, -, split⟩ := EventWrite.rows_of_upsertEventRow written
  obtain ⟨dedupeKey, own, stored, member, conflict⟩ := conflict_of_added agree split disagree
  have keyed : event.dedupeKey = some dedupeKey := own
  obtain ⟨found, rejected⟩ := rejectConflictingKey_of_scanned member conflict
    (checks dedupeKey keyed stored member conflict)
  refine ⟨found, ?_⟩
  simp [StoreCall.perform, upsertEvent, upsertPlan, keyed, rejected, bind, Except.bind]

theorem reportsConflict_insert {externals : Externals} {imports : EntityImport Entities}
    {db : Database} {event : Event} (agree : HashesAgree db.events.rows)
    (checks : @StoreCall.ChecksConflicts Entities db (.write (.insert event)))
    : StoreCall.ReportsConflict externals imports db (.write (.insert event)) := by
  rintro ⟨events, written, disagree⟩
  obtain ⟨-, -, -, split⟩ := EventWrite.rows_of_insertEventRowOrIgnore written
  obtain ⟨dedupeKey, own, stored, member, conflict⟩ := conflict_of_added agree split disagree
  exact absurd conflict (checks ⟨events, written⟩ dedupeKey own stored member)

-----------------------------------------------------------------------------------------
-- Archives
-----------------------------------------------------------------------------------------

/-- The identity that the internal check of an archive remembers of a parsed key. -/
def seenKey (parsed : ParsedProviderEventDedupeKey)
    : String × String × Option String × UInt64 :=
  (parsed.provider, parsed.externalSessionId, parsed.sourceId, parsed.providerIndex)

/-- What one event adds to the seen events. -/
theorem SeenEvents.of_add {seen next : SeenEvents} {event : Event}
    (added : seen.add event = .ok next)
    : (∀ key hash, seen.providerEvents.lookup key = some hash →
        next.providerEvents.lookup key = some hash)
      ∧ ∀ parsed, event.dedupeKey.bind parseProviderEventDedupeKey = some parsed →
          next.providerEvents.lookup (seenKey parsed) = some parsed.payloadHash := by
  unfold SeenEvents.add at added
  split at added
  next => cases added
  next =>
      dsimp only at added
      split at added
      next unread =>
          cases added
          exact ⟨fun _ _ found => found, fun parsed read => by simp [unread] at read⟩
      next parsed read =>
          split at added
          next fresh =>
              cases added
              refine ⟨fun key hash found => ?_, fun other readOther => ?_⟩
              · have apart : (key == seenKey parsed) = false := by
                  rw [beq_eq_false_iff_ne]
                  rintro rfl
                  have absent : seen.providerEvents.lookup (seenKey parsed) = none := fresh
                  rw [absent] at found
                  cases found
                rw [List.lookup_cons]
                unfold seenKey at apart
                rw [apart]
                exact found
              · obtain rfl : parsed = other := Option.some.inj (read.symm.trans readOther)
                exact List.lookup_cons_self
          next hash found =>
              split at added
              next => cases added
              next same =>
                  cases added
                  refine ⟨fun _ _ found => found, fun other readOther => ?_⟩
                  obtain rfl : parsed = other := Option.some.inj (read.symm.trans readOther)
                  rw [not_not] at same
                  exact same ▸ found

/-- The seen events of an archive have the hash of every key, by induction on the events. -/
theorem SeenEvents.of_foldlM {seen next : SeenEvents} {events : List Event}
    (added : events.foldlM SeenEvents.add seen = .ok next)
    : (∀ key hash, seen.providerEvents.lookup key = some hash →
        next.providerEvents.lookup key = some hash)
      ∧ ∀ event ∈ events, ∀ parsed,
          event.dedupeKey.bind parseProviderEventDedupeKey = some parsed →
          next.providerEvents.lookup (seenKey parsed) = some parsed.payloadHash := by
  induction events generalizing seen with
  | nil =>
      cases added
      refine ⟨fun _ _ found => found, fun event member => ?_⟩
      cases member
  | cons event rest ih =>
      rw [List.foldlM_cons, bind_eq_ok] at added
      obtain ⟨middle, first, later⟩ := added
      obtain ⟨keepsFirst, ownFirst⟩ := SeenEvents.of_add first
      obtain ⟨keepsRest, ownRest⟩ := ih later
      refine ⟨fun key hash found => keepsRest key hash (keepsFirst key hash found), ?_⟩
      intro other member parsed read
      rcases List.mem_cons.mp member with rfl | member
      · exact keepsRest _ _ (ownFirst parsed read)
      · exact ownRest other member parsed read

/-- An archive that passes its internal check has no two conflicting keys. -/
theorem not_keysConflict_of_internal {events : List Event}
    (passed : rejectArchiveEventInternalConflicts events = .ok ()) {left right : Event}
    (leftMember : left ∈ events) (rightMember : right ∈ events) {leftKey rightKey : String}
    (leftKeyed : left.dedupeKey = some leftKey) (rightKeyed : right.dedupeKey = some rightKey)
    : ¬ KeysConflict leftKey rightKey := by
  rintro ⟨leftParsed, rightParsed, readLeft, readRight, same, other⟩
  obtain ⟨seen, added, -⟩ := bind_eq_ok.mp passed
  have found := (SeenEvents.of_foldlM added).2
  have leftHash := found left leftMember leftParsed (by simpa [leftKeyed] using readLeft)
  have rightHash := found right rightMember rightParsed (by simpa [rightKeyed] using readRight)
  rw [ParsedProviderEventDedupeKey.hasSameEventIdentity_iff] at same
  have key : seenKey leftParsed = seenKey rightParsed := by
    simp [seenKey, same.1, same.2.1, same.2.2.1, same.2.2.2]
  rw [key, rightHash] at leftHash
  exact other (Option.some.inj leftHash).symm

theorem SeenEvents.add_error {seen : SeenEvents} {event : Event} {error : StoreError}
    (failed : seen.add event = .error error)
    : (∃ kind id, error = .importConflict kind id)
      ∨ ∃ conflict, error = .providerEventConflict conflict := by
  unfold SeenEvents.add at failed
  split at failed
  next =>
      cases failed
      exact .inl ⟨_, _, rfl⟩
  next =>
      dsimp only at failed
      split at failed
      next => cases failed
      next =>
          split at failed
          next => cases failed
          next =>
              split at failed
              next =>
                  cases failed
                  exact .inr ⟨_, rfl⟩
              next => cases failed

/-- The internal check fails with one of two kinds of conflict. -/
theorem internal_error {events : List Event} {error : StoreError}
    (failed : rejectArchiveEventInternalConflicts events = .error error)
    : (∃ kind id, error = .importConflict kind id)
      ∨ ∃ conflict, error = .providerEventConflict conflict := by
  unfold rejectArchiveEventInternalConflicts at failed
  cases folded : events.foldlM SeenEvents.add ⟨[], []⟩ with
  | ok _ =>
      rw [folded] at failed
      cases failed
  | error _ =>
      rw [folded] at failed
      cases failed
      obtain ⟨event, -, seen, added⟩ := foldlM_eq_error folded
      exact SeenEvents.add_error added

/-- An import's keys are stored ones or keys of the archive, by induction on the events. -/
theorem dedupeKeys_of_foldlM {db next : Database} {events : List Event}
    (written : events.foldlM upsertEventTx db = .ok next) {key : String}
    (member : key ∈ rowKeys next.events.rows)
    : key ∈ rowKeys db.events.rows ∨ ∃ event ∈ events, event.dedupeKey = some key := by
  induction events generalizing db with
  | nil =>
      cases written
      exact .inl member
  | cons event rest ih =>
      rw [List.foldlM_cons, bind_eq_ok] at written
      obtain ⟨middle, first, later⟩ := written
      rcases ih later with old | ⟨other, inside, same⟩
      · obtain ⟨events, upserted, done⟩ := bind_eq_ok.mp first
        cases done
        obtain ⟨-, -, split⟩ := EventWrite.rows_of_upsertEventRow upserted
        simp only [rowKeys, split, List.filterMap_append] at old
        rcases List.mem_append.mp old with old | new
        · obtain ⟨held, inside, same⟩ := List.mem_filterMap.mp old
          exact .inl (List.mem_filterMap.mpr ⟨held, (List.mem_filter.mp inside).1, same⟩)
        · obtain ⟨held, inside, same⟩ := List.mem_filterMap.mp new
          obtain rfl := List.mem_singleton.mp inside
          exact .inr ⟨event, List.mem_cons_self, same⟩
      · exact .inr ⟨other, List.mem_cons_of_mem _ inside, same⟩

/-- An import that changes events leaves keys that the store or its archive had. -/
theorem dedupeKeys_of_importEntitiesTx {imports : EntityImport Entities} {db next : Database}
    {archive : SessionHistoryArchive Entities}
    (imported : importEntitiesTx imports db archive = .ok next)
    : next.events = db.events
      ∨ (archive.recordsOnly = false ∧ ∀ key ∈ rowKeys next.events.rows,
          key ∈ db.dedupeKeys ∨ ∃ event ∈ archive.events, event.dedupeKey = some key) := by
  obtain ⟨records, -, imported⟩ := bind_eq_ok.mp imported
  cases short : archive.recordsOnly with
  | true =>
      simp only [short, if_true] at imported
      cases imported
      exact .inl rfl
  | false =>
      simp only [short, Bool.false_eq_true, if_false] at imported
      obtain ⟨before, -, imported⟩ := bind_eq_ok.mp imported
      obtain ⟨written, folded, imported⟩ := bind_eq_ok.mp imported
      obtain ⟨after, -, imported⟩ := bind_eq_ok.mp imported
      cases imported
      exact .inr ⟨rfl, fun key member => dedupeKeys_of_foldlM folded member⟩

theorem reportsConflict_importArchive {externals : Externals} {imports : EntityImport Entities}
    {db : Database} {archive : SessionHistoryArchive Entities} {overwrite : Bool}
    (agree : HashesAgree db.events.rows)
    (checks : StoreCall.ChecksConflicts db (.importArchive archive overwrite))
    : StoreCall.ReportsConflict externals imports db (.importArchive archive overwrite) := by
  rintro ⟨valid, consistent, next, imported, disagree⟩
  have reported {conflict : ProviderEventConflict}
      (internal
        : rejectArchiveEventInternalConflicts archive.events
            = .error (.providerEventConflict conflict)
          ∨ (rejectArchiveEventInternalConflicts archive.events = .ok ()
            ∧ rejectImportInvariantConflicts db archive
              = .error (.providerEventConflict conflict)))
      : (StoreCall.importArchive archive overwrite).perform externals imports db
        = (.error (.providerEventConflict conflict), db) := by
    rcases internal with failed | ⟨passed, failed⟩
    · simp [StoreCall.perform, Store.importArchive, importTransaction, valid, failed, bind,
        Except.bind]
    · simp [StoreCall.perform, Store.importArchive, importTransaction, valid, passed,
        failed, bind, Except.bind]
  cases internal : rejectArchiveEventInternalConflicts archive.events with
  | error error =>
      rcases internal_error internal with ⟨kind, id, rfl⟩ | ⟨conflict, rfl⟩
      · exact absurd internal (consistent kind id)
      · exact ⟨conflict, reported (.inl internal)⟩
  | ok _ =>
      rcases dedupeKeys_of_importEntitiesTx imported with same | ⟨full, keys⟩
      · rw [same] at disagree
        exact absurd agree disagree
      · -- One of the two conflicting keys is stored, the other one the archive's.
        have found : ∃ event ∈ archive.events, ∃ dedupeKey, event.dedupeKey = some dedupeKey
            ∧ ∃ stored ∈ db.dedupeKeys, KeysConflict stored dedupeKey := by
          unfold HashesAgree at disagree
          push Not at disagree
          obtain ⟨left, leftMember, right, rightMember, conflict⟩ := disagree
          rcases keys left leftMember with leftOld | ⟨leftEvent, leftInside, leftKeyed⟩
          · rcases keys right rightMember with rightOld | ⟨event, inside, keyed⟩
            · exact absurd conflict (agree left leftOld right rightOld)
            · exact ⟨event, inside, right, keyed, left, leftOld, conflict⟩
          · rcases keys right rightMember with rightOld | ⟨event, inside, keyed⟩
            · exact ⟨leftEvent, leftInside, left, leftKeyed, right, rightOld, conflict.symm⟩
            · exact absurd conflict
                (not_keysConflict_of_internal internal leftInside inside leftKeyed keyed)
        obtain ⟨event, inside, dedupeKey, keyed, stored, member, conflict⟩ := found
        obtain ⟨_, rejected⟩ := rejectConflictingKey_of_scanned member conflict
          (checks event inside dedupeKey keyed stored member conflict)
        cases invariants : rejectImportInvariantConflicts db archive with
        | ok _ =>
            unfold rejectImportInvariantConflicts at invariants
            rw [full, if_neg (by simp), forM_eq_ok] at invariants
            have passed := invariants event inside
            rw [keyed, rejected] at passed
            cases passed
        | error error =>
            have failed := invariants
            unfold rejectImportInvariantConflicts at failed
            rw [full, if_neg (by simp)] at failed
            obtain ⟨other, -, here⟩ := forM_eq_error failed
            obtain ⟨conflict, rfl⟩ := rejectConflictingKey_error here
            exact ⟨conflict, reported (.inr ⟨internal, invariants⟩)⟩

-----------------------------------------------------------------------------------------
-- Runs
-----------------------------------------------------------------------------------------

/-- A call leaves the events alone, or it reports no conflict and its statements stored the events
that the database has after it.
-/
def StoresUnreported (externals : Externals) (imports : EntityImport Entities) (db : Database)
    (call : StoreCall Entities)
    : Prop :=
  (call.perform externals imports db).2.events = db.events
  ∨ ((¬ ∃ conflict,
        (call.perform externals imports db).1 = .error (.providerEventConflict conflict))
    ∧ (¬ HashesAgree (call.perform externals imports db).2.events.rows →
        call.WouldConflict imports db))

theorem storesUnreported_upsert (externals : Externals) (imports : EntityImport Entities)
    (db : Database) (event : Event)
    : StoresUnreported externals imports db (.write (.upsert event)) := by
  unfold StoresUnreported
  match plan : upsertPlan externals db event with
  | .error _ => exact .inl (by simp [StoreCall.perform, upsertEvent, plan, bind, Except.bind])
  | .ok (.inl _) =>
      exact .inl (by
        simp [StoreCall.perform, upsertEvent, plan, bind, Except.bind, pure, Except.pure])
  | .ok (.inr (previous, events)) =>
      have performed : StoreCall.perform externals imports db (.write (.upsert event))
          = (.ok (), adjustSemanticSearchableItemStats
              { db with
                events := events
                projection :=
                  upsertEventSearchProjectionForEvent externals db.projection event.id event }
              previous (semanticSearchableDocumentCountForEvent event)) := by
        simp [StoreCall.perform, upsertEvent, plan, bind, Except.bind, pure, Except.pure]
      rw [performed, events_adjustStats]
      refine .inr ⟨by simp, fun disagree => ?_⟩
      unfold upsertPlan at plan
      obtain ⟨_, -, plan⟩ := bind_eq_ok.mp plan
      split at plan
      next => cases plan
      next absent =>
          obtain ⟨_, -, plan⟩ := bind_eq_ok.mp plan
          obtain ⟨table, written, plan⟩ := bind_eq_ok.mp plan
          cases plan
          exact ⟨absent, _, written, disagree⟩

theorem storesUnreported_insert (externals : Externals) (imports : EntityImport Entities)
    (db : Database) (event : Event)
    : StoresUnreported externals imports db (.write (.insert event)) := by
  unfold StoresUnreported
  match written : insertEventRowOrIgnore db event.row with
  | .error _ =>
      exact .inl (by simp [StoreCall.perform, insertEventIfAbsent, written, bind, Except.bind])
  | .ok none =>
      left
      cases rejected : rejectConflictingKey db event.dedupeKey with
      | ok _ => simp [StoreCall.perform, insertEventIfAbsent, written, rejected, bind, Except.bind,
          pure, Except.pure]
      | error _ =>
          simp [StoreCall.perform, insertEventIfAbsent, written, rejected, bind, Except.bind]
  | .ok (some events) =>
      have performed : StoreCall.perform externals imports db (.write (.insert event))
          = (.ok (), adjustSemanticSearchableItemStats
              { db with
                events := events
                projection := insertEventSearchProjectionForEvent externals db.projection event }
              0 (semanticSearchableDocumentCountForEvent event)) := by
        simp [StoreCall.perform, insertEventIfAbsent, written, bind, Except.bind, pure, Except.pure]
      rw [performed, events_adjustStats]
      exact .inr ⟨by simp, fun disagree => ⟨events, written, disagree⟩⟩

theorem storesUnreported_importArchive (externals : Externals) (imports : EntityImport Entities)
    (db : Database) (archive : SessionHistoryArchive Entities) (overwrite : Bool)
    : StoresUnreported externals imports db (.importArchive archive overwrite) := by
  unfold StoresUnreported
  cases performed : importTransaction externals imports db archive overwrite with
  | error _ => exact .inl (by simp [StoreCall.perform, Store.importArchive, performed])
  | ok committed =>
      have silent : ¬ ∃ conflict, ((StoreCall.importArchive archive overwrite).perform externals
          imports db).1 = .error (.providerEventConflict conflict) := by
        simp only [StoreCall.perform, Store.importArchive, performed, rebuildAfterImport]
        split <;> simp
      have events : ((StoreCall.importArchive archive overwrite).perform externals
          imports db).2.events = committed.events := by
        simp only [StoreCall.perform, Store.importArchive, performed, rebuildAfterImport]
        split <;> rfl
      rw [events]
      refine .inr ⟨silent, fun disagree => ?_⟩
      unfold importTransaction at performed
      obtain ⟨_, valid, performed⟩ := bind_eq_ok.mp performed
      obtain ⟨_, internal, performed⟩ := bind_eq_ok.mp performed
      obtain ⟨_, -, performed⟩ := bind_eq_ok.mp performed
      refine ⟨valid, fun kind id failed => ?_, committed, ?_, disagree⟩
      · rw [internal] at failed
        cases failed
      · cases overwrite with
        | true => simpa using performed
        | false =>
            obtain ⟨_, -, imported⟩ := bind_eq_ok.mp performed
            exact imported

theorem storesUnreported (externals : Externals) (imports : EntityImport Entities) (db : Database)
    (call : StoreCall Entities)
    : StoresUnreported externals imports db call := by
  match call with
  | .write (.upsert event) => exact storesUnreported_upsert externals imports db event
  | .write (.insert event) => exact storesUnreported_insert externals imports db event
  | .importArchive archive overwrite =>
      exact storesUnreported_importArchive externals imports db archive overwrite

/-- From a database whose hashes agree, a call whose check visits what it has to leaves one, and
reports the conflict that it would store.
-/
theorem hashesAgree_perform {externals : Externals} {imports : EntityImport Entities}
    {db : Database} {call : StoreCall Entities} (agree : HashesAgree db.events.rows)
    (checks : call.ChecksConflicts db)
    : HashesAgree (call.perform externals imports db).2.events.rows
      ∧ call.ReportsConflict externals imports db := by
  have reports : call.ReportsConflict externals imports db := by
    match call, checks with
    | .write (.upsert event), checks => exact reportsConflict_upsert agree checks
    | .write (.insert event), checks => exact reportsConflict_insert agree checks
    | .importArchive archive overwrite, checks => exact reportsConflict_importArchive agree checks
  refine ⟨?_, reports⟩
  rcases storesUnreported externals imports db call with same | ⟨silent, would⟩
  · rw [same]
    exact agree
  · by_contra disagree
    obtain ⟨conflict, reported⟩ := reports (would disagree)
    exact silent ⟨conflict, by rw [reported]⟩

/-- Over every run of calls whose checks visit what they have to, no two stored keys conflict, and
each call that would store a conflicting key reports the conflict and stores nothing.
-/
theorem allStates_hashesAgree {externals : Externals} {imports : EntityImport Entities}
    {db : Database} {calls : List (StoreCall Entities)} (initial : HashesAgree db.events.rows)
    (checks
      : AllSteps (StoreCall.step externals imports) StoreCall.ChecksConflicts db calls)
    : AllStates (StoreCall.step externals imports) (fun db => HashesAgree db.events.rows) db calls
      ∧ AllSteps (StoreCall.step externals imports)
          (fun db call => call.ReportsConflict externals imports db) db calls := by
  have preserved
      : ∀ db call next, HashesAgree db.events.rows → StoreCall.ChecksConflicts db call →
          StoreCall.step externals imports db call = some next →
          HashesAgree next.events.rows
          ∧ StoreCall.ReportsConflict externals imports db call := by
    intro db call next agree meets taken
    cases taken
    exact hashesAgree_perform agree meets
  exact ⟨
    allStates_of_guarded (fun db => HashesAgree db.events.rows)
      (fun db call next agree meets taken => (preserved db call next agree meets taken).1)
      initial checks,
    allSteps_of_guarded (fun db => HashesAgree db.events.rows) preserved initial checks⟩

/-- Archives without other entities. -/
def noEntities : EntityImport Unit where
  rejectRecords := fun _ _ => .ok ()
  rejectBefore := fun _ _ => .ok ()
  rejectAfter := fun _ _ => .ok ()
  upsertRecords := fun references _ => .ok references
  upsertBefore := fun references _ => .ok references
  upsertAfter := fun references _ => .ok references

/-- The greeting as event 1 of the Codex session `a`, with the payload hash `h1`. -/
def hashedGreeting : Event := { greeting with dedupeKey := some "provider:codex:a:1:h1" }

/-- The same event with the payload hash `h2`, and an id and a sequence number of its own. -/
def rehashedGreeting : Event :=
  { greeting with
    id := ⟨"00000000-0000-0000-0000-000000000002", by decide, by decide⟩
    seq := 2
    dedupeKey := some "provider:codex:a:1:h2" }

/-- An upsert reports the second hash of an inserted event. -/
theorem hashedGreeting_hashesAgree
    : AllStates (StoreCall.step greetingExternals noEntities) (fun db => HashesAgree db.events.rows)
        .empty [.write (.insert hashedGreeting), .write (.upsert rehashedGreeting)]
      ∧ AllSteps (StoreCall.step greetingExternals noEntities)
          (fun db call => call.ReportsConflict greetingExternals noEntities db) .empty
          [.write (.insert hashedGreeting), .write (.upsert rehashedGreeting)] := by
  refine allStates_hashesAgree (fun _ member => nomatch member) ?_
  refine AllSteps.cons rfl (fun _ _ _ _ member => nomatch member) ?_
  refine AllSteps.cons rfl ?_ trivial
  intro dedupeKey own stored member _ parsed read
  obtain rfl : "provider:codex:a:1:h2" = dedupeKey := Option.some.inj own
  have keys : (StoreCall.perform greetingExternals noEntities .empty
      (.write (.insert hashedGreeting))).2.dedupeKeys = ["provider:codex:a:1:h1"] := by
    decide
  rw [keys] at member
  obtain rfl := List.mem_singleton.mp member
  have known : parseProviderEventDedupeKey "provider:codex:a:1:h2"
      = some ⟨"codex", "a", none, 1, "h2"⟩ := by
    decide
  rw [known] at read
  cases read
  decide

/-- Two inserts of one event store both of its hashes. -/
theorem rehashedGreeting_not_hashesAgree
    : ¬ AllStates (StoreCall.step greetingExternals noEntities)
        (fun db => HashesAgree db.events.rows)
        .empty [.write (.insert hashedGreeting), .write (.insert rehashedGreeting)] := by
  intro agree
  have last := agree.last rfl
  refine last "provider:codex:a:1:h1" (by decide) "provider:codex:a:1:h2" (by decide) ?_
  exact ⟨⟨"codex", "a", none, 1, "h1"⟩, ⟨"codex", "a", none, 1, "h2"⟩,
    by decide, by decide, by decide, by decide⟩

end CtxRemote.Store
