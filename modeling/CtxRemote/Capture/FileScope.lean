import CtxRemote.Capture.ImportStore
import CtxRemote.Library.Like
import CtxRemote.Turso.DedupeKey
import Mathlib.Data.Finset.Dedup
import Mathlib.Data.List.Sort
import Mathlib.Data.String.Basic

/-! The two reads of file touches by a path: those of one record, and the scope that searches filter
by.

LIKE ends its two operands at a zero character. SQLite's bound on the size of a pattern is left out:
a statement that it refuses gives no rows.
-/

namespace CtxRemote.Capture
open CtxRemote.Library
open CtxRemote.Store (Uuid EventRow untilZero)
open CtxRemote.Turso (trim)

-----------------------------------------------------------------------------------------
-- Match values
-----------------------------------------------------------------------------------------

/-- `escape_like_pattern`. -/
def escapeLikePattern (value : List Char) : List Char := escapeLike '\\' value

/-- The query without the separators in front. -/
def withoutSeparators (exact : List Char) : List Char :=
  exact.dropWhile fun c => c = '/' || c = '\\'

/-- `file_touch_match_values`. -/
def fileTouchMatchValues (file : List Char) : Option (List Char × List Char) :=
  let exact := trim file
  if exact.isEmpty then none
  else some (exact, '%' :: '/' :: escapeLikePattern (withoutSeparators exact))

/-- `X LIKE pattern ESCAPE '\'`. -/
def likeEscaped (text pattern : List Char) : Bool :=
  like (some '\\') (untilZero pattern) (untilZero text)

namespace FileTouched

/-- The path and the old path. -/
def paths (touch : FileTouched) : List (List Char) :=
  touch.path.toList :: (touch.oldPath.map String.toList).toList

/-- The condition of both statements on the paths. -/
def matchesValues (touch : FileTouched) (exact suffix : List Char) : Bool :=
  touch.path.toList = exact || touch.oldPath.any (fun path => path.toList = exact)
  || likeEscaped touch.path.toList suffix
  || touch.oldPath.any fun path => likeEscaped path.toList suffix

/-- `ORDER BY updated_at_ms DESC, id`. -/
def later (left right : FileTouched) : Prop :=
  right.updatedAtMs < left.updatedAtMs
  ∨ (left.updatedAtMs = right.updatedAtMs ∧ left.id.text ≤ right.id.text)

instance : DecidableRel FileTouched.later := fun left right =>
  inferInstanceAs (Decidable (right.updatedAtMs < left.updatedAtMs
    ∨ (left.updatedAtMs = right.updatedAtMs ∧ left.id.text ≤ right.id.text)))

instance : Std.Total FileTouched.later where
  total left right := by
    rcases lt_trichotomy left.updatedAtMs right.updatedAtMs with less | same | greater
    · exact .inr (.inl less)
    · exact (le_total left.id.text right.id.text).imp (fun ids => .inr ⟨same, ids⟩)
        fun ids => .inr ⟨same.symm, ids⟩
    · exact .inl (.inl greater)

instance : IsTrans FileTouched FileTouched.later where
  trans first second third := by
    rintro (less | ⟨same, ids⟩) (lessToo | ⟨sameToo, idsToo⟩)
    · exact .inl (lessToo.trans less)
    · exact .inl (sameToo ▸ less)
    · exact .inl (same ▸ lessToo)
    · exact .inr ⟨same.trans sameToo, ids.trans idsToo⟩

end FileTouched

-----------------------------------------------------------------------------------------
-- Reads
-----------------------------------------------------------------------------------------

/-- `COALESCE`. -/
def coalesce {α : Type} (values : List (Option α)) : Option α := values.findSome? id

/-- `FileTouchScope`. -/
structure FileTouchScope where
  historyRecordIds : Finset Uuid
  sessionIds : Finset Uuid
  runIds : Finset Uuid
  eventIds : Finset Uuid
  sourceIds : Finset Uuid
deriving DecidableEq

/-- A row that the statement of `file_touch_scope` gives. -/
structure FileTouchScopeRow where
  recordId : Option Uuid
  sessionId : Option Uuid
  runId : Option Uuid
  eventId : Option Uuid
  sourceId : Option Uuid

namespace ImportStore

/-- `LEFT JOIN events e ON e.id = ft.event_id`. -/
def eventOf (store : ImportStore) (touch : FileTouched) : Option EventRow :=
  touch.eventId.bind fun id => store.events.rows.find? fun row => row.id = id

/-- `LEFT JOIN runs r ON r.id = ft.run_id`. -/
def runOf (store : ImportStore) (touch : FileTouched) : Option Run :=
  touch.runId.bind store.runs.find?

/-- `LEFT JOIN sessions source_session ON source_session.capture_source_id = ft.source_id`. -/
def sourceSessionsOf (store : ImportStore) (touch : FileTouched) : List (Option Session) :=
  let sessions :=
    store.sessions.rows.filter fun session =>
      touch.sourceId.isSome && session.captureSourceId = touch.sourceId
  if sessions.isEmpty then [none] else sessions.map some

/-- The sessions of a record. -/
def sessionsOfRecord (store : ImportStore) (recordId : Uuid) : List Uuid :=
  (store.sessions.rows.filter fun session => session.historyRecordId = some recordId).map (·.id)

/-- The condition of both statements for a record on the links of a touch. -/
def linksRecord (store : ImportStore) (recordId : Uuid) (touch : FileTouched) : Bool :=
  let sessions := store.sessionsOfRecord recordId
  let runs :=
    store.runs.rows.filter fun run =>
      run.historyRecordId = some recordId || run.sessionId.any (· ∈ sessions)
  let events :=
    store.events.rows.filter fun event =>
      event.historyRecordId = some recordId || event.sessionId.any (· ∈ sessions)
  touch.historyRecordId = some recordId
  || touch.runId.any (· ∈ runs.map (·.id))
  || touch.eventId.any (· ∈ events.map (·.id))

/-- `files_touched_for_record`. -/
def filesTouchedForRecord (store : ImportStore) (recordId : Uuid) : List FileTouched :=
  (store.filesTouched.rows.filter (store.linksRecord recordId)).insertionSort FileTouched.later

/-- `files_touched_for_record_matching`. -/
def filesTouchedForRecordMatching (store : ImportStore) (recordId : Uuid) (file : String)
    : List FileTouched :=
  match fileTouchMatchValues file.toList with
  | none => []
  | some (exact, suffix) =>
      (store.filesTouched.rows.filter fun touch =>
          store.linksRecord recordId touch && touch.matchesValues exact suffix).insertionSort
        FileTouched.later

/-- The columns that `file_touch_scope` reads of a touch. -/
def scopeRows (store : ImportStore) (touch : FileTouched) : List FileTouchScopeRow :=
  let event := store.eventOf touch
  let run := store.runOf touch
  let eventSession := (event.bind (·.sessionId)).bind store.sessions.find?
  let runSession := (run.bind (·.sessionId)).bind store.sessions.find?
  (store.sourceSessionsOf touch).map fun sourceSession =>
    { recordId :=
        coalesce
          [touch.historyRecordId, event.bind (·.historyRecordId), run.bind (·.historyRecordId),
            eventSession.bind (·.historyRecordId), runSession.bind (·.historyRecordId),
            sourceSession.bind (·.historyRecordId)]
      sessionId :=
        coalesce [event.bind (·.sessionId), run.bind (·.sessionId), sourceSession.map (·.id)]
      runId := touch.runId
      eventId := touch.eventId
      sourceId := touch.sourceId }

/-- The touches that `file_touch_scope` selects. -/
def scopeTouches (store : ImportStore) (file : String) : List FileTouched :=
  match fileTouchMatchValues file.toList with
  | none => []
  | some (exact, suffix) =>
      store.filesTouched.rows.filter fun touch => touch.matchesValues exact suffix

/-- `file_touch_scope`. -/
def fileTouchScope (store : ImportStore) (file : String) : FileTouchScope :=
  let rows := (store.scopeTouches file).flatMap store.scopeRows
  { historyRecordIds := (rows.filterMap (·.recordId)).toFinset
    sessionIds := (rows.filterMap (·.sessionId)).toFinset
    runIds := (rows.filterMap (·.runId)).toFinset
    eventIds := (rows.filterMap (·.eventId)).toFinset
    sourceIds := (rows.filterMap (·.sourceId)).toFinset }

end ImportStore

end CtxRemote.Capture
