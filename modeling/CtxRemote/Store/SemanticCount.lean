import CtxRemote.Store.SearchProjection
import Mathlib.Algebra.BigOperators.Group.List.Basic

/-! The cached count of semantically searchable items. A write adjusts it by what
`semantic_searchable_event_parts` says of the event and of the row it replaces; the exact count asks
SQL of the stored rows. The two differ where a preview starts with a zero character, and where
`LIKE`, which folds case and reads `_` as a wildcard, finds a control prefix that `starts_with` does
not.
-/

namespace CtxRemote.Store
open CtxRemote.Library
open CtxRemote.Turso (trim isWhitespace Visibility SyncState)

-----------------------------------------------------------------------------------------
-- Texts as SQL sees them
-----------------------------------------------------------------------------------------

/-- A text without zero characters is seen as a whole. -/
theorem untilZero_append {lead : List Char} (free : ∀ c ∈ lead, c ≠ '\x00') (rest : List Char)
    : untilZero (lead ++ rest) = lead ++ untilZero rest := by
  unfold untilZero
  exact List.takeWhile_append_of_pos fun c member => decide_eq_true (free c member)

theorem length_le_sqlLength {lead : List Char} (free : ∀ c ∈ lead, c ≠ '\x00')
    (rest : List Char)
    : lead.length ≤ sqlLength (lead ++ rest) := by
  unfold sqlLength
  rw [untilZero_append free]
  simp

theorem sqlTrim_eq_strip (text : List Char) : sqlTrim text = strip (fun c => decide (c = ' ')) text :=
  rfl

theorem trim_eq_strip (text : List Char) : trim text = strip isWhitespace text :=
  rfl

namespace Json

theorem escape_ne_nil (c : Char) : escape c ≠ [] := by
  unfold escape
  repeat' split
  all_goals simp

/-- No zero character is left in a string literal. -/
theorem escape_ne_zero {c d : Char} (member : d ∈ escape c) : d ≠ '\x00' := by
  rintro rfl
  have digit : ∀ n < 16, Nat.digitChar n ≠ '\x00' := by decide
  unfold escape at member
  iterate 7
    split at member
    · exact absurd member (by decide)
  split at member
  next low =>
      have high := digit (c.toNat / 16) (by omega)
      have rest := digit (c.toNat % 16) (by omega)
      simp [high.symm, rest.symm] at member
  next visible =>
      rw [← List.mem_singleton.mp member] at visible
      exact visible (by decide)

theorem quoted_ne_zero {text : String} {d : Char} (member : d ∈ quoted text) : d ≠ '\x00' := by
  unfold quoted at member
  rcases List.mem_cons.mp member with rfl | member
  · decide
  · rcases List.mem_append.mp member with member | member
    · obtain ⟨c, -, member⟩ := List.mem_flatMap.mp member
      exact escape_ne_zero member
    · rw [List.mem_singleton.mp member]
      decide

/-- An object's text ends in its closing brace, by induction on the fields. -/
theorem getLast?_compactFields (fields : List (String × Json))
    : (compactFields fields).getLast? = some '\x7d' := by
  induction fields with
  | nil => rfl
  | cons field rest ih =>
      obtain ⟨key, value⟩ := field
      unfold compactFields
      cases rest with
      | nil => simp [List.getLast?_cons]
      | cons next rest =>
          rw [List.getLast?_append, List.getLast?_cons, List.getLast?_append, List.getLast?_cons, ih]
          simp

/-- A literal has its two quotes, and a character between them unless its text is empty. -/
theorem length_quoted (text : String)
    : 2 ≤ (quoted text).length ∧ (text.toList ≠ [] → 3 ≤ (quoted text).length) := by
  constructor
  · simp [quoted]
  · intro filled
    obtain ⟨c, rest, same⟩ := List.exists_cons_of_ne_nil filled
    have one : 0 < (escape c).length := List.length_pos_iff.mpr (escape_ne_nil c)
    simp only [quoted, same, List.flatMap_cons, List.length_cons, List.length_append,
      List.length_nil]
    omega

/-- A string literal that is not empty is longer than two characters for SQL. -/
theorem long_of_string {value : String} (filled : value.toList ≠ [])
    : 2 < sqlLength (sqlTrim (compact (.string value))) := by
  have whole : sqlTrim (quoted value) = quoted value := by
    rw [sqlTrim_eq_strip]
    have starts : (quoted value).head? = some '"' := rfl
    have ends : (quoted value).getLast? = some '"' := by simp [quoted, List.getLast?_cons]
    exact strip_eq_self starts rfl ends rfl
  have seen := length_le_sqlLength (fun c (member : c ∈ quoted value) => quoted_ne_zero member) []
  have long := (length_quoted value).2 filled
  rw [List.append_nil] at seen
  unfold compact
  rw [whole]
  omega

/-- An object with a field is longer than two characters for SQL. -/
theorem long_of_object {fields : List (String × Json)} (filled : fields ≠ [])
    : 2 < sqlLength (sqlTrim (compact (.object fields))) := by
  obtain ⟨⟨key, value⟩, rest, rfl⟩ := List.exists_cons_of_ne_nil filled
  have ends := getLast?_compactFields ((key, value) :: rest)
  have split : ∃ more, compactFields ((key, value) :: rest) = quoted key ++ more := by
    unfold compactFields
    exact ⟨_, rfl⟩
  obtain ⟨more, split⟩ := split
  have whole : sqlTrim ('\x7b' :: compactFields ((key, value) :: rest))
      = '\x7b' :: compactFields ((key, value) :: rest) := by
    rw [sqlTrim_eq_strip]
    have starts : ('\x7b' :: compactFields ((key, value) :: rest)).head? = some '\x7b' := rfl
    have last : ('\x7b' :: compactFields ((key, value) :: rest)).getLast? = some '\x7d' := by
      simp [List.getLast?_cons, ends]
    exact strip_eq_self starts rfl last rfl
  unfold compact
  rw [whole, split, ← List.cons_append]
  have free : ∀ c ∈ '\x7b' :: quoted key, c ≠ '\x00' := by
    intro c member
    rcases List.mem_cons.mp member with rfl | member
    · decide
    · exact quoted_ne_zero member
  have seen := length_le_sqlLength free more
  have long := (length_quoted key).1
  rw [List.length_cons] at seen
  omega

/-- The text of a payload that has a text preview is longer than two characters for SQL. -/
theorem long_of_textPreview {payload : Json} {text : String}
    (found : eventPayloadTextPreview payload = some text)
    : 2 < sqlLength (sqlTrim payload.compact) := by
  cases payload with
  | string value =>
      refine long_of_string fun empty => ?_
      simp [eventPayloadTextPreview, Json.get, eventTextValuePreview, asStr, nonBlank, empty,
        trim] at found
  | object fields =>
      refine long_of_object ?_
      rintro rfl
      simp [eventPayloadTextPreview, Json.get, eventTextValuePreview, asStr, asObject] at found
  | _ => simp [eventPayloadTextPreview, Json.get, eventTextValuePreview, asStr, asObject] at found

end Json

-----------------------------------------------------------------------------------------
-- One event
-----------------------------------------------------------------------------------------

/-- The preview of a user message. -/
def userPreview (payload : Json) : String :=
  eventSearchPreviewFromPayload .message (some .user) payload .safePreview

/-- SQL takes a preview that `starts_with` takes for no control message for none either: it does not
start with a zero character, and `LIKE` finds no control prefix.
-/
def SeenAlike (preview : String) : Prop :=
  semanticLiteTurnPreviewIsControl preview = false →
    preview.toList.head? ≠ some '\x00'
    ∧ ∀ control ∈ controlPrefixes, sqlLike (sqlTrim preview.toList) (control ++ "%") = false

/-- The preview of a user message is empty or starts with a character that is not white space. -/
theorem userPreview_cases (payload : Json)
    : userPreview payload = ""
      ∨ (Starts (userPreview payload) ∧ 2 < sqlLength (sqlTrim payload.compact)) := by
  unfold userPreview eventSearchPreviewFromPayload
  simp only [eventRoleIsSearchableConversation, if_true]
  cases found : eventPayloadTextPreview payload with
  | none => exact .inl (by simp [localPreview])
  | some text =>
      obtain ⟨c, rest, same, visible⟩ := starts_of_payloadText found
      exact .inr ⟨⟨c, rest.take 2047, by simp [localPreview, same], visible⟩,
        Json.long_of_textPreview found⟩

/-- What starts with a control prefix does so for `LIKE` too. -/
theorem sqlLike_of_isControl {preview : String} (starts : Starts preview)
    (control : semanticLiteTurnPreviewIsControl preview = true)
    : ∃ control ∈ controlPrefixes,
        sqlLike (sqlTrim preview.toList) (control ++ "%") = true := by
  obtain ⟨c, rest, same, visible⟩ := starts
  unfold semanticLiteTurnPreviewIsControl at control
  obtain ⟨control, member, lead⟩ := List.any_eq_true.mp control
  refine ⟨control, member, ?_⟩
  have within : control.toList <+: preview.toList := by
    rw [List.isPrefixOf_iff_prefix, trim_eq_strip, same] at lead
    rw [same]
    exact lead.trans (strip_isPrefix visible rest)
  obtain ⟨after, split⟩ := within
  have ends : ∃ first last, control.toList.head? = some first ∧ decide (first = ' ') = false
      ∧ control.toList.getLast? = some last ∧ decide (last = ' ') = false
      ∧ control.toList.all (· ≠ '\x00') = true := by
    simp only [controlPrefixes, List.mem_cons, List.not_mem_nil, or_false] at member
    rcases member with rfl | rfl | rfl | rfl
    all_goals exact ⟨_, _, rfl, rfl, rfl, rfl, rfl⟩
  obtain ⟨first, last, starts, keepsFirst, endsWith, keepsLast, zeros⟩ := ends
  have free : ∀ d ∈ control.toList, d ≠ '\x00' := by simpa using zeros
  rw [← split, sqlTrim_eq_strip, strip_append after starts keepsFirst endsWith keepsLast]
  unfold sqlLike
  rw [untilZero_append free]
  simpa using like_self_append control.toList _

/-- A text that starts with a visible character is empty for SQL when that is a zero character. -/
theorem sqlLength_sqlTrim_pos {preview : String} (starts : Starts preview)
    : 0 < sqlLength (sqlTrim preview.toList) ↔ preview.toList.head? ≠ some '\x00' := by
  obtain ⟨c, rest, same, visible⟩ := starts
  have keeps : (fun d : Char => decide (d = ' ')) c = false := by
    rw [decide_eq_false_iff_not]
    rintro rfl
    cases visible
  rw [same, sqlTrim_eq_strip, @strip_cons _ (fun d => decide (d = ' ')) c keeps rest]
  unfold sqlLength untilZero
  by_cases zero : c = '\x00'
  · simp [zero]
  · simp [zero]

theorem not_blank_of_starts {preview : String} (starts : Starts preview) : ¬ Blank preview := by
  obtain ⟨c, rest, same, visible⟩ := starts
  unfold Blank
  rw [same, trim_eq_strip, strip_cons visible]
  simp

/-- The lookup row that the exact count finds among the rows of a visible preview. -/
theorem anchorMatches_searchRows {externals : Externals} {anchor : EventRow}
    {historyRecordId sessionId : Option Uuid} {preview : String} (starts : Starts preview)
    : anchorMatches
        (searchRows externals anchor.id historyRecordId sessionId (some .user) .message preview)
        anchor
      = if anchorEligible anchor
            ⟨.eventSearchLookup, anchor.id, historyRecordId, sessionId, some .user, preview,
              EventType.message.asStr⟩ then
          [⟨.eventSearchLookup, anchor.id, historyRecordId, sessionId, some .user, preview,
            EventType.message.asStr⟩]
        else [] := by
  have filled : ¬ (trim preview.toList).isEmpty = true := not_blank_of_starts starts
  have lookup : semanticLookupEventParts .message (some .user) = true := rfl
  unfold anchorMatches searchRows
  rw [if_neg filled, lookup]
  dsimp only
  rw [List.filter_append, List.filter_append]
  have fullText (rows : List SearchRow) (other : ∀ row ∈ rows, row.table ≠ .eventSearchLookup)
      : rows.filter (fun search =>
          search.table = .eventSearchLookup && search.eventId = anchor.id
            && anchorEligible anchor search) = [] := by
    rw [List.filter_eq_nil_iff]
    intro row member
    simp [other row member]
  rw [fullText _ (by simp), fullText]
  · simp [List.filter_cons]
  · intro row member
    split at member
    next => cases member
    next =>
        rw [List.mem_singleton.mp member]
        simp

/-- SQL counts an event that is no user message, or is deleted, nowhere. -/
theorem anchorMatches_eq_nil {projection : List SearchRow} {anchor : EventRow}
    (other
      : anchor.eventType ≠ .message ∨ anchor.role ≠ some .user ∨ anchor.deletedAtMs.isSome)
    : anchorMatches projection anchor = [] := by
  unfold anchorMatches
  rw [List.filter_eq_nil_iff]
  intro search _
  unfold anchorEligible
  rcases other with type | role | deleted
  · simp [type]
  · simp [role]
  · simp [Option.isSome_iff_ne_none.mp deleted]

/-- A shown user message is searchable for the writer when its preview is visible and no control
message.
-/
theorem semanticSearchable_userMessage {payload : Json} {visibility : Visibility}
    {syncState : SyncState} (visible : visibility ≠ .withheld) (synced : syncState ≠ .withheld)
    : semanticSearchableEventParts payload .safePreview .message (some .user) visibility syncState
        false
      = (decide (¬ Blank (userPreview payload))
          && !semanticLiteTurnPreviewIsControl (userPreview payload)) := by
  unfold semanticSearchableEventParts eventSearchableEventParts userPreview
  generalize eventSearchPreviewFromPayload .message (some .user) payload .safePreview = preview
  by_cases blank : (trim preview.toList).isEmpty = true
  · simp [blank, Blank]
  · simp [blank, Blank, visible, synced]

/-- A shown user message with a visible preview is eligible for SQL when its preview is no control
message for `LIKE` and does not start with a zero character.
-/
theorem anchorEligible_userMessage {event : Event} (legal : event.row.checked)
    (type : event.eventType = .message) (role : event.role = some .user)
    (kept : event.sync.deletedAt = none) (starts : Starts (userPreview event.payload))
    (long : 2 < sqlLength (sqlTrim event.payload.compact)) {search : SearchRow}
    (text : search.text = userPreview event.payload)
    : anchorEligible event.row search = true
      ↔ (userPreview event.payload).toList.head? ≠ some '\x00'
        ∧ ∀ control ∈ controlPrefixes,
            sqlLike (sqlTrim (userPreview event.payload).toList) (control ++ "%") = false := by
  obtain ⟨visible, synced⟩ := EventRow.checked_iff.mp legal
  simp only [Event.row] at visible synced
  have payload : event.row.payloadJson.toList = event.payload.compact := by
    simp [Event.row, Json.text]
  unfold anchorEligible
  rw [text, payload, ← sqlLength_sqlTrim_pos starts]
  simp [Event.row, type, role, kept, visible, synced, long, and_comm]

/-- The writer and SQL count a stored event alike exactly when it is no user message, is deleted, or
SQL sees its preview alike.
-/
theorem countsAlike_iff {externals : Externals} {event : Event} (legal : event.row.checked)
    : semanticSearchableDocumentCountForEvent event
        = (anchorMatches (insertedSearchRows externals event.id event) event.row).length
      ↔ (event.eventType = .message → event.role = some .user → event.sync.deletedAt = none →
          SeenAlike (userPreview event.payload)) := by
  unfold semanticSearchableDocumentCountForEvent
  by_cases shown : event.eventType = .message ∧ event.role = some .user
      ∧ event.sync.deletedAt = none
  · obtain ⟨type, role, kept⟩ := shown
    obtain ⟨visible, synced⟩ := EventRow.checked_iff.mp legal
    simp only [Event.row] at visible synced
    rw [insertedSearchRows_eq legal, type, role, kept, Option.isSome_none, if_neg (by simp),
      semanticSearchable_userMessage visible synced]
    change _ = (anchorMatches (searchRows externals event.row.id event.historyRecordId
      event.sessionId (some .user) .message (userPreview event.payload)) event.row).length ↔ _
    simp only [true_implies]
    rcases userPreview_cases event.payload with empty | ⟨starts, long⟩
    · have unlike : SeenAlike "" := by
        intro _
        exact ⟨by decide, by decide⟩
      rw [empty]
      simp [blank_empty, searchRows, anchorMatches, unlike, trim]
    · rw [anchorMatches_searchRows starts]
      have eligible := anchorEligible_userMessage legal type role kept starts long
        (show (⟨.eventSearchLookup, event.row.id, event.historyRecordId, event.sessionId,
          some .user, userPreview event.payload, EventType.message.asStr⟩ : SearchRow).text
          = userPreview event.payload from rfl)
      have filled := not_blank_of_starts starts
      cases control : semanticLiteTurnPreviewIsControl (userPreview event.payload) with
      | false =>
          have alike : SeenAlike (userPreview event.payload) ↔ _ :=
            (forall_prop_of_true control).trans eligible.symm
          rw [alike]
          split
          next found => simp [filled, found]
          next missed => simp [filled, missed]
      | true =>
          obtain ⟨lead, member, liked⟩ := sqlLike_of_isControl starts control
          rw [if_neg fun found => by simp [(eligible.mp found).2 lead member] at liked]
          simp [SeenAlike, control]
  · have unseen : event.row.eventType ≠ .message ∨ event.row.role ≠ some .user
        ∨ event.row.deletedAtMs.isSome := by
      by_contra seen
      simp only [not_or, not_not, Event.row, Option.isSome_map, Bool.not_eq_true,
        Option.isSome_eq_false_iff, Option.isNone_iff_eq_none] at seen
      exact shown seen
    have uncounted : semanticSearchableEventParts event.payload .safePreview event.eventType
        event.role event.sync.visibility event.sync.syncState event.sync.deletedAt.isSome
        = false := by
      unfold semanticSearchableEventParts
      split
      next => rfl
      next user =>
          simp only [Bool.or_eq_true, decide_eq_true_eq, not_or, not_not] at user
          have deleted : event.sync.deletedAt.isSome = true :=
            Option.isSome_iff_ne_none.mpr fun kept => shown ⟨user.1, user.2, kept⟩
          simp [eventSearchableEventParts, deleted]
    rw [anchorMatches_eq_nil unseen, uncounted]
    exact ⟨fun _ type role kept => absurd ⟨type, role, kept⟩ shown, fun _ => rfl⟩

-----------------------------------------------------------------------------------------
-- The whole count
-----------------------------------------------------------------------------------------

/-- The cached count, if there is one, is the exact count. -/
def CountExact (db : Database) : Prop :=
  ∀ value, db.searchableItems = some value → value = semanticSearchableItemCountExact db

/-- SQL sees the preview of a user message alike, and the payload read back has the same preview. -/
def CountedPlainly (externals : Externals) (event : Event) : Prop :=
  event.eventType = .message → event.role = some .user → event.sync.deletedAt = none →
    SeenAlike (userPreview event.payload)
    ∧ ∀ payload, externals.fromStr event.payload.text = some payload →
        userPreview payload = userPreview event.payload

/-- The cached count is exact, and remains adjustable: lookup rows belong to stored events, as their
foreign key says, and every stored event is counted by SQL as the writer counts it when it reads it
back.
-/
structure CountKept (externals : Externals) (db : Database) : Prop where
  anchored
    : ∀ search ∈ db.projection,
        search.table = .eventSearchLookup → ∃ event ∈ db.events.rows, event.id = search.eventId
  alike
    : ∀ event ∈ db.events.rows, ∀ payload,
        externals.fromStr event.payloadJson = some payload →
        (semanticSearchableEventParts payload .safePreview event.eventType event.role
          event.visibility event.syncState event.deletedAtMs.isSome).toNat
        = (anchorMatches db.projection event).length
  exact : CountExact db

theorem eventId_of_mem_insertedSearchRows {externals : Externals} {eventId : Uuid} {event : Event}
    {row : SearchRow} (member : row ∈ insertedSearchRows externals eventId event)
    : row.eventId = eventId := by
  unfold insertedSearchRows at member
  split at member
  next => cases member
  next => exact eventId_of_mem_searchRows member

section Write

variable {externals : Externals} {db : Database} {event : Event} {kept : List SearchRow}

/-- A write leaves the lookup rows of other events alone. -/
theorem anchorMatches_other {anchor : EventRow} (other : anchor.id ≠ event.id)
    (without
      : kept = db.projection.filter (fun row => row.eventId ≠ event.id)
        ∨ (kept = db.projection ∧ db.eventById event.id = none))
    : anchorMatches (kept ++ insertedSearchRows externals event.id event) anchor
      = anchorMatches db.projection anchor := by
  unfold anchorMatches
  have inserted : (insertedSearchRows externals event.id event).filter (fun search =>
      search.table = .eventSearchLookup && search.eventId = anchor.id
        && anchorEligible anchor search) = [] := by
    rw [List.filter_eq_nil_iff]
    intro row member
    simp [eventId_of_mem_insertedSearchRows member, other.symm]
  rw [List.filter_append, inserted, List.append_nil]
  rcases without with rfl | ⟨rfl, -⟩
  · rw [List.filter_filter]
    refine List.filter_congr fun row _ => ?_
    by_cases same : row.eventId = anchor.id
    · simp [same, other]
    · simp [same]
  · rfl

/-- The lookup rows of the written event are the inserted ones. -/
theorem anchorMatches_written
    (anchored
      : ∀ search ∈ db.projection,
          search.table = .eventSearchLookup → ∃ row ∈ db.events.rows, row.id = search.eventId)
    (without
      : kept = db.projection.filter (fun row => row.eventId ≠ event.id)
        ∨ (kept = db.projection ∧ db.eventById event.id = none))
    : anchorMatches (kept ++ insertedSearchRows externals event.id event) event.row
      = anchorMatches (insertedSearchRows externals event.id event) event.row := by
  unfold anchorMatches
  have gone : kept.filter (fun search =>
      search.table = .eventSearchLookup && search.eventId = event.row.id
        && anchorEligible event.row search) = [] := by
    rw [List.filter_eq_nil_iff]
    intro row member found
    simp only [Bool.and_eq_true, decide_eq_true_eq] at found
    have own : row.eventId = event.id := found.1.2
    rcases without with rfl | ⟨rfl, fresh⟩
    · simp [own] at member
    · obtain ⟨stored, inside, same⟩ := anchored row member found.1.1
      have absent := List.find?_eq_none.mp fresh stored inside
      simp [same, own] at absent
  rw [List.filter_append, gone, List.nil_append]

end Write

/-- The exact count adds up over the event with a given id and the others. -/
theorem exactCount_split (db : Database) (id : Uuid)
    : semanticSearchableItemCountExact db
      = ((db.eventById id).toList.map fun row => (anchorMatches db.projection row).length).sum
        + ((db.events.others (·.id) id).map fun row =>
            (anchorMatches db.projection row).length).sum := by
  have rows : db.events.rows.Perm ((db.eventById id).toList ++ db.events.others (·.id) id) :=
    Table.rows_perm EventRow.clash_of_id id
  have split := rows.map fun row => (anchorMatches db.projection row).length
  rw [semanticSearchableItemCountExact, split.sum_eq, List.map_append, List.sum_append]

/-- An adjustment by the right difference makes the cached count exact. -/
theorem countExact_adjustStats {db : Database} {previous current rest : Nat}
    (before : ∀ value, db.searchableItems = some value → value = (previous + rest : Nat))
    (after : semanticSearchableItemCountExact db = current + rest)
    : CountExact (adjustSemanticSearchableItemStats db previous current) := by
  intro value cached
  have unchanged : semanticSearchableItemCountExact
      (adjustSemanticSearchableItemStats db previous current) = current + rest := by
    rw [semanticSearchableItemCountExact, events_adjustStats, projection_adjustStats]
    exact after
  rw [unchanged]
  unfold adjustSemanticSearchableItemStats at cached
  split at cached
  next same => rw [before value cached, same]
  next =>
      split at cached
      next =>
          obtain rfl := Option.some.inj cached
          rw [after]
      next old found =>
          obtain rfl := Option.some.inj cached
          rw [before old found]
          omega

/-- What the writer reads back of a plainly counted event is what it counted. -/
theorem readBack_plain {externals : Externals} {event : Event} {payload : Json}
    (legal : event.row.checked) (plain : CountedPlainly externals event)
    (parsed : externals.fromStr event.payload.text = some payload)
    : (semanticSearchableEventParts payload .safePreview event.row.eventType event.row.role
        event.row.visibility event.row.syncState event.row.deletedAtMs.isSome).toNat
      = semanticSearchableDocumentCountForEvent event := by
  obtain ⟨visible, synced⟩ := EventRow.checked_iff.mp legal
  simp only [Event.row] at visible synced
  unfold semanticSearchableDocumentCountForEvent
  simp only [Event.row, Option.isSome_map]
  by_cases user : event.eventType = .message ∧ event.role = some .user
  · obtain ⟨type, role⟩ := user
    by_cases deleted : event.sync.deletedAt = none
    · have same := (plain type role deleted).2 payload parsed
      rw [type, role, deleted, Option.isSome_none, semanticSearchable_userMessage visible synced,
        semanticSearchable_userMessage visible synced, same]
    · have gone : event.sync.deletedAt.isSome = true := Option.isSome_iff_ne_none.mpr deleted
      simp [semanticSearchableEventParts, eventSearchableEventParts, gone]
  · have other : (event.eventType ≠ .message ∨ event.role ≠ some .user) := by
      by_contra both
      simp only [not_or, not_not] at both
      exact user both
    simp [semanticSearchableEventParts, other]

/-- The count that a writer finds for the row it replaces is what SQL counts for that row. -/
theorem previous_eq_count {externals : Externals} {db : Database} {id : Uuid} {previous : Nat}
    (keeps : CountKept externals db)
    (counted
      : semanticSearchableDocumentCountFromStoredEvent externals db id = .ok previous)
    : ((db.eventById id).toList.map fun row => (anchorMatches db.projection row).length).sum
      = previous := by
  unfold semanticSearchableDocumentCountFromStoredEvent at counted
  cases found : db.eventById id with
  | none =>
      simp only [found, Except.ok.injEq] at counted
      simpa using counted
  | some old =>
      simp only [found] at counted
      split at counted
      next => cases counted
      next payload parsed =>
          simp only [Except.ok.injEq] at counted
          have same := keeps.alike old (List.mem_of_find?_eq_some found) payload parsed
          simp [← counted, same]

/-- An accepted write of an event that is counted plainly keeps the count. -/
theorem countKept_perform {externals : Externals} {db : Database} {write : EventWrite}
    (keeps : CountKept externals db) (accepted : write.accepted externals db = true)
    (plain : CountedPlainly externals write.event)
    : CountKept externals (write.perform externals db) := by
  obtain ⟨previous, events, kept, counted, legal, -, rows, without, performed⟩ :=
    EventWrite.perform_accepted accepted
  have written : (anchorMatches (kept ++ insertedSearchRows externals write.event.id write.event)
        write.event.row).length
      = semanticSearchableDocumentCountForEvent write.event := by
    rw [anchorMatches_written keeps.anchored without]
    exact ((countsAlike_iff legal).mpr fun type role shown => (plain type role shown).1).symm
  have unchanged : ∀ row ∈ db.events.others (·.id) write.event.id,
      anchorMatches (kept ++ insertedSearchRows externals write.event.id write.event) row
      = anchorMatches db.projection row := by
    intro row member
    exact anchorMatches_other (by simpa using (List.mem_filter.mp member).2) without
  rw [performed]
  constructor
  · intro search member table
    rw [projection_adjustStats] at member
    rw [events_adjustStats, rows]
    rcases List.mem_append.mp member with held | inserted
    · have stored : search ∈ db.projection ∧ ∀ row ∈ db.events.rows, row.id = search.eventId →
          row.id ≠ write.event.id := by
        rcases without with rfl | ⟨rfl, fresh⟩
        · obtain ⟨inside, other⟩ := List.mem_filter.mp held
          exact ⟨inside, fun row _ same => by simpa [same] using other⟩
        · exact ⟨held, fun row inside _ => by
            simpa using List.find?_eq_none.mp fresh row inside⟩
      obtain ⟨row, inside, same⟩ := keeps.anchored search stored.1 table
      refine ⟨row, List.mem_append_left _ (List.mem_filter.mpr ⟨inside, ?_⟩), same⟩
      simpa using stored.2 row inside same
    · exact ⟨write.event.row, by simp, (eventId_of_mem_insertedSearchRows inserted).symm⟩
  · intro row member payload parsed
    rw [events_adjustStats, rows] at member
    rw [projection_adjustStats]
    rcases List.mem_append.mp member with other | own
    · rw [unchanged row other]
      exact keeps.alike row (List.mem_filter.mp other).1 payload parsed
    · obtain rfl := List.mem_singleton.mp own
      rw [written]
      exact readBack_plain legal plain parsed
  · have before : ∀ value, db.searchableItems = some value →
        value = (previous + ((db.events.others (·.id) write.event.id).map fun row =>
          (anchorMatches db.projection row).length).sum : Nat) := by
      intro value cached
      rw [keeps.exact value cached, exactCount_split db write.event.id,
        previous_eq_count keeps counted]
    refine countExact_adjustStats before ?_
    have others : ((db.events.others (·.id) write.event.id).map fun row =>
          (anchorMatches (kept ++ insertedSearchRows externals write.event.id write.event)
            row).length)
        = (db.events.others (·.id) write.event.id).map fun row =>
            (anchorMatches db.projection row).length :=
      List.map_congr_left fun row member => by rw [unchanged row member]
    rw [semanticSearchableItemCountExact, rows, List.map_append, List.sum_append, others,
      Nat.add_comm]
    simp [written]

-----------------------------------------------------------------------------------------
-- Runs
-----------------------------------------------------------------------------------------

/-- An accepted write stores an event that is counted plainly. -/
def AcceptedCountedPlainly (externals : Externals) (db : Database) (write : EventWrite) : Prop :=
  write.accepted externals db = true → CountedPlainly externals write.event

/-- The cached count is exact in every state of a run that stores only plainly counted events. -/
theorem allStates_countExact {externals : Externals} {db : Database} {writes : List EventWrite}
    (keeps : CountKept externals db)
    (plain : AllSteps (EventWrite.step externals) (AcceptedCountedPlainly externals) db writes)
    : AllStates (EventWrite.step externals) CountExact db writes := by
  refine AllStates.imp (fun _ kept => kept.exact) (allStates_of_guarded (CountKept externals)
    ?_ keeps plain)
  intro db write next kept guard taken
  obtain rfl : write.perform externals db = next := Option.some.inj taken
  cases accepted : write.accepted externals db with
  | true => exact countKept_perform kept accepted (guard accepted)
  | false =>
      rw [EventWrite.perform_refused accepted]
      exact kept

/-- The empty database keeps the count. -/
theorem countKept_empty (externals : Externals) : CountKept externals .empty where
  anchored := by
    intro search member
    cases member
  alike := by
    intro event member
    cases member
  exact := by
    intro value cached
    cases cached

/-- The exact count is kept while `greeting` is stored. -/
theorem greeting_countExact
    : AllStates (EventWrite.step greetingExternals) CountExact .empty
        [.upsert greeting, .insert greeting] := by
  refine allStates_countExact (countKept_empty _) (AllSteps.of_labels ?_ _)
  intro write member db _ _ _ _
  have own : write.event = greeting := by
    rcases List.mem_cons.mp member with rfl | later
    · rfl
    · rw [List.mem_singleton.mp later]
      rfl
  rw [own]
  refine ⟨fun _ => by decide, fun payload parsed => ?_⟩
  have same : payload = .string "hi" := (Option.some.inj parsed).symm
  rw [same]
  rfl

/-- A user message that quotes a control prefix in upper case. -/
def shouted : Event :=
  { greeting with payload := .string "<TURN_ABORTED> why?" }

/-- SQL takes the shouted message for a control message, the writer does not. -/
theorem shouted_not_countExact
    : ¬ AllStates (EventWrite.step greetingExternals) CountExact
        { Database.empty with searchableItems := some 0 } [.upsert shouted] := by
  intro exact
  have wrong := (exact.2 _ rfl).start 1 (by decide)
  revert wrong
  decide

end CtxRemote.Store
