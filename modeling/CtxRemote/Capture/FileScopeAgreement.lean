import CtxRemote.Capture.FileScope
import CtxRemote.Store.HiddenEvents

/-! How far the two reads of file touches agree: which paths a query names, and which records the
scope knows.
-/

namespace CtxRemote.Capture
open CtxRemote.Library
open CtxRemote.Store (Uuid EventRow untilZero)
open CtxRemote.Turso (trim)

-----------------------------------------------------------------------------------------
-- Names
-----------------------------------------------------------------------------------------

/-- The path ends with a slash and the name, up to ASCII case. -/
def EndsWithName (name path : List Char) : Prop :=
  ∃ before piece, path = before ++ '/' :: piece ∧ List.Forall₂ LikeEq name piece

/-- A path is the trimmed query, or ends with a slash and the query without its first separators. -/
def FileTouched.NamedBy (file : String) (touch : FileTouched) : Prop :=
  trim file.toList ∈ touch.paths
  ∨ ∃ path ∈ touch.paths, EndsWithName (withoutSeparators (trim file.toList)) path

/-- What LIKE makes of the same: it ends the query and the path at a zero character. -/
def FileTouched.NamedUntilZero (file : String) (touch : FileTouched) : Prop :=
  trim file.toList ∈ touch.paths
  ∨ ∃ path ∈ touch.paths,
      EndsWithName (untilZero (withoutSeparators (trim file.toList))) (untilZero path)

/-- No path is the query, and the part of a path or of the query from a zero character on decides
whether a path ends with the query.
-/
def FileTouched.ZeroDecides (file : String) (touch : FileTouched) : Prop :=
  trim file.toList ∉ touch.paths
  ∧ ¬((∃ path ∈ touch.paths,
          EndsWithName (untilZero (withoutSeparators (trim file.toList))) (untilZero path))
      ↔ ∃ path ∈ touch.paths, EndsWithName (withoutSeparators (trim file.toList)) path)

theorem FileTouched.namedUntilZero_iff {file : String} {touch : FileTouched}
    : (touch.NamedUntilZero file ↔ touch.NamedBy file) ↔ ¬touch.ZeroDecides file := by
  unfold NamedUntilZero NamedBy ZeroDecides
  by_cases exact : trim file.toList ∈ touch.paths
  · simp only [exact, true_or, not_true_eq_false, false_and, not_false_eq_true]
  · simp only [exact, false_or, not_false_eq_true, true_and, not_not]

theorem untilZero_eq_self {text : List Char} (free : '\x00' ∉ text) : untilZero text = text :=
  List.takeWhile_eq_self_iff.mpr fun c member =>
    decide_eq_true fun zero : c = '\x00' => free (zero ▸ member)

/-- Without zero characters in the query and in the paths, none of them decides. -/
theorem FileTouched.not_zeroDecides {file : String} {touch : FileTouched}
    (query : '\x00' ∉ withoutSeparators (trim file.toList))
    (free : ∀ path ∈ touch.paths, '\x00' ∉ path)
    : ¬touch.ZeroDecides file := by
  rintro ⟨-, differ⟩
  refine differ (exists_congr fun path => and_congr_right fun member => ?_)
  rw [untilZero_eq_self query, untilZero_eq_self (free path member)]

/-- Only a slash is like a slash. -/
theorem likeEq_slash {c : Char} : LikeEq '/' c ↔ c = '/' := by
  refine ⟨fun same => ?_, fun same => same ▸ rfl⟩
  have lower : '/' = c.toLower := same
  unfold Char.toLower at lower
  split at lower
  next upper =>
      have code := congrArg (fun d : Char => d.val.toNat) lower
      have low : 65 ≤ c.val.toNat := UInt32.le_iff_toNat_le.mp upper.1
      have high : c.val.toNat ≤ 90 := UInt32.le_iff_toNat_le.mp upper.2
      have sum : (c.val + ('a'.val - 'A'.val)).toNat = c.val.toNat + 32 := by
        have shift : ('a'.val - 'A'.val).toNat = 32 := by decide
        rw [UInt32.toNat_add, shift]
        exact Nat.mod_eq_of_lt (by omega)
      simp only [sum] at code
      change 47 = _ at code
      omega
  next => exact lower.symm

theorem untilZero_escapeLikePattern (text : List Char)
    : untilZero (escapeLikePattern text) = escapeLikePattern (untilZero text) := by
  induction text with
  | nil => rfl
  | cons c rest ih =>
      unfold escapeLikePattern escapeLike untilZero at ih ⊢
      by_cases zero : c = '\x00'
      · simp [zero]
      by_cases special : c = '\\' ∨ c = '%' ∨ c = '_'
      · rcases special with rfl | rfl | rfl <;> simp_all
      · simp_all

/-- The pattern of a name matches the paths that end with a slash and the name. -/
theorem likeEscaped_iff {name path : List Char}
    : likeEscaped path ('%' :: '/' :: escapeLikePattern name) = true
      ↔ EndsWithName (untilZero name) (untilZero path) := by
  have pattern
      : untilZero ('%' :: '/' :: escapeLikePattern name)
        = '%' :: escapeLike '\\' ('/' :: untilZero name) := by
    have front (rest : List Char)
        : untilZero ('%' :: '/' :: rest) = '%' :: '/' :: untilZero rest := rfl
    have slash (rest : List Char) : escapeLike '\\' ('/' :: rest) = '/' :: escapeLike '\\' rest := rfl
    rw [front, untilZero_escapeLikePattern, slash]
    rfl
  unfold likeEscaped EndsWithName
  rw [pattern, like_suffix '\\' (by decide)]
  constructor
  · rintro ⟨before, _, same, matched⟩
    cases matched with
    | cons slash matched =>
        obtain rfl := likeEq_slash.mp slash
        exact ⟨before, _, same, matched⟩
  · rintro ⟨before, piece, same, matched⟩
    exact ⟨before, '/' :: piece, same, .cons (likeEq_slash.mpr rfl) matched⟩

/-- The condition of the statements on the paths. -/
theorem FileTouched.matchesValues_iff {file : String} {touch : FileTouched}
    {exact suffix : List Char}
    (values : fileTouchMatchValues file.toList = some (exact, suffix))
    : touch.matchesValues exact suffix = true ↔ touch.NamedUntilZero file := by
  unfold fileTouchMatchValues at values
  simp only at values
  split at values
  next => cases values
  next =>
      obtain ⟨rfl, rfl⟩ := Prod.mk.inj (Option.some.inj values)
      have turned (path : String) : path.toList = trim file.toList ↔ trim file.toList = path.toList :=
        eq_comm
      unfold matchesValues NamedUntilZero paths
      cases touch.oldPath with
      | none => simp [likeEscaped_iff, turned]
      | some oldPath =>
          simp only [Bool.or_eq_true, decide_eq_true_eq, Option.any_some, likeEscaped_iff,
            Option.map_some, Option.toList_some, List.mem_cons, List.not_mem_nil, or_false,
            exists_eq_or_imp, exists_eq_left, turned]
          tauto

-----------------------------------------------------------------------------------------
-- Records
-----------------------------------------------------------------------------------------

namespace ImportStore

/-- The records that a touch names by itself, its event, its run, and their sessions. -/
def recordLinks (store : ImportStore) (touch : FileTouched) : List (Option Uuid) :=
  let event := store.eventOf touch
  let run := store.runOf touch
  [touch.historyRecordId, event.bind (·.historyRecordId), run.bind (·.historyRecordId),
    ((event.bind (·.sessionId)).bind store.sessions.find?).bind (·.historyRecordId),
    ((run.bind (·.sessionId)).bind store.sessions.find?).bind (·.historyRecordId)]

theorem eventOf_eq_some {store : ImportStore} {touch : FileTouched} {event : EventRow}
    : store.eventOf touch = some event ↔ event ∈ store.events ∧ touch.eventId = some event.id := by
  unfold eventOf
  rw [Option.bind_eq_some_iff]
  constructor
  · rintro ⟨id, linked, found⟩
    have same := of_decide_eq_true
      (List.find?_some (p := fun row : EventRow => decide (row.id = id)) found)
    exact ⟨List.mem_of_find?_eq_some found, by rw [linked, same]⟩
  · rintro ⟨member, linked⟩
    refine ⟨event.id, linked, ?_⟩
    cases found : store.events.rows.find? (fun row => row.id = event.id) with
    | none =>
        have missed := List.find?_eq_none.mp found event member
        simp at missed
    | some other =>
        have same := of_decide_eq_true
          (List.find?_some (p := fun row : EventRow => decide (row.id = event.id)) found)
        rw [Table.eq_of_clash (List.mem_of_find?_eq_some found) member
          (EventRow.clash_of_id other event same)]

theorem runOf_eq_some {store : ImportStore} {touch : FileTouched} {run : Run}
    : store.runOf touch = some run ↔ run ∈ store.runs ∧ touch.runId = some run.id := by
  unfold runOf
  simp only [Option.bind_eq_some_iff, Keyed.find?_eq_some]
  constructor
  · rintro ⟨id, linked, member, rfl⟩
    exact ⟨member, linked⟩
  · rintro ⟨member, linked⟩
    exact ⟨_, linked, member, rfl⟩

/-- The session is one of the record's. -/
theorem mem_sessionsOfRecord {store : ImportStore} {recordId : Uuid} {sessionId : Option Uuid}
    : sessionId.any (· ∈ store.sessionsOfRecord recordId) = true
      ↔ (sessionId.bind store.sessions.find?).bind (·.historyRecordId) = some recordId := by
  cases sessionId with
  | none => simp
  | some id =>
      rw [Option.any_some, decide_eq_true_eq]
      simp only [Option.bind_some, Option.bind_eq_some_iff, Keyed.find?_eq_some, sessionsOfRecord,
        List.mem_map, List.mem_filter, decide_eq_true_eq]
      constructor
      · rintro ⟨session, ⟨member, ofRecord⟩, same⟩
        exact ⟨session, ⟨member, same⟩, ofRecord⟩
      · rintro ⟨session, ⟨member, same⟩, ofRecord⟩
        exact ⟨session, ⟨member, ofRecord⟩, same⟩

/-- A linked row is in a selection of its table exactly if the joined row meets its condition. -/
theorem any_mem_ids {Row : Type} {rows : List Row} {id : Row → Uuid} {linked : Option Uuid}
    {joined : Option Row} {condition : Row → Bool}
    (join : ∀ row, joined = some row ↔ row ∈ rows ∧ linked = some (id row))
    : linked.any (fun key => key ∈ (rows.filter condition).map id) = true
      ↔ joined.any condition = true := by
  rw [Option.any_eq_true, Option.any_eq_true]
  constructor
  · rintro ⟨key, rfl, inside⟩
    obtain ⟨row, member, rfl⟩ := List.mem_map.mp (of_decide_eq_true inside)
    obtain ⟨stored, meets⟩ := List.mem_filter.mp member
    exact ⟨row, (join row).mpr ⟨stored, rfl⟩, meets⟩
  · rintro ⟨row, isJoined, meets⟩
    obtain ⟨stored, rfl⟩ := (join row).mp isJoined
    exact ⟨id row, rfl, decide_eq_true
      (List.mem_map_of_mem (List.mem_filter.mpr ⟨stored, meets⟩))⟩

/-- The condition on a joined row is one on its columns and those of its session. -/
theorem any_ofRecord {store : ImportStore} {recordId : Uuid} {Row : Type} {joined : Option Row}
    {record session : Row → Option Uuid}
    : joined.any (fun row =>
          record row = some recordId
            || (session row).any (· ∈ store.sessionsOfRecord recordId)) = true
      ↔ joined.bind record = some recordId
        ∨ ((joined.bind session).bind store.sessions.find?).bind (·.historyRecordId)
            = some recordId := by
  cases joined with
  | none => simp
  | some row => simp [← mem_sessionsOfRecord]

/-- The sub-queries find the records of the joined columns. -/
theorem linksRecord_iff {store : ImportStore} {recordId : Uuid} {touch : FileTouched}
    : store.linksRecord recordId touch = true ↔ some recordId ∈ store.recordLinks touch := by
  unfold linksRecord recordLinks
  simp only [Bool.or_eq_true, decide_eq_true_eq, any_mem_ids fun _ => eventOf_eq_some,
    any_mem_ids fun _ => runOf_eq_some, any_ofRecord, List.mem_cons, List.not_mem_nil, or_false,
    @eq_comm _ (some recordId)]
  tauto

-----------------------------------------------------------------------------------------
-- The reads
-----------------------------------------------------------------------------------------

theorem mem_filesTouchedForRecord {store : ImportStore} {recordId : Uuid} {touch : FileTouched}
    : touch ∈ store.filesTouchedForRecord recordId
      ↔ touch ∈ store.filesTouched ∧ some recordId ∈ store.recordLinks touch := by
  unfold filesTouchedForRecord
  rw [List.mem_insertionSort, List.mem_filter, linksRecord_iff]
  rfl

/-- The touches of a record that match are those of the record that the scope selects. -/
theorem mem_filesTouchedForRecordMatching {store : ImportStore} {recordId : Uuid} {file : String}
    {touch : FileTouched}
    : touch ∈ store.filesTouchedForRecordMatching recordId file
      ↔ touch ∈ store.scopeTouches file ∧ some recordId ∈ store.recordLinks touch := by
  unfold filesTouchedForRecordMatching scopeTouches
  cases fileTouchMatchValues file.toList with
  | none => simp
  | some values =>
      simp only [List.mem_insertionSort, List.mem_filter, Bool.and_eq_true, linksRecord_iff]
      tauto

theorem mem_scopeTouches {store : ImportStore} {file : String} (visible : trim file.toList ≠ [])
    {touch : FileTouched}
    : touch ∈ store.scopeTouches file
      ↔ touch ∈ store.filesTouched ∧ touch.NamedUntilZero file := by
  unfold scopeTouches
  cases values : fileTouchMatchValues file.toList with
  | none =>
      unfold fileTouchMatchValues at values
      simp [visible] at values
  | some pair => exact List.mem_filter.trans (and_congr_right fun _ => touch.matchesValues_iff values)

/-- The links name the record first, or they name none and a session of the touch's source has it. -/
def NamesFirst (store : ImportStore) (touch : FileTouched) (recordId : Uuid) : Prop :=
  coalesce (store.recordLinks touch) = some recordId
  ∨ coalesce (store.recordLinks touch) = none
    ∧ ∃ session ∈ store.sessions, touch.sourceId.isSome ∧ session.captureSourceId = touch.sourceId
        ∧ session.historyRecordId = some recordId

theorem exists_sourceSession_iff {store : ImportStore} {touch : FileTouched} {recordId : Uuid}
    : (∃ sourceSession ∈ store.sourceSessionsOf touch,
          Option.bind sourceSession (·.historyRecordId) = some recordId)
      ↔ ∃ session ∈ store.sessions, touch.sourceId.isSome ∧ session.captureSourceId = touch.sourceId
          ∧ session.historyRecordId = some recordId := by
  unfold sourceSessionsOf
  simp only
  split
  next none =>
      have vacant := List.filter_eq_nil_iff.mp (List.isEmpty_iff.mp none)
      simp only [List.mem_singleton, exists_eq_left, Option.bind_none, reduceCtorEq, false_iff]
      rintro ⟨session, stored, some, same, -⟩
      exact vacant session stored (by simp [some, same])
  next =>
      constructor
      · rintro ⟨_, member, same⟩
        obtain ⟨session, inside, rfl⟩ := List.mem_map.mp member
        obtain ⟨stored, meets⟩ := List.mem_filter.mp inside
        obtain ⟨some, source⟩ : touch.sourceId.isSome = true
            ∧ session.captureSourceId = touch.sourceId := by
          simpa using meets
        exact ⟨session, stored, some, source, same⟩
      · rintro ⟨session, stored, some, source, same⟩
        exact ⟨_, List.mem_map_of_mem (List.mem_filter.mpr ⟨stored, by simp [some, source]⟩), same⟩

/-- Every touch has a row. -/
theorem sourceSessionsOf_ne_nil (store : ImportStore) (touch : FileTouched)
    : store.sourceSessionsOf touch ≠ [] := by
  unfold sourceSessionsOf
  simp only
  split
  next => simp
  next full => simpa using full

/-- The rows of a touch have the record that it names first. -/
theorem exists_scopeRow_iff {store : ImportStore} {touch : FileTouched} {recordId : Uuid}
    : (∃ row ∈ store.scopeRows touch, row.recordId = some recordId)
      ↔ store.NamesFirst touch recordId := by
  have last (ofSource : Option Uuid)
      : coalesce (store.recordLinks touch ++ [ofSource])
        = (coalesce (store.recordLinks touch)).or ofSource := by
    unfold coalesce
    rw [List.findSome?_append]
    cases ofSource <;> rfl
  have rows
      : (∃ row ∈ store.scopeRows touch, row.recordId = some recordId)
        ↔ ∃ sourceSession ∈ store.sourceSessionsOf touch,
            coalesce (store.recordLinks touch ++ [Option.bind sourceSession (·.historyRecordId)])
              = some recordId := by
    unfold scopeRows
    simp only [List.mem_map, exists_exists_and_eq_and]
    rfl
  obtain ⟨some, here⟩ := List.exists_mem_of_ne_nil _ (store.sourceSessionsOf_ne_nil touch)
  rw [rows]
  unfold NamesFirst
  simp only [last, Option.or_eq_some_iff]
  rw [← exists_sourceSession_iff]
  constructor
  · rintro ⟨sourceSession, member, named | ⟨none, named⟩⟩
    · exact .inl named
    · exact .inr ⟨none, sourceSession, member, named⟩
  · rintro (named | ⟨none, sourceSession, member, named⟩)
    · exact ⟨some, here, .inl named⟩
    · exact ⟨sourceSession, member, .inr ⟨none, named⟩⟩

/-- The scope knows the records that the selected touches name first. -/
theorem mem_historyRecordIds {store : ImportStore} {file : String} {recordId : Uuid}
    : recordId ∈ (store.fileTouchScope file).historyRecordIds
      ↔ ∃ touch ∈ store.scopeTouches file, store.NamesFirst touch recordId := by
  unfold fileTouchScope
  simp only [List.mem_toFinset, List.mem_filterMap, List.mem_flatMap, ← exists_scopeRow_iff]
  constructor
  · rintro ⟨row, ⟨touch, selected, member⟩, same⟩
    exact ⟨touch, selected, row, member, same⟩
  · rintro ⟨touch, selected, row, member, same⟩
    exact ⟨row, ⟨touch, selected, member⟩, same⟩

-----------------------------------------------------------------------------------------
-- Agreement
-----------------------------------------------------------------------------------------

/-- Both reads select the touches that the query names, the second of them among those of a record,
and the scope knows every record that the second read finds touches for.
-/
structure ScopeAgrees (store : ImportStore) (file : String) : Prop where
  scope : ∀ touch ∈ store.filesTouched, touch ∈ store.scopeTouches file ↔ touch.NamedBy file
  record
    : ∀ recordId touch,
        touch ∈ store.filesTouchedForRecordMatching recordId file
        ↔ touch ∈ store.filesTouchedForRecord recordId ∧ touch.NamedBy file
  known
    : ∀ recordId, store.filesTouchedForRecordMatching recordId file ≠ [] →
        recordId ∈ (store.fileTouchScope file).historyRecordIds

/-- The reads agree exactly if no zero character decides about a touch, and each record that a link
of a selected touch names is the first that the links of a selected touch name.
-/
theorem scopeAgrees_iff (store : ImportStore) (file : String) (visible : trim file.toList ≠ [])
    : store.ScopeAgrees file
      ↔ (∀ touch ∈ store.filesTouched, ¬touch.ZeroDecides file)
        ∧ ∀ touch ∈ store.scopeTouches file, ∀ recordId, some recordId ∈ store.recordLinks touch →
            ∃ first ∈ store.scopeTouches file, store.NamesFirst first recordId := by
  have selects (touch : FileTouched) (stored : touch ∈ store.filesTouched)
      : (touch ∈ store.scopeTouches file ↔ touch.NamedBy file) ↔ ¬touch.ZeroDecides file := by
    rw [← FileTouched.namedUntilZero_iff, mem_scopeTouches visible]
    simp [stored]
  have knows (recordId : Uuid)
      : (store.filesTouchedForRecordMatching recordId file ≠ [] →
            recordId ∈ (store.fileTouchScope file).historyRecordIds)
        ↔ ∀ touch ∈ store.scopeTouches file, some recordId ∈ store.recordLinks touch →
            ∃ first ∈ store.scopeTouches file, store.NamesFirst first recordId := by
    rw [mem_historyRecordIds]
    constructor
    · intro known touch selected linked
      exact known (List.ne_nil_of_mem (mem_filesTouchedForRecordMatching.mpr ⟨selected, linked⟩))
    · intro first some
      obtain ⟨touch, member⟩ := List.exists_mem_of_ne_nil _ some
      obtain ⟨selected, linked⟩ := mem_filesTouchedForRecordMatching.mp member
      exact first touch selected linked
  constructor
  · intro agrees
    exact ⟨fun touch stored => (selects touch stored).mp (agrees.scope touch stored),
      fun touch selected recordId => (knows recordId).mp (agrees.known recordId) touch selected⟩
  · rintro ⟨plain, first⟩
    have scope (touch : FileTouched) (stored : touch ∈ store.filesTouched) :=
      (selects touch stored).mpr (plain touch stored)
    refine ⟨scope, fun recordId touch => ?_, fun recordId => (knows recordId).mpr ?_⟩
    · rw [mem_filesTouchedForRecordMatching, mem_filesTouchedForRecord, and_right_comm]
      exact and_congr_left fun _ =>
        ⟨fun selected => ⟨((mem_scopeTouches visible).mp selected).1,
            (scope touch ((mem_scopeTouches visible).mp selected).1).mp selected⟩,
          fun named => (scope touch named.1).mpr named.2⟩
    · exact fun touch selected linked => first touch selected recordId linked

/-- A run of a record, and a touch of that run that names the same record or another. -/
def touchedStore (recordId : Uuid) : ImportStore where
  __ := empty
  runs :=
    Keyed.empty.put
      { id := ⟨"42000000-0000-7000-8000-000000000001", by decide, by decide⟩
        historyRecordId := some ⟨"42000000-0000-7000-8000-00000000000a", by decide, by decide⟩
        sessionId := none
        runType := .command
        status := .succeeded
        startedAtMs := 0
        endedAtMs := none
        exitCode := none
        cwd := none
        commandPreview := none
        inputBlobId := none
        outputBlobId := none
        createdAtMs := 0
        updatedAtMs := 0
        sourceId := none
        sync := {} }
  filesTouched :=
    Keyed.empty.put
      { id := ⟨"42000000-0000-7000-8000-000000000002", by decide, by decide⟩
        historyRecordId := some recordId
        runId := some ⟨"42000000-0000-7000-8000-000000000001", by decide, by decide⟩
        eventId := none
        vcsWorkspaceId := none
        path := "src/100%_done.rs"
        changeKind := none
        oldPath := none
        lineCountDelta := none
        confidence := .high
        createdAtMs := 0
        updatedAtMs := 0
        sourceId := none
        sync := {} }

/-- With one record the reads agree. -/
theorem touchedStore_agrees
    : (touchedStore ⟨"42000000-0000-7000-8000-00000000000a", by decide, by decide⟩).ScopeAgrees
        "100%_done.rs" := by
  have links
      : ∀ touch ∈ (touchedStore
            ⟨"42000000-0000-7000-8000-00000000000a", by decide, by decide⟩).filesTouched.rows,
          (touchedStore ⟨"42000000-0000-7000-8000-00000000000a", by decide, by decide⟩).recordLinks
              touch
            = [some ⟨"42000000-0000-7000-8000-00000000000a", by decide, by decide⟩, none,
              some ⟨"42000000-0000-7000-8000-00000000000a", by decide, by decide⟩, none, none] := by
    decide +kernel
  refine (scopeAgrees_iff _ _ (by decide +kernel)).mpr ⟨fun touch stored => ?_, ?_⟩
  · obtain rfl := List.mem_singleton.mp stored
    exact FileTouched.not_zeroDecides (by decide +kernel) (by decide +kernel)
  · intro touch selected recordId linked
    have stored := ((mem_scopeTouches (by decide +kernel)).mp selected).1
    refine ⟨touch, selected, .inl ?_⟩
    rw [links touch stored] at linked ⊢
    simpa [coalesce, eq_comm] using linked

/-- With two records the scope does not know that of the run, for which the second read finds the
touch.
-/
theorem touchedStore_differs
    : ¬(touchedStore ⟨"42000000-0000-7000-8000-00000000000b", by decide, by decide⟩).ScopeAgrees
        "100%_done.rs" := by
  intro agrees
  have known := agrees.known ⟨"42000000-0000-7000-8000-00000000000a", by decide, by decide⟩
    (List.ne_nil_of_length_pos (by decide +kernel))
  revert known
  decide +kernel

end ImportStore

end CtxRemote.Capture
