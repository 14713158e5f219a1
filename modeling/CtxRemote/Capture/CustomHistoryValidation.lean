import CtxRemote.Capture.CustomHistoryReferences

/-! The normalization of a custom history with a valid manifest: which of its records it emits, and
that it fails exactly where it drops one.
-/

namespace CtxRemote.Capture.CustomHistory
open CtxRemote.Sync (ProviderImportSummary)

-----------------------------------------------------------------------------------------
-- Records by their kinds
-----------------------------------------------------------------------------------------

namespace Record

def manifest? : Record → Option String
  | .manifest schemaVersion => some schemaVersion
  | _ => none

def source? : Record → Option SourceRecord
  | .source found => some found
  | _ => none

def session? : Record → Option SessionRecord
  | .session found => some found
  | _ => none

def event? : Record → Option EventRecord
  | .event found => some found
  | _ => none

def fileTouch? : Record → Option FileTouchRecord
  | .fileTouch found => some found
  | _ => none

def edge? : Record → Option EdgeRecord
  | .edge found => some found
  | _ => none

end Record

/-- The records of a kind, with their lines. -/
def ofKind {α : Type} (kind : Record → Option α) (records : List (Nat × Record)) : List (Nat × α) :=
  records.filterMap fun (line, record) => (kind record).map fun value => (line, value)

theorem ofKind_append {α : Type} (kind : Record → Option α) (records : List (Nat × Record))
    (line : Nat) (record : Record)
    : ofKind kind (records ++ [(line, record)])
      = ofKind kind records ++ ((kind record).map fun value => (line, value)).toList := by
  unfold ofKind
  rw [List.filterMap_append]
  cases here : kind record <;> simp [here]

/-- The versions of the manifests. -/
def manifests (records : List (Nat × Record)) : List String :=
  (ofKind Record.manifest? records).map (·.2)

/-- The number of records beside manifests. -/
def contentCount (records : List (Nat × Record)) : Nat :=
  (ofKind Record.source? records).length + (ofKind Record.session? records).length
  + (ofKind Record.event? records).length + (ofKind Record.fileTouch? records).length
  + (ofKind Record.edge? records).length

namespace Collected

/-- The number of collected records. -/
def size (collected : Collected) : Nat :=
  collected.sources.length + collected.sessions.length + collected.events.length
  + collected.fileTouches.length + collected.edges.length

/-- The collected records are some of the given ones, in their order. -/
structure Among (records : List (Nat × Record)) (collected : Collected) : Prop where
  sources : collected.sources.Sublist (ofKind Record.source? records)
  sessions : collected.sessions.Sublist (ofKind Record.session? records)
  events : collected.events.Sublist (ofKind Record.event? records)
  fileTouches : collected.fileTouches.Sublist (ofKind Record.fileTouch? records)
  edges : collected.edges.Sublist (ofKind Record.edge? records)

/-- The collected records are the given ones. -/
structure HasAll (records : List (Nat × Record)) (collected : Collected) : Prop where
  sources : collected.sources = ofKind Record.source? records
  sessions : collected.sessions = ofKind Record.session? records
  events : collected.events = ofKind Record.event? records
  fileTouches : collected.fileTouches = ofKind Record.fileTouch? records
  edges : collected.edges = ofKind Record.edge? records

theorem Among.size_le {records : List (Nat × Record)} {collected : Collected}
    (among : collected.Among records)
    : collected.size ≤ contentCount records := by
  have sources := among.sources.length_le
  have sessions := among.sessions.length_le
  have events := among.events.length_le
  have fileTouches := among.fileTouches.length_le
  have edges := among.edges.length_le
  unfold size contentCount
  omega

/-- Some of the records are all of them if they are as many. -/
theorem Among.hasAll_iff {records : List (Nat × Record)} {collected : Collected}
    (among : collected.Among records)
    : collected.HasAll records ↔ collected.size = contentCount records := by
  constructor
  · intro all
    unfold size contentCount
    rw [all.sources, all.sessions, all.events, all.fileTouches, all.edges]
  · intro same
    have sources := among.sources.length_le
    have sessions := among.sessions.length_le
    have events := among.events.length_le
    have fileTouches := among.fileTouches.length_le
    have edges := among.edges.length_le
    unfold size contentCount at same
    exact ⟨among.sources.eq_of_length (by omega), among.sessions.eq_of_length (by omega),
      among.events.eq_of_length (by omega), among.fileTouches.eq_of_length (by omega),
      among.edges.eq_of_length (by omega)⟩

-----------------------------------------------------------------------------------------
-- The records by themselves
-----------------------------------------------------------------------------------------

theorem failed_foldl_pushFailure (line : Nat) (errors : List String)
    (summary : ProviderImportSummary)
    : (errors.foldl (pushFailure line) summary).failed = summary.failed + errors.length := by
  induction errors generalizing summary with
  | nil => rfl
  | cons error errors ih =>
      rw [List.foldl_cons, ih, List.length_cons]
      simp only [pushFailure, ProviderImportSummary.mergeFrom]
      omega

/-- What the step of the loop makes of a record: it takes the record in, or counts failures. -/
structure Takes (records : List (Nat × Record)) (line : Nat) (record : Record)
    (collected next : Collected)
    : Prop where
  among : next.Among (records ++ [(line, record)])
  counted
    : (next.summary.failed = collected.summary.failed ∧ next.size = collected.size + 1)
      ∨ (collected.summary.failed < next.summary.failed ∧ next.size = collected.size)
  manifest
    : next.manifestSeen = collected.manifestSeen
      ∧ next.manifestIsStructurallyInvalid = collected.manifestIsStructurallyInvalid

theorem Among.append {records : List (Nat × Record)} {collected : Collected}
    (among : collected.Among records) (line : Nat) (record : Record)
    : collected.Among (records ++ [(line, record)]) := by
  constructor
  · exact ofKind_append _ _ _ _ ▸ among.sources.trans (List.sublist_append_left _ _)
  · exact ofKind_append _ _ _ _ ▸ among.sessions.trans (List.sublist_append_left _ _)
  · exact ofKind_append _ _ _ _ ▸ among.events.trans (List.sublist_append_left _ _)
  · exact ofKind_append _ _ _ _ ▸ among.fileTouches.trans (List.sublist_append_left _ _)
  · exact ofKind_append _ _ _ _ ▸ among.edges.trans (List.sublist_append_left _ _)

/-- A record with a list of failures is taken in, or rejected with them. -/
theorem takes_acceptUnless {records : List (Nat × Record)} {line : Nat} {record : Record}
    {collected next : Collected} {errors : List String} (among : collected.Among records)
    (nextAmong : next.Among (records ++ [(line, record)]))
    (summary : next.summary = collected.summary) (size : next.size = collected.size + 1)
    (manifest
      : next.manifestSeen = collected.manifestSeen
        ∧ next.manifestIsStructurallyInvalid = collected.manifestIsStructurallyInvalid)
    : collected.Takes records line record (collected.acceptUnless line errors next) := by
  unfold acceptUnless
  split
  next => exact ⟨nextAmong, .inl ⟨congrArg _ summary, size⟩, manifest⟩
  next some =>
      have nonempty : 0 < errors.length :=
        List.length_pos_iff.mpr fun none => some (List.isEmpty_iff.mpr none)
      refine ⟨?_, .inr ⟨?_, rfl⟩, rfl, rfl⟩
      · have more := among.append line record
        exact ⟨more.sources, more.sessions, more.events, more.fileTouches, more.edges⟩
      · unfold reject
        rw [failed_foldl_pushFailure]
        omega

/-- The step at a record that is no manifest. -/
theorem takes_add {records : List (Nat × Record)} {collected : Collected}
    (among : collected.Among records) (line : Nat) {record : Record} (content : record.manifest? = none)
    : collected.Takes records line record (collected.add line record) := by
  have more := among.append line record
  cases record with
  | manifest version => cases content
  | source source =>
      refine takes_acceptUnless among { more with sources := ?_ } rfl ?_ ⟨rfl, rfl⟩
      · rw [ofKind_append]
        exact among.sources.append_right [(line, source)]
      · simp [size]
        omega
  | session session =>
      refine takes_acceptUnless among { more with sessions := ?_ } rfl ?_ ⟨rfl, rfl⟩
      · rw [ofKind_append]
        exact among.sessions.append_right [(line, session)]
      · simp [size]
        omega
  | event event =>
      refine takes_acceptUnless among { more with events := ?_ } rfl ?_ ⟨rfl, rfl⟩
      · rw [ofKind_append]
        exact among.events.append_right [(line, event)]
      · simp [size]
        omega
  | fileTouch touch =>
      refine takes_acceptUnless among { more with fileTouches := ?_ } rfl ?_ ⟨rfl, rfl⟩
      · rw [ofKind_append]
        exact among.fileTouches.append_right [(line, touch)]
      · simp [size]
        omega
  | edge edge =>
      refine takes_acceptUnless among { more with edges := ?_ } rfl ?_ ⟨rfl, rfl⟩
      · rw [ofKind_append]
        exact among.edges.append_right [(line, edge)]
      · simp [size]
        omega

theorem contentCount_append (records : List (Nat × Record)) (line : Nat) (record : Record)
    : contentCount (records ++ [(line, record)])
      = contentCount records + if record.manifest? = none then 1 else 0 := by
  unfold contentCount
  simp only [ofKind_append]
  cases record <;>
    simp [Record.manifest?, Record.source?, Record.session?, Record.event?, Record.fileTouch?,
      Record.edge?] <;>
    omega

/-- What the loop over the records collects. -/
structure Collects (summary : ProviderImportSummary) (records : List (Nat × Record))
    (collected : Collected)
    : Prop where
  among : collected.Among records
  manifestSeen : collected.manifestSeen = false ↔ manifests records = []
  manifestValid
    : collected.manifestIsStructurallyInvalid = false
      ↔ manifests records = [] ∨ manifests records = [schemaVersion]
  failed
    : collected.manifestIsStructurallyInvalid = false →
        (collected.summary.failed = 0
          ↔ summary.failed = 0 ∧ collected.size = contentCount records)

/-- The step at a manifest. -/
theorem collects_add_manifest {summary : ProviderImportSummary} {records : List (Nat × Record)}
    {collected : Collected} (collects : collected.Collects summary records) (line : Nat)
    (version : String)
    : (collected.add line (.manifest version)).Collects summary
        (records ++ [(line, .manifest version)]) := by
  have versions : manifests (records ++ [(line, .manifest version)]) = manifests records ++ [version] := by
    unfold manifests
    rw [ofKind_append, List.map_append]
    rfl
  have more := collects.among.append line (.manifest version)
  have seen := collects.manifestSeen
  have valid := collects.manifestValid
  have count := contentCount_append records line (.manifest version)
  have silent
      : (collected.add line (.manifest version)).manifestIsStructurallyInvalid = false
        ↔ collected.manifestIsStructurallyInvalid = false ∧ version = schemaVersion
          ∧ collected.manifestSeen = false := by
    cases before : collected.manifestSeen <;> by_cases same : version = schemaVersion <;>
      simp [add, errorIf, same, before]
  refine ⟨⟨more.sources, more.sessions, more.events, more.fileTouches, more.edges⟩, ?_, ?_, ?_⟩
  · simp [add, versions]
  · rw [silent, versions, valid, seen]
    constructor
    · rintro ⟨-, rfl, none⟩
      exact .inr (by rw [none]; rfl)
    · rintro (none | single)
      · simp at none
      · rcases List.append_eq_singleton_iff.mp single with ⟨none, same⟩ | ⟨-, wrong⟩
        · exact ⟨.inl none, by simpa using same, none⟩
        · cases wrong
  · intro still
    obtain ⟨before, rfl, unseen⟩ := silent.mp still
    have kept : (collected.add line (.manifest schemaVersion)).summary = collected.summary := by
      simp [add, errorIf, unseen, reject]
    rw [kept, count]
    exact collects.failed before

/-- The loop over the records. Witness: by induction on the records from their end. -/
theorem collects_foldl (summary : ProviderImportSummary) (records : List (Nat × Record))
    : (records.foldl (fun (collected : Collected) (line, record) => collected.add line record)
          { summary := summary }).Collects summary records := by
  induction records using List.reverseRecOn with
  | nil =>
      exact ⟨⟨.slnil, .slnil, .slnil, .slnil, .slnil⟩, by simp [manifests, ofKind],
        by simp [manifests, ofKind], fun _ => by simp [size, contentCount, ofKind]⟩
  | append_singleton records entry ih =>
      obtain ⟨line, record⟩ := entry
      rw [List.foldl_append, List.foldl_cons, List.foldl_nil]
      generalize records.foldl (fun (collected : Collected) (line, record) =>
        collected.add line record) { summary := summary } = collected at ih ⊢
      change Collects summary _ (collected.add line record)
      cases content : record.manifest? with
      | some version =>
          cases record with
          | manifest version => exact collects_add_manifest ih line version
          | source => cases content
          | session => cases content
          | event => cases content
          | fileTouch => cases content
          | edge => cases content
      | none =>
          have taken := takes_add ih.among line content
          have versions : manifests (records ++ [(line, record)]) = manifests records := by
            unfold manifests
            rw [ofKind_append, content]
            simp
          have count := contentCount_append records line record
          rw [if_pos content] at count
          have small := ih.among.size_le
          refine ⟨taken.among, ?_, ?_, ?_⟩
          · rw [taken.manifest.1, versions]
            exact ih.manifestSeen
          · rw [taken.manifest.2, versions]
            exact ih.manifestValid
          · rw [taken.manifest.2]
            intro valid
            have before := ih.failed valid
            rcases taken.counted with ⟨same, more⟩ | ⟨more, same⟩
            · rw [same, more, count, before]
              omega
            · rw [same, count]
              exact ⟨fun none => by omega, fun all => by omega⟩

-----------------------------------------------------------------------------------------
-- The records against each other
-----------------------------------------------------------------------------------------

/-- Every record that the validation drops is a failure. -/
theorem validate_failed {α : Type} (error : α → Option String) (summary : ProviderImportSummary)
    (records : List (Nat × α))
    : (validate error summary records).2.failed + (validate error summary records).1.length
      = summary.failed + records.length := by
  unfold validate
  simp only
  induction records generalizing summary with
  | nil => rfl
  | cons entry records ih =>
      rw [List.foldl_cons, List.length_cons]
      have later := ih (((error entry.2).toList).foldl (pushFailure entry.1) summary)
      rw [failed_foldl_pushFailure] at later
      cases dropped : error entry.2 with
      | none =>
          rw [List.filter_cons_of_pos (by simp [dropped]), List.length_cons]
          rw [dropped, Option.toList_none, List.length_nil, List.foldl_nil] at later
          rw [Option.toList_none, List.foldl_nil]
          omega
      | some text =>
          rw [List.filter_cons_of_neg (by simp [dropped])]
          rw [dropped] at later
          change _ = _ + 1 + _ at later
          omega

/-- The collection behind the loop over sessions. -/
def settled (collected : Collected) : Collected := rejectSessions collected.sessions.length collected

theorem rejectInvalidReferences_sources (collected : Collected)
    : collected.rejectInvalidReferences.sources = collected.sources :=
  (rejectSessions_others _ _).1

theorem rejectInvalidReferences_sessions (collected : Collected)
    : collected.rejectInvalidReferences.sessions = collected.settled.sessions :=
  rfl

/-- The loops drop some of the records. -/
theorem rejectInvalidReferences_sublist (collected : Collected)
    : collected.rejectInvalidReferences.sessions.Sublist collected.sessions
      ∧ collected.rejectInvalidReferences.events.Sublist collected.events
      ∧ collected.rejectInvalidReferences.fileTouches.Sublist collected.fileTouches
      ∧ collected.rejectInvalidReferences.edges.Sublist collected.edges := by
  obtain ⟨-, events, fileTouches, edges⟩ :=
    rejectSessions_others collected.sessions.length collected
  refine ⟨rejectSessions_sublist _ _, ?_, ?_, ?_⟩
  · exact events ▸ List.filter_sublist
  · exact fileTouches ▸ List.filter_sublist
  · exact edges ▸ List.filter_sublist

theorem Among.rejectInvalidReferences {records : List (Nat × Record)} {collected : Collected}
    (among : collected.Among records)
    : collected.rejectInvalidReferences.Among records := by
  obtain ⟨sessions, events, fileTouches, edges⟩ := rejectInvalidReferences_sublist collected
  exact ⟨(rejectInvalidReferences_sources collected).symm ▸ among.sources, sessions.trans among.sessions,
    events.trans among.events, fileTouches.trans among.fileTouches, edges.trans among.edges⟩

theorem size_rejectInvalidReferences_le (collected : Collected)
    : collected.rejectInvalidReferences.size ≤ collected.size := by
  obtain ⟨sessions, events, fileTouches, edges⟩ := rejectInvalidReferences_sublist collected
  have sessionsLe := sessions.length_le
  have eventsLe := events.length_le
  have touchesLe := fileTouches.length_le
  have edgesLe := edges.length_le
  unfold size
  rw [rejectInvalidReferences_sources]
  omega

/-- Every record that the loops drop is a failure. -/
theorem rejectInvalidReferences_failed (collected : Collected)
    : collected.rejectInvalidReferences.summary.failed + collected.rejectInvalidReferences.size
      = collected.summary.failed + collected.size := by
  obtain ⟨sources, events, fileTouches, edges⟩ :=
    rejectSessions_others collected.sessions.length collected
  have sessions := rejectSessions_failed collected.sessions.length collected
  unfold size
  rw [rejectInvalidReferences_sources, rejectInvalidReferences_sessions]
  unfold rejectInvalidReferences settled
  simp only
  generalize rejectSessions collected.sessions.length collected = settled at *
  have eventsFailed := validate_failed settled.eventReferenceError settled.summary settled.events
  generalize validate settled.eventReferenceError settled.summary settled.events = events' at *
  have touchesFailed := validate_failed
    ({ settled with events := events'.1, summary := events'.2 } : Collected).fileTouchReferenceError
    events'.2 settled.fileTouches
  generalize validate
    ({ settled with events := events'.1, summary := events'.2 } : Collected).fileTouchReferenceError
    events'.2 settled.fileTouches = touches' at *
  have edgesFailed := validate_failed
    ({ settled with
        events := events'.1, fileTouches := touches'.1, summary := touches'.2 }
      : Collected).edgeReferenceError touches'.2 settled.edges
  rw [← events, ← fileTouches, ← edges]
  omega

/-- A session with the key is there. -/
def Has (collected : Collected) (key : SessionKey) : Prop :=
  ∃ entry ∈ collected.sessions, entry.2.key = key

theorem has_of_mem_events {collected : Collected} {entry : Nat × EventRecord}
    (kept : entry ∈ collected.rejectInvalidReferences.events)
    : collected.rejectInvalidReferences.Has entry.2.sessionKey := by
  have fine := (List.mem_filter.mp kept).2
  rw [Option.isNone_iff_eq_none] at fine
  unfold eventReferenceError at fine
  split at fine
  next known => exact hasSession_iff.mp known
  next => cases fine

/-- A touch that is left has its session, and its event if it names one. -/
theorem has_of_mem_fileTouches {collected : Collected} {entry : Nat × FileTouchRecord}
    (kept : entry ∈ collected.rejectInvalidReferences.fileTouches)
    : collected.rejectInvalidReferences.Has entry.2.sessionKey
      ∧ ∀ index, entry.2.eventIndex = some index →
          ∃ event ∈ collected.rejectInvalidReferences.events,
            event.2.key = (entry.2.sourceId, entry.2.sessionId, index) := by
  have fine := (List.mem_filter.mp kept).2
  rw [Option.isNone_iff_eq_none] at fine
  unfold fileTouchReferenceError at fine
  split at fine
  next => cases fine
  next known =>
      rw [Bool.not_eq_true', Bool.not_eq_false] at known
      refine ⟨hasSession_iff.mp known, fun index isIndex => ?_⟩
      rw [isIndex, Option.map_eq_none_iff, Option.filter_eq_none_iff] at fine
      have found := fine index rfl
      simp only [Bool.not_eq_true', Bool.not_eq_false, List.any_eq_true, decide_eq_true_eq] at found
      exact found

theorem has_of_mem_edges {collected : Collected} {entry : Nat × EdgeRecord}
    (kept : entry ∈ collected.rejectInvalidReferences.edges)
    : collected.rejectInvalidReferences.Has entry.2.fromKey
      ∧ collected.rejectInvalidReferences.Has entry.2.toKey := by
  have fine := (List.mem_filter.mp kept).2
  rw [Option.isNone_iff_eq_none] at fine
  unfold edgeReferenceError at fine
  split at fine
  next => cases fine
  next knownFrom =>
      split at fine
      next => cases fine
      next knownTo =>
          rw [Bool.not_eq_true', Bool.not_eq_false] at knownFrom knownTo
          exact ⟨hasSession_iff.mp knownFrom, hasSession_iff.mp knownTo⟩

-----------------------------------------------------------------------------------------
-- Content
-----------------------------------------------------------------------------------------

/-- The sessions that events, file touches and edges refer to. -/
def contentKeys (collected : Collected) : List SessionKey :=
  collected.events.map (·.2.sessionKey) ++ collected.fileTouches.map (·.2.sessionKey)
  ++ collected.edges.flatMap fun (_, edge) => [edge.fromKey, edge.toKey]

/-- The sessions that are retained are those that the content leads to. -/
theorem mem_retainContentSessions {collected : Collected} {entry : Nat × SessionRecord}
    : entry ∈ collected.retainContentSessions.sessions
      ↔ entry ∈ collected.sessions
        ∧ ∃ start ∈ collected.contentKeys,
            Relation.ReflTransGen (NamesKey collected.sessions) start entry.2.key := by
  rw [← mem_requireSessions_iff]
  exact List.mem_filter.trans (and_congr_right fun _ => decide_eq_true_iff)

theorem event_mem_contentKeys {collected : Collected} {entry : Nat × EventRecord}
    (stored : entry ∈ collected.events)
    : entry.2.sessionKey ∈ collected.contentKeys :=
  List.mem_append_left _ (List.mem_append_left _ (List.mem_map_of_mem stored))

theorem fileTouch_mem_contentKeys {collected : Collected} {entry : Nat × FileTouchRecord}
    (stored : entry ∈ collected.fileTouches)
    : entry.2.sessionKey ∈ collected.contentKeys :=
  List.mem_append_left _ (List.mem_append_right _ (List.mem_map_of_mem stored))

theorem edge_mem_contentKeys {collected : Collected} {entry : Nat × EdgeRecord}
    (stored : entry ∈ collected.edges)
    : entry.2.fromKey ∈ collected.contentKeys ∧ entry.2.toKey ∈ collected.contentKeys :=
  ⟨List.mem_append_right _ (List.mem_flatMap.mpr ⟨entry, stored, .head _⟩),
    List.mem_append_right _ (List.mem_flatMap.mpr ⟨entry, stored, .tail _ (.head _)⟩)⟩

/-- The content keeps its sessions. -/
theorem has_retainContentSessions {collected : Collected} {key : SessionKey}
    (has : collected.Has key) (content : key ∈ collected.contentKeys)
    : collected.retainContentSessions.Has key := by
  obtain ⟨entry, stored, rfl⟩ := has
  exact ⟨entry, mem_retainContentSessions.mpr ⟨stored, _, content, .refl⟩, rfl⟩

theorem source_isSome {collected : Collected} {sourceId : String}
    : (collected.source sourceId).isSome = true
      ↔ ∃ source ∈ collected.sources, source.2.sourceId = sourceId := by
  simp [Collected.source, List.find?_isSome]

theorem session_isSome {collected : Collected} {key : SessionKey}
    : (collected.session key).isSome = true ↔ collected.Has key := by
  simp [Collected.session, List.find?_isSome, Has]

/-- Every lookup behind the validation, each of which expects a source or a session, finds one. -/
structure LookupsFind (collected : Collected) : Prop where
  sessions : ∀ entry ∈ collected.sessions, (collected.source entry.2.sourceId).isSome
  events
    : ∀ entry ∈ collected.events,
        (collected.session entry.2.sessionKey).isSome ∧ (collected.source entry.2.sourceId).isSome
  fileTouches : ∀ entry ∈ collected.fileTouches, (collected.source entry.2.sourceId).isSome
  edges : ∀ entry ∈ collected.edges, (collected.source entry.2.sourceId).isSome

/-- The sources of the sessions that are left are there, and so are those of their content. -/
theorem lookupsFind (collected : Collected)
    : collected.rejectInvalidReferences.retainContentSessions.LookupsFind := by
  have greatest := isGreatest_rejectSessions (Nat.le_refl collected.sessions.length)
  have known {key : SessionKey} (has : collected.rejectInvalidReferences.Has key)
      : (collected.rejectInvalidReferences.retainContentSessions.source key.1).isSome = true := by
    obtain ⟨entry, stored, rfl⟩ := has
    rw [source_isSome]
    have source := (greatest.1.2 entry stored).1
    rw [← rejectInvalidReferences_sources] at source
    exact source
  refine ⟨fun entry kept => ?_, fun entry kept => ?_, fun entry kept => ?_, fun entry kept => ?_⟩
  · exact known ⟨entry, (mem_retainContentSessions.mp kept).1, rfl⟩
  · have has := has_of_mem_events kept
    have retained := has_retainContentSessions has (event_mem_contentKeys kept)
    exact ⟨session_isSome.mpr retained, known has⟩
  · exact known (has_of_mem_fileTouches kept).1
  · exact known (has_of_mem_edges kept).1

end Collected

-----------------------------------------------------------------------------------------
-- Streams
-----------------------------------------------------------------------------------------

/-- A line is parsed, unless it is blank or too long to be read. -/
def ParsesWhenRead (fromSlice : List UInt8 → Except String Record) (line : List UInt8) : Prop :=
  isOversized line = false → line.all isAsciiWhitespace = false →
    ∃ record, fromSlice line = .ok record

theorem readRecords_failed (fromSlice : List UInt8 → Except String Record)
    (lines : List (List UInt8))
    : (readRecords fromSlice lines).1.failed = 0 ↔ ∀ line ∈ lines, ParsesWhenRead fromSlice line := by
  have numbered
      : (∀ line ∈ lines, ParsesWhenRead fromSlice line)
        ↔ ∀ entry ∈ lines.mapIdx fun index line => (index + 1, line),
            ParsesWhenRead fromSlice entry.2 := by
    constructor
    · intro all entry member
      obtain ⟨index, bound, rfl⟩ := List.mem_mapIdx.mp member
      exact all _ (List.getElem_mem bound)
    · intro all line member
      obtain ⟨index, bound, rfl⟩ := List.mem_iff_getElem.mp member
      exact all (index + 1, lines[index]) (List.mem_mapIdx.mpr ⟨index, bound, rfl⟩)
  rw [numbered]
  unfold readRecords
  generalize lines.mapIdx (fun index line => (index + 1, line)) = entries
  suffices general : ∀ start : ProviderImportSummary × List (Nat × Record),
      (List.foldl _ start entries).1.failed = 0
        ↔ start.1.failed = 0 ∧ ∀ entry ∈ entries, ParsesWhenRead fromSlice entry.2 from
    (general _).trans (and_iff_right rfl)
  intro start
  induction entries generalizing start with
  | nil => simp
  | cons entry entries ih =>
      obtain ⟨lineNumber, line⟩ := entry
      obtain ⟨summary, records⟩ := start
      rw [List.foldl_cons, ih, List.forall_mem_cons]
      unfold ParsesWhenRead
      simp only
      split
      next oversized => simp [oversized, ProviderImportSummary.mergeFrom]
      next fits =>
          split
          next blank => simp [blank]
          next text =>
              split
              next record parsed => simp [parsed]
              next error failed => simp [fits, text, failed, pushFailure, ProviderImportSummary.mergeFrom]

/-- A line that is too long to be read is passed over: its record is not among those of the stream. -/
theorem readRecords_append_oversized {fromSlice : List UInt8 → Except String Record}
    (lines : List (List UInt8)) {line : List UInt8} (oversized : isOversized line = true)
    : readRecords fromSlice (lines ++ [line])
      = ((readRecords fromSlice lines).1.mergeFrom { skipped := 1, skippedEvents := 1 },
          (readRecords fromSlice lines).2) := by
  unfold readRecords
  rw [List.mapIdx_append, List.foldl_append]
  exact if_pos oversized

/-- The collection of a stream with a valid manifest. -/
theorem collects_collect {fromSlice : List UInt8 → Except String Record} {lines : List (List UInt8)}
    (valid : manifests (readRecords fromSlice lines).2 = [schemaVersion])
    : (collect fromSlice lines).Collects (readRecords fromSlice lines).1 (readRecords fromSlice lines).2 := by
  have collects :=
    Collected.collects_foldl (readRecords fromSlice lines).1 (readRecords fromSlice lines).2
  unfold collect
  simp only
  split
  next => exact collects
  next unseen =>
      have none := collects.manifestSeen.mp (Bool.not_eq_true _ ▸ unseen)
      rw [valid] at none
      cases none

theorem manifestIsStructurallyInvalid_collect {fromSlice : List UInt8 → Except String Record}
    {lines : List (List UInt8)} (valid : manifests (readRecords fromSlice lines).2 = [schemaVersion])
    : (collect fromSlice lines).manifestIsStructurallyInvalid = false :=
  (collects_collect valid).manifestValid.mpr (.inr valid)

/-- Values that are made on their lines. -/
theorem lines_filterMap {α β : Type} {make : Nat × α → Option (Nat × β)} {entries : List (Nat × α)}
    (made : ∀ line entry, (line, entry) ∈ entries → ∃ value, make (line, entry) = some (line, value))
    : (entries.filterMap make).map Prod.fst = entries.map Prod.fst := by
  induction entries with
  | nil => rfl
  | cons entry entries ih =>
      obtain ⟨value, here⟩ := made entry.1 entry.2 (.head _)
      rw [List.filterMap_cons_some here, List.map_cons, List.map_cons,
        ih fun line later member => made line later (.tail _ member)]

namespace Collected

/-- Where the lookups find, there is a capture for every session and every event. -/
theorem lines_captures {collected : Collected} (find : collected.LookupsFind) (externals : Externals)
    (context : AdapterContext)
    : (collected.captures externals context).map Prod.fst
      = (sortedSessions collected.sessions).map Prod.fst ++ collected.events.map Prod.fst := by
  unfold captures
  rw [List.map_append]
  congr 1
  · refine lines_filterMap fun line entry member => ?_
    obtain ⟨source, found⟩ :=
      Option.isSome_iff_exists.mp (find.sessions (line, entry) ((List.mem_insertionSort _).mp member))
    exact ⟨_, congrArg (Option.map _) found⟩
  · refine lines_filterMap fun line entry member => ?_
    obtain ⟨isSession, isSource⟩ := find.events (line, entry) member
    obtain ⟨session, foundSession⟩ := Option.isSome_iff_exists.mp isSession
    obtain ⟨source, foundSource⟩ := Option.isSome_iff_exists.mp isSource
    refine ⟨sessionCaptureOf externals context source session (some (eventEnvelope source entry)), ?_⟩
    simp only at foundSession foundSource ⊢
    rw [foundSession, foundSource]
    rfl

end Collected

/-- What the normalization of a stream does: its loops end, its lookups find what they expect, and
what it emits is what is left of the accepted records.
-/
structure Normalizes (externals : Externals) (context : AdapterContext)
    (fromSlice : List UInt8 → Except String Record) (lines : List (List UInt8))
    (accepted left kept : Collected)
    : Prop where
  rejectEnds
    : ∀ more, Collected.rejectSessions (accepted.sessions.length + more) accepted = accepted.settled
  requireEnds
    : ∀ more,
        Collected.requireSessions left.sessions (2 * left.sessions.length + more) left.contentKeys
          = Collected.requireSessions left.sessions (2 * left.sessions.length) left.contentKeys
  lookups : kept.LookupsFind
  captures
    : (normalize externals context fromSlice lines).provider.captures.map Prod.fst
      = (Collected.sortedSessions kept.sessions).map Prod.fst ++ kept.events.map Prod.fst
  filesTouched
    : (normalize externals context fromSlice lines).provider.filesTouched.map Prod.fst
      = kept.fileTouches.map Prod.fst
  edges : (normalize externals context fromSlice lines).edges.map Prod.fst = kept.edges.map Prod.fst
  greatest
    : IsGreatest
        {within : Set (Nat × SessionRecord) |
          (∀ entry ∈ within, entry ∈ accepted.sessions)
          ∧ ∀ entry ∈ within, ReferencesHold accepted.sources within entry.2}
        {entry | entry ∈ left.sessions}
  eventsRefer : ∀ event ∈ kept.events, kept.Has event.2.sessionKey
  fileTouchesRefer
    : ∀ touch ∈ kept.fileTouches,
        kept.Has touch.2.sessionKey
        ∧ ∀ index, touch.2.eventIndex = some index →
            ∃ event ∈ kept.events, event.2.key = (touch.2.sourceId, touch.2.sessionId, index)
  edgesRefer : ∀ edge ∈ kept.edges, kept.Has edge.2.fromKey ∧ kept.Has edge.2.toKey
  reachable
    : ∀ entry,
        entry ∈ kept.sessions
          ↔ entry ∈ left.sessions
            ∧ ∃ start ∈ kept.contentKeys,
                Relation.ReflTransGen (Collected.NamesKey left.sessions) start entry.2.key
  failed
    : (normalize externals context fromSlice lines).provider.summary.failed = 0
      ↔ (∀ line ∈ lines, ParsesWhenRead fromSlice line)
        ∧ left.HasAll (readRecords fromSlice lines).2

/-- The normalization of every stream with a valid manifest ends without a missed lookup. It leaves
the greatest set of accepted sessions whose references hold, what refers to them, and the sessions that
this leads to, and it fails where it drops anything beside sessions without content. Witness: the loops
reach their fixed points, and every record is either taken in or counted as a failure.
-/
theorem normalize_normalizes (externals : Externals) (context : AdapterContext)
    {fromSlice : List UInt8 → Except String Record} {lines : List (List UInt8)}
    (valid : manifests (readRecords fromSlice lines).2 = [schemaVersion])
    : Normalizes externals context fromSlice lines (collect fromSlice lines)
        (collect fromSlice lines).rejectInvalidReferences
        (collect fromSlice lines).rejectInvalidReferences.retainContentSessions := by
  have collects := collects_collect valid
  have well := manifestIsStructurallyInvalid_collect valid
  have failed := collects.failed well
  rw [readRecords_failed] at failed
  have normalized : normalize externals context fromSlice lines = _ :=
    if_neg (Bool.eq_false_iff.mp well)
  generalize collect fromSlice lines = accepted at *
  have find := accepted.lookupsFind
  have among := collects.among.rejectInvalidReferences
  have small := among.size_le
  have fewer := accepted.size_rejectInvalidReferences_le
  have dropped := accepted.rejectInvalidReferences_failed
  refine ⟨fun more => ?_, fun more => ?_, find, ?_, ?_, ?_, ?_, fun event stored => ?_,
    fun touch stored => ?_, fun edge stored => ?_, fun entry => ?_, ?_⟩
  · exact Collected.rejectSessions_stable (Collected.invalidSessions_rejectSessions le_rfl) more
  · exact Collected.requireSessions_stable (Collected.dependencies_retained _ _) more
  · rw [normalized]
    exact Collected.lines_captures find externals context
  · rw [normalized]
    refine lines_filterMap fun line entry member => ?_
    obtain ⟨source, found⟩ := Option.isSome_iff_exists.mp (find.fileTouches (line, entry) member)
    exact ⟨_, congrArg (Option.map _) found⟩
  · rw [normalized]
    refine lines_filterMap fun line entry member => ?_
    obtain ⟨source, found⟩ := Option.isSome_iff_exists.mp (find.edges (line, entry) member)
    exact ⟨_, congrArg (Option.map _) found⟩
  · exact Collected.isGreatest_rejectSessions le_rfl
  · exact Collected.session_isSome.mp (find.events event stored).1
  · obtain ⟨has, event⟩ := Collected.has_of_mem_fileTouches stored
    exact ⟨Collected.has_retainContentSessions has
      (Collected.fileTouch_mem_contentKeys stored), event⟩
  · obtain ⟨hasFrom, hasTo⟩ := Collected.has_of_mem_edges stored
    obtain ⟨contentFrom, contentTo⟩ := Collected.edge_mem_contentKeys stored
    exact ⟨Collected.has_retainContentSessions hasFrom contentFrom,
      Collected.has_retainContentSessions hasTo contentTo⟩
  · exact Collected.mem_retainContentSessions
  · rw [normalized, among.hasAll_iff]
    change accepted.rejectInvalidReferences.summary.failed = 0 ↔ _
    have total := collects.among.size_le
    constructor
    · intro none
      obtain ⟨parse, all⟩ := failed.mp (by omega)
      exact ⟨parse, by omega⟩
    · rintro ⟨parse, all⟩
      have none := failed.mpr ⟨parse, by omega⟩
      omega

/-- A session with a parent. -/
def sampleSession (sessionId : String) (parentSessionId : Option String) : SessionRecord where
  sourceId := "log"
  sessionId := sessionId
  nativeSessionId := none
  parentSessionId := parentSessionId
  rootSessionId := none
  externalAgentId := none
  agentType := .unknown
  roleHint := none
  isPrimary := false
  status := .imported
  startedAt := ⟨0⟩
  endedAt := none
  cwd := none
  fidelity := .imported
  idempotencyKey := none
  artifacts := .array []
  metadata := .object []

/-- The lines of a stream with sessions that name each other and one that names no session, with their
records.
-/
def cycleStream : List (String × Record) :=
  [("\x7b\"record_type\":\"manifest\",\"schema_version\":\"ctx-history-jsonl-v1\"\x7d\n",
      .manifest "ctx-history-jsonl-v1"),
    ("\x7b\"record_type\":\"source\",\"source_id\":\"log\",\"provider_key\":\"agent\",\"source_format\":\"v1\"\x7d\n",
      .source
        { sourceId := "log"
          providerKey := "agent"
          sourceFormat := "v1"
          rawUri := none
          rawSourcePath := none
          fingerprint := none
          importerVersion := none
          observedAt := none
          machineId := none
          trust := .unknown
          fidelity := .imported
          cursor := none
          metadata := .object [] }),
    ("\x7b\"record_type\":\"session\",\"source_id\":\"log\",\"session_id\":\"a\",\"parent_session_id\":\"b\",\"started_at\":\"1970-01-01T00:00:00Z\"\x7d\n",
      .session (sampleSession "a" (some "b"))),
    ("\x7b\"record_type\":\"session\",\"source_id\":\"log\",\"session_id\":\"b\",\"parent_session_id\":\"a\",\"started_at\":\"1970-01-01T00:00:00Z\"\x7d\n",
      .session (sampleSession "b" (some "a"))),
    ("\x7b\"record_type\":\"session\",\"source_id\":\"log\",\"session_id\":\"c\",\"parent_session_id\":\"d\",\"started_at\":\"1970-01-01T00:00:00Z\"\x7d\n",
      .session (sampleSession "c" (some "d")))]

/-- The parser, on the lines of `cycleStream`. -/
def parseCycle (line : List UInt8) : Except String Record :=
  match cycleStream.find? fun entry => asBytes entry.1 = line with
  | some (_, record) => .ok record
  | none => .error "expected value at line 1 column 1"

theorem cycleStream_normalizes
    : Normalizes epochExternals ⟨"local", none, ⟨0⟩⟩ parseCycle
        (cycleStream.map fun entry => asBytes entry.1)
        (collect parseCycle (cycleStream.map fun entry => asBytes entry.1))
        (collect parseCycle (cycleStream.map fun entry => asBytes entry.1)).rejectInvalidReferences
        (collect parseCycle
          (cycleStream.map fun entry => asBytes entry.1)).rejectInvalidReferences.retainContentSessions :=
  normalize_normalizes epochExternals ⟨"local", none, ⟨0⟩⟩ (by decide +kernel)

/-- A message of session "a". -/
def sampleEvent (eventIndex : UInt64) : EventRecord where
  sourceId := "log"
  sessionId := "a"
  eventIndex := eventIndex
  eventId := none
  nativeCursor := none
  eventHash := none
  eventType := .message
  role := none
  occurredAt := ⟨0⟩
  fidelity := .imported
  idempotencyKey := none
  artifacts := .array []
  payload := .object [("text", .string "hi")]
  preview := none
  metadata := .object []

/-- The lines of a stream with a session and its first event, with their records. -/
def messageStream : List (String × Record) :=
  cycleStream.take 2
    ++ [("\x7b\"record_type\":\"session\",\"source_id\":\"log\",\"session_id\":\"a\",\"started_at\":\"1970-01-01T00:00:00Z\"\x7d\n",
          .session (sampleSession "a" none)),
        ("\x7b\"record_type\":\"event\",\"source_id\":\"log\",\"session_id\":\"a\",\"event_index\":0,\"event_type\":\"message\",\"occurred_at\":\"1970-01-01T00:00:00Z\",\"payload\":\x7b\"text\":\"hi\"\x7d\x7d\n",
          .event (sampleEvent 0))]

/-- The line of the second event, with 16 MiB of blanks behind its record. -/
def paddedLine : List UInt8 :=
  asBytes "\x7b\"record_type\":\"event\",\"source_id\":\"log\",\"session_id\":\"a\",\"event_index\":1,\"event_type\":\"message\",\"occurred_at\":\"1970-01-01T00:00:00Z\",\"payload\":\x7b\"text\":\"hi\"\x7d\x7d"
    ++ List.replicate maxLineBytes 0x20

/-- The parser, on the lines of `messageStream` and on the padded one. -/
def parseMessages (line : List UInt8) : Except String Record :=
  if isOversized line then .ok (.event (sampleEvent 1))
  else
    match messageStream.find? fun entry => asBytes entry.1 = line with
    | some (_, record) => .ok record
    | none => .error "expected value at line 1 column 1"

theorem isOversized_paddedLine : isOversized paddedLine = true := by
  unfold isOversized paddedLine
  rw [List.length_append, List.length_replicate]
  exact decide_eq_true (Nat.lt_add_of_pos_left (by decide +kernel))

/-- The record of a line that is too long is dropped, and nothing fails. -/
theorem paddedLine_dropped
    : parseMessages paddedLine = .ok (.event (sampleEvent 1))
      ∧ (normalize epochExternals ⟨"local", none, ⟨0⟩⟩ parseMessages
          ((messageStream.map fun entry => asBytes entry.1) ++ [paddedLine])).provider.summary.failed
        = 0
      ∧ (normalize epochExternals ⟨"local", none, ⟨0⟩⟩ parseMessages
          ((messageStream.map fun entry => asBytes entry.1) ++ [paddedLine])).provider.captures.filterMap
            (fun capture => capture.2.event.map (·.providerEventIndex))
        = [0] := by
  refine ⟨if_pos isOversized_paddedLine, ?_⟩
  rw [normalize, collect, readRecords_append_oversized _ isOversized_paddedLine]
  decide +kernel

end CtxRemote.Capture.CustomHistory
