import CtxRemote.Capture.DerivedTouches
import CtxRemote.Capture.ImportFrames

/-! Whether the file touches of an import overwrite each other. A touch is stored under an id of its
source and its touch index. The indexes of touches that an adapter supplies and of those that are
read off events share one space of numbers.
-/

namespace CtxRemote.Capture
open CtxRemote.Library
open CtxRemote.Store (Uuid CaptureProvider Json StoreError)
open CtxRemote.Sync (ProviderImportSummary)

-----------------------------------------------------------------------------------------
-- Touches and rows
-----------------------------------------------------------------------------------------

/-- What tells touches apart: the source, the file, its old path, the kind and the event. -/
structure TouchedFile where
  sourceId : Uuid
  path : String
  oldPath : Option String
  changeKind : Option FileChangeKind
  providerEventIndex : Option UInt64
deriving DecidableEq

/-- The capture source of a touch. -/
def ProviderFileTouchedEnvelope.sourceId (file : ProviderFileTouchedEnvelope) : Uuid :=
  providerScopedSourceUuid file.provider file.providerSessionId file.sourceFormat file.rawSourcePath

def ProviderFileTouchedEnvelope.touched (file : ProviderFileTouchedEnvelope) : TouchedFile where
  sourceId := file.sourceId
  path := file.path
  oldPath := file.oldPath
  changeKind := file.changeKind
  providerEventIndex := file.providerEventIndex

/-- A row says what a touch says. -/
structure FileTouched.Shows (row : FileTouched) (touched : TouchedFile) : Prop where
  source : row.sourceId = some touched.sourceId
  path : row.path = touched.path
  oldPath : row.oldPath = touched.oldPath
  changeKind : row.changeKind = touched.changeKind
  event
    : row.sync.metadata.get "provider_event_index"
      = some ((touched.providerEventIndex.map numberJson).getD .null)

/-- A row shows one touch. -/
theorem FileTouched.Shows.unique {row : FileTouched} {left right : TouchedFile}
    (hl : row.Shows left) (hr : row.Shows right)
    : left = right := by
  have source := Option.some.inj (hl.source.symm.trans hr.source)
  have event
      : (left.providerEventIndex.map numberJson).getD .null
        = (right.providerEventIndex.map numberJson).getD .null :=
    Option.some.inj (hl.event.symm.trans hr.event)
  have index : left.providerEventIndex = right.providerEventIndex := by
    cases one : left.providerEventIndex <;> cases other : right.providerEventIndex <;>
      simp_all [numberJson]
  have path := hl.path.symm.trans hr.path
  have oldPath := hl.oldPath.symm.trans hr.oldPath
  have changeKind := hl.changeKind.symm.trans hr.changeKind
  cases left
  cases right
  simp_all

/-- The id of a touch in its source, and the one that earlier versions gave it. -/
def ProviderFileTouchedEnvelope.sourceTouchId (file : ProviderFileTouchedEnvelope) : Uuid :=
  providerSourceFileTouchUuid file.sourceId file.providerTouchIndex

def ProviderFileTouchedEnvelope.legacyTouchId (file : ProviderFileTouchedEnvelope) : Uuid :=
  providerFileTouchUuid file.provider file.providerSessionId file.providerTouchIndex

/-- The session that a store takes a touch for. -/
def touchedSession (store : ImportStore) (file : ProviderFileTouchedEnvelope) : Uuid :=
  let inferredSessionId := providerImportSessionUuid store file.provider file.providerSessionId
    file.sourceId
    (providerSourceIdentity file.provider file.sourceFormat file.sourceRoot file.rawSourcePath none
      file.metadata)
  let eventId := file.providerEventIndex.bind fun index =>
    providerFileTouchEventId store file.provider file.providerSessionId file.sourceId index
      (inferredSessionId = providerSessionUuid file.provider file.providerSessionId)
  ((eventId.bind store.getEvent).bind (·.sessionId)).getD inferredSessionId

/-- The id that a store takes a touch for. -/
def storedTouchId (store : ImportStore) (file : ProviderFileTouchedEnvelope) : Uuid :=
  providerFileTouchImportId store file.provider file.providerSessionId file.sourceId
    file.providerTouchIndex
    (touchedSession store file = providerSessionUuid file.provider file.providerSessionId)

theorem storedTouchId_cases (store : ImportStore) (file : ProviderFileTouchedEnvelope)
    : storedTouchId store file = file.sourceTouchId
      ∨ storedTouchId store file = file.legacyTouchId
        ∧ store.filesTouched.holds file.legacyTouchId = true := by
  unfold storedTouchId providerFileTouchImportId
  dsimp only
  split
  next => exact .inl rfl
  next =>
      split
      next legacy => exact .inr ⟨rfl, (Bool.and_eq_true _ _ |>.mp legacy).2⟩
      next => exact .inl rfl

section Units

variable {externals : Externals} {historyRecordId : Option Uuid} {state next : ImportState}

/-- An update of a touch puts its row, which keeps the time of its creation. -/
theorem upsertFileTouched_ok {store after : ImportStore} {file : FileTouched}
    (written : store.upsertFileTouched file = .ok after)
    : ∃ createdAtMs,
        after.filesTouched = store.filesTouched.put { file with createdAtMs := createdAtMs } := by
  unfold ImportStore.upsertFileTouched at written
  dsimp only at written
  split at written
  next =>
      cases written
      exact ⟨_, rfl⟩
  next => cases written

/-- The import of a touch puts a row that shows the touch under its id, or fails in the store. -/
theorem importProviderFileTouchedLine_ends (file : ProviderFileTouchedEnvelope)
    : Ends (importProviderFileTouchedLine historyRecordId file) state
        (fun _ next =>
          ∃ row : FileTouched,
            row.id = storedTouchId state.store file ∧ row.Shows file.touched
            ∧ next.store.filesTouched = state.store.filesTouched.put row)
        (fun error _ => ∃ stored, error = .store stored) := by
  unfold importProviderFileTouchedLine
  refine .get_bind ?_
  unfold Ends
  dsimp only
  rw [perform_executeStatement]
  split
  next value last ran =>
      split at ran
      next store written =>
          cases ran
          obtain ⟨createdAtMs, put⟩ := upsertFileTouched_ok written
          exact ⟨_, rfl, ⟨rfl, rfl, rfl, rfl, rfl⟩, put⟩
      next => cases ran
  next error last ran =>
      split at ran
      next => cases ran
      next => 
          cases ran
          exact ⟨_, rfl⟩

/-- A unit of a touch that goes on has put a row that shows the touch under its id. -/
theorem fileUnit_stores {line : Nat × ProviderFileTouchedEnvelope}
    (went : perform (fileUnit externals historyRecordId line) state = (.ok (), next))
    : ∃ row : FileTouched,
        row.id = storedTouchId state.store line.2 ∧ row.Shows line.2.touched
        ∧ next.store.filesTouched = state.store.filesTouched.put row := by
  have ends
      : Ends (importProviderFileTouchedLine historyRecordId line.2)
          (state.prepared (externals.fileLength line.2)) _ _ :=
    importProviderFileTouchedLine_ends line.2
  rw [store_prepared] at ends
  unfold fileUnit at went
  rw [perform_importUnit, perform_bind] at went
  match ran
      : perform (importProviderFileTouchedLine historyRecordId line.2)
          (state.prepared (externals.fileLength line.2)) with
  | (.ok _, mid) =>
      rw [ran] at went
      cases went
      obtain ⟨row, id, shows, put⟩ := ends.of_ok ran
      exact ⟨row, id, shows, by rw [store_recorded]; exact put⟩
  | (.error error, mid) =>
      obtain ⟨stored, rfl⟩ := ends.of_error ran
      rw [ran] at went
      cases went

end Units

-----------------------------------------------------------------------------------------
-- The loop over touches
-----------------------------------------------------------------------------------------

/-- A loop that returns has run its parts. -/
theorem perform_forM_append {ε σ α : Type} {act : α → ExceptT ε (StateM σ) Unit}
    {before after : List α} {state last : σ}
    (ran : perform ((before ++ after).forM act) state = (.ok (), last))
    : ∃ mid, perform (before.forM act) state = (.ok (), mid)
      ∧ perform (after.forM act) mid = (.ok (), last) := by
  induction before generalizing state with
  | nil => exact ⟨state, rfl, ran⟩
  | cons x rest ih =>
      rw [List.cons_append, forM_cons] at ran
      obtain ⟨_, next, first, later⟩ := perform_bind_eq_ok ran
      obtain ⟨mid, inner, done⟩ := ih later
      refine ⟨mid, ?_, done⟩
      rw [forM_cons, perform_bind, first]
      exact inner

section Loop

variable {externals : Externals} {historyRecordId : Option Uuid}
  {lines : List (Nat × ProviderFileTouchedEnvelope)} {state last : ImportState}

/-- A table holds each touch of a loop under the id that it was taken for when it was reached. -/
def TouchesKept (externals : Externals) (historyRecordId : Option Uuid)
    (lines : List (Nat × ProviderFileTouchedEnvelope)) (state : ImportState)
    (stored : Keyed FileTouched (·.id))
    : Prop :=
  ∀ before line after mid, lines = before ++ line :: after →
    perform (importFilesTouched externals historyRecordId before) state = (.ok (), mid) →
    ∃ row, stored.find? (storedTouchId mid.store line.2) = some row ∧ row.Shows line.2.touched

/-- Touches with one id in their sources are one touch. -/
def SourceIdsApart (files : List ProviderFileTouchedEnvelope) : Prop :=
  ∀ left ∈ files, ∀ right ∈ files,
    left.sourceTouchId = right.sourceTouchId → left.touched = right.touched

/-- A legacy id of a touch is one of that touch only. -/
def LegacyIdsApart (files : List ProviderFileTouchedEnvelope) : Prop :=
  ∀ left ∈ files, ∀ right ∈ files,
    left.legacyTouchId = right.legacyTouchId ∨ left.legacyTouchId = right.sourceTouchId →
    left.touched = right.touched

/-- The store holds no legacy id of the touches, and none is an id in a source. -/
def WithoutLegacy (store : ImportStore) (files : List ProviderFileTouchedEnvelope) : Prop :=
  ∀ file ∈ files, store.filesTouched.holds file.legacyTouchId = false
    ∧ ∀ other ∈ files, other.sourceTouchId ≠ file.legacyTouchId

/-- Two touches that can be taken for one id are one touch. -/
theorem touched_eq_of_storedTouchId {files : List ProviderFileTouchedEnvelope}
    (sources : SourceIdsApart files) (legacy : LegacyIdsApart files)
    {left right : ProviderFileTouchedEnvelope} (hl : left ∈ files) (hr : right ∈ files)
    {first second : ImportStore} (same : storedTouchId first left = storedTouchId second right)
    : left.touched = right.touched := by
  rcases storedTouchId_cases first left with own | ⟨own, _⟩ <;>
    rcases storedTouchId_cases second right with other | ⟨other, _⟩ <;>
    rw [own, other] at same
  · exact sources left hl right hr same
  · exact (legacy right hr left hl (.inr same.symm)).symm
  · exact legacy left hl right hr (.inr same)
  · exact legacy left hl right hr (.inl same)

/-- What holds of the store at every touch of a loop. -/
def FileUnitsKeep (externals : Externals) (historyRecordId : Option Uuid)
    (lines : List (Nat × ProviderFileTouchedEnvelope)) (good : ImportStore → Prop)
    : Prop :=
  ∀ line ∈ lines, ∀ state next, good state.store →
    perform (fileUnit externals historyRecordId line) state = (.ok (), next) → good next.store

theorem FileUnitsKeep.loop {good : ImportStore → Prop}
    (keeps : FileUnitsKeep externals historyRecordId lines good) (start : good state.store)
    (ran : perform (importFilesTouched externals historyRecordId lines) state = (.ok (), last))
    : good last.store := by
  induction lines generalizing state with
  | nil =>
      cases ran
      exact start
  | cons line rest ih =>
      unfold importFilesTouched at ran
      rw [forM_cons] at ran
      obtain ⟨_, next, first, later⟩ := perform_bind_eq_ok ran
      exact ih (fun other member => keeps other (List.mem_cons_of_mem _ member))
        (keeps line List.mem_cons_self state next start first) later

/-- A row that shows a touch stays, as far as later touches under its id are that touch. By
induction on the later touches.
-/
theorem shows_importFilesTouched {good : ImportStore → Prop} {id : Uuid} {touched : TouchedFile}
    (keeps : FileUnitsKeep externals historyRecordId lines good) (start : good state.store)
    (ran : perform (importFilesTouched externals historyRecordId lines) state = (.ok (), last))
    (same
      : ∀ line ∈ lines, ∀ store, good store → storedTouchId store line.2 = id →
        line.2.touched = touched)
    (held : ∃ row, state.store.filesTouched.find? id = some row ∧ row.Shows touched)
    : ∃ row, last.store.filesTouched.find? id = some row ∧ row.Shows touched := by
  induction lines generalizing state with
  | nil =>
      cases ran
      exact held
  | cons line rest ih =>
      unfold importFilesTouched at ran
      rw [forM_cons] at ran
      obtain ⟨_, next, first, later⟩ := perform_bind_eq_ok ran
      obtain ⟨row, own, shows, put⟩ := fileUnit_stores first
      refine ih (fun other member => keeps other (List.mem_cons_of_mem _ member))
        (keeps line List.mem_cons_self state next start first) later
        (fun other member => same other (List.mem_cons_of_mem _ member)) ?_
      rw [put]
      simp only [Keyed.find?_put]
      by_cases here : row.id = id
      · rw [if_pos here]
        have one := same line List.mem_cons_self state.store start (own.symm.trans here)
        exact ⟨row, rfl, one ▸ shows⟩
      · rw [if_neg here]
        exact held

/-- Touches are kept where two that are taken for one id are one touch. -/
theorem touchesKept_of_stored {good : ImportStore → Prop}
    (keeps : FileUnitsKeep externals historyRecordId lines good) (start : good state.store)
    (ran : perform (importFilesTouched externals historyRecordId lines) state = (.ok (), last))
    (apart
      : ∀ left ∈ lines, ∀ right ∈ lines, ∀ first second, good first → good second →
        storedTouchId first left.2 = storedTouchId second right.2 →
        left.2.touched = right.2.touched)
    : TouchesKept externals historyRecordId lines state last.store.filesTouched := by
  rintro before line after mid rfl reached
  obtain ⟨mid', reached', rest⟩ := perform_forM_append ran
  obtain rfl : mid = mid' := congrArg Prod.snd (reached.symm.trans reached')
  rw [forM_cons] at rest
  obtain ⟨_, next, first, later⟩ := perform_bind_eq_ok rest
  obtain ⟨row, own, shows, put⟩ := fileUnit_stores first
  have members {other : Nat × ProviderFileTouchedEnvelope} (inside : other ∈ line :: after)
      : other ∈ before ++ line :: after :=
    List.mem_append_right _ inside
  have before' : FileUnitsKeep externals historyRecordId before good :=
    fun other inside => keeps other (List.mem_append_left _ inside)
  have midGood := before'.loop start reached
  have nextGood := keeps line (members List.mem_cons_self) mid next midGood first
  refine shows_importFilesTouched
    (fun other inside => keeps other (members (List.mem_cons_of_mem _ inside))) nextGood later
    (fun other inside store storeGood same => ?_) ⟨row, ?_, shows⟩
  · exact apart other (members (List.mem_cons_of_mem _ inside)) line (members List.mem_cons_self)
      store mid.store storeGood midGood same
  · rw [put]
    simp [own]

/-- Touches whose ids are apart are kept in every store. -/
theorem touchesKept_of_apart
    (ran : perform (importFilesTouched externals historyRecordId lines) state = (.ok (), last))
    (sources : SourceIdsApart (lines.map (·.2))) (legacy : LegacyIdsApart (lines.map (·.2)))
    : TouchesKept externals historyRecordId lines state last.store.filesTouched := by
  have keeps : FileUnitsKeep externals historyRecordId lines fun _ => True :=
    fun _ _ _ _ _ _ => trivial
  refine touchesKept_of_stored keeps trivial ran fun left hl right hr first second _ _ same => ?_
  exact touched_eq_of_storedTouchId sources legacy (List.mem_map_of_mem hl)
    (List.mem_map_of_mem hr) same

/-- Without a legacy id, a touch is taken for the id in its source. -/
theorem WithoutLegacy.storedTouchId {store : ImportStore}
    {files : List ProviderFileTouchedEnvelope} (clear : WithoutLegacy store files)
    {file : ProviderFileTouchedEnvelope} (member : file ∈ files)
    : storedTouchId store file = file.sourceTouchId := by
  rcases storedTouchId_cases store file with own | ⟨_, held⟩
  · exact own
  · rw [(clear file member).1] at held
    cases held

/-- Touches bring no legacy id into the store. -/
theorem fileUnitsKeep_withoutLegacy
    : FileUnitsKeep externals historyRecordId lines fun store =>
        WithoutLegacy store (lines.map (·.2)) := by
  intro line member state next clear went file inside
  obtain ⟨row, own, _, put⟩ := fileUnit_stores went
  have member' := List.mem_map_of_mem (f := (·.2)) member
  have apart := (clear file inside).2 line.2 member'
  refine ⟨?_, (clear file inside).2⟩
  rw [put, Keyed.holds_put, (clear file inside).1, own, clear.storedTouchId member']
  simpa using apart

/-- In a store without legacy ids, touches are kept just where their ids are apart. -/
theorem touchesKept_iff (clear : WithoutLegacy state.store (lines.map (·.2)))
    (ran : perform (importFilesTouched externals historyRecordId lines) state = (.ok (), last))
    : TouchesKept externals historyRecordId lines state last.store.filesTouched
        ↔ SourceIdsApart (lines.map (·.2)) := by
  -- the row that a touch leaves stands under its id in the source
  have found (kept : TouchesKept externals historyRecordId lines state last.store.filesTouched)
      (line : Nat × ProviderFileTouchedEnvelope) (member : line ∈ lines)
      : ∃ row, last.store.filesTouched.find? line.2.sourceTouchId = some row
        ∧ row.Shows line.2.touched := by
    obtain ⟨before, after, split⟩ := List.append_of_mem member
    have ran' := ran
    rw [split] at ran'
    obtain ⟨mid, reached, _⟩ := perform_forM_append ran'
    have keeps
        : FileUnitsKeep externals historyRecordId before fun store =>
            WithoutLegacy store (lines.map (·.2)) := fun other inside =>
      fileUnitsKeep_withoutLegacy other (split ▸ List.mem_append_left _ inside)
    have clear' := keeps.loop clear reached
    have row := kept before line after mid split reached
    rwa [clear'.storedTouchId (List.mem_map_of_mem member)] at row
  constructor
  · intro kept left hl right hr same
    obtain ⟨leftLine, leftMember, rfl⟩ := List.mem_map.mp hl
    obtain ⟨rightLine, rightMember, rfl⟩ := List.mem_map.mp hr
    obtain ⟨row, place, shows⟩ := found kept leftLine leftMember
    obtain ⟨other, place', shows'⟩ := found kept rightLine rightMember
    rw [← same, place] at place'
    obtain rfl := Option.some.inj place'
    exact shows.unique shows'
  · intro sources
    refine touchesKept_of_stored fileUnitsKeep_withoutLegacy clear ran
      fun left hl right hr first second clear clear' same => ?_
    have hl := List.mem_map_of_mem (f := (·.2)) hl
    have hr := List.mem_map_of_mem (f := (·.2)) hr
    rw [clear.storedTouchId hl, clear'.storedTouchId hr] at same
    exact sources _ hl _ hr same

end Loop

-----------------------------------------------------------------------------------------
-- Imports
-----------------------------------------------------------------------------------------

/-- A program that leaves the file touches. -/
abbrev Untouching {α : Type} (program : ImportM α) : Prop :=
  Leaves (fun state => state.store.filesTouched) program

theorem Capturing.untouching {α : Type} {program : ImportM α} (capturing : Capturing program)
    : Untouching program :=
  capturing.coarser fun shown => shown.1.1

/-- A unit that goes on leaves the touches with its program. -/
theorem Untouching.unit {program : ImportM ProviderImportSummary} (untouching : Untouching program)
    {unitBytes lineNumber : Nat} {state next : ImportState}
    (went : perform (importUnit unitBytes lineNumber program) state = (.ok (), next))
    : next.store.filesTouched = state.store.filesTouched := by
  have left := untouching (state.prepared unitBytes)
  dsimp only at left
  rw [store_prepared] at left
  rw [perform_importUnit] at went
  split at went
  next ran =>
      rw [ran] at left
      cases went
      rw [store_recorded]
      exact left
  next => cases went
  next ran =>
      rw [ran] at left
      cases went
      rw [store_recorded]
      exact left

/-- A loop over such units leaves the touches. By induction on the loop. -/
theorem Untouching.loop {α : Type} {act : α → ImportM Unit} {unitBytes lineNumber : α → Nat}
    {program : α → ImportM ProviderImportSummary}
    (units : ∀ x, act x = importUnit (unitBytes x) (lineNumber x) (program x))
    (untouching : ∀ x, Untouching (program x)) {xs : List α} {state last : ImportState}
    (ran : perform (xs.forM act) state = (.ok (), last))
    : last.store.filesTouched = state.store.filesTouched := by
  induction xs generalizing state with
  | nil =>
      cases ran
      rfl
  | cons x rest ih =>
      rw [forM_cons] at ran
      obtain ⟨_, next, first, later⟩ := perform_bind_eq_ok ran
      rw [units] at first
      exact (ih later).trans ((untouching x).unit first)

section Imports

variable {externals : Externals} {options : NormalizedProviderImportOptions}
  {captures : List (Nat × ProviderCaptureEnvelope)} {state last : ImportState}

theorem filesTouched_importCaptures
    (ran : perform (importCaptures externals options captures) state = (.ok (), last))
    : last.store.filesTouched = state.store.filesTouched :=
  Untouching.loop (fun _ => rfl)
    (fun _ => (capturing_importProviderCaptureLine _ _ _ _).untouching) ran

theorem filesTouched_resolvePendingProviderEdgesBatched
    (ran : perform (resolvePendingProviderEdgesBatched externals) state = (.ok (), last))
    : last.store.filesTouched = state.store.filesTouched := by
  unfold resolvePendingProviderEdgesBatched at ran
  obtain ⟨_, _, first, later⟩ := perform_bind_eq_ok ran
  rw [perform_get] at first
  cases first
  obtain ⟨_, _, second, loop⟩ := perform_bind_eq_ok later
  cases second
  exact (Untouching.loop (fun _ => rfl)
    (fun _ => (capturing_resolvePendingProviderEdge _ _ _).untouching) loop).trans rfl

theorem filesTouched_importCursors {cursors : List SyncCursor}
    (ran : perform (importCursors externals cursors) state = (.ok (), last))
    : last.store.filesTouched = state.store.filesTouched := by
  refine Untouching.loop (fun _ => rfl) (fun cursor => .bind (fun state => ?_) fun _ => .pure _) ran
  rw [perform_executeStatement]
  split
  next store written =>
      unfold ImportStore.upsertSyncCursor at written
      dsimp only at written
      split at written
      next =>
          cases written
          rfl
      next =>
          split at written <;> cases written
          rfl
  next => rfl

/-- An import that does not refuse its captures for the lack of a real message. -/
def Accepted (filtered : ProviderNormalizationResult) : Prop :=
  ¬ (filtered.summary.failed = 0 ∧ ¬ providerCaptureLinesHaveRealMessage filtered.captures)

/-- An import gets to its file touches in the state. -/
def ReachesTouches (externals : Externals) (options : NormalizedProviderImportOptions)
    (store : ImportStore) (filtered : ProviderNormalizationResult) (state : ImportState)
    : Prop :=
  perform
    (do
      importCaptures externals options filtered.captures
      resolvePendingProviderEdgesBatched externals)
    ((initialState store filtered.summary).begun
      (hasTransactions options filtered.captures (allFilesTouched externals filtered)))
  = (.ok (), state)

/-- What comes behind the touches leaves them. -/
theorem finishImport_touches {historyRecordId : Option Uuid}
    {files : List (Nat × ProviderFileTouchedEnvelope)} {cursors : List SyncCursor}
    {summary : ProviderImportSummary}
    (ran
      : perform (finishImport externals historyRecordId files cursors) state = (.ok summary, last))
    : ∃ reached touched,
        perform (resolvePendingProviderEdgesBatched externals) state = (.ok (), reached)
        ∧ perform (importFilesTouched externals historyRecordId files) reached = (.ok (), touched)
        ∧ last.store.filesTouched = touched.store.filesTouched := by
  unfold finishImport at ran
  obtain ⟨_, reached, resolved, ran⟩ := perform_bind_eq_ok ran
  obtain ⟨_, touched, looped, ran⟩ := perform_bind_eq_ok ran
  refine ⟨reached, touched, resolved, looped, ?_⟩
  obtain ⟨_, _, read, ran⟩ := perform_bind_eq_ok ran
  rw [perform_get] at read
  cases read
  have committed (state : ImportState)
      : (perform (commit >>= fun _ => get >>= fun state => pure state.summary) state).2.store.filesTouched
        = state.store.filesTouched := by
    simp only [commit, perform_bind, perform_modify, perform_get, perform_pure]
    split <;> rfl
  dsimp only at ran
  split at ran
  next =>
      obtain ⟨_, mid, cursors, done⟩ := perform_bind_eq_ok ran
      have same := committed mid
      rw [done] at same
      exact same.trans (filesTouched_importCursors cursors)
  next =>
      have same := committed touched
      rw [ran] at same
      exact same

/-- An import that succeeds has run its loop over the touches, and leaves the touches of the loop. -/
theorem import_touches {store final : ImportStore} {normalization : ProviderNormalizationResult}
    {summary : ProviderImportSummary}
    (accepted : Accepted (filterProviderCaptureLinesWithoutRealSessionMessages normalization))
    (imported
      : importNormalizedProviderCaptures externals options store normalization = (.ok summary, final))
    : let filtered := filterProviderCaptureLinesWithoutRealSessionMessages normalization
      ∃ state last,
        ReachesTouches externals options store filtered state
        ∧ perform
            (importFilesTouched externals options.historyRecordId (allFilesTouched externals filtered))
            state
          = (.ok (), last)
        ∧ state.store.filesTouched = store.filesTouched
        ∧ final.filesTouched = last.store.filesTouched := by
  unfold importNormalizedProviderCaptures at imported
  dsimp only at imported ⊢
  generalize filterProviderCaptureLinesWithoutRealSessionMessages normalization = filtered
    at accepted imported ⊢
  unfold Accepted at accepted
  rw [if_neg accepted, perform_persistProviderCaptureLines] at imported
  match captured
      : perform (importCaptures externals options filtered.captures)
          ((initialState store filtered.summary).begun
            (hasTransactions options filtered.captures (allFilesTouched externals filtered))) with
  | (.error _, _) =>
      rw [captured] at imported
      cases imported
  | (.ok _, mid) =>
      rw [captured] at imported
      dsimp only at imported
      match whole
          : perform (finishImport externals options.historyRecordId
              (allFilesTouched externals filtered)
              (cursorsToPersist options filtered.captures (initialState store filtered.summary).summary))
              mid with
      | (result, ended) =>
          rw [whole] at imported
          cases imported
          obtain ⟨reached, touched, resolved, looped, same⟩ := finishImport_touches whole
          refine ⟨reached, touched, ?_, looped, ?_, same⟩
          · unfold ReachesTouches
            rw [perform_bind, captured]
            exact resolved
          · exact (filesTouched_resolvePendingProviderEdgesBatched resolved).trans
              (filesTouched_importCaptures captured)

end Imports

-----------------------------------------------------------------------------------------
-- Numbers
-----------------------------------------------------------------------------------------

/-- A touch with its number in the source. -/
structure NumberedTouch where
  number : Nat
  touched : TouchedFile

/-- The id of a number in a source. -/
def NumberedTouch.id (touch : NumberedTouch) : Uuid :=
  providerSourceFileTouchUuid touch.touched.sourceId (UInt64.ofNat touch.number)

/-- The touches that an adapter brings, with its numbers. -/
def suppliedTouches (normalization : ProviderNormalizationResult) : List NumberedTouch :=
  normalization.filesTouched.map fun (_, file) => ⟨file.providerTouchIndex.toNat, file.touched⟩

/-- The number of a touch of an event: 2 ^ 16 times the event's index, as far as 64 bits hold it,
with the bits of the touch's position.
-/
def derivedNumber (providerEventIndex : UInt64) (position : Nat) : Nat :=
  providerEventIndex.toNat * 2 ^ 16 % 2 ^ 64 ||| position % 2 ^ 64

/-- The touches of an event of a capture. -/
def eventTouches (capture : ProviderCaptureEnvelope) (event : ProviderEventEnvelope)
    : List NumberedTouch :=
  (distinctDrafts (fileTouchDrafts event)).mapIdx fun position draft =>
    { number := derivedNumber event.providerEventIndex position
      touched :=
        { sourceId := capture.sourceId
          path := String.ofList draft.path
          oldPath := draft.oldPath.map String.ofList
          changeKind := draft.changeKind
          providerEventIndex := some event.providerEventIndex } }

/-- The touches of an import: those of the adapter, and those of events on other lines. -/
def numberedTouches (normalization : ProviderNormalizationResult) : List NumberedTouch :=
  let supplied := normalization.filesTouched.map (·.1)
  suppliedTouches normalization
    ++ normalization.captures.flatMap fun (lineNumber, capture) =>
      if capture.provider = .codex || supplied.contains lineNumber then []
      else (capture.event.map (eventTouches capture)).getD []

/-- Touches of one source with one number are one touch, and the ids of other numbers do not collide
for different touches.
-/
structure TouchNumbersApart (touches : List NumberedTouch) : Prop where
  numbers
    : ∀ left ∈ touches, ∀ right ∈ touches, left.touched.sourceId = right.touched.sourceId →
      left.number = right.number → left.touched = right.touched
  hashes
    : ∀ left ∈ touches, ∀ right ∈ touches, left.id = right.id →
      left.touched.sourceId = right.touched.sourceId ∧ left.number = right.number
      ∨ left.touched = right.touched

/-- The first 2 ^ 16 touches of events have one number just where the positions are the same and the
events' indexes agree in their low 48 bits.
-/
theorem derivedNumber_eq_iff {left right : UInt64} {first second : Nat} (hl : first < 2 ^ 16)
    (hr : second < 2 ^ 16)
    : derivedNumber left first = derivedNumber right second
        ↔ left.toNat % 2 ^ 48 = right.toNat % 2 ^ 48 ∧ first = second := by
  have packed (index : UInt64) (position : Nat) (small : position < 2 ^ 16)
      : derivedNumber index position = 2 ^ 16 * (index.toNat % 2 ^ 48) + position := by
    have high : index.toNat * 2 ^ 16 % 2 ^ 64 = 2 ^ 16 * (index.toNat % 2 ^ 48) := by omega
    have low : position % 2 ^ 64 = position := Nat.mod_eq_of_lt (by omega)
    rw [derivedNumber, high, low, Nat.two_pow_add_eq_or_of_lt small]
  rw [packed left first hl, packed right second hr]
  omega

/-- The index of a derived touch is its number. -/
theorem toNat_derivedIndex (providerEventIndex : UInt64) (position : Nat)
    : ((providerEventIndex <<< 16) ||| UInt64.ofNat position).toNat
      = derivedNumber providerEventIndex position := by
  rw [UInt64.toNat_or, UInt64.toNat_shiftLeft, UInt64.toNat_ofNat', derivedNumber,
    Nat.shiftLeft_eq]
  rfl

/-- The numbers of an import are the indexes of its touches. -/
theorem numberedTouches_eq {externals : Externals}
    (derives : externals.providerFileTouchesFromEvent = providerFileTouchesFromEvent)
    (normalization : ProviderNormalizationResult)
    : numberedTouches normalization
      = (allFilesTouched externals normalization).map fun (_, file) =>
          ⟨file.providerTouchIndex.toNat, file.touched⟩ := by
  unfold numberedTouches allFilesTouched suppliedTouches
  dsimp only
  rw [List.map_append, List.map_flatMap, derives]
  congr 1
  refine List.flatMap_congr fun (lineNumber, capture) _ => ?_
  dsimp only
  split
  next => rfl
  next =>
      cases capture.event with
      | none => rfl
      | some event =>
          simp only [Option.map_some, Option.getD_some, providerFileTouchesFromEvent,
            providerFileTouchEnvelopes, eventTouches, List.mapIdx_eq_zipIdx_map, List.map_map]
          refine List.map_congr_left fun (draft, position) _ => ?_
          simp only [Function.comp_apply, touchEnvelope, toNat_derivedIndex]
          rfl

/-- Touches have one id in their sources just where their numbers say so. -/
theorem sourceIdsApart_iff (files : List ProviderFileTouchedEnvelope)
    : SourceIdsApart files
        ↔ TouchNumbersApart (files.map fun file => ⟨file.providerTouchIndex.toNat, file.touched⟩) := by
  have id (file : ProviderFileTouchedEnvelope)
      : NumberedTouch.id ⟨file.providerTouchIndex.toNat, file.touched⟩ = file.sourceTouchId := by
    unfold NumberedTouch.id ProviderFileTouchedEnvelope.sourceTouchId
    rw [UInt64.ofNat_toNat]
    rfl
  constructor
  · intro apart
    constructor
    · intro left hl right hr source number
      obtain ⟨file, member, rfl⟩ := List.mem_map.mp hl
      obtain ⟨other, member', rfl⟩ := List.mem_map.mp hr
      refine apart file member other member' ?_
      have index : file.providerTouchIndex = other.providerTouchIndex := UInt64.toNat_inj.mp number
      have source' : file.sourceId = other.sourceId := source
      unfold ProviderFileTouchedEnvelope.sourceTouchId
      rw [source', index]
    · intro left hl right hr same
      obtain ⟨file, member, rfl⟩ := List.mem_map.mp hl
      obtain ⟨other, member', rfl⟩ := List.mem_map.mp hr
      rw [id, id] at same
      exact .inr (apart file member other member' same)
  · intro apart file member other member' same
    have hl := List.mem_map_of_mem
      (f := fun file => (⟨file.providerTouchIndex.toNat, file.touched⟩ : NumberedTouch)) member
    have hr := List.mem_map_of_mem
      (f := fun file => (⟨file.providerTouchIndex.toNat, file.touched⟩ : NumberedTouch)) member'
    rw [← id, ← id] at same
    rcases apart.hashes _ hl _ hr same with ⟨source, number⟩ | equal
    · exact apart.numbers _ hl _ hr source number
    · exact equal

/-- Each touch of an import is stored, when the import is over, under the id that it was taken for. -/
def ImportKeepsTouches (externals : Externals) (options : NormalizedProviderImportOptions)
    (store : ImportStore) (filtered : ProviderNormalizationResult) (final : ImportStore)
    : Prop :=
  ∀ state, ReachesTouches externals options store filtered state →
    TouchesKept externals options.historyRecordId (allFilesTouched externals filtered) state
      final.filesTouched

/-- File touches of an import. Where the numbers of the touches are apart, and so are the legacy ids,
an import that succeeds has stored every touch. In a store without legacy ids of the touches, it has
just where the numbers are apart.
-/
theorem import_keepsTouches_iff (externals : Externals) (options : NormalizedProviderImportOptions)
    (derives : externals.providerFileTouchesFromEvent = providerFileTouchesFromEvent)
    {store final : ImportStore} {normalization : ProviderNormalizationResult}
    {summary : ProviderImportSummary}
    (accepted : Accepted (filterProviderCaptureLinesWithoutRealSessionMessages normalization))
    (imported
      : importNormalizedProviderCaptures externals options store normalization = (.ok summary, final))
    : let filtered := filterProviderCaptureLinesWithoutRealSessionMessages normalization
      let files := (allFilesTouched externals filtered).map (·.2)
      (TouchNumbersApart (numberedTouches filtered) → LegacyIdsApart files →
          ImportKeepsTouches externals options store filtered final)
        ∧ (WithoutLegacy store files →
          (ImportKeepsTouches externals options store filtered final
            ↔ TouchNumbersApart (numberedTouches filtered))) := by
  intro filtered files
  obtain ⟨state, last, reached, looped, start, same⟩ := import_touches accepted imported
  have only {other : ImportState} (reached' : ReachesTouches externals options store filtered other)
      : other = state :=
    congrArg Prod.snd (reached'.symm.trans reached)
  have numbers : TouchNumbersApart (numberedTouches filtered) ↔ SourceIdsApart files := by
    rw [sourceIdsApart_iff, numberedTouches_eq derives, List.map_map]
    rfl
  rw [numbers]
  constructor
  · intro sources legacy other reached'
    obtain rfl := only reached'
    rw [same]
    exact touchesKept_of_apart looped sources legacy
  · intro clear
    have clear' : WithoutLegacy state.store files := by
      unfold WithoutLegacy
      rw [start]
      exact clear
    have kept := touchesKept_iff clear' looped
    rw [← same] at kept
    refine ⟨fun keeps => kept.mp (keeps state reached), fun sources other reached' => ?_⟩
    obtain rfl := only reached'
    exact kept.mpr sources

/-- Externals as for captures at the epoch, with the touches that the importer reads off events. -/
def touchExternals : Externals :=
  { epochExternals with providerFileTouchesFromEvent := providerFileTouchesFromEvent }

/-- A call of a tool on a file. -/
def toolCallEvent (providerEventIndex : UInt64) (path : String) : ProviderEventEnvelope :=
  { messageEvent providerEventIndex "h2" with
    eventType := .toolCall
    role := some .assistant
    payload := .object [("path", .string path)] }

/-- A session with a message and a call of a tool, and the touches that its adapter brings. -/
def sessionWithTouches (filesTouched : List (Nat × ProviderFileTouchedEnvelope))
    : ProviderNormalizationResult where
  summary := {}
  captures :=
    [(1, sessionCapture .custom "a" none none (messageEvent 0 "h1")),
      (2, sessionCapture .custom "a" none none (toolCallEvent 1 "src/a.rs"))]
  filesTouched := filesTouched

/-- A touch that an adapter brings for the session. -/
def suppliedTouch (providerTouchIndex : UInt64) (path : String) : ProviderFileTouchedEnvelope where
  provider := .custom
  providerSessionId := "a"
  providerTouchIndex := providerTouchIndex
  providerEventIndex := none
  rawSourcePath := some "/sessions.jsonl"
  sourceRoot := none
  path := path
  changeKind := some .modified
  oldPath := none
  lineCountDelta := none
  confidence := .explicit
  occurredAt := ⟨0⟩
  sourceFormat := "sessions_jsonl"
  metadata := .object []

/-- The session later: a further call of a tool, on two files, and another touch of the adapter. -/
def grownSession : ProviderNormalizationResult where
  summary := {}
  captures :=
    [(1, sessionCapture .custom "a" none none (messageEvent 0 "h1")),
      (2, sessionCapture .custom "a" none none (toolCallEvent 1 "src/a.rs")),
      (3, sessionCapture .custom "a" none none
        { toolCallEvent 2 "src/b.rs" with
          payload := .object [("path", .string "src/b.rs"), ("file_path", .string "src/c.rs")] })]
  filesTouched := [(4, suppliedTouch 7 "src/d.rs")]

/-- What the first import of the session leaves: the touch of its tool call, and one of the adapter. -/
def sessionStore : ImportStore :=
  (importNormalizedProviderCaptures touchExternals adapterOptions .empty
    (sessionWithTouches [(3, suppliedTouch 5 "src/e.rs")])).2

/-- The session is imported again when it has grown. The touch that was stored before, the two of one
event and the adapter's are all there, beside the adapter's earlier one.
-/
theorem grownSession_keepsTouches
    : ImportKeepsTouches touchExternals adapterOptions sessionStore
        (filterProviderCaptureLinesWithoutRealSessionMessages grownSession)
        (importNormalizedProviderCaptures touchExternals adapterOptions sessionStore grownSession).2
      ∧ (importNormalizedProviderCaptures touchExternals adapterOptions sessionStore
          grownSession).2.filesTouched.rows.map (·.path)
        = ["src/e.rs", "src/a.rs", "src/d.rs", "src/b.rs", "src/c.rs"] := by
  have ended
      : ((importNormalizedProviderCaptures touchExternals adapterOptions sessionStore
            grownSession).1.isOk,
          (importNormalizedProviderCaptures touchExternals adapterOptions sessionStore
            grownSession).2.filesTouched.rows.map (·.path))
        = (true, ["src/e.rs", "src/a.rs", "src/d.rs", "src/b.rs", "src/c.rs"]) := by
    decide +kernel
  obtain ⟨succeeds, paths⟩ := Prod.mk.inj ended
  have accepted
      : Accepted (filterProviderCaptureLinesWithoutRealSessionMessages grownSession) := by
    unfold Accepted
    decide +kernel
  -- no legacy id is held
  have clear
      : ∀ file ∈ (allFilesTouched touchExternals
          (filterProviderCaptureLinesWithoutRealSessionMessages grownSession)).map (·.2),
          sessionStore.filesTouched.holds file.legacyTouchId = false
          ∧ ∀ other ∈ (allFilesTouched touchExternals
              (filterProviderCaptureLinesWithoutRealSessionMessages grownSession)).map (·.2),
              other.sourceTouchId ≠ file.legacyTouchId := by
    decide +kernel
  -- the numbers are 7, 2 ^ 16, 2 * 2 ^ 16 and 2 * 2 ^ 16 + 1
  have numbers
      : ((numberedTouches
          (filterProviderCaptureLinesWithoutRealSessionMessages grownSession)).map
            (·.number)).Nodup := by
    decide +kernel
  have ids
      : ((numberedTouches
          (filterProviderCaptureLinesWithoutRealSessionMessages grownSession)).map
            (·.id)).Nodup := by
    decide +kernel
  have apart
      : TouchNumbersApart
          (numberedTouches (filterProviderCaptureLinesWithoutRealSessionMessages grownSession)) := by
    constructor
    · intro left hl right hr _ same
      rw [List.inj_on_of_nodup_map numbers hl hr same]
    · intro left hl right hr same
      rw [List.inj_on_of_nodup_map ids hl hr same]
      exact .inr rfl
  refine ⟨?_, paths⟩
  match imported
      : importNormalizedProviderCaptures touchExternals adapterOptions sessionStore grownSession with
  | (.error _, _) =>
      rw [imported] at succeeds
      cases succeeds
  | (.ok summary, final) =>
      have kept := (import_keepsTouches_iff touchExternals adapterOptions rfl accepted imported).2
      exact (kept clear).mpr apart

/-- A touch that the adapter brings has the number of the tool call's touch, which comes later. The
whole import succeeds, and the adapter's touch of another file is not stored.
-/
theorem suppliedTouch_overwritten
    : (importNormalizedProviderCaptures touchExternals adapterOptions .empty
          (sessionWithTouches [(3, suppliedTouch 65536 "src/b.rs")])).1.isOk
        = true
      ∧ (numberedTouches (sessionWithTouches [(3, suppliedTouch 65536 "src/b.rs")])).map
          (fun touch => (touch.number, touch.touched.path))
        = [(65536, "src/b.rs"), (65536, "src/a.rs")]
      ∧ ∀ row ∈ (importNormalizedProviderCaptures touchExternals adapterOptions .empty
          (sessionWithTouches [(3, suppliedTouch 65536 "src/b.rs")])).2.filesTouched.rows,
          ¬ row.Shows (suppliedTouch 65536 "src/b.rs").touched := by
  have paths
      : (importNormalizedProviderCaptures touchExternals adapterOptions .empty
          (sessionWithTouches [(3, suppliedTouch 65536 "src/b.rs")])).2.filesTouched.rows.map (·.path)
        = ["src/a.rs"] := by
    decide +kernel
  refine ⟨by decide +kernel, by decide +kernel, fun row member shows => ?_⟩
  have path := List.mem_map_of_mem (f := (·.path)) member
  rw [paths, List.mem_singleton, shows.path] at path
  exact absurd path (by decide)

end CtxRemote.Capture
