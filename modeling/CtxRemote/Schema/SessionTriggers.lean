import CtxRemote.Schema.RepairedSessions

/-! The triggers on provider sessions that schema version 47 installs, and the duplicates that its
repair leaves for them. The triggers compare any sources, also empty texts, and take an unknown
format for every format; the repair links provider imports by texts that are not empty, and skips a
component with two known formats.
-/

namespace CtxRemote.Schema
open CtxRemote.Library
open CtxRemote.Store (Uuid StoreError Externals triggerSourcesMatch triggerSourcesMatch_self)

-----------------------------------------------------------------------------------------
-- The triggers
-----------------------------------------------------------------------------------------

/-- The source of a session with an identity. -/
def sourceOfKey (sources : List CaptureSourceRow) (key : SessionKey) : Option CaptureSourceRow :=
  key.captureSourceId.bind fun id => sources.find? (·.id = id)

/-- The `WHEN` and the `WHERE` clause of the triggers, for a stored session and a written one. -/
def duplicateSession (sources : List CaptureSourceRow) (existing incoming : SessionKey) : Bool :=
  incoming.captureSourceId.isSome && incoming.externalSessionId.isSome
  && incoming.deletedAtMs.isNone && existing.id ≠ incoming.id
  && existing.provider = incoming.provider
  && existing.externalSessionId = incoming.externalSessionId && existing.deletedAtMs.isNone
  && match sourceOfKey sources existing, sourceOfKey sources incoming with
    | some existingSource, some incomingSource =>
        triggerSourcesMatch existingSource.triggerSource incomingSource.triggerSource
    | _, _ => false

/-- The triggers let a session be written: both fire on an upsert, with the same condition. -/
def triggersAccept (db : Database) (incoming : SessionKey) : Bool :=
  !(db.sessionKeys.any fun existing => duplicateSession db.captureSources existing incoming)

/-- No two sessions are duplicates for the triggers. -/
def NoDuplicateSessions (db : Database) : Prop :=
  ∀ existing ∈ db.sessionKeys, ∀ incoming ∈ db.sessionKeys,
    duplicateSession db.captureSources existing incoming = false

theorem triggersAccept_of_noDuplicates {db : Database} (none : NoDuplicateSessions db)
    {row : SessionRow} (member : row ∈ db.sessions.rows)
    : triggersAccept db row.key = true := by
  rw [triggersAccept, Bool.not_eq_true', List.any_eq_false]
  intro existing inside
  rw [none existing inside row.key (List.mem_map_of_mem member)]
  exact Bool.false_ne_true

/-- What two duplicates have in common. -/
theorem duplicateSession_iff {sources : List CaptureSourceRow} {existing incoming : SessionKey}
    : duplicateSession sources existing incoming = true
      ↔ existing.id ≠ incoming.id ∧ existing.provider = incoming.provider
        ∧ existing.externalSessionId = incoming.externalSessionId
        ∧ incoming.externalSessionId.isSome ∧ existing.deletedAtMs = none
        ∧ incoming.deletedAtMs = none
        ∧ ∃ existingSource incomingSource,
            sourceOfKey sources existing = some existingSource
            ∧ sourceOfKey sources incoming = some incomingSource
            ∧ triggerSourcesMatch existingSource.triggerSource incomingSource.triggerSource = true := by
  unfold duplicateSession
  simp only [Bool.and_eq_true, decide_eq_true_eq, Option.isNone_iff_eq_none]
  constructor
  · rintro ⟨⟨⟨⟨⟨⟨⟨-, external⟩, live⟩, other⟩, provider⟩, same⟩, existingLive⟩, sourcesMatch⟩
    split at sourcesMatch
    next existingSource incomingSource left right =>
        exact ⟨other, provider, same, external, existingLive, live, existingSource, incomingSource,
          left, right, sourcesMatch⟩
    next => cases sourcesMatch
  · rintro ⟨other, provider, same, external, existingLive, live, existingSource, incomingSource,
      left, right, sourcesMatch⟩
    have present : incoming.captureSourceId.isSome := by
      unfold sourceOfKey at right
      cases held : incoming.captureSourceId with
      | none =>
          rw [held] at right
          cases right
      | some _ => rfl
    rw [left, right]
    exact ⟨⟨⟨⟨⟨⟨⟨present, external⟩, live⟩, other⟩, provider⟩, same⟩, existingLive⟩, sourcesMatch⟩

-----------------------------------------------------------------------------------------
-- Sources that the repair keeps
-----------------------------------------------------------------------------------------

/-- A session gives up its source: its component is merged and keeps the source of another one. -/
def GivesUpSource (components : List (List SessionCandidate)) (id : Uuid) : Prop :=
  ∃ first rest, first :: rest ∈ components ∧ id ∈ (first :: rest).map (·.id)
    ∧ id ≠ (preferredSource first rest).id

/-- Of any two sessions that are duplicates for the triggers, one gives up its source. -/
def DuplicatesMerged (db : Database) (components : List (List SessionCandidate)) : Prop :=
  ∀ existing ∈ db.sessionKeys, ∀ incoming ∈ db.sessionKeys,
    duplicateSession db.captureSources existing incoming = true →
      GivesUpSource components existing.id ∨ GivesUpSource components incoming.id

/-- A session of the repaired database has the identity of a session before, but for the id if it
is in a merged component.
-/
def Survives (components : List (List SessionCandidate)) (key left : SessionKey) : Prop :=
  (left = key ∧ ∀ component ∈ components, key.id ∉ component.map (·.id))
  ∨ ∃ first rest, first :: rest ∈ components ∧ key.id = (preferredSource first rest).id
      ∧ left = { key with id := (canonicalSession first rest).id }

section Repaired

variable {jsonExtract : JsonExtract} {db : Database}
  {rows : List ((String × String) × SessionCandidate)}
  (read : sessionCandidates jsonExtract db = .ok rows)
include read

/-- The identities of the sessions of a component differ in id and source only. -/
theorem keys_of_component {component : List SessionCandidate}
    (member : component ∈ mergedComponents rows)
    : ∃ provider external, ∀ candidate ∈ component,
        (⟨candidate.id, some candidate.sourceId, provider, some external, none⟩ : SessionKey)
          ∈ db.sessionKeys := by
  obtain ⟨⟨provider, external⟩, origin⟩ := candidateOf_mergedComponents read member
  refine ⟨provider, external, fun candidate inside => ?_⟩
  obtain ⟨session, present, same, source, isProvider, isExternal, live⟩ := origin candidate inside
  refine List.mem_map.mpr ⟨session, present, ?_⟩
  simp only [SessionRow.key, source, isProvider, isExternal, live, same]

/-- The sessions that the repair leaves are those that keep their source. -/
theorem mem_repairedKeys_iff {left : SessionKey}
    : left ∈ (mergedComponents rows).foldl mergeKeys db.sessionKeys
      ↔ ∃ key ∈ db.sessionKeys, Survives (mergedComponents rows) key left := by
  rw [mem_mergedKeys_iff (nodup_mergedComponents read)]
  constructor
  · rintro (⟨member, outside⟩ | ⟨first, rest, inside, key, member, canonical, rfl⟩)
    · exact ⟨left, member, .inl ⟨rfl, outside⟩⟩
    · obtain ⟨provider, external, keys⟩ := keys_of_component read inside
      have own := keys _ (minByKey_mem _ first rest : canonicalSession first rest ∈ first :: rest)
      have preferred := keys _ (maxByKey_mem _ first rest : preferredSource first rest ∈ _)
      refine ⟨_, preferred, .inr ⟨first, rest, inside, rfl, ?_⟩⟩
      rw [Database.sessionKey_ext member own canonical]
      rfl
  · rintro ⟨key, member, ⟨rfl, outside⟩ | ⟨first, rest, inside, chosen, rfl⟩⟩
    · exact .inl ⟨member, outside⟩
    · obtain ⟨provider, external, keys⟩ := keys_of_component read inside
      have own := keys _ (minByKey_mem _ first rest : canonicalSession first rest ∈ first :: rest)
      have preferred := keys _ (maxByKey_mem _ first rest : preferredSource first rest ∈ _)
      refine .inr ⟨first, rest, inside, _, own, rfl, ?_⟩
      rw [Database.sessionKey_ext member preferred chosen]
      rfl

/-- A session survives unless it gives up its source. -/
theorem survives_iff {key : SessionKey}
    : (∃ left, Survives (mergedComponents rows) key left)
      ↔ ¬ GivesUpSource (mergedComponents rows) key.id := by
  have disjoint := nodup_mergedComponents read
  constructor
  · rintro ⟨left, ⟨-, outside⟩ | ⟨first, rest, inside, chosen, -⟩⟩ ⟨head, tail, other, listed, lost⟩
    · exact outside _ other listed
    · obtain ⟨candidate, here, same⟩ := List.mem_map.mp listed
      have preferred : preferredSource first rest ∈ first :: rest := maxByKey_mem _ _ _
      obtain ⟨equal, -⟩ := component_unique disjoint other inside here preferred (same.trans chosen)
      cases equal
      exact lost chosen
  · intro keeps
    by_cases listed : ∃ component ∈ mergedComponents rows, key.id ∈ component.map (·.id)
    · obtain ⟨component, inside, listed⟩ := listed
      cases component with
      | nil => cases listed
      | cons first rest =>
          have chosen : key.id = (preferredSource first rest).id := by
            by_contra lost
            exact keeps ⟨first, rest, inside, listed, lost⟩
          exact ⟨_, .inr ⟨first, rest, inside, chosen, rfl⟩⟩
    · push Not at listed
      exact ⟨key, .inl ⟨rfl, listed⟩⟩

/-- Survivors of two sessions have one id exactly when the sessions do. -/
theorem survivors_id_iff {left right leftNow rightNow : SessionKey}
    (leftSurvives : Survives (mergedComponents rows) left leftNow)
    (rightSurvives : Survives (mergedComponents rows) right rightNow)
    : leftNow.id = rightNow.id ↔ left.id = right.id := by
  have disjoint := nodup_mergedComponents read
  have canonical {first : SessionCandidate} {rest : List SessionCandidate}
      : canonicalSession first rest ∈ first :: rest := minByKey_mem _ _ _
  have preferred {first : SessionCandidate} {rest : List SessionCandidate}
      : preferredSource first rest ∈ first :: rest := maxByKey_mem _ _ _
  rcases leftSurvives with ⟨rfl, outside⟩ | ⟨first, rest, inside, chosen, rfl⟩
  · rcases rightSurvives with ⟨rfl, -⟩ | ⟨head, tail, there, other, rfl⟩
    · exact .rfl
    · refine ⟨fun same => ?_, fun same => ?_⟩
      · exact absurd (same ▸ List.mem_map_of_mem canonical) (outside _ there)
      · exact absurd (same.trans other ▸ List.mem_map_of_mem preferred) (outside _ there)
  · rcases rightSurvives with ⟨rfl, outside⟩ | ⟨head, tail, there, other, rfl⟩
    · refine ⟨fun same => ?_, fun same => ?_⟩
      · exact absurd (same ▸ List.mem_map_of_mem canonical) (outside _ inside)
      · exact absurd (same ▸ chosen ▸ List.mem_map_of_mem preferred) (outside _ inside)
    · refine ⟨fun same => ?_, fun same => ?_⟩
      · obtain ⟨equal, -⟩ := component_unique disjoint inside there (@canonical first rest)
          (@canonical head tail) same
        cases equal
        rw [chosen, other]
      · obtain ⟨equal, -⟩ := component_unique disjoint inside there (@preferred first rest)
          (@preferred head tail) (chosen.symm.trans (same.trans other))
        cases equal
        rfl

/-- Survivors are duplicates exactly when the sessions are. -/
theorem survivors_duplicate_iff {left right leftNow rightNow : SessionKey}
    (leftSurvives : Survives (mergedComponents rows) left leftNow)
    (rightSurvives : Survives (mergedComponents rows) right rightNow)
    : duplicateSession db.captureSources leftNow rightNow = true
      ↔ duplicateSession db.captureSources left right = true := by
  have ids := survivors_id_iff read leftSurvives rightSurvives
  have same {key now : SessionKey} (survives : Survives (mergedComponents rows) key now)
      : now = { key with id := now.id } := by
    rcases survives with ⟨rfl, -⟩ | ⟨_, _, _, _, rfl⟩ <;> rfl
  rw [duplicateSession_iff, duplicateSession_iff, Ne, ids, same leftSurvives, same rightSurvives]
  exact .rfl

/-- The repair leaves no duplicates exactly when it merges all of them. -/
theorem noDuplicates_repaired_iff {next : Database}
    (keys : next.sessionKeys = (mergedComponents rows).foldl mergeKeys db.sessionKeys)
    (sources : next.captureSources = db.captureSources)
    : NoDuplicateSessions next ↔ DuplicatesMerged db (mergedComponents rows) := by
  unfold NoDuplicateSessions DuplicatesMerged
  rw [sources, keys]
  constructor
  · intro none existing existingMember incoming incomingMember duplicate
    by_contra both
    rw [not_or, ← survives_iff read, ← survives_iff read] at both
    obtain ⟨⟨existingNow, existingSurvives⟩, incomingNow, incomingSurvives⟩ := both
    have free := none existingNow
      ((mem_repairedKeys_iff read).mpr ⟨existing, existingMember, existingSurvives⟩) incomingNow
      ((mem_repairedKeys_iff read).mpr ⟨incoming, incomingMember, incomingSurvives⟩)
    rw [(survivors_duplicate_iff read existingSurvives incomingSurvives).mpr duplicate] at free
    cases free
  · intro merged existingNow existingMember incomingNow incomingMember
    obtain ⟨existing, existingHeld, existingSurvives⟩ := (mem_repairedKeys_iff read).mp existingMember
    obtain ⟨incoming, incomingHeld, incomingSurvives⟩ := (mem_repairedKeys_iff read).mp incomingMember
    by_contra duplicate
    rw [Bool.not_eq_false, survivors_duplicate_iff read existingSurvives incomingSurvives]
      at duplicate
    rcases merged existing existingHeld incoming incomingHeld duplicate with lost | lost
    · exact (survives_iff read).mp ⟨existingNow, existingSurvives⟩ lost
    · exact (survives_iff read).mp ⟨incomingNow, incomingSurvives⟩ lost

end Repaired

-----------------------------------------------------------------------------------------
-- The migration
-----------------------------------------------------------------------------------------

/-- Without duplicates for the triggers, the unique index on sources and external ids holds. -/
theorem uniqueSourceSessions_of_noDuplicates {db : Database} (held : db.foreignKeys = true)
    (none : NoDuplicateSessions db)
    : uniqueSourceSessions db = true := by
  rw [uniqueSourceSessions, decide_eq_true_iff]
  refine List.pairwise_filterMap.mpr (db.sessions.distinct.imp_of_mem ?_)
  intro left right leftMember rightMember apart leftEntry leftIndexed rightEntry rightIndexed same
  subst same
  split at leftIndexed
  next source external ofSource isExternal live =>
      cases leftIndexed
      split at rightIndexed
      next otherSource otherExternal ofOther isOther otherLive =>
          simp only [Option.some.injEq, Prod.mk.injEq] at rightIndexed
          obtain ⟨rfl, provider, rfl⟩ := rightIndexed
          -- The index and the join of the triggers agree on a source that exists.
          have present : ∃ row, db.captureSources.find? (·.id = otherSource) = some row := by
            simp only [Database.foreignKeys, Bool.and_eq_true, List.all_eq_true,
              Option.all_eq_true, decide_eq_true_eq] at held
            have listed := (held.1.1.1.1.1.1.1.1 left leftMember).2 otherSource ofSource
            obtain ⟨row, inside, same⟩ := List.mem_map.mp listed
            exact Option.isSome_iff_exists.mp
              (List.find?_isSome.mpr ⟨row, inside, by simpa using same⟩)
          obtain ⟨row, located⟩ := present
          have duplicate : duplicateSession db.captureSources left.key right.key = true := by
            rw [duplicateSession_iff]
            refine ⟨apart, provider.symm, isExternal.trans isOther.symm, ?_, live, otherLive, row, row,
              ?_, ?_, ?_⟩
            · exact Option.isSome_iff_exists.mpr ⟨_, isOther⟩
            · exact (congrArg (Option.bind · _) ofSource).trans located
            · exact (congrArg (Option.bind · _) ofOther).trans located
            · exact triggerSourcesMatch_self _
          rw [none _ (List.mem_map_of_mem leftMember) _ (List.mem_map_of_mem rightMember)]
            at duplicate
          cases duplicate
      next => cases rightIndexed
  next => cases leftIndexed

/-- Where the repair gets through, the migration installs the triggers with no duplicates left, and
they accept every session as it is, exactly when of any two duplicates for the triggers one is merged
and gives up its source.
-/
theorem migrateToV47_noDuplicates_iff {jsonExtract : JsonExtract} {externals : Externals}
    {now : Int} {db repaired : Database} (held : db.constraints = true)
    (repairs : repairedForV47 jsonExtract externals now db = .ok repaired)
    : (∃ next, migrateToV47 jsonExtract externals now db = .ok next ∧ NoDuplicateSessions next
        ∧ ∀ row ∈ next.sessions.rows, triggersAccept next row.key = true)
      ↔ ∃ rows, sessionCandidates jsonExtract db = .ok rows
          ∧ DuplicatesMerged db (mergedComponents rows) := by
  obtain ⟨rows, read, keys, sources, -⟩ := sessionKeys_repairedForV47 repairs
  have exactly := noDuplicates_repaired_iff read keys sources
  constructor
  · rintro ⟨next, migrated, none, -⟩
    obtain ⟨other, again, rest⟩ := bind_eq_ok.mp migrated
    obtain rfl : repaired = other := Except.ok.inj (repairs.symm.trans again)
    split at rest
    next =>
        cases rest
        exact ⟨rows, read, exactly.mp none⟩
    next => cases rest
  · rintro ⟨others, again, merged⟩
    obtain rfl : rows = others := Except.ok.inj (read.symm.trans again)
    have none := exactly.mpr merged
    have keysHeld : repaired.foreignKeys = true :=
      (Bool.and_eq_true_iff.mp (constraints_repairedForV47 repairs held)).1
    have unique := uniqueSourceSessions_of_noDuplicates keysHeld none
    refine ⟨repaired, ?_, none, fun row member => triggersAccept_of_noDuplicates none member⟩
    exact bind_eq_ok.mpr ⟨repaired, repairs, if_pos unique⟩

/-- An id with a given last digit. -/
def idA : Uuid := ⟨"00000000-0000-0000-0000-00000000000a", by decide, by decide⟩

@[inherit_doc idA]
def idB : Uuid := ⟨"00000000-0000-0000-0000-00000000000b", by decide, by decide⟩

@[inherit_doc idA]
def idC : Uuid := ⟨"00000000-0000-0000-0000-00000000000c", by decide, by decide⟩

/-- A source for the transcript `/tmp/session.jsonl`. -/
def transcriptSource (id : Uuid) (format : Option String) : CaptureSourceRow where
  id := id
  kind := .providerImport
  rawSourcePath := some "/tmp/session.jsonl"
  sourceFormat := format
  sourceIdentity := none
  metadataJson := "{}"

/-- A stored session of a source, with the external id `session`. -/
def importedSession (id source : Uuid) (createdAtMs : Int) : SessionRow where
  id := id
  historyRecordId := none
  parentSessionId := none
  rootSessionId := none
  captureSourceId := some source
  provider := "claude"
  externalSessionId := some "session"
  externalAgentId := none
  agentType := .primary
  roleHint := none
  isPrimary := true
  status := .imported
  fidelity := .imported
  transcriptBlobId := none
  startedAtMs := 0
  endedAtMs := none
  createdAtMs := createdAtMs
  updatedAtMs := createdAtMs
  visibility := .localOnly
  syncState := .localOnly
  syncVersion := 0
  deletedAtMs := none
  metadataJson := "{}"

/-- A store with sessions only. -/
def sessionStore (sources : List CaptureSourceRow) (sessions : SessionTable) : Database where
  captureSources := sources
  sessions := sessions
  sessionAliases := []
  sessionEdges := []
  runs := []
  events := Table.empty
  eventAliases := []
  projection := []
  historyRecordLinks := []
  summaries := []
  filesTouched := []
  searchableItems := none

/-- A transcript whose session was stored again when its format was first recorded. -/
def storedAgain : Database :=
  sessionStore [transcriptSource idA none, transcriptSource idB (some "claude_projects_jsonl_tree")]
    ⟨[importedSession idA idA 1, importedSession idB idB 2], by decide⟩

/-- A transcript whose session was stored a third time, with another format. -/
def storedThrice : Database :=
  sessionStore
    [transcriptSource idA none, transcriptSource idB (some "claude_projects_jsonl_tree"),
      transcriptSource idC (some "claude_projects_jsonl_flat")]
    ⟨[importedSession idA idA 1, importedSession idB idB 2, importedSession idC idC 3], by decide⟩

/-- `json_extract` on objects without members, and a reader that reads nothing. -/
def emptyObjects : JsonExtract := fun _ _ => .ok .null

@[inherit_doc emptyObjects]
def noTexts : Externals := ⟨fun _ => none, fun _ => ""⟩

/-- The two sessions of the transcript are merged. -/
theorem storedAgain_noDuplicates
    : ∃ next, migrateToV47 emptyObjects noTexts 0 storedAgain = .ok next ∧ NoDuplicateSessions next
        ∧ ∀ row ∈ next.sessions.rows, triggersAccept next row.key = true := by
  cases repairs : repairedForV47 emptyObjects noTexts 0 storedAgain with
  | error _ =>
      have succeeds : (repairedForV47 emptyObjects noTexts 0 storedAgain).isOk = true := by decide
      rw [repairs] at succeeds
      cases succeeds
  | ok repaired =>
      refine (migrateToV47_noDuplicates_iff (by decide) repairs).mpr ⟨_, rfl, ?_⟩
      have keys : storedAgain.sessionKeys
          = [(importedSession idA idA 1).key, (importedSession idB idB 2).key] := rfl
      have lost : GivesUpSource (mergedComponents
          [(("claude", "session"), ⟨idA, idA, some "/tmp/session.jsonl", none, none, 1, 1⟩),
            (("claude", "session"), ⟨idB, idB, some "/tmp/session.jsonl",
              some "claude_projects_jsonl_tree", none, 2, 2⟩)]) idA :=
        ⟨_, _, List.mem_singleton.mpr rfl, by decide, by decide⟩
      intro existing existingMember incoming incomingMember duplicate
      rw [keys] at existingMember incomingMember
      simp only [List.mem_cons, List.not_mem_nil, or_false] at existingMember incomingMember
      rcases existingMember with rfl | rfl
      · exact .inl lost
      · rcases incomingMember with rfl | rfl
        · exact .inr lost
        · rw [duplicateSession_iff] at duplicate
          exact absurd rfl duplicate.1

/-- Three sessions of one transcript stay duplicates: two of them have known formats that differ. -/
theorem storedThrice_duplicates
    : ¬ ∃ next, migrateToV47 emptyObjects noTexts 0 storedThrice = .ok next
        ∧ NoDuplicateSessions next
        ∧ ∀ row ∈ next.sessions.rows, triggersAccept next row.key = true := by
  rintro ⟨next, migrated, none, -⟩
  have unchanged : (migrateToV47 emptyObjects noTexts 0 storedThrice).map
        (fun next => (next.sessionKeys, next.captureSources))
      = .ok (storedThrice.sessionKeys, storedThrice.captureSources) := by
    decide
  rw [migrated] at unchanged
  obtain ⟨keys, sources⟩ := Prod.mk.inj (Except.ok.inj unchanged)
  unfold NoDuplicateSessions at none
  rw [keys, sources] at none
  have duplicate := none (importedSession idA idA 1).key (by decide)
    (importedSession idB idB 2).key (by decide)
  revert duplicate
  decide

end CtxRemote.Schema
