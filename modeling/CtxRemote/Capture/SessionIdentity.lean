import CtxRemote.Capture.EventIdentity

/-! The id under which an import stores a session, held against the triggers on provider sessions.

`provider_import_session_uuid` looks for a session of the capture source, then under the id of the
source identity, then under the legacy id. The last two lookups follow `session_aliases`, and the
upsert that comes next does not. The triggers refuse a second live session of one provider and
external id for a source that matches, wherever the first one is stored.
-/

namespace CtxRemote.Capture
open CtxRemote.Library
open CtxRemote.Store
  (Uuid CaptureProvider triggerSourcesMatch triggerSourcesMatch_self)

-----------------------------------------------------------------------------------------
-- Sessions and their sources
-----------------------------------------------------------------------------------------

namespace ImportStore

variable (store : ImportStore)

/-- The foreign key of `session_aliases`. -/
def AliasesHold : Prop := ∀ entry ∈ store.sessionAliases, store.sessions.holds entry.2 = true

/-- The path that a session has through its capture source. -/
def sessionPath (session : Session) : Option String :=
  (session.captureSourceId.bind store.captureSources.find?).bind (·.rawSourcePath)

/-- No two live sessions have the same provider, external id and raw source path. -/
def IdentityRule : Prop :=
  ∀ left ∈ store.sessions, ∀ right ∈ store.sessions,
    left.sync.deletedAt = none → right.sync.deletedAt = none → left.provider = right.provider →
      left.externalSessionId.isSome → left.externalSessionId = right.externalSessionId →
        (store.sessionPath left).isSome → store.sessionPath left = store.sessionPath right →
          left = right

/-- The source of a row is the given one, or the triggers take it for the given one. -/
def SameSource (held : Option Uuid) (sourceId : Uuid) : Prop :=
  held = some sourceId
  ∨ ∃ existing incoming, held.bind store.captureSources.find? = some existing
      ∧ store.captureSources.find? sourceId = some incoming
      ∧ triggerSourcesMatch existing.triggerSource incoming.triggerSource = true

/-- A live session already has the provider, the external id and the source. -/
structure HoldsIdentity (provider : CaptureProvider) (externalSessionId : String) (sourceId : Uuid)
    (row : Session)
    : Prop where
  stored : row ∈ store.sessions
  live : row.sync.deletedAt = none
  provider : row.provider = provider
  external : row.externalSessionId = some externalSessionId
  source : store.SameSource row.captureSourceId sourceId

/-- The id has a row of its own if it resolves at all. -/
def Direct (id : Uuid) : Prop := (store.getSession id).isSome → store.sessions.holds id = true

variable {store}

/-- A row can be hidden by an alias, but its id resolves. -/
theorem getSession_isSome (aliases : store.AliasesHold) {id : Uuid}
    (held : store.sessions.holds id = true)
    : (store.getSession id).isSome := by
  unfold getSession resolveAlias
  cases found : store.sessionAliases.lookup id with
  | none => exact held
  | some target =>
      obtain ⟨before, after, split, -⟩ := List.lookup_eq_some_iff.mp found
      exact aliases (id, target) (split ▸ List.mem_append_right _ List.mem_cons_self)

/-- What the triggers hold against a session has its identity. -/
theorem holdsIdentity_of_duplicatesSession {session : Session} {provider : CaptureProvider}
    {externalSessionId : String} {sourceId : Uuid} (isProvider : session.provider = provider)
    (external : session.externalSessionId = some externalSessionId)
    (source : session.captureSourceId = some sourceId)
    (refused : store.duplicatesSession session = true)
    : ∃ row, store.HoldsIdentity provider externalSessionId sourceId row ∧ row.id ≠ session.id := by
  unfold duplicatesSession at refused
  rw [source, Option.bind_some] at refused
  cases incoming : store.captureSources.find? sourceId with
  | none =>
      rw [incoming] at refused
      cases refused
  | some incomingSource =>
      rw [incoming] at refused
      simp only [Bool.and_eq_true, List.any_eq_true, decide_eq_true_eq,
        Option.isNone_iff_eq_none] at refused
      obtain ⟨-, row, stored, ⟨⟨⟨other, sameProvider⟩, sameExternal⟩, live⟩, sourcesMatch⟩ := refused
      obtain ⟨existing, found, accepted⟩ := (Option.any_eq_true _ _).mp sourcesMatch
      exact ⟨row, ⟨stored, live, sameProvider.trans isProvider, sameExternal.trans external,
        .inr ⟨existing, incomingSource, found, incoming, accepted⟩⟩, other⟩

/-- Where the source is stored, the triggers hold every session with the identity against a live
session with another id.
-/
theorem duplicatesSession_of_holdsIdentity {session row : Session} {incoming : CaptureSource}
    {provider : CaptureProvider} {externalSessionId : String} {sourceId : Uuid}
    (stored : store.captureSources.find? sourceId = some incoming)
    (isProvider : session.provider = provider)
    (external : session.externalSessionId = some externalSessionId)
    (source : session.captureSourceId = some sourceId) (live : session.sync.deletedAt = none)
    (holds : store.HoldsIdentity provider externalSessionId sourceId row)
    (other : row.id ≠ session.id)
    : store.duplicatesSession session = true := by
  have sourcesMatch
      : (row.captureSourceId.bind store.captureSources.find?).any
          (fun source => triggerSourcesMatch source.triggerSource incoming.triggerSource)
        = true := by
    rcases holds.source with same | ⟨existing, known, found, isIncoming, accepted⟩
    · rw [same, Option.bind_some, stored, Option.any_some, triggerSourcesMatch_self]
    · obtain rfl := Option.some.inj (stored.symm.trans isIncoming)
      rw [found, Option.any_some, accepted]
  unfold duplicatesSession
  rw [source, Option.bind_some, stored]
  simp only [Bool.and_eq_true, List.any_eq_true, decide_eq_true_eq, Option.isNone_iff_eq_none]
  exact ⟨⟨by rw [external]; rfl, live⟩, row, holds.stored,
    ⟨⟨⟨other, holds.provider.trans isProvider.symm⟩, holds.external.trans external.symm⟩,
      holds.live⟩, sourcesMatch⟩

end ImportStore

-----------------------------------------------------------------------------------------
-- The lookups, one after the other
-----------------------------------------------------------------------------------------

/-- The identity that the lookups use: none for a custom provider. -/
def usableIdentity (provider : CaptureProvider) (sourceIdentity : Option String) : Option String :=
  if provider = .custom then none else sourceIdentity

variable {store : ImportStore} {provider : CaptureProvider} {externalSessionId : String}
  {sourceId : Uuid} {sourceIdentity : Option String} {identity : String}

/-- The legacy id resolves to a session whose source is accepted. -/
def LegacyAccepted (store : ImportStore) (provider : CaptureProvider) (externalSessionId : String)
    (sourceId : Uuid) (identity : String)
    : Prop :=
  ∃ existing, store.getSession (providerSessionUuid provider externalSessionId) = some existing
    ∧ legacySessionMatchesSource store existing sourceId identity = true

theorem usableIdentity_eq_some
    : usableIdentity provider sourceIdentity = some identity
      ↔ provider ≠ .custom ∧ sourceIdentity = some identity := by
  unfold usableIdentity
  split
  next custom => simp [custom]
  next regular => simp [regular]

theorem providerImportSessionUuid_unscoped (unusable : usableIdentity provider sourceIdentity = none)
    : providerImportSessionUuid store provider externalSessionId sourceId sourceIdentity
      = providerSessionUuid provider externalSessionId := by
  unfold usableIdentity at unusable
  unfold providerImportSessionUuid
  split at unusable
  next custom => cases sourceIdentity <;> simp [custom]
  next => rw [unusable]

section Scoped

variable (usable : usableIdentity provider sourceIdentity = some identity)
include usable

theorem providerImportSessionUuid_ofSource {first : Session}
    (found : store.sessionByCaptureSourceAndExternalSession sourceId provider externalSessionId
      = some first)
    : providerImportSessionUuid store provider externalSessionId sourceId sourceIdentity
      = first.id := by
  obtain ⟨regular, rfl⟩ := usableIdentity_eq_some.mp usable
  simp only [providerImportSessionUuid, if_neg regular, found]

variable
  (free : store.sessionByCaptureSourceAndExternalSession sourceId provider externalSessionId = none)
include free

theorem providerImportSessionUuid_resolved
    (resolved : (store.getSession (providerSourceSessionUuid identity externalSessionId)).isSome)
    : providerImportSessionUuid store provider externalSessionId sourceId sourceIdentity
      = providerSourceSessionUuid identity externalSessionId := by
  obtain ⟨regular, rfl⟩ := usableIdentity_eq_some.mp usable
  simp only [providerImportSessionUuid, if_neg regular, free, resolved, if_true]

variable (unresolved : store.getSession (providerSourceSessionUuid identity externalSessionId) = none)
include unresolved

theorem providerImportSessionUuid_legacy
    (accepted : LegacyAccepted store provider externalSessionId sourceId identity)
    : providerImportSessionUuid store provider externalSessionId sourceId sourceIdentity
      = providerSessionUuid provider externalSessionId := by
  obtain ⟨regular, rfl⟩ := usableIdentity_eq_some.mp usable
  obtain ⟨existing, found, matching⟩ := accepted
  simp only [providerImportSessionUuid, if_neg regular, free, unresolved, found, matching, if_true]
  rfl

theorem providerImportSessionUuid_fresh
    (refused : ¬LegacyAccepted store provider externalSessionId sourceId identity)
    : providerImportSessionUuid store provider externalSessionId sourceId sourceIdentity
      = providerSourceSessionUuid identity externalSessionId := by
  obtain ⟨regular, rfl⟩ := usableIdentity_eq_some.mp usable
  simp only [providerImportSessionUuid, if_neg regular, free, unresolved]
  split
  next => rfl
  next =>
      split
      next existing found =>
          rw [if_neg fun matching => refused ⟨existing, found, matching⟩]
      next => rfl

end Scoped

-----------------------------------------------------------------------------------------
-- When the id is right
-----------------------------------------------------------------------------------------

/-- What an import needs of the id of a session: a session with the id and the given source gets
past the triggers; the id is that of the session which has the provider, the external id and the
source already; the id is not merely an alias.
-/
structure SessionIdSound (store : ImportStore) (provider : CaptureProvider)
    (externalSessionId : String) (sourceId id : Uuid)
    : Prop where
  upserts :
    ∀ session : Session, session.id = id → session.provider = provider →
      session.externalSessionId = some externalSessionId →
        session.captureSourceId = some sourceId → store.duplicatesSession session = false
  names : ∀ row, store.HoldsIdentity provider externalSessionId sourceId row → row.id = id
  direct : store.Direct id

theorem sessionIdSound_iff {id : Uuid}
    : SessionIdSound store provider externalSessionId sourceId id
      ↔ (∀ row, store.HoldsIdentity provider externalSessionId sourceId row → row.id = id)
        ∧ store.Direct id := by
  constructor
  · intro sound
    exact ⟨sound.names, sound.direct⟩
  · rintro ⟨names, direct⟩
    refine ⟨fun session same isProvider external source => ?_, names, direct⟩
    rw [← Bool.not_eq_true]
    intro refused
    obtain ⟨row, holds, other⟩ :=
      ImportStore.holdsIdentity_of_duplicatesSession isProvider external source refused
    exact other ((names row holds).trans same.symm)

/-- A session stands where the lookups look for it. Without a usable identity that is the legacy id.
With one it is the earliest session of the capture source if there is any; the id of the source
identity; or the legacy id, if the id of the source identity is free and the source is accepted.
-/
def Found (store : ImportStore) (provider : CaptureProvider) (externalSessionId : String)
    (sourceId : Uuid) (sourceIdentity : Option String) (row : Session)
    : Prop :=
  match usableIdentity provider sourceIdentity with
  | none => row.id = providerSessionUuid provider externalSessionId
  | some identity =>
      match store.sessionByCaptureSourceAndExternalSession sourceId provider externalSessionId with
      | some first => row.id = first.id
      | none =>
          row.id = providerSourceSessionUuid identity externalSessionId
          ∨ (row.id = providerSessionUuid provider externalSessionId
            ∧ store.getSession (providerSourceSessionUuid identity externalSessionId) = none
            ∧ LegacyAccepted store provider externalSessionId sourceId identity)

/-- None of the ids that the lookups try resolves through an alias only. -/
def TriesNoAlias (store : ImportStore) (provider : CaptureProvider) (externalSessionId : String)
    (sourceId : Uuid) (sourceIdentity : Option String)
    : Prop :=
  match usableIdentity provider sourceIdentity with
  | none => store.Direct (providerSessionUuid provider externalSessionId)
  | some identity =>
      store.sessionByCaptureSourceAndExternalSession sourceId provider externalSessionId = none →
        store.Direct (providerSourceSessionUuid identity externalSessionId)
        ∧ (store.getSession (providerSourceSessionUuid identity externalSessionId) = none →
            LegacyAccepted store provider externalSessionId sourceId identity →
              store.Direct (providerSessionUuid provider externalSessionId))

/-- A session that a lookup by source finds has its id. -/
theorem direct_of_ofSource {first : Session}
    (found : store.sessionByCaptureSourceAndExternalSession sourceId provider externalSessionId
      = some first)
    : store.Direct first.id := by
  intro _
  have sorted := List.mem_of_mem_head? (Option.mem_def.mpr found)
  have stored := List.mem_of_mem_filter ((List.mem_insertionSort _).mp sorted)
  exact Keyed.holds_iff.mpr ⟨first, stored, rfl⟩

/-- The id that an import gets for a session can be upserted with the source, and names the session
that holds the identity already, if and only if every such session stands where the lookups look
and no id that they try is merely an alias. Witness: `legacyRow_sound`.
-/
theorem providerImportSessionUuid_sound_iff (store : ImportStore) (provider : CaptureProvider)
    (externalSessionId : String) (sourceId : Uuid) (sourceIdentity : Option String)
    (aliases : store.AliasesHold)
    : SessionIdSound store provider externalSessionId sourceId
        (providerImportSessionUuid store provider externalSessionId sourceId sourceIdentity)
      ↔ (∀ row, store.HoldsIdentity provider externalSessionId sourceId row →
          Found store provider externalSessionId sourceId sourceIdentity row)
        ∧ TriesNoAlias store provider externalSessionId sourceId sourceIdentity := by
  rw [sessionIdSound_iff]
  unfold Found TriesNoAlias
  cases usable : usableIdentity provider sourceIdentity with
  | none => rw [providerImportSessionUuid_unscoped usable]
  | some identity =>
      cases ofSource : store.sessionByCaptureSourceAndExternalSession sourceId provider
          externalSessionId with
      | some first =>
          rw [providerImportSessionUuid_ofSource usable ofSource]
          refine and_congr_right fun _ => ?_
          exact iff_of_true (direct_of_ofSource ofSource) (by rintro ⟨⟩)
      | none =>
          by_cases resolved
              : (store.getSession (providerSourceSessionUuid identity externalSessionId)).isSome
          · rw [providerImportSessionUuid_resolved usable ofSource resolved]
            have taken
                : store.getSession (providerSourceSessionUuid identity externalSessionId) ≠ none :=
              Option.isSome_iff_ne_none.mp resolved
            simp [taken]
          · have unresolved := Option.not_isSome_iff_eq_none.mp resolved
            -- a session under the id of the source identity would let it resolve
            have vacant (row : Session)
                (holds : store.HoldsIdentity provider externalSessionId sourceId row)
                : row.id ≠ providerSourceSessionUuid identity externalSessionId := by
              intro same
              have held := Keyed.holds_iff.mpr ⟨row, holds.stored, rfl⟩
              exact resolved (same ▸ ImportStore.getSession_isSome aliases held)
            have free : store.Direct (providerSourceSessionUuid identity externalSessionId) :=
              fun some => absurd some resolved
            by_cases accepted : LegacyAccepted store provider externalSessionId sourceId identity
            · rw [providerImportSessionUuid_legacy usable ofSource unresolved accepted]
              simp only [unresolved, accepted, free, and_true, true_and, forall_const]
              refine and_congr_left fun _ => forall_congr' fun row => ?_
              exact imp_congr_right fun holds => (or_iff_right (vacant row holds)).symm
            · rw [providerImportSessionUuid_fresh usable ofSource unresolved accepted]
              simp [accepted, free]

section Stored

/-- The source that a file was imported from before sources had identities. -/
def earlierSource : CaptureSource where
  id := ⟨"00000000-0000-7000-8000-000000000001", by decide, by decide⟩
  kind := .providerImport
  provider := .codex
  machineId := "machine"
  processId := none
  cwd := none
  rawSourcePath := some "/codex/session.jsonl"
  sourceFormat := none
  sourceRoot := none
  sourceIdentity := none
  externalSessionId := some "session"
  startedAtMs := 0
  endedAtMs := none
  sync := {}

/-- The source of the same file now. -/
def laterSource : CaptureSource :=
  { earlierSource with
    id := ⟨"00000000-0000-7000-8000-000000000002", by decide, by decide⟩
    sourceFormat := some "codex_session_jsonl"
    sourceRoot := some "/codex"
    sourceIdentity := some "identity" }

/-- The session of the file, with the earlier source. -/
def earlierSession (id : Uuid) : Session where
  id := id
  historyRecordId := none
  parentSessionId := none
  rootSessionId := none
  captureSourceId := some earlierSource.id
  provider := .codex
  externalSessionId := some "session"
  externalAgentId := none
  agentType := .primary
  roleHint := none
  isPrimary := true
  status := .imported
  transcriptBlobId := none
  startedAtMs := 0
  endedAtMs := none
  createdAtMs := 0
  updatedAtMs := 0
  sync := {}

/-- A store with both sources, and the session under an id. -/
def earlierStore (id : Uuid) (aliases : List (Uuid × Uuid)) : ImportStore :=
  { ImportStore.empty with
    captureSources := (Keyed.empty.put earlierSource).put laterSource
    sessions := Keyed.empty.put (earlierSession id)
    sessionAliases := aliases }

theorem eq_of_mem_earlierStore {id : Uuid} {aliases : List (Uuid × Uuid)} {row : Session}
    (stored : row ∈ (earlierStore id aliases).sessions)
    : row = earlierSession id :=
  List.mem_singleton.mp stored

theorem getSession_earlierStore (id : Uuid)
    : (earlierStore id []).getSession id = some (earlierSession id) :=
  Keyed.find?_eq_some.mpr ⟨List.mem_cons_self, rfl⟩

/-- The two sources have the same path. -/
theorem earlierSession_accepted (id : Uuid)
    : legacySessionMatchesSource (earlierStore id []) (earlierSession id) laterSource.id "identity"
      = true :=
  rfl

/-- The session stands under its legacy id: an import of the file goes on with it. -/
theorem legacyRow_sound
    : SessionIdSound (earlierStore (providerSessionUuid .codex "session") []) .codex "session"
        laterSource.id
        (providerImportSessionUuid (earlierStore (providerSessionUuid .codex "session") []) .codex
          "session" laterSource.id (some "identity")) := by
  have aliases : (earlierStore (providerSessionUuid .codex "session") []).AliasesHold := by
    intro entry inside
    cases inside
  have resolves := getSession_earlierStore (providerSessionUuid .codex "session")
  have unresolved
      : (earlierStore (providerSessionUuid .codex "session") []).getSession
          (providerSourceSessionUuid "identity" "session") = none :=
    Option.isNone_iff_eq_none.mp (by decide +kernel)
  refine (providerImportSessionUuid_sound_iff _ _ _ _ _ aliases).mpr ⟨fun row holds => ?_, ?_⟩
  · obtain rfl := eq_of_mem_earlierStore holds.stored
    exact .inr ⟨rfl, unresolved, _, resolves, earlierSession_accepted _⟩
  · refine fun _ => ⟨fun resolved => ?_, fun _ _ _ => ?_⟩
    · rw [unresolved] at resolved
      cases resolved
    · exact Keyed.holds_iff.mpr ⟨_, List.mem_cons_self, rfl⟩

/-- The session stands under an id of its own, and the id of the source identity is an alias for it,
as the repair of provider sessions leaves such ids. The import takes the alias for a session, and
the triggers refuse its upsert.
-/
theorem aliasedRow_refused
    : let sessionId : Uuid := ⟨"00000000-0000-7000-8000-000000000003", by decide, by decide⟩
      let store :=
        earlierStore sessionId [(providerSourceSessionUuid "identity" "session", sessionId)]
      store.IdentityRule ∧ store.AliasesHold
      ∧ ¬SessionIdSound store .codex "session" laterSource.id
          (providerImportSessionUuid store .codex "session" laterSource.id (some "identity")) := by
  intro sessionId store
  refine ⟨?_, ?_, ?_⟩
  · intro left inLeft right inRight _ _ _ _ _ _ _
    rw [eq_of_mem_earlierStore inLeft, eq_of_mem_earlierStore inRight]
  · intro entry inside
    obtain rfl := List.mem_singleton.mp inside
    exact Keyed.holds_iff.mpr ⟨_, List.mem_cons_self, rfl⟩
  · have other : sessionId ≠ providerSourceSessionUuid "identity" "session" := by decide +kernel
    have resolves
        : store.getSession (providerSourceSessionUuid "identity" "session")
          = some (earlierSession sessionId) := by
      simp only [store, earlierStore, ImportStore.getSession, ImportStore.resolveAlias,
        List.lookup_cons_self, Option.getD_some]
      exact Keyed.find?_eq_some.mpr ⟨List.mem_cons_self, rfl⟩
    have usable : usableIdentity .codex (some "identity") = some "identity" := rfl
    rw [providerImportSessionUuid_resolved usable rfl (by rw [resolves]; rfl)]
    intro sound
    have taken := sound.upserts
      { earlierSession (providerSourceSessionUuid "identity" "session") with
        captureSourceId := some laterSource.id }
      rfl rfl rfl rfl
    have holds : store.HoldsIdentity .codex "session" laterSource.id (earlierSession sessionId) :=
      ⟨List.mem_cons_self, rfl, rfl, rfl, .inr ⟨earlierSource, laterSource, rfl, rfl, rfl⟩⟩
    rw [ImportStore.duplicatesSession_of_holdsIdentity rfl rfl rfl rfl rfl holds other] at taken
    cases taken

end Stored

end CtxRemote.Capture
