import CtxRemote.Schema.RepairedEvents
import CtxRemote.Schema.SessionTriggers
import CtxRemote.Store.SearchProjection

/-! The migration to schema version 47 preserves history: what an id resolved to keeps its identity, a
merged component has each of its events once, and no row refers to a removed one.
-/

namespace CtxRemote.Schema
open CtxRemote.Library
open CtxRemote.Store (Uuid EventRow StoreError Externals)

-----------------------------------------------------------------------------------------
-- Aliases of sessions
-----------------------------------------------------------------------------------------

/-- The aliases of the duplicates of a component name its canonical session. -/
theorem aliasTarget_replaceAliases (aliases : List AliasRow) (duplicates : List SessionCandidate)
    (canonical id : Uuid) (now : Int)
    : aliasTarget (duplicates.foldl
          (fun aliases duplicate => replaceAlias aliases duplicate.id canonical now) aliases) id
      = if id ∈ duplicates.map (·.id) then some canonical else aliasTarget aliases id := by
  induction duplicates generalizing aliases with
  | nil => rfl
  | cons duplicate rest ih =>
      rw [List.foldl_cons, ih, aliasTarget_replaceAlias, List.map_cons]
      by_cases later : id ∈ rest.map (·.id)
      · rw [if_pos later, if_pos (List.mem_cons_of_mem _ later)]
      · rw [if_neg later]
        by_cases here : id = duplicate.id
        · rw [if_pos here, if_pos (here ▸ List.mem_cons_self)]
        · rw [if_neg here, if_neg fun member => (List.mem_cons.mp member).elim here later]

theorem aliasTarget_mergeAliases (now : Int) (aliases : List AliasRow) (first : SessionCandidate)
    (rest : List SessionCandidate) (id : Uuid)
    : aliasTarget (mergeAliases now aliases (first :: rest)) id
      = if RemovedIn (first :: rest) id then some (canonicalSession first rest).id
        else aliasTarget aliases id := by
  have removed : id ∈ ((first :: rest).filter fun candidate =>
        candidate.id ≠ (canonicalSession first rest).id).map (·.id)
      ↔ RemovedIn (first :: rest) id := by
    rw [RemovedIn, List.mem_map, List.mem_map]
    constructor
    · rintro ⟨candidate, inside, rfl⟩
      obtain ⟨member, other⟩ := List.mem_filter.mp inside
      exact ⟨⟨candidate, member, rfl⟩, of_decide_eq_true other⟩
    · rintro ⟨⟨candidate, member, rfl⟩, other⟩
      exact ⟨candidate, List.mem_filter.mpr ⟨member, decide_eq_true other⟩, rfl⟩
  simp only [mergeAliases, aliasTarget_replaceAliases, removed]

/-- An alias that no component writes names what it did, by induction on the components. -/
theorem aliasTarget_of_kept {now : Int} {components : List (List SessionCandidate)}
    {aliases : List AliasRow} {id : Uuid}
    (kept : ∀ component ∈ components, ¬ RemovedIn component id)
    : aliasTarget (components.foldl (mergeAliases now) aliases) id = aliasTarget aliases id := by
  induction components generalizing aliases with
  | nil => rfl
  | cons component rest ih =>
      obtain ⟨here, later⟩ := List.forall_mem_cons.mp kept
      rw [List.foldl_cons, ih later]
      cases component with
      | nil => rfl
      | cons first others => rw [aliasTarget_mergeAliases, if_neg here]

/-- The id of a removed session is an alias of a canonical one of its component, by induction on the
components.
-/
theorem aliasTarget_of_removed {now : Int} {components : List (List SessionCandidate)}
    {aliases : List AliasRow} {id : Uuid}
    (removed : ∃ component ∈ components, RemovedIn component id)
    : ∃ first rest, first :: rest ∈ components ∧ RemovedIn (first :: rest) id
        ∧ aliasTarget (components.foldl (mergeAliases now) aliases) id
          = some (canonicalSession first rest).id := by
  induction components generalizing aliases with
  | nil => simp at removed
  | cons component rest ih =>
      rw [List.foldl_cons]
      by_cases later : ∃ other ∈ rest, RemovedIn other id
      · obtain ⟨first, others, inside, gone, named⟩ := @ih (mergeAliases now aliases component) later
        exact ⟨first, others, List.mem_cons_of_mem _ inside, gone, named⟩
      · have here : RemovedIn component id := by
          obtain ⟨other, inside, gone⟩ := removed
          rcases List.mem_cons.mp inside with rfl | inside
          · exact gone
          · exact absurd ⟨other, inside, gone⟩ later
        cases component with
        | nil => exact here.elim
        | cons first others =>
            refine ⟨first, others, List.mem_cons_self, here, ?_⟩
            push Not at later
            rw [aliasTarget_of_kept later, aliasTarget_mergeAliases, if_pos here]

-----------------------------------------------------------------------------------------
-- Events over all components
-----------------------------------------------------------------------------------------

/-- The state of the repair after it has merged some components. -/
structure RepairLoop (jsonExtract : JsonExtract) (db : Database)
    (passed : List (List SessionCandidate)) (state : Database × List Uuid)
    : Prop where
  kept : EventsKept jsonExtract db state.1
  untouched
    : ∀ row, (∀ component ∈ passed, ¬ InComponent component row) →
        (row ∈ state.1.events.rows ↔ row ∈ db.events.rows)
  unique
    : ∀ first rest, first :: rest ∈ passed → ∀ identity,
        (∃ row ∈ db.events.rows, InComponent (first :: rest) row
          ∧ identityOf jsonExtract row = .ok (some identity)) →
        ∃! row, row ∈ state.1.events.rows
          ∧ row.sessionId = some (canonicalSession first rest).id
          ∧ identityOf jsonExtract row = .ok (some identity)

/-- An event belongs to one component. -/
theorem inComponent_unique {components : List (List SessionCandidate)}
    (disjoint : (components.flatten.map (·.id)).Nodup) {left right : List SessionCandidate}
    (leftMember : left ∈ components) (rightMember : right ∈ components) {row : EventRow}
    (inLeft : InComponent left row) (inRight : InComponent right row)
    : left = right := by
  obtain ⟨first, listed, own⟩ := inLeft
  obtain ⟨second, listedToo, ownToo⟩ := inRight
  exact (component_unique disjoint leftMember rightMember listed listedToo
    (Option.some.inj (own.symm.trans ownToo))).1

theorem repairLoop_step {jsonExtract : JsonExtract} {now : Int} {db : Database}
    {components before after : List (List SessionCandidate)} {component : List SessionCandidate}
    (disjoint : (components.flatten.map (·.id)).Nodup)
    (split : components = before ++ component :: after) {state next : Database × List Uuid}
    (loop : RepairLoop jsonExtract db before state)
    (step : mergeSessionGroup jsonExtract now state component = .ok next)
    : RepairLoop jsonExtract db (before ++ [component]) next := by
  cases component with
  | nil =>
      cases step
      exact {
        kept := loop.kept
        untouched := fun row apart => loop.untouched row fun other member =>
          apart other (List.mem_append_left _ member)
        unique := fun first rest member => by
          rcases List.mem_append.mp member with old | new
          · exact loop.unique first rest old
          · exact absurd (List.mem_singleton.mp new) (by simp) }
  | cons first rest =>
      have own : first :: rest ∈ components := by simp [split]
      have old {other : List SessionCandidate} (member : other ∈ before) : other ∈ components := by
        simp [split, member]
      have fresh : first :: rest ∉ before := by
        intro member
        rw [split, List.flatten_append, List.map_append] at disjoint
        exact (List.nodup_append'.mp disjoint).2.2
          (List.mem_map_of_mem (List.mem_flatten.mpr ⟨_, member, List.mem_cons_self⟩))
          (List.mem_map_of_mem (List.mem_flatten.mpr
            ⟨_, List.mem_cons_self, List.mem_cons_self⟩))
      have apartFrom {other : List SessionCandidate} (member : other ∈ before) {row : EventRow}
          (inOther : InComponent other row)
          : ¬ InComponent (first :: rest) row := fun inOwn =>
        fresh (inComponent_unique disjoint own (old member) inOwn inOther ▸ member)
      have sessions : ((first :: rest).map (·.id)).Nodup := by
        rw [List.map_flatten, List.nodup_flatten] at disjoint
        exact disjoint.1 _ (List.mem_map_of_mem own)
      have group := groupMerged_mergeSessionGroup sessions step
      refine { kept := loop.kept.trans group.kept, untouched := ?_, unique := ?_ }
      · intro row apart
        rw [group.outside row (apart _ (by simp)), loop.untouched row fun other member =>
          apart other (List.mem_append_left _ member)]
      · intro head tail member identity present
        rcases List.mem_append.mp member with earlier | new
        · -- Events of an earlier canonical session are outside this component.
          obtain ⟨row, ⟨held, moved, readIdentity⟩, only⟩ :=
            loop.unique head tail earlier identity present
          have canonical : canonicalSession head tail ∈ head :: tail := minByKey_mem _ _ _
          have still {other : EventRow}
              (moved : other.sessionId = some (canonicalSession head tail).id)
              : other ∈ next.1.events.rows ↔ other ∈ state.1.events.rows :=
            group.outside other (apartFrom earlier ⟨_, canonical, moved⟩)
          refine ⟨row, ⟨(still moved).mpr held, moved, readIdentity⟩, ?_⟩
          rintro other ⟨otherHeld, otherMoved, otherIdentity⟩
          exact only other ⟨(still otherMoved).mp otherHeld, otherMoved, otherIdentity⟩
        · cases List.mem_singleton.mp new
          refine group.unique identity ?_
          obtain ⟨row, held, inOwn, readIdentity⟩ := present
          refine ⟨row, (loop.untouched row ?_).mpr held, inOwn, readIdentity⟩
          exact fun other earlier inOther => apartFrom earlier inOther inOwn

theorem repairLoop_repairedForV47 {jsonExtract : JsonExtract} {externals : Externals} {now : Int}
    {db next : Database} (repaired : repairedForV47 jsonExtract externals now db = .ok next)
    {rows : List ((String × String) × SessionCandidate)}
    (read : sessionCandidates jsonExtract db = .ok rows)
    : RepairLoop jsonExtract db (mergedComponents rows) (next, []) := by
  obtain ⟨⟨merged, affected⟩, done, refreshed⟩ := bind_eq_ok.mp repaired
  obtain ⟨others, again, folded⟩ := bind_eq_ok.mp done
  obtain rfl : rows = others := Except.ok.inj (read.symm.trans again)
  have loop := foldlM_passed (RepairLoop jsonExtract db) folded
    { kept := .refl jsonExtract db
      untouched := fun _ _ => .rfl
      unique := fun _ _ member => nomatch member }
    fun _ _ _ split _ _ loop step =>
      repairLoop_step (nodup_mergedComponents read) split loop step
  have same : EventsSame merged next := by
    dsimp only at refreshed
    split at refreshed
    next =>
        cases refreshed
        exact ⟨rfl, rfl⟩
    next =>
        obtain ⟨inserted, -, refreshed⟩ := bind_eq_ok.mp refreshed
        obtain ⟨filled, filling, refreshed⟩ := bind_eq_ok.mp refreshed
        cases refreshed
        rw [(Database.execute_eq_ok filling).1]
        exact ⟨rfl, rfl⟩
  exact {
    kept := loop.kept.trans (.of_eq jsonExtract same.1 same.2)
    untouched := by
      rw [same.1]
      exact loop.untouched
    unique := by
      rw [same.1]
      exact loop.unique }

-----------------------------------------------------------------------------------------
-- Sessions over all components
-----------------------------------------------------------------------------------------

/-- A row that a list of ids names is found by its id. -/
theorem find_of_mem_ids {Row : Type} (key : Row → Uuid) {rows : List Row} {id : Uuid}
    (member : id ∈ rows.map key)
    : ∃ row ∈ rows, key row = id ∧ rows.find? (fun row => key row = id) = some row := by
  obtain ⟨row, inside, same⟩ := List.mem_map.mp member
  have some : (rows.find? fun row => key row = id).isSome :=
    List.find?_isSome.mpr ⟨row, inside, decide_eq_true same⟩
  obtain ⟨found, isFound⟩ := Option.isSome_iff_exists.mp some
  exact ⟨found, List.mem_of_find?_eq_some isFound, by simpa using List.find?_some isFound, isFound⟩

/-- A component changes the source of an identity only. -/
theorem foldl_adopt_fields (components : List (List SessionCandidate)) (key : SessionKey)
    : ∃ source, components.foldl (fun key component => adopt component key) key
        = { key with captureSourceId := source } := by
  induction components generalizing key with
  | nil => exact ⟨key.captureSourceId, rfl⟩
  | cons component rest ih =>
      rw [List.foldl_cons]
      obtain ⟨source, same⟩ := ih (adopt component key)
      refine ⟨source, same.trans ?_⟩
      unfold adopt
      split
      next => rfl
      next => split <;> rfl

section Sessions

variable {jsonExtract : JsonExtract} {db next : Database}
  {rows : List ((String × String) × SessionCandidate)}
  (keys : next.sessionKeys = (mergedComponents rows).foldl mergeKeys db.sessionKeys)
include keys

/-- A session that is left has the provider and the external id that it had. -/
theorem session_origin {left : SessionRow} (member : left ∈ next.sessions.rows)
    : ∃ row ∈ db.sessions.rows, left.id = row.id ∧ left.provider = row.provider
        ∧ left.externalSessionId = row.externalSessionId
        ∧ ∀ component ∈ mergedComponents rows, ¬ RemovedIn component row.id := by
  have listed : left.key ∈ next.sessionKeys := List.mem_map_of_mem member
  rw [keys, mem_foldl_mergeKeys] at listed
  obtain ⟨key, inside, kept, same⟩ := listed
  obtain ⟨row, held, rfl⟩ := List.mem_map.mp inside
  obtain ⟨source, fields⟩ := foldl_adopt_fields (mergedComponents rows) row.key
  rw [fields] at same
  exact ⟨row, held, congrArg SessionKey.id same, congrArg SessionKey.provider same,
    congrArg SessionKey.externalSessionId same, kept⟩

/-- A session is removed by a component exactly when it is not left. -/
theorem not_mem_sessionIds_iff (read : sessionCandidates jsonExtract db = .ok rows) {id : Uuid}
    : (∃ component ∈ mergedComponents rows, RemovedIn component id)
      ↔ id ∈ db.sessionIds ∧ id ∉ next.sessionIds := by
  constructor
  · rintro ⟨component, inside, removed⟩
    refine ⟨?_, fun left => ?_⟩
    · cases component with
      | nil => exact removed.elim
      | cons first rest =>
          obtain ⟨candidate, listed, rfl⟩ := List.mem_map.mp removed.1
          obtain ⟨key, origin⟩ := candidateOf_mergedComponents read inside
          obtain ⟨session, held, same, -⟩ := origin candidate listed
          rw [same]
          exact List.mem_map_of_mem held
    · obtain ⟨row, held, rfl⟩ := List.mem_map.mp left
      obtain ⟨origin, -, same, -, -, kept⟩ := session_origin keys held
      exact kept component inside (same ▸ removed)
  · rintro ⟨before, gone⟩
    by_contra kept
    push Not at kept
    obtain ⟨row, held, rfl⟩ := List.mem_map.mp before
    have listed : (mergedComponents rows).foldl (fun key component => adopt component key) row.key
        ∈ next.sessionKeys := by
      rw [keys, mem_foldl_mergeKeys]
      exact ⟨row.key, List.mem_map_of_mem held, kept, rfl⟩
    obtain ⟨left, leftHeld, same⟩ := List.mem_map.mp listed
    obtain ⟨source, fields⟩ := foldl_adopt_fields (mergedComponents rows) row.key
    rw [fields] at same
    exact gone (List.mem_map.mpr ⟨left, leftHeld, congrArg SessionKey.id same⟩)

end Sessions

-----------------------------------------------------------------------------------------
-- The migration
-----------------------------------------------------------------------------------------

/-- The database after `migrate_to_v47`, which rolls back on an error. -/
def databaseAfterV47 (jsonExtract : JsonExtract) (externals : Externals) (now : Int) (db : Database)
    : Database :=
  match migrateToV47 jsonExtract externals now db with
  | .ok next => next
  | .error _ => db

/-- No alias is the id of a row. `migrate_to_v47` alone writes aliases, so this holds of stores that have
not been migrated.
-/
structure Database.AliasesApart (db : Database) : Prop where
  sessions : ∀ row ∈ db.sessionAliases, row.aliasId ∉ db.sessionIds
  events : ∀ row ∈ db.eventAliases, row.aliasId ∉ db.eventIds

/-- What ids resolved to keeps its identity; ids of removed rows resolve to rows of their identity. -/
structure HistoryPreserved (jsonExtract : JsonExtract) (db next : Database) : Prop where
  sessions
    : ∀ id row, db.getSession id = some row →
        ∃ left, next.getSession id = some left ∧ left.provider = row.provider
          ∧ left.externalSessionId = row.externalSessionId
  removedSessions
    : ∀ row ∈ db.sessions.rows, row.id ∉ next.sessionIds →
        ∃ left, next.getSession row.id = some left ∧ left.provider = row.provider
          ∧ left.externalSessionId = row.externalSessionId
  events
    : ∀ id row, db.getEvent id = some row →
        ∃ left, next.getEvent id = some left
          ∧ identityOf jsonExtract left = identityOf jsonExtract row
  removedEvents
    : ∀ row ∈ db.events.rows, row.id ∉ next.eventIds →
        ∃ left, next.getEvent row.id = some left
          ∧ identityOf jsonExtract left = identityOf jsonExtract row
  refers : next.RefersToRows

/-- The canonical session of a merged component has exactly one event of each identity that the
component's sessions had.
-/
def EventsMergedOnce (jsonExtract : JsonExtract) (db next : Database) : Prop :=
  ∀ rows, sessionCandidates jsonExtract db = .ok rows →
    ∀ first rest, first :: rest ∈ mergedComponents rows → ∀ identity,
      (∃ row ∈ db.events.rows, InComponent (first :: rest) row
        ∧ identityOf jsonExtract row = .ok (some identity)) →
      ∃! row, row ∈ next.events.rows ∧ row.sessionId = some (canonicalSession first rest).id
        ∧ identityOf jsonExtract row = .ok (some identity)

/-- A target of an alias is the target of one of its rows. -/
theorem exists_alias_of_target {aliases : List AliasRow} {id target : Uuid}
    (named : aliasTarget aliases id = some target)
    : ∃ row ∈ aliases, row.aliasId = id ∧ row.targetId = target := by
  obtain ⟨row, found, same⟩ := Option.map_eq_some_iff.mp named
  exact ⟨row, List.mem_of_find?_eq_some found, by simpa using List.find?_some found, same⟩

/-- Resolution of an id, by aliases first, that did not lose its row: it names the same id, and that id
still has a row.
-/
theorem target_kept {aliases aliasesNext : List AliasRow} {ids idsNext : List Uuid} (id : Uuid)
    (refers : ∀ row ∈ aliasesNext, row.targetId ∈ idsNext)
    (same : (id ∈ ids → id ∈ idsNext) → aliasTarget aliasesNext id = aliasTarget aliases id)
    (apart : ∀ row ∈ aliases, row.aliasId ∉ ids)
    (kept : aliasTarget aliases id = none → id ∈ idsNext)
    : aliasTarget aliasesNext id = aliasTarget aliases id
      ∧ (aliasTarget aliases id).getD id ∈ idsNext := by
  cases named : aliasTarget aliases id with
  | none =>
      have stays := kept named
      exact ⟨(same fun _ => stays).trans named, stays⟩
  | some target =>
      obtain ⟨row, listed, isAlias, -⟩ := exists_alias_of_target named
      have unchanged := (same fun before => absurd (isAlias ▸ before) (apart row listed)).trans named
      obtain ⟨entry, inside, -, isTarget⟩ := exists_alias_of_target unchanged
      exact ⟨unchanged, isTarget ▸ refers entry inside⟩

section Migrated

variable {jsonExtract : JsonExtract} {externals : Externals} {now : Int} {db next : Database}
  (repaired : repairedForV47 jsonExtract externals now db = .ok next)
include repaired

theorem getSession_removed (refers : next.RefersToRows) {row : SessionRow}
    (member : row ∈ db.sessions.rows) (gone : row.id ∉ next.sessionIds)
    : ∃ left, next.getSession row.id = some left ∧ left.provider = row.provider
        ∧ left.externalSessionId = row.externalSessionId := by
  obtain ⟨rows, read, keys, -, aliases⟩ := sessionKeys_repairedForV47 repaired
  have removed := (not_mem_sessionIds_iff keys read).mpr ⟨List.mem_map_of_mem member, gone⟩
  obtain ⟨first, rest, inside, listed, named⟩ :=
    @aliasTarget_of_removed now _ db.sessionAliases _ removed
  rw [← aliases] at named
  obtain ⟨entry, entryMember, -, target⟩ := exists_alias_of_target named
  obtain ⟨left, held, isCanonical, found⟩ :=
    find_of_mem_ids SessionRow.id (target ▸ refers.sessionAliases entry entryMember)
  refine ⟨left, ?_, ?_⟩
  · have resolved : next.getSession row.id = next.sessions.rows.find?
        (·.id = (aliasTarget next.sessionAliases row.id).getD row.id) := rfl
    rw [resolved, named]
    exact found
  · -- Both rows are of the component, so they share provider and external id.
    obtain ⟨origin, originHeld, sameId, sameProvider, sameExternal, -⟩ := session_origin keys held
    obtain ⟨provider, external, own⟩ := keys_of_component read inside
    obtain ⟨candidate, among, sameRow⟩ := List.mem_map.mp listed.1
    have canonical : canonicalSession first rest ∈ first :: rest := minByKey_mem _ _ _
    have rowKey := Database.sessionKey_ext (own _ among) (List.mem_map_of_mem member) sameRow
    have originKey := Database.sessionKey_ext (own _ canonical) (List.mem_map_of_mem originHeld)
      (isCanonical.symm.trans sameId)
    rw [sameProvider, sameExternal]
    exact ⟨(congrArg SessionKey.provider originKey).symm.trans (congrArg SessionKey.provider rowKey),
      (congrArg SessionKey.externalSessionId originKey).symm.trans
        (congrArg SessionKey.externalSessionId rowKey)⟩

theorem getSession_kept (refers : next.RefersToRows) (apart : db.AliasesApart) {id : Uuid}
    {row : SessionRow} (resolves : db.getSession id = some row)
    : ∃ left, next.getSession id = some left ∧ left.provider = row.provider
        ∧ left.externalSessionId = row.externalSessionId := by
  obtain ⟨rows, read, keys, -, aliases⟩ := sessionKeys_repairedForV47 repaired
  have resolved (db : Database) : db.getSession id = db.sessions.rows.find?
      (·.id = (aliasTarget db.sessionAliases id).getD id) := rfl
  rw [resolved] at resolves
  have held := List.mem_of_find?_eq_some resolves
  have isTarget : row.id = (aliasTarget db.sessionAliases id).getD id := by
    simpa using List.find?_some resolves
  by_cases removed : aliasTarget db.sessionAliases id = none ∧ id ∉ next.sessionIds
  · -- The id named a row that is not left.
    rw [removed.1] at isTarget
    obtain rfl : row.id = id := isTarget
    exact getSession_removed repaired refers held removed.2
  · obtain ⟨sameTarget, stays⟩ := target_kept id refers.sessionAliases (fun remains => by
        rw [aliases]
        refine aliasTarget_of_kept fun component inside gone => ?_
        have lost := (not_mem_sessionIds_iff keys read).mp ⟨component, inside, gone⟩
        exact lost.2 (remains lost.1))
      apart.sessions fun direct => by
        by_contra gone
        exact removed ⟨direct, gone⟩
    obtain ⟨left, leftHeld, sameId, found⟩ := find_of_mem_ids SessionRow.id stays
    obtain ⟨origin, originHeld, originId, sameProvider, sameExternal, -⟩ :=
      session_origin keys leftHeld
    have symmetric : Std.Symm fun left right : SessionRow => left.id = right.id :=
      ⟨fun _ _ => .symm⟩
    obtain rfl : origin = row := Table.eq_of_clash originHeld held
      (originId.symm.trans (sameId.trans isTarget.symm))
    exact ⟨left, by rw [resolved, sameTarget, found], sameProvider, sameExternal⟩

theorem getEvent_removed (refers : next.RefersToRows) {row : EventRow}
    (member : row ∈ db.events.rows) (gone : row.id ∉ next.eventIds)
    : ∃ left, next.getEvent row.id = some left
        ∧ identityOf jsonExtract left = identityOf jsonExtract row := by
  obtain ⟨rows, read, -⟩ := sessionKeys_repairedForV47 repaired
  have kept := (repairLoop_repairedForV47 repaired read).kept
  obtain ⟨target, held, sameIdentity, named⟩ := kept.removed row member gone
  obtain ⟨entry, entryMember, -, isTarget⟩ := exists_alias_of_target named
  obtain ⟨left, leftHeld, sameId, found⟩ :=
    find_of_mem_ids EventRow.id (isTarget ▸ refers.eventAliases entry entryMember)
  refine ⟨left, ?_, ?_⟩
  · have resolved : next.getEvent row.id = next.events.rows.find?
        (·.id = (aliasTarget next.eventAliases row.id).getD row.id) := rfl
    rw [resolved, named]
    exact found
  · obtain ⟨origin, originHeld, moved⟩ := kept.rows left leftHeld
    have originId : origin.id = left.id := by rw [moved]
    obtain rfl := Database.event_ext originHeld held (originId.trans sameId)
    rw [moved, identityOf_session, sameIdentity]

theorem getEvent_kept (refers : next.RefersToRows) (apart : db.AliasesApart) {id : Uuid}
    {row : EventRow} (resolves : db.getEvent id = some row)
    : ∃ left, next.getEvent id = some left
        ∧ identityOf jsonExtract left = identityOf jsonExtract row := by
  obtain ⟨rows, read, -⟩ := sessionKeys_repairedForV47 repaired
  have kept := (repairLoop_repairedForV47 repaired read).kept
  have resolved (db : Database) : db.getEvent id = db.events.rows.find?
      (·.id = (aliasTarget db.eventAliases id).getD id) := rfl
  rw [resolved] at resolves
  have held := List.mem_of_find?_eq_some resolves
  have isTarget : row.id = (aliasTarget db.eventAliases id).getD id := by
    simpa using List.find?_some resolves
  by_cases removed : aliasTarget db.eventAliases id = none ∧ id ∉ next.eventIds
  · rw [removed.1] at isTarget
    obtain rfl : row.id = id := isTarget
    exact getEvent_removed repaired refers held removed.2
  · obtain ⟨sameTarget, stays⟩ := target_kept id refers.eventAliases (kept.aliases id) apart.events
      fun direct => by
        by_contra gone
        exact removed ⟨direct, gone⟩
    obtain ⟨left, leftHeld, sameId, found⟩ := find_of_mem_ids EventRow.id stays
    obtain ⟨origin, originHeld, moved⟩ := kept.rows left leftHeld
    have originId : origin.id = left.id := by rw [moved]
    obtain rfl := Database.event_ext originHeld held
      (originId.trans (sameId.trans isTarget.symm))
    exact ⟨left, by rw [resolved, sameTarget, found], by rw [moved, identityOf_session]⟩

end Migrated

/-- In a store whose foreign keys hold and whose aliases hide no row, the migration preserves history,
and where it gets through, each merged component has its events once.
-/
theorem migrateToV47_preservesHistory {jsonExtract : JsonExtract} {externals : Externals}
    {now : Int} {db : Database} (held : db.constraints = true) (apart : db.AliasesApart)
    : HistoryPreserved jsonExtract db (databaseAfterV47 jsonExtract externals now db)
      ∧ ∀ next, migrateToV47 jsonExtract externals now db = .ok next →
          EventsMergedOnce jsonExtract db next := by
  have repairedOf {next : Database}
      (migrated : migrateToV47 jsonExtract externals now db = .ok next)
      : repairedForV47 jsonExtract externals now db = .ok next := by
    obtain ⟨repaired, done, rest⟩ := bind_eq_ok.mp migrated
    split at rest
    next =>
        cases rest
        exact done
    next => cases rest
  refine ⟨?_, fun next migrated rows read => ?_⟩
  · unfold databaseAfterV47
    split
    next next migrated =>
        have repaired := repairedOf migrated
        have refers : next.RefersToRows := Database.refersToRows_of_foreignKeys
          (Bool.and_eq_true_iff.mp (constraints_repairedForV47 repaired held)).1
        exact {
          sessions := fun _ _ => getSession_kept repaired refers apart
          removedSessions := fun _ => getSession_removed repaired refers
          events := fun _ _ => getEvent_kept repaired refers apart
          removedEvents := fun _ => getEvent_removed repaired refers
          refers := refers }
    next =>
        exact {
          sessions := fun _ row resolves => ⟨row, resolves, rfl, rfl⟩
          removedSessions := fun _ member gone => absurd (List.mem_map_of_mem member) gone
          events := fun _ row resolves => ⟨row, resolves, rfl⟩
          removedEvents := fun _ member gone => absurd (List.mem_map_of_mem member) gone
          refers := Database.refersToRows_of_foreignKeys (Bool.and_eq_true_iff.mp held).1 }
  · exact (repairLoop_repairedForV47 (repairedOf migrated) read).unique

/-- The twice stored transcript with its first message, stored for each of its sessions, and with an
alias of each kind.
-/
def messageStoredAgain : Database :=
  { storedAgain with
    sessionAliases := [⟨idC, idA, "provider_source_identity_repair", 0⟩]
    eventAliases := [⟨idC, idA, "provider_source_identity_repair", 0⟩]
    events :=
      ⟨[{ Store.greeting.row with
            id := idA
            seq := 1
            sessionId := some idA
            dedupeKey := some "provider:claude:session:0:hash" },
          { Store.greeting.row with
            id := idB
            seq := 2
            sessionId := some idB
            dedupeKey := some "provider-source:00000000-0000-0000-0000-00000000000b:0:hash" }],
        by decide⟩ }

/-- The two messages of the transcript are merged into the first one. -/
theorem messageStoredAgain_preservesHistory
    : (HistoryPreserved emptyObjects messageStoredAgain
          (databaseAfterV47 emptyObjects Store.greetingExternals 0 messageStoredAgain)
        ∧ ∀ next, migrateToV47 emptyObjects Store.greetingExternals 0 messageStoredAgain = .ok next →
            EventsMergedOnce emptyObjects messageStoredAgain next)
      ∧ (migrateToV47 emptyObjects Store.greetingExternals 0 messageStoredAgain).map (·.eventIds)
        = .ok [idA] :=
  ⟨migrateToV47_preservesHistory (by decide) ⟨by decide, by decide⟩, by decide⟩

end CtxRemote.Schema
