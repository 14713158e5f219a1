import CtxRemote.Schema.RepairCandidates

/-! What the repair leaves of the sessions: a merged component keeps the id of its canonical session
and the source of its preferred one, and every other session keeps its identity.
-/

namespace CtxRemote.Schema
open CtxRemote.Library
open CtxRemote.Store (Uuid StoreError Externals)

-----------------------------------------------------------------------------------------
-- Identities of sessions
-----------------------------------------------------------------------------------------

/-- The identity of a session: what the triggers read of it. -/
structure SessionKey where
  id : Uuid
  captureSourceId : Option Uuid
  provider : String
  externalSessionId : Option String
  deletedAtMs : Option Int
deriving DecidableEq

def SessionRow.key (row : SessionRow) : SessionKey :=
  ⟨row.id, row.captureSourceId, row.provider, row.externalSessionId, row.deletedAtMs⟩

def Database.sessionKeys (db : Database) : List SessionKey := db.sessions.rows.map (·.key)

theorem Database.sessionKey_ext {db : Database} {left right : SessionKey}
    (leftMember : left ∈ db.sessionKeys) (rightMember : right ∈ db.sessionKeys)
    (same : left.id = right.id)
    : left = right := by
  obtain ⟨leftRow, leftInside, rfl⟩ := List.mem_map.mp leftMember
  obtain ⟨rightRow, rightInside, rfl⟩ := List.mem_map.mp rightMember
  have symmetric : Std.Symm fun left right : SessionRow => left.id = right.id := ⟨fun _ _ => .symm⟩
  rw [Table.eq_of_clash leftInside rightInside same]

/-- The identity of a session after a merge that gives its row the source of another one. -/
def SessionKey.withSource (key : SessionKey) (source : Uuid) : SessionKey :=
  { key with captureSourceId := some source }

-----------------------------------------------------------------------------------------
-- Components
-----------------------------------------------------------------------------------------

/-- A session of a component is removed: it is not the canonical one. -/
def RemovedIn : List SessionCandidate → Uuid → Prop
  | [], _ => False
  | first :: rest, id => id ∈ (first :: rest).map (·.id) ∧ id ≠ (canonicalSession first rest).id

instance : DecidableRel RemovedIn := fun component id =>
  match component with
  | [] => inferInstanceAs (Decidable False)
  | first :: rest =>
      inferInstanceAs (Decidable
        (id ∈ (first :: rest).map (·.id) ∧ id ≠ (canonicalSession first rest).id))

/-- The identity that a session of a component, or another one, gets. -/
def adopt (component : List SessionCandidate) (key : SessionKey) : SessionKey :=
  match component with
  | [] => key
  | first :: rest =>
      if key.id = (canonicalSession first rest).id then
        key.withSource (preferredSource first rest).sourceId
      else key

@[simp] theorem id_adopt (component : List SessionCandidate) (key : SessionKey)
    : (adopt component key).id = key.id := by
  unfold adopt
  split
  next => rfl
  next => split <;> rfl

/-- The identities that are left after a component is merged. -/
def mergeKeys (keys : List SessionKey) (component : List SessionCandidate) : List SessionKey :=
  (keys.filter fun key => ¬ RemovedIn component key.id).map (adopt component)

/-- A fold that keeps one of two items ends with an item of the list. -/
theorem foldl_pick_mem {Item : Type} {pick : Item → Item → Item}
    (picks : ∀ best item, pick best item = best ∨ pick best item = item) (first : Item)
    (rest : List Item)
    : rest.foldl pick first ∈ first :: rest := by
  induction rest generalizing first with
  | nil => exact List.mem_cons_self
  | cons item rest ih =>
      rw [List.foldl_cons]
      rcases List.mem_cons.mp (ih (pick first item)) with same | later
      · rw [same]
        rcases picks first item with kept | taken
        · rw [kept]
          exact List.mem_cons_self
        · rw [taken]
          exact List.mem_cons_of_mem _ List.mem_cons_self
      · exact List.mem_cons_of_mem _ (List.mem_cons_of_mem _ later)

theorem minByKey_mem {Item Key : Type} [LinearOrder Key] (key : Item → Key) (first : Item)
    (rest : List Item)
    : minByKey key first rest ∈ first :: rest :=
  foldl_pick_mem (fun _ _ => (ite_eq_or_eq _ _ _).symm) first rest

theorem maxByKey_mem {Item Key : Type} [LinearOrder Key] (key : Item → Key) (first : Item)
    (rest : List Item)
    : maxByKey key first rest ∈ first :: rest :=
  foldl_pick_mem (fun _ _ => ite_eq_or_eq _ _ _) first rest

-----------------------------------------------------------------------------------------
-- Statements
-----------------------------------------------------------------------------------------

/-- Statements that each leave a part of the database leave it. -/
theorem foldl_leaves {Part : Type} (part : Database → Part)
    {statements : List (Database → Database)}
    (leaves : ∀ statement ∈ statements, ∀ db, part (statement db) = part db) (db : Database)
    : part (statements.foldl (fun db statement => statement db) db) = part db := by
  induction statements generalizing db with
  | nil => rfl
  | cons statement rest ih =>
      rw [List.foldl_cons, ih fun later member => leaves later (List.mem_cons_of_mem _ member)]
      exact leaves statement List.mem_cons_self db

theorem sessions_mergeEvent (duplicate canonical : Uuid) (now : Int)
    : ∀ statement ∈ mergeEvent duplicate canonical now, ∀ db : Database,
        (statement db).sessions = db.sessions ∧ (statement db).captureSources = db.captureSources
        ∧ (statement db).sessionAliases = db.sessionAliases := by
  simp [mergeEvent, redirectLinkTarget]

theorem sessions_moveEvent (event session : Uuid)
    : ∀ statement ∈ moveEvent event session, ∀ db : Database,
        (statement db).sessions = db.sessions ∧ (statement db).captureSources = db.captureSources
        ∧ (statement db).sessionAliases = db.sessionAliases := by
  simp [moveEvent, Database.setEventSession]

/-- What the statements for one duplicate do to the sessions and their aliases. -/
theorem sessionKeys_mergeDuplicate (canonical duplicate : Uuid) (now : Int) (db : Database)
    : ((mergeDuplicate canonical duplicate now).foldl (fun db statement => statement db)
          db).sessionKeys
        = db.sessionKeys.filter (·.id ≠ duplicate)
      ∧ ((mergeDuplicate canonical duplicate now).foldl (fun db statement => statement db)
          db).captureSources = db.captureSources
      ∧ ((mergeDuplicate canonical duplicate now).foldl (fun db statement => statement db)
          db).sessionAliases = replaceAlias db.sessionAliases duplicate canonical now := by
  refine ⟨?_, rfl, rfl⟩
  simp only [mergeDuplicate, redirectLinkTarget, List.cons_append, List.nil_append, List.foldl_cons,
    List.foldl_nil, Database.sessionKeys, Database.updateSessions, Table.rows_keep,
    Table.rows_update]
  simp [List.filter_map, Function.comp_def, SessionRow.key]

/-- The same for all duplicates of a component, by induction on them. -/
theorem sessionKeys_mergeDuplicates (canonical : Uuid) (duplicates : List SessionCandidate)
    (now : Int) (db : Database)
    : let merged := (duplicates.flatMap fun duplicate =>
        mergeDuplicate canonical duplicate.id now).foldl (fun db statement => statement db) db
      merged.sessionKeys = db.sessionKeys.filter (fun key => key.id ∉ duplicates.map (·.id))
      ∧ merged.captureSources = db.captureSources
      ∧ merged.sessionAliases = duplicates.foldl
          (fun aliases duplicate => replaceAlias aliases duplicate.id canonical now)
          db.sessionAliases := by
  induction duplicates generalizing db with
  | nil => exact ⟨by simp, rfl, rfl⟩
  | cons duplicate rest ih =>
      obtain ⟨keys, sources, aliases⟩ := sessionKeys_mergeDuplicate canonical duplicate.id now db
      rw [List.flatMap_cons, List.foldl_append]
      obtain ⟨keysRest, sourcesRest, aliasesRest⟩ := ih _
      refine ⟨?_, sourcesRest.trans sources, ?_⟩
      · rw [keysRest, keys, List.filter_filter]
        refine List.filter_congr fun key _ => ?_
        rw [← Bool.decide_and, decide_eq_decide, List.map_cons, List.mem_cons, not_or, and_comm]
      · rw [aliasesRest, aliases, List.foldl_cons]

/-- The aliases that are left after a component is merged. -/
def mergeAliases (now : Int) (aliases : List AliasRow) (component : List SessionCandidate)
    : List AliasRow :=
  match component with
  | [] => aliases
  | first :: rest =>
      let canonical := canonicalSession first rest
      ((first :: rest).filter fun candidate => candidate.id ≠ canonical.id).foldl
        (fun aliases duplicate => replaceAlias aliases duplicate.id canonical.id now) aliases

theorem sessionKeys_mergeCanonical {db next : Database} {canonical preferred : Uuid}
    (merged : mergeCanonicalSessionState db canonical preferred = .ok next)
    : next.sessionKeys = db.sessionKeys ∧ next.captureSources = db.captureSources
      ∧ next.sessionAliases = db.sessionAliases := by
  unfold mergeCanonicalSessionState at merged
  split at merged
  next => cases merged
  next preferredRow _ =>
      rw [(Database.execute_eq_ok merged).1]
      refine ⟨?_, rfl, rfl⟩
      simp only [List.foldl_cons, List.foldl_nil, Database.sessionKeys, Database.updateSessions,
        Table.rows_update, List.map_map]
      refine List.map_congr_left fun row _ => ?_
      rw [Function.comp_apply]
      split <;> rfl

theorem sessionKeys_setCaptureSource (session source : Uuid) (db : Database)
    : (setCaptureSource session source db).sessionKeys
      = db.sessionKeys.map fun key => if key.id = session then key.withSource source else key := by
  simp only [setCaptureSource, Database.sessionKeys, Database.updateSessions, Table.rows_update,
    List.map_map]
  refine List.map_congr_left fun row _ => ?_
  rw [Function.comp_apply, Function.comp_apply]
  by_cases here : row.id = session
  · have same : row.key.id = session := here
    rw [if_pos here, if_pos same]
    rfl
  · have other : row.key.id ≠ session := here
    rw [if_neg here, if_neg other]

theorem sessions_mergeGroupEvents {jsonExtract : JsonExtract} {now : Int} {db : Database}
    {session : Uuid} {component : List SessionCandidate} {next : Database × List Uuid}
    (merged : mergeGroupEvents jsonExtract now db session component = .ok next)
    : next.1.sessions = db.sessions ∧ next.1.captureSources = db.captureSources
      ∧ next.1.sessionAliases = db.sessionAliases := by
  obtain ⟨events, -, merged⟩ := bind_eq_ok.mp merged
  obtain ⟨last, folded, merged⟩ := bind_eq_ok.mp merged
  cases merged
  refine foldlM_invariant
    (fun state : Database × CanonicalEvents => state.1.sessions = db.sessions
      ∧ state.1.captureSources = db.captureSources ∧ state.1.sessionAliases = db.sessionAliases)
    folded ⟨rfl, rfl, rfl⟩ ?_
  intro event _ state after held step
  have unchanged {statements : List (Database → Database)} {changed : Database}
      (leaves
        : ∀ statement ∈ statements, ∀ db : Database,
            (statement db).sessions = db.sessions
            ∧ (statement db).captureSources = db.captureSources
            ∧ (statement db).sessionAliases = db.sessionAliases)
      (done : state.1.execute statements = .ok changed)
      : changed.sessions = db.sessions ∧ changed.captureSources = db.captureSources
        ∧ changed.sessionAliases = db.sessionAliases := by
    rw [(Database.execute_eq_ok done).1,
      foldl_leaves (·.sessions) fun statement member db => (leaves statement member db).1,
      foldl_leaves (·.captureSources) fun statement member db => (leaves statement member db).2.1,
      foldl_leaves (·.sessionAliases) fun statement member db => (leaves statement member db).2.2]
    exact held
  unfold mergeGroupEvent at step
  dsimp only at step
  split at step
  next existing _ =>
      obtain ⟨changed, done, step⟩ := bind_eq_ok.mp step
      cases step
      exact unchanged (sessions_mergeEvent event.id existing now) done
  next =>
      obtain ⟨changed, done, step⟩ := bind_eq_ok.mp step
      cases step
      exact unchanged (sessions_moveEvent event.id session) done

/-- What the merge of a component does to the sessions and their aliases. -/
theorem sessionKeys_mergeSessionGroup {jsonExtract : JsonExtract} {now : Int}
    {state next : Database × List Uuid} {component : List SessionCandidate}
    (merged : mergeSessionGroup jsonExtract now state component = .ok next)
    : next.1.sessionKeys = mergeKeys state.1.sessionKeys component
      ∧ next.1.captureSources = state.1.captureSources
      ∧ next.1.sessionAliases = mergeAliases now state.1.sessionAliases component := by
  unfold mergeSessionGroup at merged
  split at merged
  next =>
      cases merged
      refine ⟨?_, rfl, rfl⟩
      have same : adopt [] = id := rfl
      simp [mergeKeys, RemovedIn, same]
  next first rest =>
      obtain ⟨copied, done, merged⟩ := bind_eq_ok.mp merged
      obtain ⟨⟨moved, affected⟩, movedEvents, merged⟩ := bind_eq_ok.mp merged
      obtain ⟨cleared, doneDuplicates, merged⟩ := bind_eq_ok.mp merged
      obtain ⟨last, doneSource, merged⟩ := bind_eq_ok.mp merged
      cases merged
      obtain ⟨keysCopied, sourcesCopied, aliasesCopied⟩ := sessionKeys_mergeCanonical done
      obtain ⟨sessionsMoved, sourcesMoved, aliasesMoved⟩ := sessions_mergeGroupEvents movedEvents
      have cleared' := (Database.execute_eq_ok doneDuplicates).1
      obtain ⟨keysCleared, sourcesCleared, aliasesCleared⟩ :=
        sessionKeys_mergeDuplicates (canonicalSession first rest).id
          ((first :: rest).filter fun candidate =>
            candidate.id ≠ (canonicalSession first rest).id) now moved
      rw [← cleared'] at keysCleared sourcesCleared aliasesCleared
      have last' : last = setCaptureSource (canonicalSession first rest).id
          (preferredSource first rest).sourceId cleared := (Database.execute_eq_ok doneSource).1
      refine ⟨?_, ?_, ?_⟩
      · have unmoved : moved.sessionKeys = copied.sessionKeys :=
          congrArg (fun sessions : SessionTable => sessions.rows.map SessionRow.key) sessionsMoved
        rw [last', sessionKeys_setCaptureSource, keysCleared, unmoved, keysCopied, mergeKeys]
        refine congrArg _ (List.filter_congr fun key _ => ?_)
        rw [decide_eq_decide, not_iff_not, RemovedIn, List.mem_map, List.mem_map]
        constructor
        · rintro ⟨candidate, inside, same⟩
          obtain ⟨member, other⟩ := List.mem_filter.mp inside
          rw [decide_eq_true_eq] at other
          exact ⟨⟨candidate, member, same⟩, same ▸ other⟩
        · rintro ⟨⟨candidate, member, same⟩, other⟩
          exact ⟨candidate, List.mem_filter.mpr ⟨member, by simpa [same] using other⟩, same⟩
      · rw [last']
        exact sourcesCleared.trans (sourcesMoved.trans sourcesCopied)
      · rw [last', mergeAliases]
        exact aliasesCleared.trans (by rw [aliasesMoved, aliasesCopied])

-----------------------------------------------------------------------------------------
-- The repair
-----------------------------------------------------------------------------------------

/-- What the repair does to the sessions and their aliases, by induction on the components. -/
theorem sessionKeys_repair {jsonExtract : JsonExtract} {now : Int} {db : Database}
    {next : Database × List Uuid}
    (repaired : repairDuplicateProviderSessions jsonExtract now db = .ok next)
    : ∃ rows, sessionCandidates jsonExtract db = .ok rows
      ∧ next.1.sessionKeys = (mergedComponents rows).foldl mergeKeys db.sessionKeys
      ∧ next.1.captureSources = db.captureSources
      ∧ next.1.sessionAliases = (mergedComponents rows).foldl (mergeAliases now) db.sessionAliases := by
  obtain ⟨rows, read, folded⟩ := bind_eq_ok.mp repaired
  refine ⟨rows, read, ?_⟩
  have steps {components : List (List SessionCandidate)} {state : Database × List Uuid}
      (done : components.foldlM (mergeSessionGroup jsonExtract now) state = .ok next)
      : next.1.sessionKeys = components.foldl mergeKeys state.1.sessionKeys
        ∧ next.1.captureSources = state.1.captureSources
        ∧ next.1.sessionAliases = components.foldl (mergeAliases now) state.1.sessionAliases := by
    induction components generalizing state with
    | nil =>
        cases done
        exact ⟨rfl, rfl, rfl⟩
    | cons component rest ih =>
        rw [List.foldlM_cons] at done
        obtain ⟨middle, first, later⟩ := bind_eq_ok.mp done
        obtain ⟨keys, sources, aliases⟩ := sessionKeys_mergeSessionGroup first
        rw [List.foldl_cons, List.foldl_cons, ← keys, ← sources, ← aliases]
        exact ih later
  exact steps folded

theorem sessions_refresh {externals : Externals} {db next : Database} {affected : List Uuid}
    (refreshed : refreshEventSearchProjection externals db affected = .ok next)
    : next.sessions = db.sessions ∧ next.captureSources = db.captureSources
      ∧ next.sessionAliases = db.sessionAliases := by
  obtain ⟨inserted, -, refreshed⟩ := bind_eq_ok.mp refreshed
  obtain ⟨filled, done, refreshed⟩ := bind_eq_ok.mp refreshed
  cases refreshed
  rw [(Database.execute_eq_ok done).1]
  exact ⟨rfl, rfl, rfl⟩

/-- The sessions after the repair and the refresh. -/
theorem sessionKeys_repairedForV47 {jsonExtract : JsonExtract} {externals : Externals} {now : Int}
    {db next : Database} (repaired : repairedForV47 jsonExtract externals now db = .ok next)
    : ∃ rows, sessionCandidates jsonExtract db = .ok rows
      ∧ next.sessionKeys = (mergedComponents rows).foldl mergeKeys db.sessionKeys
      ∧ next.captureSources = db.captureSources
      ∧ next.sessionAliases = (mergedComponents rows).foldl (mergeAliases now) db.sessionAliases := by
  obtain ⟨⟨merged, affected⟩, done, refreshed⟩ := bind_eq_ok.mp repaired
  obtain ⟨rows, read, keys, sources, aliases⟩ := sessionKeys_repair done
  refine ⟨rows, read, ?_⟩
  dsimp only at refreshed
  split at refreshed
  next =>
      cases refreshed
      exact ⟨keys, sources, aliases⟩
  next =>
      obtain ⟨same, sameSources, sameAliases⟩ := sessions_refresh refreshed
      refine ⟨?_, sameSources.trans sources, sameAliases.trans aliases⟩
      rw [← keys, Database.sessionKeys, same]
      rfl

/-- A session is left when no component removes it; every component gives it its identity. -/
theorem mem_foldl_mergeKeys {components : List (List SessionCandidate)} {keys : List SessionKey}
    {left : SessionKey}
    : left ∈ components.foldl mergeKeys keys
      ↔ ∃ key ∈ keys, (∀ component ∈ components, ¬ RemovedIn component key.id)
        ∧ left = components.foldl (fun key component => adopt component key) key := by
  induction components generalizing keys with
  | nil => simp
  | cons component rest ih =>
      rw [List.foldl_cons, ih]
      constructor
      · rintro ⟨middle, inside, kept, rfl⟩
        obtain ⟨key, filtered, rfl⟩ := List.mem_map.mp inside
        obtain ⟨member, stays⟩ := List.mem_filter.mp filtered
        refine ⟨key, member, ?_, rfl⟩
        rw [List.forall_mem_cons]
        exact ⟨of_decide_eq_true stays, fun later there => by simpa using kept later there⟩
      · rintro ⟨key, member, kept, rfl⟩
        obtain ⟨stays, later⟩ := List.forall_mem_cons.mp kept
        refine ⟨adopt component key, ?_, fun other there => by simpa using later other there, rfl⟩
        exact List.mem_map_of_mem (List.mem_filter.mpr ⟨member, by simpa using stays⟩)

-----------------------------------------------------------------------------------------
-- The constraints
-----------------------------------------------------------------------------------------

theorem constraints_mergeGroupEvents {jsonExtract : JsonExtract} {now : Int} {db : Database}
    {session : Uuid} {component : List SessionCandidate} {next : Database × List Uuid}
    (merged : mergeGroupEvents jsonExtract now db session component = .ok next)
    (held : db.constraints = true)
    : next.1.constraints = true := by
  obtain ⟨events, -, merged⟩ := bind_eq_ok.mp merged
  obtain ⟨last, folded, merged⟩ := bind_eq_ok.mp merged
  cases merged
  have preserved
      : ∀ event ∈ events, ∀ state after : Database × CanonicalEvents,
          state.1.constraints = true → mergeGroupEvent session now state event = .ok after →
          after.1.constraints = true := by
    intro event _ state after kept step
    unfold mergeGroupEvent at step
    dsimp only at step
    split at step
    next =>
        obtain ⟨changed, done, step⟩ := bind_eq_ok.mp step
        cases step
        exact (Database.execute_eq_ok done).2 kept
    next =>
        obtain ⟨changed, done, step⟩ := bind_eq_ok.mp step
        cases step
        exact (Database.execute_eq_ok done).2 kept
  have kept := foldlM_invariant (fun state : Database × CanonicalEvents =>
    state.1.constraints = true) folded held preserved
  exact kept

theorem constraints_mergeSessionGroup {jsonExtract : JsonExtract} {now : Int}
    {state next : Database × List Uuid} {component : List SessionCandidate}
    (merged : mergeSessionGroup jsonExtract now state component = .ok next)
    (held : state.1.constraints = true)
    : next.1.constraints = true := by
  unfold mergeSessionGroup at merged
  split at merged
  next =>
      cases merged
      exact held
  next first rest =>
      obtain ⟨copied, done, merged⟩ := bind_eq_ok.mp merged
      obtain ⟨⟨moved, affected⟩, movedEvents, merged⟩ := bind_eq_ok.mp merged
      obtain ⟨cleared, doneDuplicates, merged⟩ := bind_eq_ok.mp merged
      obtain ⟨last, doneSource, merged⟩ := bind_eq_ok.mp merged
      cases merged
      have copiedHeld : copied.constraints = true := by
        unfold mergeCanonicalSessionState at done
        split at done
        next => cases done
        next => exact (Database.execute_eq_ok done).2 held
      have movedHeld := constraints_mergeGroupEvents movedEvents copiedHeld
      have clearedHeld := (Database.execute_eq_ok doneDuplicates).2 movedHeld
      have lastHeld := (Database.execute_eq_ok doneSource).2 clearedHeld
      exact lastHeld

/-- The repair and the refresh leave the constraints in place. -/
theorem constraints_repairedForV47 {jsonExtract : JsonExtract} {externals : Externals} {now : Int}
    {db next : Database} (repaired : repairedForV47 jsonExtract externals now db = .ok next)
    (held : db.constraints = true)
    : next.constraints = true := by
  obtain ⟨⟨merged, affected⟩, done, refreshed⟩ := bind_eq_ok.mp repaired
  obtain ⟨rows, -, folded⟩ := bind_eq_ok.mp done
  have mergedHeld := foldlM_invariant
    (fun state : Database × List Uuid => state.1.constraints = true) folded held
    fun _ _ _ _ held step => constraints_mergeSessionGroup step held
  dsimp only at refreshed
  split at refreshed
  next =>
      cases refreshed
      exact mergedHeld
  next =>
      obtain ⟨inserted, -, refreshed⟩ := bind_eq_ok.mp refreshed
      obtain ⟨filled, filling, refreshed⟩ := bind_eq_ok.mp refreshed
      cases refreshed
      have filledHeld : filled.constraints = true := Database.constraints_of_execute filling
      exact filledHeld

-----------------------------------------------------------------------------------------
-- Surviving sessions
-----------------------------------------------------------------------------------------

section Disjoint

variable {components : List (List SessionCandidate)}
  (disjoint : (components.flatten.map (·.id)).Nodup)
include disjoint

/-- A session is in one component. -/
theorem component_unique {left right : List SessionCandidate} (leftMember : left ∈ components)
    (rightMember : right ∈ components) {first second : SessionCandidate} (inLeft : first ∈ left)
    (inRight : second ∈ right) (same : first.id = second.id)
    : left = right ∧ first = second := by
  refine ⟨?_, ?_⟩
  · rw [List.map_flatten, List.nodup_flatten] at disjoint
    have apart := List.pairwise_map.mp disjoint.2
    by_contra different
    have symmetric : Std.Symm fun left right : List SessionCandidate =>
        List.Disjoint (left.map (·.id)) (right.map (·.id)) := ⟨fun _ _ => List.Disjoint.symm⟩
    exact apart.forall leftMember rightMember different (List.mem_map_of_mem inLeft)
      (same ▸ List.mem_map_of_mem inRight)
  · exact List.inj_on_of_nodup_map disjoint
      (List.mem_flatten.mpr ⟨left, leftMember, inLeft⟩)
      (List.mem_flatten.mpr ⟨right, rightMember, inRight⟩) same

end Disjoint

/-- A session that is canonical in no component keeps its identity. -/
theorem foldl_adopt_of_not_canonical {components : List (List SessionCandidate)} {key : SessionKey}
    (other
      : ∀ first rest, first :: rest ∈ components → key.id ≠ (canonicalSession first rest).id)
    : components.foldl (fun key component => adopt component key) key = key := by
  induction components with
  | nil => rfl
  | cons component later ih =>
      have here : adopt component key = key := by
        cases component with
        | nil => rfl
        | cons first rest => exact if_neg (other first rest List.mem_cons_self)
      rw [List.foldl_cons, here]
      exact ih fun first rest member => other first rest (List.mem_cons_of_mem _ member)

/-- The canonical session of a component gets the source of the preferred one. -/
theorem foldl_adopt_of_canonical {components : List (List SessionCandidate)}
    (disjoint : (components.flatten.map (·.id)).Nodup) {first : SessionCandidate}
    {rest : List SessionCandidate} (member : first :: rest ∈ components) {key : SessionKey}
    (canonical : key.id = (canonicalSession first rest).id)
    : components.foldl (fun key component => adopt component key) key
      = key.withSource (preferredSource first rest).sourceId := by
  induction components with
  | nil => cases member
  | cons component later ih =>
      have laterDisjoint : (later.flatten.map (·.id)).Nodup := by
        rw [List.flatten_cons, List.map_append] at disjoint
        exact (List.nodup_append'.mp disjoint).2.1
      have canonicalMember {first : SessionCandidate} {rest : List SessionCandidate}
          : canonicalSession first rest ∈ first :: rest := minByKey_mem _ _ _
      rw [List.foldl_cons]
      by_cases here : component = first :: rest
      · subst here
        have adopted : adopt (first :: rest) key
            = key.withSource (preferredSource first rest).sourceId := if_pos canonical
        rw [adopted]
        refine foldl_adopt_of_not_canonical fun head tail inside same => ?_
        rw [List.flatten_cons, List.map_append] at disjoint
        refine (List.nodup_append'.mp disjoint).2.2
          (List.mem_map_of_mem (@canonicalMember first rest)) ?_
        rw [← canonical]
        have renamed : key.id = (canonicalSession head tail).id := same
        rw [renamed]
        exact List.mem_map_of_mem (List.mem_flatten.mpr ⟨head :: tail, inside, canonicalMember⟩)
      · have there := (List.mem_cons.mp member).resolve_left (Ne.symm here)
        have kept : adopt component key = key := by
          cases component with
          | nil => rfl
          | cons head tail =>
              refine if_neg fun same => here ?_
              exact (component_unique disjoint List.mem_cons_self member
                (@canonicalMember head tail) (@canonicalMember first rest)
                (same.symm.trans canonical)).1
        rw [kept]
        exact ih laterDisjoint there

/-- The sessions after the merge of disjoint components: those in no component, and the canonical
ones with the source of the preferred ones.
-/
theorem mem_mergedKeys_iff {components : List (List SessionCandidate)}
    (disjoint : (components.flatten.map (·.id)).Nodup) {keys : List SessionKey} {left : SessionKey}
    : left ∈ components.foldl mergeKeys keys
      ↔ (left ∈ keys ∧ ∀ component ∈ components, left.id ∉ component.map (·.id))
        ∨ ∃ first rest, first :: rest ∈ components
            ∧ ∃ key ∈ keys, key.id = (canonicalSession first rest).id
              ∧ left = key.withSource (preferredSource first rest).sourceId := by
  rw [mem_foldl_mergeKeys]
  constructor
  · rintro ⟨key, member, kept, rfl⟩
    by_cases canonical : ∃ first rest, first :: rest ∈ components
        ∧ key.id = (canonicalSession first rest).id
    · obtain ⟨first, rest, inside, same⟩ := canonical
      rw [foldl_adopt_of_canonical disjoint inside same]
      exact .inr ⟨first, rest, inside, key, member, same, rfl⟩
    · push Not at canonical
      rw [foldl_adopt_of_not_canonical canonical]
      refine .inl ⟨member, fun component inside listed => ?_⟩
      cases component with
      | nil => cases listed
      | cons first rest => exact kept _ inside ⟨listed, canonical first rest inside⟩
  · rintro (⟨member, outside⟩ | ⟨first, rest, inside, key, member, canonical, rfl⟩)
    · have canonicalMember {first : SessionCandidate} {rest : List SessionCandidate}
          : canonicalSession first rest ∈ first :: rest := minByKey_mem _ _ _
      refine ⟨left, member, fun component inside removed => ?_, ?_⟩
      · cases component with
        | nil => exact removed
        | cons first rest => exact outside _ inside removed.1
      · refine (foldl_adopt_of_not_canonical fun first rest inside same => ?_).symm
        exact outside _ inside (same ▸ List.mem_map_of_mem canonicalMember)
    · refine ⟨key, member, fun component other removed => ?_,
        (foldl_adopt_of_canonical disjoint inside canonical).symm⟩
      cases component with
      | nil => exact removed
      | cons head tail =>
          obtain ⟨candidate, listed, same⟩ := List.mem_map.mp removed.1
          have canonicalMember : canonicalSession first rest ∈ first :: rest := minByKey_mem _ _ _
          obtain ⟨equal, -⟩ := component_unique disjoint other inside listed canonicalMember
            (same.trans canonical)
          cases equal
          exact removed.2 canonical

end CtxRemote.Schema
