import CtxRemote.Schema.RepairedSessions

/-! What the repair leaves of the events: rows change their session only, a removed event gets an alias
to one with its identity, and a merged component has one event of each identity.
-/

namespace CtxRemote.Schema
open CtxRemote.Library
open CtxRemote.Store (Uuid EventRow StoreError Externals)

-----------------------------------------------------------------------------------------
-- Identities of events
-----------------------------------------------------------------------------------------

/-- The identity of a stored event, where its metadata can be read. -/
def identityOf (jsonExtract : JsonExtract) (row : EventRow)
    : Except StoreError (Option (UInt64 × String)) :=
  (eventCandidate jsonExtract row).map eventIdentity

/-- The identity does not depend on the session. -/
theorem identityOf_session (jsonExtract : JsonExtract) (row : EventRow) (sessionId : Option Uuid)
    : identityOf jsonExtract { row with sessionId } = identityOf jsonExtract row :=
  rfl

theorem identityOf_of_candidate {jsonExtract : JsonExtract} {row : EventRow}
    {candidate : EventCandidate} (read : eventCandidate jsonExtract row = .ok candidate)
    : candidate.id = row.id
      ∧ identityOf jsonExtract row = .ok (eventIdentity candidate) := by
  refine ⟨?_, ?_⟩
  · obtain ⟨_, -, read⟩ := bind_eq_ok.mp read
    obtain ⟨_, -, read⟩ := bind_eq_ok.mp read
    obtain ⟨_, -, read⟩ := bind_eq_ok.mp read
    obtain ⟨_, -, read⟩ := bind_eq_ok.mp read
    cases read
    rfl
  · rw [identityOf, read]
    rfl

/-- The row that an alias names. -/
def aliasTarget (aliases : List AliasRow) (id : Uuid) : Option Uuid :=
  (aliases.find? (·.aliasId = id)).map (·.targetId)

/-- A replaced alias names its new target, and the other ones name theirs. -/
theorem aliasTarget_replaceAlias (aliases : List AliasRow) (aliasId targetId id : Uuid) (now : Int)
    : aliasTarget (replaceAlias aliases aliasId targetId now) id
      = if id = aliasId then some targetId else aliasTarget aliases id := by
  unfold aliasTarget replaceAlias
  rw [List.find?_append]
  by_cases here : id = aliasId
  · subst here
    have gone : (aliases.filter fun row => row.aliasId ≠ id).find? (·.aliasId = id) = none := by
      rw [List.find?_eq_none]
      intro row inside
      simpa using (List.mem_filter.mp inside).2
    rw [if_pos rfl, gone]
    simp
  · have same : (aliases.filter fun row => row.aliasId ≠ aliasId).find? (·.aliasId = id)
        = aliases.find? (·.aliasId = id) := by
      rw [List.find?_filter]
      congr 1
      funext row
      by_cases named : row.aliasId = id
      · simp [named, here]
      · simp [named]
    rw [if_neg here, same]
    cases aliases.find? fun row => decide (row.aliasId = id) with
    | some row => rfl
    | none => simp [Ne.symm here]

/-- Two events of a database with one id are one. -/
theorem Database.event_ext {db : Database} {left right : EventRow}
    (leftMember : left ∈ db.events.rows) (rightMember : right ∈ db.events.rows)
    (same : left.id = right.id)
    : left = right := by
  have symmetric : Std.Symm Store.EventRow.Clash := by
    refine ⟨fun left right clash => ?_⟩
    rcases clash with ids | seqs | ⟨present, keys⟩
    · exact .inl ids.symm
    · exact .inr (.inl seqs.symm)
    · exact .inr (.inr ⟨keys ▸ present, keys.symm⟩)
  exact Table.eq_of_clash leftMember rightMember (Store.EventRow.clash_of_id left right same)

-----------------------------------------------------------------------------------------
-- Events that are kept, and events that get an alias
-----------------------------------------------------------------------------------------

/-- Between two databases events only change their session or are removed; the id of a removed event
becomes an alias of an event with its identity, and no other alias changes.
-/
structure EventsKept (jsonExtract : JsonExtract) (db next : Database) : Prop where
  rows
    : ∀ left ∈ next.events.rows, ∃ row ∈ db.events.rows,
        left = { row with sessionId := left.sessionId }
  removed
    : ∀ row ∈ db.events.rows, row.id ∉ next.eventIds →
        ∃ target ∈ db.events.rows,
          identityOf jsonExtract target = identityOf jsonExtract row
          ∧ aliasTarget next.eventAliases row.id = some target.id
  aliases
    : ∀ id, (id ∈ db.eventIds → id ∈ next.eventIds) →
        aliasTarget next.eventAliases id = aliasTarget db.eventAliases id

namespace EventsKept

variable {jsonExtract : JsonExtract} {first middle last : Database}

theorem refl (jsonExtract : JsonExtract) (db : Database) : EventsKept jsonExtract db db where
  rows := fun left member => ⟨left, member, rfl⟩
  removed := fun _ member gone => absurd (List.mem_map_of_mem member) gone
  aliases := fun _ _ => rfl

/-- Nothing happens to the events where neither they nor their aliases change. -/
theorem of_eq (jsonExtract : JsonExtract) {db next : Database} (events : next.events = db.events)
    (aliases : next.eventAliases = db.eventAliases)
    : EventsKept jsonExtract db next where
  rows := fun left member => ⟨left, events ▸ member, rfl⟩
  removed := fun row member gone =>
    absurd (List.mem_map_of_mem (events ▸ member : row ∈ next.events.rows)) gone
  aliases := fun _ _ => by rw [aliases]

/-- An event that is left was there before. -/
theorem eventIds (kept : EventsKept jsonExtract first last) {id : Uuid}
    (member : id ∈ last.eventIds)
    : id ∈ first.eventIds := by
  obtain ⟨left, inside, rfl⟩ := List.mem_map.mp member
  obtain ⟨row, held, same⟩ := kept.rows left inside
  have sameId : left.id = row.id := by rw [same]
  rw [sameId]
  exact List.mem_map_of_mem held

theorem trans (before : EventsKept jsonExtract first middle)
    (after : EventsKept jsonExtract middle last)
    : EventsKept jsonExtract first last where
  rows := by
    intro left member
    obtain ⟨row, inside, same⟩ := after.rows left member
    obtain ⟨origin, held, sameOrigin⟩ := before.rows row inside
    refine ⟨origin, held, ?_⟩
    rw [same, sameOrigin]
  removed := by
    intro row member gone
    by_cases stays : row.id ∈ middle.eventIds
    · obtain ⟨now, inside, sameId⟩ := List.mem_map.mp stays
      obtain ⟨target, held, sameIdentity, named⟩ := after.removed now inside (sameId ▸ gone)
      obtain ⟨origin, heldOrigin, sameTarget⟩ := before.rows target held
      obtain ⟨self, heldSelf, sameNow⟩ := before.rows now inside
      have sameSelf : self.id = now.id := by rw [sameNow]
      have own : self = row := Database.event_ext heldSelf member (sameSelf.trans sameId)
      refine ⟨origin, heldOrigin, ?_, ?_⟩
      · rw [sameTarget, sameNow, identityOf_session, identityOf_session, own] at sameIdentity
        exact sameIdentity
      · rw [← sameId, named, sameTarget]
    · obtain ⟨target, held, sameIdentity, named⟩ := before.removed row member stays
      refine ⟨target, held, sameIdentity, ?_⟩
      rw [after.aliases row.id fun back => absurd back stays, named]
  aliases := by
    intro id remains
    rw [after.aliases id fun inside => remains (before.eventIds inside), before.aliases id]
    exact fun inside => after.eventIds (remains inside)

end EventsKept

-----------------------------------------------------------------------------------------
-- Statements
-----------------------------------------------------------------------------------------

/-- The events and their aliases are left alone. -/
def EventsSame (db next : Database) : Prop :=
  next.events = db.events ∧ next.eventAliases = db.eventAliases

theorem eventsSame_foldl {statements : List (Database → Database)}
    (leaves : ∀ statement ∈ statements, ∀ db, EventsSame db (statement db)) (db : Database)
    : EventsSame db (statements.foldl (fun db statement => statement db) db) :=
  ⟨foldl_leaves (·.events) (fun statement member db => (leaves statement member db).1) db,
    foldl_leaves (·.eventAliases) (fun statement member db => (leaves statement member db).2) db⟩

theorem eventsSame_mergeDuplicate (canonical duplicate : Uuid) (now : Int)
    : ∀ statement ∈ mergeDuplicate canonical duplicate now, ∀ db,
        EventsSame db (statement db) := by
  simp [EventsSame, mergeDuplicate, redirectLinkTarget, Database.updateSessions]

theorem rows_mergeEvent (duplicate canonical : Uuid) (now : Int) (db : Database)
    : ((mergeEvent duplicate canonical now).foldl (fun db statement => statement db) db).events.rows
        = db.events.rows.filter (fun row => row.id ≠ duplicate)
      ∧ ((mergeEvent duplicate canonical now).foldl (fun db statement => statement db)
          db).eventAliases = replaceAlias db.eventAliases duplicate canonical now :=
  ⟨rfl, rfl⟩

theorem rows_moveEvent (event session : Uuid) (db : Database)
    : ((moveEvent event session).foldl (fun db statement => statement db) db).events.rows
        = db.events.rows.map (fun row =>
            if decide (row.id = event) = true then { row with sessionId := some session } else row)
      ∧ ((moveEvent event session).foldl (fun db statement => statement db) db).eventAliases
        = db.eventAliases :=
  ⟨rfl, rfl⟩

/-- A merged event gets an alias of an event with its identity. -/
theorem eventsKept_mergeEvent {jsonExtract : JsonExtract} {db next : Database}
    {duplicate target : EventRow} {now : Int} (member : duplicate ∈ db.events.rows)
    (targetMember : target ∈ db.events.rows)
    (same : identityOf jsonExtract target = identityOf jsonExtract duplicate)
    (merged
      : next = (mergeEvent duplicate.id target.id now).foldl (fun db statement => statement db) db)
    : EventsKept jsonExtract db next := by
  obtain ⟨rows, aliases⟩ := rows_mergeEvent duplicate.id target.id now db
  rw [← merged] at rows aliases
  have remains {row : EventRow} (inside : row ∈ db.events.rows) (other : row.id ≠ duplicate.id)
      : row.id ∈ next.eventIds := by
    refine List.mem_map_of_mem ?_
    rw [rows, List.mem_filter]
    exact ⟨inside, decide_eq_true other⟩
  refine { rows := ?_, removed := ?_, aliases := ?_ }
  · intro left inside
    rw [rows] at inside
    exact ⟨left, List.mem_of_mem_filter inside, rfl⟩
  · intro row inside gone
    have self : row.id = duplicate.id := by
      by_contra other
      exact gone (remains inside other)
    obtain rfl := Database.event_ext inside member self
    refine ⟨target, targetMember, same, ?_⟩
    rw [aliases, aliasTarget_replaceAlias, if_pos rfl]
  · intro id stays
    rw [aliases, aliasTarget_replaceAlias, if_neg]
    rintro rfl
    obtain ⟨left, inside, sameId⟩ := List.mem_map.mp (stays (List.mem_map_of_mem member))
    rw [rows] at inside
    exact of_decide_eq_true (List.mem_filter.mp inside).2 sameId

theorem eventsKept_moveEvent {jsonExtract : JsonExtract} {db next : Database}
    {event session : Uuid}
    (moved : next = (moveEvent event session).foldl (fun db statement => statement db) db)
    : EventsKept jsonExtract db next := by
  obtain ⟨rows, aliases⟩ := rows_moveEvent event session db
  rw [← moved] at rows aliases
  refine { rows := ?_, removed := ?_, aliases := fun id _ => by rw [aliases] }
  · intro left inside
    rw [rows] at inside
    obtain ⟨row, held, rfl⟩ := List.mem_map.mp inside
    refine ⟨row, held, ?_⟩
    split <;> rfl
  · intro row inside gone
    refine absurd ?_ gone
    refine List.mem_map.mpr ⟨_, rows ▸ List.mem_map_of_mem inside, ?_⟩
    split <;> rfl

-----------------------------------------------------------------------------------------
-- The events of a component
-----------------------------------------------------------------------------------------

/-- The event belongs to a session of the component. -/
def InComponent (component : List SessionCandidate) (row : EventRow) : Prop :=
  ∃ candidate ∈ component, row.sessionId = some candidate.id

/-- The merged events are read from the events of the component's sessions, in another order. -/
theorem groupEvents_perm {jsonExtract : JsonExtract} {db : Database}
    {component : List SessionCandidate} {events : List EventCandidate}
    (read : groupEvents jsonExtract db component = .ok events)
    : ∃ candidates, events.Perm candidates
      ∧ List.Forall₂ (fun row candidate => eventCandidate jsonExtract row = .ok candidate)
          (component.flatMap fun session =>
            db.events.rows.filter fun row => row.sessionId = some session.id)
          candidates := by
  obtain ⟨lists, mapped, same⟩ := bind_eq_ok.mp read
  cases same
  suffices flattened : ∃ candidates, lists.flatten.Perm candidates
      ∧ List.Forall₂ (fun row candidate => eventCandidate jsonExtract row = .ok candidate)
          (component.flatMap fun session =>
            db.events.rows.filter fun row => row.sessionId = some session.id)
          candidates by
    obtain ⟨candidates, perm, each⟩ := flattened
    exact ⟨candidates, (List.perm_insertionSort _ _).trans perm, each⟩
  have each := mapM_eq_ok.mp mapped
  clear read mapped
  induction each with
  | nil => exact ⟨[], .rfl, .nil⟩
  | @cons session list component lists here _ ih =>
      obtain ⟨candidates, perm, each⟩ := ih
      obtain ⟨own, ownRead, sorted⟩ := bind_eq_ok.mp here
      cases sorted
      refine ⟨own ++ candidates, ?_, ?_⟩
      · rw [List.flatten_cons]
        exact (List.perm_insertionSort _ _).append perm
      · rw [List.flatMap_cons]
        exact List.rel_append (mapM_eq_ok.mp ownRead) each

/-- What the merged events have to do with the stored ones. -/
structure GroupEvents (jsonExtract : JsonExtract) (component : List SessionCandidate)
    (db : Database) (events : List EventCandidate) : Prop where
  stored
    : ∀ event ∈ events, ∃ row ∈ db.events.rows,
        InComponent component row ∧ eventCandidate jsonExtract row = .ok event
  all
    : ∀ row ∈ db.events.rows, InComponent component row →
        ∃ event ∈ events, eventCandidate jsonExtract row = .ok event
  distinct : (events.map (·.id)).Nodup

theorem groupEvents_spec {jsonExtract : JsonExtract} {db : Database}
    {component : List SessionCandidate} {events : List EventCandidate}
    (sessions : (component.map (·.id)).Nodup)
    (read : groupEvents jsonExtract db component = .ok events)
    : GroupEvents jsonExtract component db events := by
  obtain ⟨candidates, perm, each⟩ := groupEvents_perm read
  have rowIds : candidates.map (·.id)
      = (component.flatMap fun session =>
          db.events.rows.filter fun row => row.sessionId = some session.id).map (·.id) := by
    clear perm
    generalize (component.flatMap fun session =>
      db.events.rows.filter fun row => row.sessionId = some session.id) = rows at each
    induction each with
    | nil => rfl
    | cons here _ ih => rw [List.map_cons, List.map_cons, ih, (identityOf_of_candidate here).1]
  refine { stored := ?_, all := ?_, distinct := ?_ }
  · intro event member
    obtain ⟨row, inside, readRow⟩ := exists_partner each.flip (perm.mem_iff.mp member)
    obtain ⟨session, listed, held⟩ := List.mem_flatMap.mp inside
    obtain ⟨present, own⟩ := List.mem_filter.mp held
    exact ⟨row, present, ⟨session, listed, of_decide_eq_true own⟩, readRow⟩
  · rintro row present ⟨session, listed, own⟩
    have inside : row ∈ component.flatMap fun session =>
        db.events.rows.filter fun row => row.sessionId = some session.id :=
      List.mem_flatMap.mpr ⟨session, listed, List.mem_filter.mpr ⟨present, decide_eq_true own⟩⟩
    obtain ⟨event, member, readRow⟩ := exists_partner each inside
    exact ⟨event, perm.mem_iff.mpr member, readRow⟩
  · -- The rows of the sessions are the rows with one of the sessions, each once.
    have grouped : (component.flatMap fun session =>
          db.events.rows.filter fun row => row.sessionId = some session.id).Perm
        (db.events.rows.filter fun row =>
          row.sessionId ∈ component.map fun session => some session.id) := by
      have keys : (component.map fun session => some session.id).Nodup := by
        have mapped := sessions.map (Option.some_injective Uuid)
        rw [List.map_map] at mapped
        exact mapped
      have split := flatMap_filter_perm EventRow.sessionId keys
        fun (row : EventRow) (member : row ∈ db.events.rows.filter fun row =>
          row.sessionId ∈ component.map fun session => some session.id) =>
            of_decide_eq_true (List.mem_filter.mp member).2
      rw [List.flatMap_map] at split
      refine .trans (.of_eq (List.flatMap_congr fun session listed => ?_)) split
      rw [List.filter_filter]
      refine List.filter_congr fun row _ => ?_
      by_cases own : row.sessionId = some session.id
      · have inside : row.sessionId ∈ component.map fun session => some session.id :=
          own ▸ List.mem_map_of_mem listed
        rw [decide_eq_true own, decide_eq_true inside, Bool.and_self]
      · rw [decide_eq_false own, Bool.false_and]
    have distinct : (db.events.rows.map (·.id)).Nodup :=
      List.pairwise_map.mpr (db.events.distinct.imp fun apart same =>
        apart (Store.EventRow.clash_of_id _ _ same))
    rw [(perm.map _).nodup_iff, rowIds, (grouped.map _).nodup_iff]
    exact (List.filter_sublist.map _).nodup distinct

/-- The state of the loop of `merge_group_events` after it has passed some events. -/
structure GroupLoop (jsonExtract : JsonExtract) (component : List SessionCandidate)
    (session : Uuid) (start : Database) (passed : List EventCandidate)
    (state : Database × CanonicalEvents)
    : Prop where
  kept : EventsKept jsonExtract start state.1
  outside
    : ∀ row, ¬ InComponent component row →
        (row ∈ state.1.events.rows ↔ row ∈ start.events.rows)
  waiting
    : ∀ row ∈ start.events.rows, InComponent component row → row.id ∉ passed.map (·.id) →
        row ∈ state.1.events.rows
  inside
    : ∀ row ∈ state.1.events.rows, InComponent component row →
        (row ∈ start.events.rows ∧ row.id ∉ passed.map (·.id))
        ∨ (row.id ∈ passed.map (·.id) ∧ row.sessionId = some session)
  named
    : ∀ identity id, state.2.lookup identity = some id →
        ∃ row ∈ state.1.events.rows, row.id = id ∧ row.id ∈ passed.map (·.id)
          ∧ row.sessionId = some session ∧ identityOf jsonExtract row = .ok (some identity)
  single
    : ∀ row ∈ state.1.events.rows, row.id ∈ passed.map (·.id) →
        ∀ identity, identityOf jsonExtract row = .ok (some identity) →
          state.2.lookup identity = some row.id
  known
    : ∀ event ∈ passed, ∀ identity, eventIdentity event = some identity →
        ∃ id, state.2.lookup identity = some id

section Loop

variable {jsonExtract : JsonExtract} {component : List SessionCandidate} {session : Uuid}
  {start : Database} {passed : List EventCandidate}

theorem GroupLoop.initial : GroupLoop jsonExtract component session start [] (start, []) where
  kept := .refl jsonExtract start
  outside := fun _ _ => .rfl
  waiting := fun _ member _ _ => member
  inside := fun _ member _ => .inl ⟨member, by simp⟩
  named := fun _ _ found => nomatch found
  single := fun _ _ inside => nomatch inside
  known := fun _ inside => nomatch inside

/-- An event whose identity has a canonical event is merged into it. -/
theorem GroupLoop.merge {db next : Database} {canonicalEvents : CanonicalEvents}
    (loop : GroupLoop jsonExtract component session start passed (db, canonicalEvents))
    {event : EventCandidate} {row : EventRow} (stored : row ∈ start.events.rows)
    (own : InComponent component row) (read : eventCandidate jsonExtract row = .ok event)
    (fresh : event.id ∉ passed.map (·.id)) {identity : UInt64 × String} {existing : Uuid}
    (identified : eventIdentity event = some identity)
    (found : canonicalEvents.lookup identity = some existing) {now : Int}
    (merged
      : next = (mergeEvent event.id existing now).foldl (fun db statement => statement db) db)
    : GroupLoop jsonExtract component session start (passed ++ [event]) (next, canonicalEvents) := by
  obtain ⟨sameId, readIdentity⟩ := identityOf_of_candidate read
  rw [identified] at readIdentity
  have waits : row ∈ db.events.rows := loop.waiting row stored own (sameId ▸ fresh)
  obtain ⟨target, targetMember, rfl, targetPassed, targetSession, targetIdentity⟩ :=
    loop.named identity existing found
  have rows := (rows_mergeEvent event.id target.id now db).1
  rw [← merged] at rows
  have left {other : EventRow} : other ∈ next.events.rows
      ↔ other ∈ db.events.rows ∧ other.id ≠ event.id := by
    rw [rows, List.mem_filter, decide_eq_true_iff]
  have passes {id : Uuid} : id ∈ (passed ++ [event]).map (·.id)
      ↔ id ∈ passed.map (·.id) ∨ id = event.id := by
    simp
  have stays {other : EventRow} (member : other ∈ db.events.rows)
      (before : other.id ∈ passed.map (·.id))
      : other ∈ next.events.rows :=
    left.mpr ⟨member, fun same => fresh (same ▸ before)⟩
  refine {
    kept := loop.kept.trans (eventsKept_mergeEvent waits targetMember
      (targetIdentity.trans readIdentity.symm) (sameId ▸ merged))
    outside := ?_, waiting := ?_, inside := ?_, named := ?_, single := ?_, known := ?_ }
  · intro other apart
    rw [← loop.outside other apart, left]
    refine ⟨And.left, fun member => ⟨member, fun same => apart ?_⟩⟩
    rw [Database.event_ext member waits (same.trans sameId)]
    exact own
  · intro other member ownOther new
    rw [passes, not_or] at new
    exact left.mpr ⟨loop.waiting other member ownOther new.1, new.2⟩
  · intro other member ownOther
    obtain ⟨held, different⟩ := left.mp member
    rcases loop.inside other held ownOther with ⟨old, new⟩ | ⟨old, moved⟩
    · exact .inl ⟨old, fun inside => (passes.mp inside).elim new different⟩
    · exact .inr ⟨passes.mpr (.inl old), moved⟩
  · intro key id lookup
    obtain ⟨other, member, same, before, moved, identityOther⟩ := loop.named key id lookup
    exact ⟨other, stays member before, same, passes.mpr (.inl before), moved, identityOther⟩
  · intro other member before key identityOther
    obtain ⟨held, different⟩ := left.mp member
    exact loop.single other held ((passes.mp before).resolve_right different) key identityOther
  · intro other inside key identityOther
    rcases List.mem_append.mp inside with old | new
    · exact loop.known other old key identityOther
    · obtain rfl := List.mem_singleton.mp new
      rw [identified] at identityOther
      cases identityOther
      exact ⟨_, found⟩

/-- An event without a canonical one moves to the session, and becomes canonical if it has an
identity.
-/
theorem GroupLoop.move {db next : Database} {canonicalEvents canonicalNext : CanonicalEvents}
    (loop : GroupLoop jsonExtract component session start passed (db, canonicalEvents))
    {event : EventCandidate} {row : EventRow} (stored : row ∈ start.events.rows)
    (own : InComponent component row) (read : eventCandidate jsonExtract row = .ok event)
    (fresh : event.id ∉ passed.map (·.id)) (target : ∃ candidate ∈ component, candidate.id = session)
    (moved : next = (moveEvent event.id session).foldl (fun db statement => statement db) db)
    (lookups
      : ∀ identity, canonicalNext.lookup identity
          = if eventIdentity event = some identity then some event.id
            else canonicalEvents.lookup identity)
    (absent
      : ∀ identity, eventIdentity event = some identity → canonicalEvents.lookup identity = none)
    : GroupLoop jsonExtract component session start (passed ++ [event]) (next, canonicalNext) := by
  obtain ⟨sameId, readIdentity⟩ := identityOf_of_candidate read
  have waits : row ∈ db.events.rows := loop.waiting row stored own (sameId ▸ fresh)
  have rows := (rows_moveEvent event.id session db).1
  rw [← moved] at rows
  have left {other : EventRow} : other ∈ next.events.rows
      ↔ (other ∈ db.events.rows ∧ other.id ≠ event.id)
        ∨ other = { row with sessionId := some session } := by
    rw [rows, List.mem_map]
    constructor
    · rintro ⟨before, member, rfl⟩
      by_cases here : before.id = event.id
      · obtain rfl := Database.event_ext member waits (here.trans sameId)
        exact .inr (if_pos (decide_eq_true here))
      · have same : (if decide (before.id = event.id) = true then
            { before with sessionId := some session } else before) = before :=
          if_neg (by simpa using here)
        rw [same]
        exact .inl ⟨member, here⟩
    · rintro (⟨member, different⟩ | rfl)
      · exact ⟨other, member, if_neg (by simpa using different)⟩
      · exact ⟨row, waits, if_pos (decide_eq_true sameId.symm)⟩
  have passes {id : Uuid} : id ∈ (passed ++ [event]).map (·.id)
      ↔ id ∈ passed.map (·.id) ∨ id = event.id := by
    simp
  have inComponent : InComponent component { row with sessionId := some session } := by
    obtain ⟨candidate, listed, same⟩ := target
    exact ⟨candidate, listed, by rw [same]⟩
  have newIdentity : identityOf jsonExtract { row with sessionId := some session }
      = .ok (eventIdentity event) := readIdentity
  refine {
    kept := loop.kept.trans (eventsKept_moveEvent moved)
    outside := ?_, waiting := ?_, inside := ?_, named := ?_, single := ?_, known := ?_ }
  · intro other apart
    rw [← loop.outside other apart, left]
    constructor
    · rintro (⟨member, -⟩ | rfl)
      · exact member
      · exact absurd inComponent apart
    · intro member
      refine .inl ⟨member, fun same => apart ?_⟩
      rw [Database.event_ext member waits (same.trans sameId)]
      exact own
  · intro other member ownOther new
    rw [passes, not_or] at new
    exact left.mpr (.inl ⟨loop.waiting other member ownOther new.1, new.2⟩)
  · intro other member ownOther
    rcases left.mp member with ⟨held, different⟩ | rfl
    · rcases loop.inside other held ownOther with ⟨old, new⟩ | ⟨old, done⟩
      · exact .inl ⟨old, fun inside => (passes.mp inside).elim new different⟩
      · exact .inr ⟨passes.mpr (.inl old), done⟩
    · exact .inr ⟨passes.mpr (.inr sameId.symm), rfl⟩
  · intro key id lookup
    rw [lookups] at lookup
    split at lookup
    next identified =>
        cases lookup
        exact ⟨_, left.mpr (.inr rfl), sameId.symm, passes.mpr (.inr sameId.symm), rfl,
          newIdentity.trans (by rw [identified])⟩
    next =>
        obtain ⟨other, member, same, before, done, identityOther⟩ := loop.named key id lookup
        have different : other.id ≠ event.id := fun equal => fresh (equal ▸ before)
        exact ⟨other, left.mpr (.inl ⟨member, different⟩), same, passes.mpr (.inl before), done,
          identityOther⟩
  · intro other member before key identityOther
    rw [lookups]
    rcases left.mp member with ⟨held, different⟩ | rfl
    · have known := loop.single other held ((passes.mp before).resolve_right different) key
        identityOther
      rw [if_neg, known]
      intro identified
      rw [absent key identified] at known
      cases known
    · rw [newIdentity] at identityOther
      rw [if_pos (Except.ok.inj identityOther), sameId]
  · intro other inside key identityOther
    rw [lookups]
    split
    next => exact ⟨_, rfl⟩
    next others =>
        rcases List.mem_append.mp inside with old | new
        · exact loop.known other old key identityOther
        · obtain rfl := List.mem_singleton.mp new
          exact absurd identityOther others

end Loop

/-- What the merge of a component leaves of the events. -/
structure GroupMerged (jsonExtract : JsonExtract) (component : List SessionCandidate)
    (session : Uuid) (db next : Database)
    : Prop where
  kept : EventsKept jsonExtract db next
  outside
    : ∀ row, ¬ InComponent component row → (row ∈ next.events.rows ↔ row ∈ db.events.rows)
  unique
    : ∀ identity,
        (∃ row ∈ db.events.rows, InComponent component row
          ∧ identityOf jsonExtract row = .ok (some identity)) →
        ∃! row, row ∈ next.events.rows ∧ row.sessionId = some session
          ∧ identityOf jsonExtract row = .ok (some identity)

theorem groupMerged_of_loop {jsonExtract : JsonExtract} {component : List SessionCandidate}
    {session : Uuid} {db : Database} {events : List EventCandidate}
    {state : Database × CanonicalEvents} (spec : GroupEvents jsonExtract component db events)
    (target : ∃ candidate ∈ component, candidate.id = session)
    (loop : GroupLoop jsonExtract component session db events state)
    : GroupMerged jsonExtract component session db state.1 where
  kept := loop.kept
  outside := loop.outside
  unique := by
    rintro identity ⟨row, member, own, readIdentity⟩
    obtain ⟨event, inside, read⟩ := spec.all row member own
    have identified : eventIdentity event = some identity :=
      Except.ok.inj ((identityOf_of_candidate read).2.symm.trans readIdentity)
    obtain ⟨id, found⟩ := loop.known event inside identity identified
    obtain ⟨kept, held, rfl, -, moved, keptIdentity⟩ := loop.named identity id found
    refine ⟨kept, ⟨held, moved, keptIdentity⟩, ?_⟩
    rintro other ⟨otherHeld, otherMoved, otherIdentity⟩
    have ownOther : InComponent component other := by
      obtain ⟨candidate, listed, same⟩ := target
      exact ⟨candidate, listed, by rw [otherMoved, same]⟩
    have passed : other.id ∈ events.map (·.id) := by
      rcases loop.inside other otherHeld ownOther with ⟨before, new⟩ | ⟨passed, -⟩
      · obtain ⟨event, listed, readOther⟩ := spec.all other before ownOther
        exact absurd (List.mem_map.mpr ⟨event, listed, (identityOf_of_candidate readOther).1⟩) new
      · exact passed
    have same := loop.single other otherHeld passed identity otherIdentity
    rw [found] at same
    exact Database.event_ext otherHeld held (Option.some.inj same).symm

/-- The loop over the events of a component, event by event. -/
theorem groupMerged_mergeGroupEvents {jsonExtract : JsonExtract} {now : Int} {db : Database}
    {session : Uuid} {component : List SessionCandidate} {next : Database × List Uuid}
    (sessions : (component.map (·.id)).Nodup)
    (target : ∃ candidate ∈ component, candidate.id = session)
    (merged : mergeGroupEvents jsonExtract now db session component = .ok next)
    : GroupMerged jsonExtract component session db next.1 := by
  obtain ⟨events, read, merged⟩ := bind_eq_ok.mp merged
  obtain ⟨last, folded, merged⟩ := bind_eq_ok.mp merged
  cases merged
  have spec := groupEvents_spec sessions read
  refine groupMerged_of_loop spec target ?_
  refine foldlM_passed (GroupLoop jsonExtract component session db) folded .initial ?_
  rintro before event after split ⟨current, canonicalEvents⟩ next loop step
  obtain ⟨row, stored, own, readRow⟩ := spec.stored event (by rw [split]; simp)
  have fresh : event.id ∉ before.map (·.id) := by
    have distinct := spec.distinct
    rw [split, List.map_append, List.map_cons] at distinct
    intro inside
    exact (List.nodup_append'.mp distinct).2.2 inside List.mem_cons_self
  unfold mergeGroupEvent at step
  dsimp only at step
  split at step
  next existing found =>
      obtain ⟨identity, identified, found⟩ := Option.bind_eq_some_iff.mp found
      obtain ⟨changed, done, step⟩ := bind_eq_ok.mp step
      cases step
      exact loop.merge stored own readRow fresh identified found (Database.execute_eq_ok done).1
  next missing =>
      obtain ⟨changed, done, step⟩ := bind_eq_ok.mp step
      cases step
      refine loop.move stored own readRow fresh target (Database.execute_eq_ok done).1 ?_ ?_
      · intro key
        cases identified : eventIdentity event with
        | none => rw [if_neg (by simp)]
        | some identity =>
            by_cases here : key = identity
            · rw [if_pos (by rw [here]), here]
              exact List.lookup_cons_self
            · rw [if_neg fun same => here (Option.some.inj same).symm]
              dsimp only
              rw [List.lookup_cons, beq_eq_false_iff_ne.mpr here]
      · intro key identified
        rw [identified] at missing
        exact missing

/-- The merge of a component of sessions does to the events what the merge of their events does. -/
theorem groupMerged_mergeSessionGroup {jsonExtract : JsonExtract} {now : Int}
    {state next : Database × List Uuid} {first : SessionCandidate} {rest : List SessionCandidate}
    (sessions : ((first :: rest).map (·.id)).Nodup)
    (merged : mergeSessionGroup jsonExtract now state (first :: rest) = .ok next)
    : GroupMerged jsonExtract (first :: rest) (canonicalSession first rest).id state.1 next.1 := by
  obtain ⟨copied, done, merged⟩ := bind_eq_ok.mp merged
  obtain ⟨⟨moved, affected⟩, movedEvents, merged⟩ := bind_eq_ok.mp merged
  obtain ⟨cleared, doneDuplicates, merged⟩ := bind_eq_ok.mp merged
  obtain ⟨last, doneSource, merged⟩ := bind_eq_ok.mp merged
  cases merged
  have copiedSame : EventsSame state.1 copied := by
    unfold mergeCanonicalSessionState at done
    split at done
    next => cases done
    next =>
        rw [(Database.execute_eq_ok done).1]
        exact ⟨rfl, rfl⟩
  have clearedSame : EventsSame moved cleared := by
    rw [(Database.execute_eq_ok doneDuplicates).1]
    refine eventsSame_foldl (fun statement member => ?_) moved
    obtain ⟨duplicate, -, listed⟩ := List.mem_flatMap.mp member
    exact eventsSame_mergeDuplicate _ _ now statement listed
  have lastSame : EventsSame cleared last := by
    rw [(Database.execute_eq_ok doneSource).1]
    exact ⟨rfl, rfl⟩
  have group := groupMerged_mergeGroupEvents sessions
    ⟨canonicalSession first rest, minByKey_mem _ _ _, rfl⟩ movedEvents
  have lastEvents : last.events = moved.events := lastSame.1.trans clearedSame.1
  exact {
    kept := ((EventsKept.of_eq jsonExtract copiedSame.1 copiedSame.2).trans group.kept).trans
      (.of_eq jsonExtract lastEvents (lastSame.2.trans clearedSame.2))
    outside := by
      intro row apart
      rw [lastEvents, group.outside row apart, copiedSame.1]
    unique := by
      intro identity present
      rw [← copiedSame.1] at present
      rw [lastEvents]
      exact group.unique identity present }

end CtxRemote.Schema
