import CtxRemote.Turso.KeyIntegrity
import CtxRemote.Turso.ProjectCompleteness
import CtxRemote.Turso.Search

/-! What the projection discloses. `project` copies the live events of a snapshot; `push` copies what
`remote_export_allowed` lets pass, which looks at the visibility and the sync state of an event, and
not at its deletion.

A ledger keeps, beside the projection, which event each stored row was copied from.
-/

namespace CtxRemote.Turso
open CtxRemote.Library

-----------------------------------------------------------------------------------------
-- Stores with deleted events
-----------------------------------------------------------------------------------------

/-- A stored local event, with its deletion. -/
structure StoredEvent extends Event where
  deletedAtMs : Option Int
deriving DecidableEq, Repr

/-- An event that is deleted or withheld. -/
def StoredEvent.hidden (event : StoredEvent) : Bool :=
  event.deletedAtMs.isSome || event.visibility = .withheld || event.syncState = .withheld

/-- The content of a local store. -/
structure StoreContent where
  sessions : List StoredSession
  captureSources : List StoredCaptureSource
  events : List StoredEvent
  ordered : Ascending (fun event : StoredEvent => event.id) events

/-- What `push` reads of a store: `list_events_page_after` selects deleted events as well. -/
def StoreContent.localStore (content : StoreContent) : LocalStore where
  sessions := content.sessions
  captureSources := content.captureSources
  events := content.events.map (·.toEvent)
  ordered := by
    unfold Ascending
    rw [List.pairwise_map]
    exact content.ordered

/-- One step of one process, with the contents of the stores that it reads. -/
inductive StoreAction
  | startPush (content : StoreContent) (args : PushArgs)
  | readPage (content : StoreContent)
  | sendPage
  | startProject (args : ProjectArgs)
  | readMax
  | sendProject
  | compareMax
  | stop

def StoreAction.action : StoreAction → Action
  | startPush content args => .startPush content.localStore args
  | readPage content => .readPage content.localStore
  | sendPage => .sendPage
  | startProject args => .startProject args
  | readMax => .readMax
  | sendProject => .sendProject
  | compareMax => .compareMax
  | stop => .stop

-----------------------------------------------------------------------------------------
-- The ledger
-----------------------------------------------------------------------------------------

/-- The event that a row was copied from. -/
inductive Original
  | stored (event : StoredEvent)
  | snapshot (event : SnapshotEvent)

/-- The payload of an event. -/
def Original.payloadJson : Original → String
  | stored event => event.payloadJson
  | snapshot event => event.payloadJson

/-- Whether the event is hidden where it was copied. The `CHECK` constraints of `events` admit no
withheld event in a snapshot.
-/
def Original.hidden : Original → Bool
  | stored event => event.hidden
  | snapshot event => event.deletedAtMs.isSome

/-- The world, the events that each process has read last, and the original of each stored id. -/
structure Ledger (Machine : Type) where
  world : World Machine
  events : Machine → List StoredEvent
  original : String → Option Original

namespace Ledger

variable {Machine : Type}

/-- The fresh schema. -/
def init (snapshot : Option Snapshot) : Ledger Machine := ⟨.init snapshot, fun _ => [], fun _ => none⟩

/-- What the batch that a process sends copies an id from. -/
def batchOriginal (ledger : Ledger Machine) (machine : Machine) (id : String)
    : StoreAction → Option Original
  | .sendPage => ((ledger.events machine).find? (·.id = id)).map .stored
  | .sendProject =>
      (ledger.world.db.snapshot.bind fun snapshot => snapshot.events.find? (·.id = id)).map .snapshot
  | _ => none

/-- A step of the world; an id that it stores gets its original. -/
def step [DecidableEq Machine] (ledger : Ledger Machine) (label : Machine × StoreAction) : Option (Ledger Machine) :=
  (ledger.world.step (label.1, label.2.action)).map fun next =>
    { world := next
      events :=
        match label.2 with
        | .readPage content => Function.update ledger.events label.1 content.events
        | _ => ledger.events
      original := fun id =>
        (ledger.original id).or
          (if next.db.projection.Stored id then ledger.batchOriginal label.1 id label.2 else none) }

/-- The text is the payload of the original of an id, and that is not hidden. -/
def fromVisible (ledger : Ledger Machine) (id text : String) : Bool :=
  (ledger.original id).any fun original => original.payloadJson = text && !original.hidden

/-- Every text in the projection is the payload of an event that is not hidden. -/
def PolicyKept (ledger : Ledger Machine) : Prop :=
  (∀ row ∈ ledger.world.db.projection.events.rows,
    ledger.fromVisible row.eventId row.payloadJson = true
    ∧ ledger.fromVisible row.eventId row.searchText = true)
  ∧ ∀ row ∈ ledger.world.db.projection.search, ledger.fromVisible row.eventId row.searchText = true

instance (ledger : Ledger Machine) : Decidable ledger.PolicyKept :=
  inferInstanceAs (Decidable (_ ∧ _))

/-- A batch of `push` carries no deleted event. -/
def SendsLive (ledger : Ledger Machine) (label : Machine × StoreAction) : Prop :=
  label.2 = .sendPage →
    ∀ page, ledger.world.process label.1 = .pushRead page →
      ∀ event ∈ ledger.events label.1,
        event.toEvent ∈ page.events → page.exported event.toEvent = true → event.deletedAtMs = none

/-- Such a batch carries no hidden event: `remote_export_allowed` lets no withheld event pass. -/
theorem SendsLive.shown {ledger : Ledger Machine} {machine : Machine}
    (live : ledger.SendsLive (machine, .sendPage)) {page : PushPage}
    (inHand : ledger.world.process machine = .pushRead page)
    : ∀ event ∈ ledger.events machine,
        event.toEvent ∈ page.events → page.exported event.toEvent = true → event.hidden = false := by
  intro event inside listed exported
  have alive := live rfl page inHand event inside listed exported
  simp only [PushPage.exported, remoteExportAllowed, Bool.and_eq_true] at exported
  simp only [StoredEvent.hidden, alive]
  grind

-----------------------------------------------------------------------------------------
-- Originals
-----------------------------------------------------------------------------------------

/-- The state of a ledger that has kept the policy: an id has an original as long as it is stored,
and the page that a process has in hand lists events that it has read.
-/
structure Kept (ledger : Ledger Machine) : Prop where
  policy : ledger.PolicyKept
  stored : ∀ id, (ledger.original id).isSome → ledger.world.db.projection.Stored id
  pages
    : ∀ machine page,
        ledger.world.process machine = .pushRead page
        → ∀ event ∈ page.events, ∃ held ∈ ledger.events machine, held.toEvent = event
  ordered : ∀ machine, Ascending (fun event : StoredEvent => event.id) (ledger.events machine)

theorem Kept.init (snapshot : Option Snapshot) : (Ledger.init snapshot : Ledger Machine).Kept where
  policy := ⟨by simp [Ledger.init, World.init, Projection.empty, Table.empty],
    by simp [Ledger.init, World.init, Projection.empty]⟩
  stored := by simp [Ledger.init]
  pages := by simp [Ledger.init, World.init]
  ordered := fun _ => List.Pairwise.nil

/-- A found element is the one with its id, in a list that is ordered by ids. -/
theorem find_of_ascending {Row : Type} {key : Row → String} {rows : List Row} {row : Row}
    (ordered : Ascending key rows) (member : row ∈ rows)
    : rows.find? (key · = key row) = some row := by
  induction rows with
  | nil => cases member
  | cons first rest ih =>
      obtain ⟨before, later⟩ := List.pairwise_cons.mp ordered
      rcases List.mem_cons.mp member with rfl | member
      · simp
      · have other : key first ≠ key row := ne_of_lt (before row member)
        rw [List.find?_cons_of_neg (by simpa using other)]
        exact ih later member

/-- A batch that adds only rows that were copied from visible events keeps the policy: the originals
of stored ids stay, and each text in the full-text table is that of an event row.
-/
theorem policyKept_of_added {ledger next : Ledger Machine} (batch : List EventRow)
    (kept : ledger.Kept)
    (grown
      : ∀ row ∈ next.world.db.projection.events,
          row ∈ ledger.world.db.projection.events ∨ row ∈ batch)
    (held
      : ∀ row ∈ ledger.world.db.projection.events, row ∈ next.world.db.projection.events)
    (texts
      : ∀ row ∈ next.world.db.projection.search,
          row ∈ ledger.world.db.projection.search
          ∨ ∃ event ∈ next.world.db.projection.events, event.searchRow = row)
    (stays : ∀ id, (ledger.original id).isSome → next.original id = ledger.original id)
    (visible
      : ∀ row ∈ batch,
          row ∈ next.world.db.projection.events
          → ¬ ledger.world.db.projection.Stored row.eventId
          → next.fromVisible row.eventId row.payloadJson = true
            ∧ next.fromVisible row.eventId row.searchText = true)
    : next.PolicyKept := by
  have still (id text : String) (before : ledger.fromVisible id text = true)
      : next.fromVisible id text = true := by
    unfold fromVisible at *
    cases original : ledger.original id with
    | none =>
        rw [original] at before
        cases before
    | some source =>
        rw [stays id (by simp [original])]
        exact before
  have rows
      : ∀ row ∈ next.world.db.projection.events.rows,
          next.fromVisible row.eventId row.payloadJson = true
          ∧ next.fromVisible row.eventId row.searchText = true := by
    intro row member
    rcases grown row member with old | new
    · exact (kept.policy.1 row old).imp (still _ _) (still _ _)
    · by_cases stored : ledger.world.db.projection.Stored row.eventId
      · obtain ⟨other, inside, same⟩ := stored
        obtain rfl := Projection.eq_of_eventId (held other inside) member same
        exact (kept.policy.1 other inside).imp (still _ _) (still _ _)
      · exact visible row new member stored
  refine ⟨rows, fun row member => ?_⟩
  rcases texts row member with old | ⟨event, inside, rfl⟩
  · exact still _ _ (kept.policy.2 row old)
  · exact (rows event inside).2

section Steps

variable [DecidableEq Machine]

/-- What a step does to the originals. -/
theorem original_step {ledger next : Ledger Machine} {label : Machine × StoreAction}
    (taken : ledger.step label = some next) (id : String)
    : next.original id
      = (ledger.original id).or
          (if next.world.db.projection.Stored id then ledger.batchOriginal label.1 id label.2
            else none) := by
  obtain ⟨world, -, rfl⟩ := Option.map_eq_some_iff.mp taken
  rfl

theorem world_step {ledger next : Ledger Machine} {label : Machine × StoreAction}
    (taken : ledger.step label = some next)
    : ledger.world.step (label.1, label.2.action) = some next.world := by
  obtain ⟨world, stepped, rfl⟩ := Option.map_eq_some_iff.mp taken
  exact stepped

/-- An id that a batch stores first has its original from the batch. -/
theorem fromVisible_of_new {ledger next : Ledger Machine} {label : Machine × StoreAction}
    (kept : ledger.Kept) (taken : ledger.step label = some next) {row : EventRow}
    {original : Original} (member : row ∈ next.world.db.projection.events)
    (fresh : ¬ ledger.world.db.projection.Stored row.eventId)
    (source : ledger.batchOriginal label.1 row.eventId label.2 = some original)
    (visible : original.hidden = false) {text : String} (same : original.payloadJson = text)
    : next.fromVisible row.eventId text = true := by
  have unknown : ledger.original row.eventId = none := by
    rw [← Option.not_isSome_iff_eq_none]
    exact fun known => fresh (kept.stored _ known)
  have stored : next.world.db.projection.Stored row.eventId := ⟨row, member, rfl⟩
  unfold fromVisible
  rw [original_step taken, unknown, if_pos stored, source]
  simp [visible, same]

/-- A step keeps the facts about originals and pages. -/
theorem Kept.step_frame {ledger next : Ledger Machine} {label : Machine × StoreAction}
    (kept : ledger.Kept) (taken : ledger.step label = some next) (policy : next.PolicyKept)
    : next.Kept where
  policy := policy
  stored := by
    intro id known
    rw [original_step taken, Option.isSome_or, Bool.or_eq_true] at known
    rcases known with old | new
    · obtain ⟨row, member, same⟩ := kept.stored id old
      exact ⟨row, World.step_keeps_events (world_step taken) member, same⟩
    · split at new
      next here => exact here
      next => cases new
  pages := by
    obtain ⟨machine, action⟩ := label
    intro other page inHand event member
    obtain ⟨world, stepped, rfl⟩ := Option.map_eq_some_iff.mp taken
    rcases World.step_pushRead stepped inHand with before | ⟨run, store, rfl, reads, -, read⟩
    · obtain ⟨held, inside, same⟩ := kept.pages other page before event member
      cases action with
      | readPage content =>
          -- A process with a page in hand reads none.
          have others : other ≠ machine := by
            rintro rfl
            simp only [World.step, before] at stepped
            cases stepped
          exact ⟨held, by simpa [Function.update_of_ne others] using inside, same⟩
      | _ => exact ⟨held, inside, same⟩
    · cases action with
      | readPage content =>
          obtain rfl : content.localStore = store := by simpa [StoreAction.action] using reads
          obtain ⟨size, -, read⟩ := Option.bind_eq_some_iff.mp read
          obtain ⟨last, -, rfl⟩ := Option.map_eq_some_iff.mp read
          have listed : event ∈ rowsAfter Event.id run.afterId content.localStore.events :=
            List.mem_of_mem_take member
          obtain ⟨held, inside, same⟩ := List.mem_map.mp (rowsAfter_subset _ _ listed)
          exact ⟨held, by simpa using inside, same⟩
      | _ => cases reads
  ordered := by
    obtain ⟨machine, action⟩ := label
    intro other
    obtain ⟨world, -, rfl⟩ := Option.map_eq_some_iff.mp taken
    cases action with
    | readPage content =>
        by_cases here : other = machine
        · subst here
          simpa using content.ordered
        · simpa [Function.update_of_ne here] using kept.ordered other
    | _ => exact kept.ordered other

/-- A step whose batch carries no deleted event keeps the policy. -/
theorem Kept.step {ledger next : Ledger Machine} {label : Machine × StoreAction}
    (kept : ledger.Kept) (live : ledger.SendsLive label)
    (taken : ledger.step label = some next)
    : next.Kept := by
  refine kept.step_frame taken ?_
  have stays (id : String) (known : (ledger.original id).isSome)
      : next.original id = ledger.original id := by
    rw [original_step taken, Option.or_of_isSome known]
  obtain ⟨machine, action⟩ := label
  obtain same | ⟨page, sends, inHand, same⟩ | ⟨args, projected, after, snapshot, sends, -, present, same⟩ :=
    World.step_projection (world_step taken)
  · refine policyKept_of_added [] kept ?_ ?_ ?_ stays (by simp) <;> rw [same]
    · exact fun row member => .inl member
    · exact fun row member => member
    · exact fun row member => .inl member
  · obtain rfl : action = .sendPage := by cases action <;> first | rfl | cases sends
    obtain ⟨untouched, added, rows, fromPage⟩ :=
      Projection.exportEvents_append ledger.world.db.projection page.rows
    have grown (row : EventRow)
        : row ∈ next.world.db.projection.events
          ↔ row ∈ ledger.world.db.projection.events ∨ row ∈ added := by
      rw [same, Table.mem_def, Projection.commitBatch_events, rows, List.mem_append]
      rfl
    refine policyKept_of_added page.rows kept
      (fun row member => ((grown row).mp member).imp_right (fromPage row))
      (fun row member => (grown row).mpr (.inl member)) ?_ stays ?_
    · intro row member
      rw [same] at member ⊢
      unfold Projection.commitBatch at member ⊢
      split at member
      next => exact .inl member
      next some' =>
          rw [if_neg some']
          rcases List.mem_append.mp member with old | new
          · left
            rw [← untouched]
            exact List.mem_of_mem_filter old
          · right
            obtain ⟨event, inside, rfl⟩ := List.mem_map.mp new
            exact ⟨event, List.mem_of_mem_filter inside, rfl⟩
    · intro row member stored fresh
      obtain ⟨event, listed, rfl⟩ := List.mem_map.mp member
      obtain ⟨inPage, exported⟩ := List.mem_filter.mp listed
      obtain ⟨held, inside, rfl⟩ := kept.pages machine page inHand event inPage
      have found : ledger.batchOriginal machine (exportRow page.run.context held.toEvent).eventId
          .sendPage = some (.stored held) := by
        simp only [batchOriginal]
        rw [show (exportRow page.run.context held.toEvent).eventId = held.id from rfl,
          find_of_ascending (kept.ordered machine) inside]
        rfl
      have shown := live.shown inHand held inside inPage exported
      exact ⟨fromVisible_of_new kept taken stored fresh found shown rfl,
        fromVisible_of_new kept taken stored fresh found shown rfl⟩
  · obtain rfl : action = .sendProject := by cases action <;> first | rfl | cases sends
    have grown (row : EventRow) (member : row ∈ next.world.db.projection.events)
        : row ∈ ledger.world.db.projection.events
          ∨ row ∈ snapshot.projectPage after args.batchSize := by
      rw [same] at member
      exact Table.mem_or_mem_of_mem_insertAll member
    refine policyKept_of_added (snapshot.projectPage after args.batchSize) kept grown
      (fun row member => by rw [same]; exact Table.mem_insertAll_of_mem member) ?_ stays ?_
    · intro row member
      rw [same] at member ⊢
      rcases List.mem_append.mp member with old | new
      · exact .inl old
      · obtain ⟨event, taken', rfl⟩ := List.mem_map.mp new
        have inside := List.mem_of_mem_filter (mem_orderBy.mp (List.mem_of_mem_take taken'))
        exact .inr ⟨event, inside, rfl⟩
    · intro row member stored fresh
      obtain ⟨-, -, event, live, rfl⟩ := Snapshot.mem_projectPage member
      obtain ⟨inside, alive⟩ := List.mem_filter.mp live
      have found : ledger.batchOriginal machine (snapshot.projectRow event).eventId .sendProject
          = some (.snapshot event) := by
        simp only [batchOriginal, present, Option.bind_some]
        rw [show (snapshot.projectRow event).eventId = event.id from rfl,
          find_of_ascending snapshot.ordered inside]
        rfl
      have shown : (Original.snapshot event).hidden = false := by
        simpa [Original.hidden] using alive
      exact ⟨fromVisible_of_new kept taken stored fresh found shown rfl,
        fromVisible_of_new kept taken stored fresh found shown rfl⟩

end Steps

end Ledger

-----------------------------------------------------------------------------------------
-- Other payloads
-----------------------------------------------------------------------------------------

/-- An event with another payload, if it is hidden. -/
def StoredEvent.withPayload (payload : StoredEvent → String) (event : StoredEvent) : StoredEvent :=
  if event.hidden then { event with payloadJson := payload event } else event

@[simp] theorem StoredEvent.withPayload_id (payload : StoredEvent → String) (event : StoredEvent)
    : (event.withPayload payload).id = event.id := by
  unfold withPayload
  split <;> rfl

/-- The keys of an event, and whether it may be exported, are a matter of its other fields. -/
theorem StoredEvent.withPayload_same (payload : StoredEvent → String) (event : StoredEvent)
    : (event.withPayload payload).toEvent
      = { event.toEvent with payloadJson := (event.withPayload payload).payloadJson } := by
  unfold withPayload
  split <;> rfl

/-- A store whose hidden events have other payloads. -/
def StoreContent.withPayloads (payload : StoredEvent → String) (content : StoreContent)
    : StoreContent where
  sessions := content.sessions
  captureSources := content.captureSources
  events := content.events.map (·.withPayload payload)
  ordered := by
    unfold Ascending
    rw [List.pairwise_map]
    refine content.ordered.imp fun before => ?_
    simpa only [StoredEvent.withPayload_id] using before

/-- A step that reads such a store. -/
def StoreAction.withPayloads (payload : StoredEvent → String) : StoreAction → StoreAction
  | startPush content args => .startPush (content.withPayloads payload) args
  | readPage content => .readPage (content.withPayloads payload)
  | action => action

/-- A snapshot whose deleted events have other payloads. -/
def Snapshot.withPayloads (payload : SnapshotEvent → String) (snapshot : Snapshot) : Snapshot where
  sessions := snapshot.sessions
  events :=
    snapshot.events.map fun event =>
      if event.deletedAtMs.isSome then { event with payloadJson := payload event } else event
  eventSearch := snapshot.eventSearch
  ordered := by
    unfold Ascending
    rw [List.pairwise_map]
    refine snapshot.ordered.imp fun before => ?_
    split <;> split <;> exact before

/-- The rows of a project batch come from live events. -/
theorem Snapshot.projectPage_withPayloads (payload : SnapshotEvent → String) (snapshot : Snapshot)
    (after : Option String) (batchSize : Nat)
    : (snapshot.withPayloads payload).projectPage after batchSize
      = snapshot.projectPage after batchSize := by
  have live : (snapshot.withPayloads payload).live = snapshot.live := by
    unfold Snapshot.live Snapshot.withPayloads
    dsimp only
    induction snapshot.events with
    | nil => rfl
    | cons event rest ih =>
        rw [List.map_cons, List.filter_cons, List.filter_cons, ih]
        cases deleted : event.deletedAtMs <;> simp [deleted]
  unfold Snapshot.projectPage
  rw [live]
  rfl

/-- Two pages of the same events, those that are hidden with other payloads. -/
structure PageAlike (held : List StoredEvent) (page other : PushPage) : Prop where
  run : other.run = page.run
  last : other.last.id = page.last.id
  known : other.knownDedupeKeys = page.knownDedupeKeys
  events
    : ∃ (listed : List StoredEvent) (payload : StoredEvent → String),
        (∀ event ∈ listed, event ∈ held)
        ∧ page.events = listed.map (·.toEvent)
        ∧ other.events = (listed.map (·.withPayload payload)).map (·.toEvent)

/-- Pages alike send the same rows, if no hidden event is among them. -/
theorem PageAlike.rows {held : List StoredEvent} {page other : PushPage}
    (alike : PageAlike held page other)
    (visible
      : ∀ event ∈ held,
          event.toEvent ∈ page.events → page.exported event.toEvent = true → event.hidden = false)
    : other.rows = page.rows := by
  obtain ⟨listed, payload, inside, left, right⟩ := alike.events
  have exported (event : StoredEvent)
      : other.exported (event.withPayload payload).toEvent = page.exported event.toEvent := by
    unfold PushPage.exported
    rw [alike.run, alike.known, StoredEvent.withPayload_same]
    rfl
  unfold PushPage.rows
  rw [left, right, alike.run, List.filter_map, List.filter_map, List.filter_map, List.map_map,
    List.map_map, List.map_map]
  have kept : ((other.exported ∘ fun event : StoredEvent => event.toEvent)
        ∘ fun event : StoredEvent => event.withPayload payload)
      = page.exported ∘ fun event : StoredEvent => event.toEvent :=
    funext exported
  rw [kept]
  refine List.map_congr_left fun event member => ?_
  obtain ⟨member, passes⟩ := List.mem_filter.mp member
  have shown := visible event (inside event member)
    (by rw [left]; exact List.mem_map_of_mem member) passes
  simp [StoredEvent.withPayload, shown]

/-- Pages alike leave the same cursor, where they send the same rows. -/
theorem PageAlike.next {held : List StoredEvent} {page other : PushPage}
    (alike : PageAlike held page other) (rows : other.rows = page.rows)
    : other.next = page.next := by
  obtain ⟨listed, payload, -, left, right⟩ := alike.events
  have long : other.events.length = page.events.length := by rw [left, right]; simp
  unfold PushPage.next
  rw [rows, alike.run, alike.last, long]

/-- Reading a page of a store whose hidden events have other payloads. -/
theorem readPage_alike (run : PushRun) (content : StoreContent) (payload : StoredEvent → String)
    (db : Projection)
    : (run.readPage content.localStore db = none
        → run.readPage (content.withPayloads payload).localStore db = none)
      ∧ ∀ page, run.readPage content.localStore db = some page →
          ∃ other,
            run.readPage (content.withPayloads payload).localStore db = some other
            ∧ PageAlike content.events page other := by
  unfold PushRun.readPage
  cases run.pageSize with
  | none => simp
  | some size =>
      let listed := (rowsAfter (fun event : StoredEvent => event.id) run.afterId
        content.events).take size
      have left : content.localStore.listEventsPageAfter run.afterId size
          = listed.map (·.toEvent) := by
        unfold LocalStore.listEventsPageAfter StoreContent.localStore
        rw [rowsAfter_map, List.map_take]
      have right : (content.withPayloads payload).localStore.listEventsPageAfter run.afterId size
          = (listed.map (·.withPayload payload)).map (·.toEvent) := by
        unfold LocalStore.listEventsPageAfter StoreContent.localStore StoreContent.withPayloads
        dsimp only
        rw [rowsAfter_map, rowsAfter_map, List.map_take, List.map_take]
        simp only [StoredEvent.withPayload_id]
      have candidates
          : ((listed.map (·.withPayload payload)).map (·.toEvent)).filterMap
              (remoteDedupeCandidate run.context)
            = (listed.map (·.toEvent)).filterMap (remoteDedupeCandidate run.context) := by
        rw [List.filterMap_map, List.filterMap_map, List.filterMap_map]
        refine List.filterMap_congr fun event _ => ?_
        rw [Function.comp_apply, Function.comp_apply, StoredEvent.withPayload_same]
        rfl
      simp only [Option.bind_some, left, right, candidates]
      rw [List.getLast?_map, List.getLast?_map, List.getLast?_map]
      cases ends : listed.getLast? with
      | none => simp
      | some last =>
          simp only [Option.map_some]
          refine ⟨fun ended => ?_, fun page here => ⟨_, rfl, ?_⟩⟩
          · cases ended
          obtain rfl := Option.some.inj here
          exact {
            run := rfl
            last := by simp
            known := rfl
            events := ⟨listed, payload,
              fun event member => rowsAfter_subset _ _ (List.mem_of_mem_take member), rfl, rfl⟩ }

-----------------------------------------------------------------------------------------
-- Two runs
-----------------------------------------------------------------------------------------

/-- Two processes at one point, with pages alike in hand. -/
inductive ProcessAlike (held : List StoredEvent) : Process → Process → Prop
  | same (process : Process) : ProcessAlike held process process
  | page {page other : PushPage} (alike : PageAlike held page other)
      : ProcessAlike held (.pushRead page) (.pushRead other)

namespace Ledger

variable {Machine : Type}

/-- Two worlds with one projection, whose snapshots and pages differ in hidden payloads. -/
structure Alike (ledger other : Ledger Machine) : Prop where
  projection : other.world.db.projection = ledger.world.db.projection
  snapshot
    : ∃ payload,
        other.world.db.snapshot = ledger.world.db.snapshot.map (Snapshot.withPayloads payload)
  process
    : ∀ machine,
        ProcessAlike (ledger.events machine) (ledger.world.process machine)
          (other.world.process machine)

theorem Alike.init (payload : SnapshotEvent → String) (snapshot : Option Snapshot)
    : (Ledger.init snapshot : Ledger Machine).Alike
        (Ledger.init (snapshot.map (Snapshot.withPayloads payload))) where
  projection := rfl
  snapshot := ⟨payload, rfl⟩
  process := fun _ => .same _

/-- The events that a process has read last, after an action. -/
def eventsRead (ledger : Ledger Machine) (machine : Machine) : StoreAction → List StoredEvent
  | .readPage content => content.events
  | _ => ledger.events machine

variable [DecidableEq Machine]

/-- Two actions that take a process to the same point, and leave one projection. -/
def Answered (ledger other : Ledger Machine) (machine : Machine) (action answer : StoreAction)
    : Prop :=
  ∃ process reply after,
    ledger.world.step (machine, action.action)
      = some ((ledger.world.withProjection after).goto machine process)
    ∧ other.world.step (machine, answer.action)
      = some ((other.world.withProjection after).goto machine reply)
    ∧ ProcessAlike (ledger.eventsRead machine action) process reply

/-- Two actions that leave the projection as it is. -/
theorem Alike.answered_of_goto {ledger other : Ledger Machine} (alike : ledger.Alike other)
    {machine : Machine} {action answer : StoreAction} (process reply : Process)
    (here : ledger.world.step (machine, action.action) = some (ledger.world.goto machine process))
    (there : other.world.step (machine, answer.action) = some (other.world.goto machine reply))
    (points : ProcessAlike (ledger.eventsRead machine action) process reply)
    : ledger.Answered other machine action answer := by
  refine ⟨process, reply, ledger.world.db.projection, here, ?_, points⟩
  rw [there, ← alike.projection]
  rfl

/-- The page that a push reads. -/
theorem Alike.answered_readPage {ledger other : Ledger Machine} (alike : ledger.Alike other)
    {machine : Machine} {content : StoreContent} {run : PushRun}
    (payload : StoredEvent → String) (here : ledger.world.process machine = .push run)
    (there : other.world.process machine = .push run)
    : ledger.Answered other machine (.readPage content)
        (.readPage (content.withPayloads payload)) := by
  obtain ⟨ended, found⟩ := readPage_alike run content payload ledger.world.db.projection
  cases read : run.readPage content.localStore ledger.world.db.projection with
  | none =>
      refine alike.answered_of_goto .idle .idle ?_ ?_ (.same _)
      · simp only [World.step, StoreAction.action, here, read]
      · simp only [World.step, StoreAction.action, there, alike.projection, ended read]
  | some page =>
      obtain ⟨answer, answered, points⟩ := found page read
      refine alike.answered_of_goto (.pushRead page) (.pushRead answer) ?_ ?_ (.page points)
      · simp only [World.step, StoreAction.action, here, read]
      · simp only [World.step, StoreAction.action, there, alike.projection, answered]

/-- The page that a push sends. -/
theorem Alike.answered_sendPage {ledger other : Ledger Machine} (alike : ledger.Alike other)
    {machine : Machine} {page answer : PushPage}
    (here : ledger.world.process machine = .pushRead page)
    (there : other.world.process machine = .pushRead answer)
    (rows : answer.rows = page.rows) (next : answer.next = page.next)
    : ledger.Answered other machine .sendPage .sendPage := by
  refine ⟨.push page.next, .push page.next, ledger.world.db.projection.commitBatch page.rows, ?_,
    ?_, .same _⟩
  · simp only [World.step, StoreAction.action, here]
    rfl
  · simp only [World.step, StoreAction.action, there, alike.projection, PushPage.commit, rows, next]

/-- The page that a project sends: it comes from live events. -/
theorem Alike.answered_sendProject {ledger other : Ledger Machine} (alike : ledger.Alike other)
    {machine : Machine} {args : ProjectArgs} {projected : Nat} {after : Option String}
    {snapshot : Snapshot}
    (present : ledger.world.db.snapshot = some snapshot)
    (here : ledger.world.process machine = .projectRead args projected after)
    (there : other.world.process machine = .projectRead args projected after)
    : ledger.Answered other machine .sendProject .sendProject := by
  obtain ⟨payload, snapshots⟩ := alike.snapshot
  refine ⟨.projectSent args projected after, .projectSent args projected after,
    ledger.world.db.projection.projectBatch snapshot after args.batchSize, ?_, ?_, .same _⟩
  · simp only [World.step, StoreAction.action, here, present, Option.map_some]
  · have batch
        : ledger.world.db.projection.projectBatch (snapshot.withPayloads payload) after args.batchSize
          = ledger.world.db.projection.projectBatch snapshot after args.batchSize := by
      unfold Projection.projectBatch
      rw [Snapshot.projectPage_withPayloads]
    simp only [World.step, StoreAction.action, there, snapshots, present, alike.projection,
      Option.map_some, batch]

/-- An action whose batch carries no deleted event is answered by the same action on other payloads. -/
theorem Alike.answered {ledger other : Ledger Machine} {world : World Machine}
    (alike : ledger.Alike other) {machine : Machine} {action : StoreAction}
    (payload : StoredEvent → String) (live : ledger.SendsLive (machine, action))
    (taken : ledger.world.step (machine, action.action) = some world)
    : ledger.Answered other machine action (action.withPayloads payload) := by
  have processes := alike.process machine
  generalize here : ledger.world.process machine = process at processes
  generalize there : other.world.process machine = reply at processes
  cases processes with
  | page points =>
      -- Only a send or a stop goes on from a page in hand.
      cases action with
      | sendPage =>
          have rows := points.rows (live.shown here)
          exact alike.answered_sendPage here there rows (points.next rows)
      | stop =>
          refine alike.answered_of_goto .idle .idle ?_ ?_ (.same _)
          · simp only [World.step, StoreAction.action, here]
          · simp only [World.step, StoreAction.action, StoreAction.withPayloads, there]
      | _ => simp [World.step, StoreAction.action, here] at taken
  | same =>
      cases action with
      | stop =>
          refine alike.answered_of_goto .idle .idle ?_ ?_ (.same _)
          · cases process <;> simp only [World.step, StoreAction.action, here]
          · cases process <;>
              simp only [World.step, StoreAction.action, StoreAction.withPayloads, there]
      | startPush content args =>
          cases process with
          | idle =>
              refine alike.answered_of_goto (.push (.start content.localStore args))
                (.push (.start content.localStore args)) ?_ ?_ (.same _)
              · simp only [World.step, StoreAction.action, here]
              · simp only [World.step, StoreAction.action, StoreAction.withPayloads, there]
                rfl
          | _ => simp [World.step, StoreAction.action, here] at taken
      | readPage content =>
          cases process with
          | push run => exact alike.answered_readPage payload here there
          | _ => simp [World.step, StoreAction.action, here] at taken
      | sendPage =>
          cases process with
          | pushRead page => exact alike.answered_sendPage here there rfl rfl
          | _ => simp [World.step, StoreAction.action, here] at taken
      | startProject args =>
          cases process with
          | idle =>
              have present : ledger.world.db.snapshot.isSome = true := by
                by_contra absent
                simp [World.step, StoreAction.action, here, absent] at taken
              obtain ⟨payloads, snapshots⟩ := alike.snapshot
              refine alike.answered_of_goto (.project args 0) (.project args 0) ?_ ?_ (.same _)
              · simp only [World.step, StoreAction.action, here, present, if_true]
              · simp only [World.step, StoreAction.action, StoreAction.withPayloads, there, snapshots,
                  Option.isSome_map, present, if_true]
          | _ => simp [World.step, StoreAction.action, here] at taken
      | readMax =>
          cases process with
          | project args projected =>
              by_cases continues : args.continues projected = true
              · let read : Process :=
                  .projectRead args projected ledger.world.db.projection.remoteMaxEventId
                refine alike.answered_of_goto read read ?_ ?_ (.same _)
                · simp only [World.step, StoreAction.action, here, continues, if_true, read]
                · simp only [World.step, StoreAction.action, StoreAction.withPayloads, there,
                    continues, alike.projection, if_true, read]
              · refine alike.answered_of_goto .idle .idle ?_ ?_ (.same _)
                · simp only [World.step, StoreAction.action, here, if_neg continues]
                · simp only [World.step, StoreAction.action, StoreAction.withPayloads, there,
                    if_neg continues]
          | _ => simp [World.step, StoreAction.action, here] at taken
      | sendProject =>
          cases process with
          | projectRead args projected after =>
              cases present : ledger.world.db.snapshot with
              | none => simp [World.step, StoreAction.action, here, present] at taken
              | some snapshot => exact alike.answered_sendProject present here there
          | _ => simp [World.step, StoreAction.action, here] at taken
      | compareMax =>
          cases process with
          | projectSent args projected after =>
              by_cases ended : ledger.world.db.projection.remoteMaxEventId = after
              · refine alike.answered_of_goto .idle .idle ?_ ?_ (.same _)
                · simp only [World.step, StoreAction.action, here, if_pos ended]
                · simp only [World.step, StoreAction.action, StoreAction.withPayloads, there,
                    alike.projection, if_pos ended]
              · let again : Process := .project args (projected + args.batchSize)
                refine alike.answered_of_goto again again ?_ ?_ (.same _)
                · simp only [World.step, StoreAction.action, here, if_neg ended, again]
                · simp only [World.step, StoreAction.action, StoreAction.withPayloads, there,
                    alike.projection, if_neg ended, again]
          | _ => simp [World.step, StoreAction.action, here] at taken

/-- A process goes on to the same point in both worlds. -/
theorem Alike.goto {ledger other : Ledger Machine} (alike : ledger.Alike other)
    {machine : Machine} {process answer : Process} {projection : Projection}
    {events : Machine → List StoredEvent} {original originals : String → Option Original}
    {others : Machine → List StoredEvent}
    (here : ProcessAlike (events machine) process answer)
    (elsewhere : ∀ different ≠ machine, events different = ledger.events different)
    : Alike
        ⟨(ledger.world.withProjection projection).goto machine process, events, original⟩
        ⟨(other.world.withProjection projection).goto machine answer, others, originals⟩ where
  projection := rfl
  snapshot := alike.snapshot
  process := by
    intro different
    by_cases same : different = machine
    · subst same
      simpa [World.goto] using here
    · have before := alike.process different
      rw [← elsewhere different same] at before
      simpa [World.goto, Function.update_of_ne same] using before

/-- A step whose batch carries no deleted event is answered by the same step on other payloads. -/
theorem Alike.step {ledger other next : Ledger Machine} {label : Machine × StoreAction}
    (alike : ledger.Alike other) (payload : StoredEvent → String)
    (live : ledger.SendsLive label) (taken : ledger.step label = some next)
    : ∃ reply,
        other.step (label.1, label.2.withPayloads payload) = some reply ∧ next.Alike reply := by
  obtain ⟨machine, action⟩ := label
  obtain ⟨world, stepped, rfl⟩ := Option.map_eq_some_iff.mp taken
  obtain ⟨process, reply, after, here, there, points⟩ := alike.answered payload live stepped
  obtain rfl := Option.some.inj (stepped.symm.trans here)
  refine ⟨_, by simp only [Ledger.step, there, Option.map_some]; rfl, ?_⟩
  refine alike.goto ?_ ?_
  · cases action <;> simpa [eventsRead] using points
  · intro different away
    cases action <;> simp [Function.update_of_ne away]

-----------------------------------------------------------------------------------------
-- Runs
-----------------------------------------------------------------------------------------

/-- In a run whose batches of `push` carry no deleted event, every text in the projection is the
payload of an event that is neither deleted nor withheld, and other payloads of deleted and withheld
events leave the same projection and the same hits of a projection search. Witness: by induction on
the run, for one run and for two runs side by side.
-/
theorem exportPolicy_of_live_batches (snapshot : Option Snapshot)
    (labels : List (Machine × StoreAction))
    (live : AllSteps step SendsLive (init snapshot) labels)
    : AllStates step PolicyKept (init snapshot) labels
      ∧ ∀ (payloads : SnapshotEvent → String) (others : List (Machine × StoreAction))
          (final : Ledger Machine),
          List.Forall₂
            (fun label other =>
              ∃ payload, other = (label.1, StoreAction.withPayloads payload label.2))
            labels others
          → run step (init snapshot) labels = some final
          → ∃ last,
              run step (init (snapshot.map (Snapshot.withPayloads payloads))) others = some last
              ∧ last.world.db.projection = final.world.db.projection
              ∧ ∀ fts request,
                  remoteProjectionSearch fts (some last.world.db.projection) request
                  = remoteProjectionSearch fts (some final.world.db.projection) request := by
  constructor
  · have kept : AllStates step Kept (init snapshot) labels :=
      allStates_of_guarded Kept (fun _ _ _ kept live taken => kept.step live taken) (.init snapshot)
        live
    exact kept.imp fun _ kept => kept.policy
  · intro payloads others final same ends
    obtain ⟨last, ran, alike⟩ :=
      run_simulated Alike _
        (fun ledger other label answer next alike same live taken => by
          obtain ⟨payload, rfl⟩ := same
          exact alike.step payload live taken)
        (.init payloads snapshot) same live ends
    exact ⟨last, ran, alike.projection, fun fts request => by rw [alike.projection]⟩

/-- A store with a visible event and a withheld one. -/
def withheldContent (payload : String) : StoreContent where
  sessions := []
  captureSources := []
  events :=
    [{ id := "e1", sessionId := none, captureSourceId := none, role := none, eventType := "message"
       occurredAtMs := 0, dedupeKey := none, payloadJson := "shown", visibility := .localOnly
       syncState := .localOnly, deletedAtMs := none },
     { id := "e2", sessionId := none, captureSourceId := none, role := none, eventType := "message"
       occurredAtMs := 0, dedupeKey := none, payloadJson := payload, visibility := .withheld
       syncState := .withheld, deletedAtMs := none }]
  ordered := List.pairwise_pair.mpr (by decide : "e1" < "e2")

/-- A store with one event, which is deleted. -/
def deletedContent (payload : String) : StoreContent where
  sessions := []
  captureSources := []
  events :=
    [{ id := "e1", sessionId := none, captureSourceId := none, role := none, eventType := "message"
       occurredAtMs := 0, dedupeKey := none, payloadJson := payload, visibility := .localOnly
       syncState := .localOnly, deletedAtMs := some 1 }]
  ordered := List.pairwise_singleton _ _

/-- A push of one page. -/
def pushPageRun (content : StoreContent) : List (Unit × StoreAction) :=
  let args := { pushEverything with batchSize := 2, batchSizePos := Nat.two_pos }
  [((), .startPush content args), ((), .readPage content), ((), .sendPage)]

/-- The payload of the withheld event leaves no trace. -/
theorem withheld_payload_unseen
    : ∃ final last,
        run step (init none) (pushPageRun (withheldContent "a")) = some final
        ∧ run step (init none) (pushPageRun (withheldContent "b")) = some last
        ∧ last.world.db.projection = final.world.db.projection := by
  have alive : ∀ event ∈ (withheldContent "a").events, event.deletedAtMs = none := by decide
  have live : AllSteps step SendsLive (init none) (pushPageRun (withheldContent "a")) := by
    refine AllSteps.cons rfl (fun sends => ?_) (AllSteps.cons rfl (fun sends => ?_) ?_)
    · cases sends
    · cases sends
    · exact AllSteps.cons rfl (fun _ _ _ event inside _ _ => alive event inside) trivial
  let final := (run step (init none) (pushPageRun (withheldContent "a"))).get (by decide)
  have ends : run step (init none) (pushPageRun (withheldContent "a")) = some final := by
    simp [final]
  have changed
      : List.Forall₂
          (fun label other =>
            ∃ payload, other = (label.1, StoreAction.withPayloads payload label.2))
          (pushPageRun (withheldContent "a")) (pushPageRun (withheldContent "b")) :=
    .cons ⟨fun _ => "b", rfl⟩ (.cons ⟨fun _ => "b", rfl⟩ (.cons ⟨fun _ => "b", rfl⟩ .nil))
  obtain ⟨last, ran, same, -⟩ :=
    (exportPolicy_of_live_batches none (pushPageRun (withheldContent "a")) live).2 (fun _ => "b")
      _ final changed ends
  exact ⟨final, last, ends, ran, same⟩

/-- `push` sends the payload of a deleted event: a row holds it, and another payload leaves another
projection.
-/
theorem deleted_payload_disclosed
    : ∃ final last,
        run step (init none) (pushPageRun (deletedContent "a")) = some final
        ∧ run step (init none) (pushPageRun (deletedContent "b")) = some last
        ∧ ¬ final.PolicyKept
        ∧ (final.world.db.projection.events.rows.map (·.payloadJson)) = ["a"]
        ∧ (last.world.db.projection.events.rows.map (·.payloadJson)) = ["b"] := by
  let final := (run step (init none) (pushPageRun (deletedContent "a"))).get (by decide)
  let last := (run step (init none) (pushPageRun (deletedContent "b"))).get (by decide)
  exact ⟨final, last, by simp [final], by simp [last], by decide, by decide, by decide⟩

end Ledger

end CtxRemote.Turso
