import CtxRemote.Turso.PushPaging

/-! Transcripts staged in an ephemeral store, and what a push of the store guarantees: every event
is represented in the projection, by its own id or by its dedupe key.
-/

namespace CtxRemote.Sync
open CtxRemote.Library CtxRemote.Turso

-----------------------------------------------------------------------------------------
-- Representation
-----------------------------------------------------------------------------------------

/-- The projection holds the row, or one with its event id or its dedupe key. -/
def Represented (db : Projection) (row : EventRow) : Prop :=
  ∃ held ∈ db.events, held.Clash row

instance (db : Projection) (row : EventRow) : Decidable (Represented db row) :=
  inferInstanceAs (Decidable (∃ held ∈ db.events.rows, held.Clash row))

/-- The facts about the projection tables that a push relies on. -/
structure Sound (db : Projection) : Prop where
  backed : db.Backed
  agree : db.KeyIntegrity
  search : db.SearchAgrees

theorem Sound.empty : Sound Projection.empty where
  backed := Projection.Backed.empty
  agree := Projection.KeyIntegrity.empty
  search := .refl _

/-- Where keys and events agree, a settled row is represented. -/
theorem Represented.of_settled {db : Projection} (agree : db.KeyIntegrity) {row : EventRow}
    (settled : db.Settled row)
    : Represented db row := by
  unfold Projection.Settled at settled
  cases keyed : row.dedupeKey with
  | none =>
      rw [keyed] at settled
      obtain ⟨held, member, same⟩ := settled
      exact ⟨held, member, .inl same⟩
  | some key =>
      rw [keyed] at settled
      obtain ⟨owner, owned⟩ := Option.ne_none_iff_exists'.mp settled
      obtain ⟨held, member, _, same⟩ := agree _ (Projection.keyOwner_eq_some.mp owned)
      exact ⟨held, member, EventRow.clash_of_key same keyed⟩

/-- Only the event id and the dedupe key of a row matter. -/
theorem Represented.congr {db : Projection} {left right : EventRow}
    (represented : Represented db left) (sameId : left.eventId = right.eventId)
    (sameKey : left.dedupeKey = right.dedupeKey)
    : Represented db right := by
  obtain ⟨held, member, clash⟩ := represented
  refine ⟨held, member, ?_⟩
  unfold EventRow.Clash at clash ⊢
  rwa [← sameId, ← sameKey]

theorem Represented.mono {db later : Projection} {row : EventRow}
    (represented : Represented db row)
    (grows : ∀ held ∈ db.events, held ∈ later.events)
    : Represented later row := by
  obtain ⟨held, member, clash⟩ := represented
  exact ⟨held, grows held member, clash⟩

-----------------------------------------------------------------------------------------
-- The push of a whole store
-----------------------------------------------------------------------------------------

/-- `push` of a whole store, including local-only events. -/
def push (batchSize : {size : Nat // 0 < size}) (store : LocalStore) (db : Projection)
    : Projection :=
  match pushLoop store (store.events.length + 1)
      (db, .start store (unlimitedPush batchSize none true)) with
  | some (built, _) => built
  | none => db

/-- The rows that a push of the store exports. -/
def pushRows (store : LocalStore) : List EventRow :=
  exportableRows store.pushContext true store.events

theorem push_built (batchSize : {size : Nat // 0 < size}) {store : LocalStore} {db : Projection}
    (sound : Sound db)
    : Built db (pushRows store) (push batchSize store db) := by
  have unlimited
      : (PushRun.start store (unlimitedPush batchSize none true)).Unlimited store := ⟨rfl, rfl⟩
  have enough
      : ((PushRun.start store (unlimitedPush batchSize none true)).unread store).length
        < store.events.length + 1 :=
    Nat.lt_succ_self _
  obtain ⟨⟨final, ends, built⟩, _⟩ :=
    pushLoop_built unlimited sound.backed sound.search enough
  rw [push, ends]
  exact built

/-- A push whose new keys are claimed for ids that are not stored keeps the tables sound and all
event rows, and represents the exportable events of the store.
-/
theorem push_sound (batchSize : {size : Nat // 0 < size}) {store : LocalStore}
    {db : Projection} (sound : Sound db) (claims : db.ClaimsUnstored (pushRows store))
    : Sound (push batchSize store db)
      ∧ (∀ held ∈ db.events, held ∈ (push batchSize store db).events)
      ∧ ∀ row ∈ pushRows store, Represented (push batchSize store db) row := by
  have built : Built db (pushRows store) (push batchSize store db) := push_built batchSize sound
  obtain ⟨search, tables⟩ := built.tables
  have ids : ((pushRows store).map (·.eventId)).Nodup := by
    have same
        : (pushRows store).map (·.eventId)
          = (store.events.filter fun event => remoteExportAllowed event true).map (·.id) := by
      simp [pushRows, exportableRows, exportRow]
    rw [same]
    exact List.pairwise_map.mpr ((store.ordered.filter _).imp fun before => ne_of_lt before)
  have agree : (push batchSize store db).KeyIntegrity := by
    rw [tables]
    exact (Projection.keyIntegrity_exportEvents_iff sound.backed sound.agree ids).mpr claims
  refine ⟨⟨built.backed sound.backed, agree, built.agrees⟩, ?_, ?_⟩
  · intro held member
    rw [tables]
    exact Projection.mem_exportEvents_events member
  · intro row member
    apply Represented.of_settled agree
    rw [tables]
    exact Projection.settled_exportEvents member

-----------------------------------------------------------------------------------------
-- Transcripts and the ephemeral store
-----------------------------------------------------------------------------------------

/-- Two events violate the primary key or the unique index on the dedupe key of the local
`events` table.
-/
def EventClash (left right : Event) : Prop :=
  left.id = right.id ∨ left.dedupeKey ≠ none ∧ left.dedupeKey = right.dedupeKey

instance : DecidableRel EventClash := fun left right =>
  inferInstanceAs
    (Decidable (left.id = right.id ∨ left.dedupeKey ≠ none ∧ left.dedupeKey = right.dedupeKey))

instance : Std.Refl EventClash := ⟨fun _ => .inl rfl⟩

/-- What one transcript file is parsed to. Its events belong to its own sessions and carry the
default visibility and sync state.
-/
structure Transcript where
  sessions : List StoredSession
  captureSources : List StoredCaptureSource
  events : List Event
  own : ∀ event ∈ events, ∀ id, event.sessionId = some id → ∃ session ∈ sessions, session.id = id
  exportable
    : ∀ event ∈ events, event.visibility = .localOnly ∧ event.syncState = .localOnly

/-- The rows that stand for the events of a transcript. -/
def Transcript.rows (transcript : Transcript) : List EventRow :=
  transcript.events.map
    (exportRow
      { sessionIdentities :=
          transcript.sessions.map fun session => (session.id, session.identity)
        captureSourceProviders :=
          transcript.captureSources.map fun source => (source.id, source.provider) })

/-- Transcripts parsed from one tree: the ids and dedupe keys of events name the transcript file
and the line, and a session id names its identity.
-/
structure Compatible (transcripts : List Transcript) : Prop where
  distinct
    : ∀ left ∈ transcripts.flatMap (·.events), ∀ right ∈ transcripts.flatMap (·.events),
        EventClash left right → left = right
  sessions
    : ∀ left ∈ transcripts.flatMap (·.sessions), ∀ right ∈ transcripts.flatMap (·.sessions),
        left.id = right.id → left.identity = right.identity

instance (transcripts : List Transcript) : Decidable (Compatible transcripts) :=
  decidable_of_iff
    ((∀ left ∈ transcripts.flatMap (·.events), ∀ right ∈ transcripts.flatMap (·.events),
        EventClash left right → left = right)
      ∧ ∀ left ∈ transcripts.flatMap (·.sessions), ∀ right ∈ transcripts.flatMap (·.sessions),
        left.id = right.id → left.identity = right.identity)
    ⟨fun ⟨distinct, sessions⟩ => ⟨distinct, sessions⟩,
      fun ⟨distinct, sessions⟩ => ⟨distinct, sessions⟩⟩

/-- Some of the transcripts, in any order and number. -/
theorem Compatible.subset {transcripts part : List Transcript}
    (compatible : Compatible transcripts) (some : part ⊆ transcripts)
    : Compatible part := by
  have keeps {Item : Type} {items : Transcript → List Item} {item : Item}
      (member : item ∈ part.flatMap items)
      : item ∈ transcripts.flatMap items := by
    obtain ⟨transcript, inPart, inside⟩ := List.mem_flatMap.mp member
    exact List.mem_flatMap.mpr ⟨transcript, some inPart, inside⟩
  exact {
    distinct := fun left hl right hr => compatible.distinct left (keeps hl) right (keeps hr)
    sessions := fun left hl right hr => compatible.sessions left (keeps hl) right (keeps hr)
  }

/-- The ephemeral store of some transcripts: their events are inserted where no constraint is
violated, and listed by id.
-/
def stage (transcripts : List Transcript) : LocalStore where
  sessions := transcripts.flatMap (·.sessions)
  captureSources := transcripts.flatMap (·.captureSources)
  events :=
    orderBy Event.id
      ((Table.empty : Table Event EventClash).insertAll (transcripts.flatMap (·.events))).rows
  ordered :=
    orderBy_ascending
      (List.pairwise_map.mpr
        (((Table.empty : Table Event EventClash).insertAll
            (transcripts.flatMap (·.events))).distinct.imp
          fun free same => free (.inl same)))

/-- All events of compatible transcripts are in the store. -/
theorem mem_stage {transcripts : List Transcript} (compatible : Compatible transcripts)
    {transcript : Transcript} (member : transcript ∈ transcripts) {event : Event}
    (inside : event ∈ transcript.events)
    : event ∈ (stage transcripts).events := by
  rw [stage, mem_orderBy]
  have inAll : event ∈ transcripts.flatMap (·.events) :=
    List.mem_flatMap.mpr ⟨transcript, member, inside⟩
  obtain ⟨held, inTable, clash⟩
      : ∃ held ∈ (Table.empty : Table Event EventClash).insertAll
            (transcripts.flatMap (·.events)),
          EventClash held event :=
    Table.insertAll_covers inAll
  have known : held ∈ transcripts.flatMap (·.events) :=
    (Table.mem_or_mem_of_mem_insertAll inTable).resolve_left Table.not_mem_empty
  exact compatible.distinct held known event inAll clash ▸ inTable

/-- `HashMap::get` on entries that agree on the key. -/
theorem hashMapGet_eq {Value : Type} {entries : List (String × Value)} {key : String}
    {value : Value} (present : (key, value) ∈ entries)
    (agree : ∀ other, (key, other) ∈ entries → other = value)
    : hashMapGet entries key = some value := by
  unfold hashMapGet
  cases found : entries.reverse.lookup key with
  | none =>
      have absent := List.lookup_eq_none_iff.mp found (key, value) (List.mem_reverse.mpr present)
      simp at absent
  | some other =>
      obtain ⟨before, after, split, _⟩ := List.lookup_eq_some_iff.mp found
      have inside : (key, other) ∈ entries.reverse := by rw [split]; simp
      rw [agree other (List.mem_reverse.mp inside)]

/-- The identity of a session is the same in the store as in its transcript. -/
theorem stage_identity {transcripts : List Transcript} (compatible : Compatible transcripts)
    {transcript : Transcript} (member : transcript ∈ transcripts) {session : StoredSession}
    (inside : session ∈ transcript.sessions)
    : hashMapGet (stage transcripts).pushContext.sessionIdentities session.id
        = hashMapGet (transcript.sessions.map fun session => (session.id, session.identity))
            session.id := by
  have inAll {session : StoredSession} (inside : session ∈ transcript.sessions)
      : session ∈ transcripts.flatMap (·.sessions) :=
    List.mem_flatMap.mpr ⟨transcript, member, inside⟩
  have own
      : hashMapGet (transcript.sessions.map fun session => (session.id, session.identity))
            session.id
        = some session.identity := by
    refine hashMapGet_eq (List.mem_map.mpr ⟨session, inside, rfl⟩) fun other present => ?_
    obtain ⟨held, inHeld, same⟩ := List.mem_map.mp present
    obtain ⟨sameId, rfl⟩ := Prod.mk.inj same
    exact compatible.sessions held (inAll inHeld) session (inAll inside) sameId
  have whole
      : hashMapGet (stage transcripts).pushContext.sessionIdentities session.id
        = some session.identity := by
    refine hashMapGet_eq (List.mem_map.mpr ⟨session, inAll inside, rfl⟩) fun other present => ?_
    obtain ⟨held, inHeld, same⟩ := List.mem_map.mp present
    obtain ⟨sameId, rfl⟩ := Prod.mk.inj same
    exact compatible.sessions held inHeld session (inAll inside) sameId
  rw [whole, own]

/-- The row of an event has the same event id and dedupe key whether its transcript is pushed
alone or with others.
-/
theorem stage_represents {transcripts : List Transcript} (compatible : Compatible transcripts)
    {transcript : Transcript} (member : transcript ∈ transcripts) {row : EventRow}
    (inside : row ∈ transcript.rows)
    : ∃ pushed ∈ pushRows (stage transcripts),
        pushed.eventId = row.eventId ∧ pushed.dedupeKey = row.dedupeKey := by
  obtain ⟨event, inEvents, rfl⟩ := List.mem_map.mp inside
  refine ⟨exportRow (stage transcripts).pushContext event, ?_, rfl, ?_⟩
  · refine List.mem_map.mpr ⟨event, List.mem_filter.mpr ⟨?_, ?_⟩, rfl⟩
    · exact mem_stage compatible member inEvents
    · obtain ⟨visible, local_⟩ := transcript.exportable event inEvents
      simp [remoteExportAllowed, visible, local_]
  · simp only [exportRow, remoteDedupeKey]
    cases belongs : event.sessionId with
    | none => cases event.dedupeKey <;> rfl
    | some id =>
        obtain ⟨session, inSessions, rfl⟩ := transcript.own event inEvents id belongs
        cases event.dedupeKey with
        | none => rfl
        | some key => simp only [Option.bind_eq_bind, Option.bind_some,
            stage_identity compatible member inSessions]

-----------------------------------------------------------------------------------------
-- The push of chunk after chunk
-----------------------------------------------------------------------------------------

/-- Rows whose event ids are not stored, or whose keys are owned, claim keys for ids that are not
stored only.
-/
theorem claimsUnstored_of_owned {db : Projection} {rows : List EventRow}
    (owned
      : ∀ row ∈ rows, db.Stored row.eventId
        → row.dedupeKey.all fun key => (db.keyOwner key).isSome)
    : db.ClaimsUnstored rows := by
  intro before row after key split keyed free _ stored
  have claimed := owned row (split ▸ List.mem_append_right _ (.head _)) stored
  simp [keyed, free] at claimed

theorem claimsUnstored_of_fresh {db : Projection} {rows : List EventRow}
    (fresh : ∀ row ∈ rows, ¬db.Stored row.eventId)
    : db.ClaimsUnstored rows :=
  claimsUnstored_of_owned fun row member stored => absurd stored (fresh row member)

/-- Each chunk of transcripts is staged in a store of its own and pushed. -/
def pushChunks (batchSize : {size : Nat // 0 < size}) (chunks : List (List Transcript))
    (db : Projection) : Projection :=
  chunks.foldl (fun db transcripts => push batchSize (stage transcripts) db) db

/-- Every chunk claims its new keys for event ids that are not stored when it is pushed. -/
def ChunksClaimUnstored (batchSize : {size : Nat // 0 < size})
    : List (List Transcript) → Projection → Prop
  | [], _ => True
  | transcripts :: rest, db =>
      db.ClaimsUnstored (pushRows (stage transcripts))
      ∧ ChunksClaimUnstored batchSize rest (push batchSize (stage transcripts) db)

/-- Chunks that claim unstored ids keep the tables sound and all event rows, and represent every
event of their transcripts, by induction on the chunks.
-/
theorem pushChunks_sound (batchSize : {size : Nat // 0 < size})
    {chunks : List (List Transcript)} {db : Projection} (sound : Sound db)
    (compatible : ∀ transcripts ∈ chunks, Compatible transcripts)
    (claims : ChunksClaimUnstored batchSize chunks db)
    : Sound (pushChunks batchSize chunks db)
      ∧ (∀ held ∈ db.events, held ∈ (pushChunks batchSize chunks db).events)
      ∧ ∀ transcripts ∈ chunks, ∀ transcript ∈ transcripts, ∀ row ∈ transcript.rows,
          Represented (pushChunks batchSize chunks db) row := by
  induction chunks generalizing db with
  | nil => exact ⟨sound, fun _ member => member, by simp⟩
  | cons transcripts rest ih =>
      obtain ⟨first, later⟩ := claims
      obtain ⟨soundNext, grows, pushed⟩ := push_sound batchSize sound first
      obtain ⟨soundLast, keeps, represented⟩ :=
        ih soundNext (fun other member => compatible other (by simp [member])) later
      refine ⟨soundLast, fun held member => keeps held (grows held member), ?_⟩
      intro chunk member transcript inside row inRows
      rcases List.mem_cons.mp member with rfl | member
      · obtain ⟨exported, inPush, sameId, sameKey⟩ :=
          stage_represents (compatible chunk (by simp)) inside inRows
        exact ((pushed exported inPush).congr sameId sameKey).mono keeps
      · exact represented chunk member transcript inside row inRows

end CtxRemote.Sync
