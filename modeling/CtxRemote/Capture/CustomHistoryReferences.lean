import CtxRemote.Capture.CustomHistory
import Mathlib.Logic.Relation
import Mathlib.Order.Bounds.Defs

/-! The records that the validation of a custom history leaves: the greatest set of sessions whose
references hold, what refers to them, and the sessions that are needed for it.
-/

namespace CtxRemote.Capture.CustomHistory
open CtxRemote.Sync (ProviderImportSummary)

-----------------------------------------------------------------------------------------
-- Session references
-----------------------------------------------------------------------------------------

/-- A session names another one as its parent or as its root. -/
def SessionRecord.Names (session : SessionRecord) (key : SessionKey) : Prop :=
  ∃ id, (session.parentSessionId = some id ∨ session.rootSessionId = some id)
    ∧ key = (session.sourceId, id)

/-- The source is known, and the sessions that the session names are in the set. -/
def ReferencesHold (sources : List (Nat × SourceRecord)) (within : Set (Nat × SessionRecord))
    (session : SessionRecord)
    : Prop :=
  (∃ source ∈ sources, source.2.sourceId = session.sourceId)
  ∧ ∀ key, session.Names key → ∃ other ∈ within, other.2.key = key

namespace Collected

theorem hasSource_iff {collected : Collected} {sourceId : String}
    : collected.hasSource sourceId = true
      ↔ ∃ source ∈ collected.sources, source.2.sourceId = sourceId := by
  simp [hasSource]

theorem hasSession_iff {collected : Collected} {key : SessionKey}
    : collected.hasSession key = true ↔ ∃ session ∈ collected.sessions, session.2.key = key := by
  simp [hasSession]

/-- The check of a session that is there finds that its references hold. -/
theorem sessionReferenceError_eq_none {collected : Collected} {entry : Nat × SessionRecord}
    (stored : entry ∈ collected.sessions)
    : collected.sessionReferenceError entry.2 = none
      ↔ ReferencesHold collected.sources {other | other ∈ collected.sessions} entry.2 := by
  have own : collected.hasSession (entry.2.sourceId, entry.2.sessionId) = true :=
    hasSession_iff.mpr ⟨entry, stored, rfl⟩
  unfold sessionReferenceError ReferencesHold SessionRecord.Names
  simp only [Set.mem_ofPred_eq, ← hasSource_iff, ← hasSession_iff]
  cases known : collected.hasSource entry.2.sourceId with
  | false => simp
  | true =>
      simp only [Bool.not_true, Bool.false_eq_true, if_false, Option.or_eq_none_iff,
        Option.map_eq_none_iff, Option.filter_eq_none_iff, true_and]
      constructor
      · rintro ⟨parent, root⟩ _ ⟨id, isParent | isRoot, rfl⟩
        · simpa using parent id isParent
        · have fine := root id isRoot
          simp only [ne_eq, Bool.and_eq_true, decide_eq_true_eq, Bool.not_eq_true', not_and,
            Bool.not_eq_false] at fine
          by_cases self : id = entry.2.sessionId
          · rw [self]
            exact own
          · exact fine self
      · intro named
        refine ⟨fun id isParent => ?_, fun id isRoot => ?_⟩
        · simp [named _ ⟨id, .inl isParent, rfl⟩]
        · simp [named _ ⟨id, .inr isRoot, rfl⟩]

/-- A round keeps the sessions whose references hold. -/
theorem mem_rejectInvalidSessions {collected : Collected} {entry : Nat × SessionRecord}
    : entry ∈ collected.rejectInvalidSessions.sessions
      ↔ entry ∈ collected.sessions
        ∧ ReferencesHold collected.sources {other | other ∈ collected.sessions} entry.2 := by
  unfold rejectInvalidSessions
  simp only [List.mem_filter, Option.isNone_iff_eq_none]
  exact and_congr_right fun stored => sessionReferenceError_eq_none stored

/-- The loop leaves everything but sessions and failures. -/
theorem rejectSessions_others (rounds : Nat) (collected : Collected)
    : (rejectSessions rounds collected).sources = collected.sources
      ∧ (rejectSessions rounds collected).events = collected.events
      ∧ (rejectSessions rounds collected).fileTouches = collected.fileTouches
      ∧ (rejectSessions rounds collected).edges = collected.edges := by
  induction rounds generalizing collected with
  | zero => exact ⟨rfl, rfl, rfl, rfl⟩
  | succ rounds ih =>
      rw [rejectSessions]
      split
      next => exact ⟨rfl, rfl, rfl, rfl⟩
      next => exact ih _

theorem rejectSessions_sublist (rounds : Nat) (collected : Collected)
    : (rejectSessions rounds collected).sessions.Sublist collected.sessions := by
  induction rounds generalizing collected with
  | zero => exact .refl _
  | succ rounds ih =>
      rw [rejectSessions]
      split
      next => exact .refl _
      next => exact (ih _).trans List.filter_sublist

theorem failed_foldl_sessionFailures (entries : List (Nat × SessionRecord × String))
    (summary : ProviderImportSummary)
    : (entries.foldl (fun summary (line, _, error) => pushFailure line summary error) summary).failed
      = summary.failed + entries.length := by
  induction entries generalizing summary with
  | nil => rfl
  | cons entry entries ih =>
      rw [List.foldl_cons, ih, List.length_cons]
      simp only [pushFailure, ProviderImportSummary.mergeFrom]
      omega

/-- Every session that the loop rejects is a failure. -/
theorem rejectSessions_failed (rounds : Nat) (collected : Collected)
    : (rejectSessions rounds collected).summary.failed
          + (rejectSessions rounds collected).sessions.length
        = collected.summary.failed + collected.sessions.length := by
  induction rounds generalizing collected with
  | zero => rfl
  | succ rounds ih =>
      rw [rejectSessions]
      split
      next => rfl
      next =>
          rw [ih]
          have count
              : collected.invalidSessions.length + collected.rejectInvalidSessions.sessions.length
                = collected.sessions.length := by
            unfold invalidSessions rejectInvalidSessions sortedSessions
            rw [List.length_filterMap_eq_countP]
            simp only [Option.isSome_map]
            rw [(List.perm_insertionSort _ _).countP_eq, ← List.countP_eq_length_filter,
              List.length_eq_countP_add_countP (l := collected.sessions)
                (p := fun entry => (collected.sessionReferenceError entry.2).isSome)]
            congr 1
            refine List.countP_congr fun entry _ => ?_
            cases collected.sessionReferenceError entry.2 <;> simp
          have failures : collected.rejectInvalidSessions.summary.failed
              = collected.summary.failed + collected.invalidSessions.length :=
            failed_foldl_sessionFailures _ _
          omega

/-- The loop has ended: more rounds change nothing. -/
theorem rejectSessions_stable {rounds : Nat} {collected : Collected}
    (ended : (rejectSessions rounds collected).invalidSessions = []) (more : Nat)
    : rejectSessions (rounds + more) collected = rejectSessions rounds collected := by
  induction rounds generalizing collected with
  | zero =>
      cases more with
      | zero => rfl
      | succ more =>
          rw [Nat.zero_add]
          exact if_pos (List.isEmpty_iff.mpr ended)
  | succ rounds ih =>
      rw [Nat.succ_add, rejectSessions, rejectSessions]
      rw [rejectSessions] at ended
      split at ended
      next settled => rw [if_pos settled, if_pos settled]
      next unsettled =>
          rw [if_neg unsettled, if_neg unsettled]
          exact ih ended

/-- A set of sessions whose references hold within it survives every round. Witness: by induction on
the rounds.
-/
theorem subset_rejectSessions {collected : Collected} {within : Set (Nat × SessionRecord)}
    (stored : ∀ entry ∈ within, entry ∈ collected.sessions)
    (hold : ∀ entry ∈ within, ReferencesHold collected.sources within entry.2) (rounds : Nat)
    : ∀ entry ∈ within, entry ∈ (rejectSessions rounds collected).sessions := by
  induction rounds generalizing collected with
  | zero => exact stored
  | succ rounds ih =>
      rw [rejectSessions]
      split
      next => exact stored
      next =>
          refine ih (fun entry member => mem_rejectInvalidSessions.mpr ⟨stored entry member, ?_⟩) hold
          obtain ⟨source, named⟩ := hold entry member
          refine ⟨source, fun key names => ?_⟩
          obtain ⟨other, inside, same⟩ := named key names
          exact ⟨other, stored other inside, same⟩

/-- The loop leaves the greatest set of sessions whose references hold within it. -/
theorem isGreatest_rejectSessions {rounds : Nat} {collected : Collected}
    (enough : collected.sessions.length ≤ rounds)
    : IsGreatest
        {within : Set (Nat × SessionRecord) |
          (∀ entry ∈ within, entry ∈ collected.sessions)
          ∧ ∀ entry ∈ within, ReferencesHold collected.sources within entry.2}
        {entry | entry ∈ (rejectSessions rounds collected).sessions} := by
  refine ⟨⟨fun entry kept => (rejectSessions_sublist rounds collected).subset kept,
    fun entry kept => ?_⟩, fun within closed entry member =>
      subset_rejectSessions closed.1 closed.2 rounds entry member⟩
  have ended := invalidSessions_rejectSessions enough
  have sound : (rejectSessions rounds collected).sessionReferenceError entry.2 = none := by
    by_contra error
    obtain ⟨text, isError⟩ := Option.ne_none_iff_exists'.mp error
    have invalid : (entry.1, entry.2, text) ∈ (rejectSessions rounds collected).invalidSessions :=
      mem_invalidSessions.mpr ⟨kept, isError⟩
    rw [ended] at invalid
    cases invalid
  have hold := (sessionReferenceError_eq_none kept).mp sound
  rw [(rejectSessions_others rounds collected).1] at hold
  exact hold

-----------------------------------------------------------------------------------------
-- Required sessions
-----------------------------------------------------------------------------------------

/-- A session with the first key names the session with the second one. -/
def NamesKey (sessions : List (Nat × SessionRecord)) (key named : SessionKey) : Prop :=
  ∃ entry ∈ sessions, entry.2.key = key ∧ entry.2.Names named

theorem mem_dependencies {sessions : List (Nat × SessionRecord)} {required : List SessionKey}
    {named : SessionKey}
    : named ∈ dependencies sessions required ↔ ∃ key ∈ required, NamesKey sessions key named := by
  unfold dependencies NamesKey SessionRecord.Names
  simp only [List.mem_flatMap, List.mem_filter, decide_eq_true_eq, List.mem_map, List.mem_append,
    Option.mem_toList]
  constructor
  · rintro ⟨entry, ⟨stored, inside⟩, id, names, rfl⟩
    exact ⟨_, inside, entry, stored, rfl, id, names, rfl⟩
  · rintro ⟨_, inside, entry, stored, rfl, id, names, rfl⟩
    exact ⟨entry, ⟨stored, inside⟩, id, names, rfl⟩

theorem subset_requireSessions (sessions : List (Nat × SessionRecord)) (rounds : Nat)
    (required : List SessionKey)
    : required ⊆ requireSessions sessions rounds required := by
  induction rounds generalizing required with
  | zero => exact List.Subset.refl _
  | succ rounds ih =>
      rw [requireSessions]
      split
      next => exact List.Subset.refl _
      next => exact List.Subset.trans (List.subset_append_left _ _) (ih _)

/-- The loop adds only keys that the first ones lead to. -/
theorem requireSessions_reaches {sessions : List (Nat × SessionRecord)} {rounds : Nat}
    {required : List SessionKey} {key : SessionKey}
    (member : key ∈ requireSessions sessions rounds required)
    : ∃ start ∈ required, Relation.ReflTransGen (NamesKey sessions) start key := by
  induction rounds generalizing required with
  | zero => exact ⟨key, member, .refl⟩
  | succ rounds ih =>
      rw [requireSessions] at member
      split at member
      next => exact ⟨key, member, .refl⟩
      next =>
          obtain ⟨start, inside, path⟩ := ih member
          rcases List.mem_append.mp inside with old | new
          · exact ⟨start, old, path⟩
          · obtain ⟨first, required, names⟩ := mem_dependencies.mp (List.mem_of_mem_filter new)
            exact ⟨first, required, .head names path⟩

/-- The loop ends with the keys that the first ones lead to. -/
theorem mem_requireSessions_iff {sessions : List (Nat × SessionRecord)} {required : List SessionKey}
    {key : SessionKey}
    : key ∈ requireSessions sessions (2 * sessions.length) required
      ↔ ∃ start ∈ required, Relation.ReflTransGen (NamesKey sessions) start key := by
  refine ⟨requireSessions_reaches, ?_⟩
  rintro ⟨start, inside, path⟩
  induction path with
  | refl => exact subset_requireSessions _ _ _ inside
  | tail _ names ih =>
      exact dependencies_retained sessions required _ (mem_dependencies.mpr ⟨_, ih, names⟩)

/-- The loop has ended: more rounds change nothing. -/
theorem requireSessions_stable {sessions : List (Nat × SessionRecord)} {rounds : Nat}
    {required : List SessionKey}
    (ended
      : ∀ key ∈ dependencies sessions (requireSessions sessions rounds required),
          key ∈ requireSessions sessions rounds required) (more : Nat)
    : requireSessions sessions (rounds + more) required
      = requireSessions sessions rounds required := by
  have settled (keys : List SessionKey) (closed : ∀ key ∈ dependencies sessions keys, key ∈ keys)
      : ((dependencies sessions keys).filter (· ∉ keys)).isEmpty = true := by
    rw [List.isEmpty_iff, List.filter_eq_nil_iff]
    intro key member
    simpa using closed key member
  induction rounds generalizing required with
  | zero =>
      cases more with
      | zero => rfl
      | succ more =>
          rw [Nat.zero_add, requireSessions]
          exact if_pos (settled required ended)
  | succ rounds ih =>
      rw [Nat.succ_add, requireSessions, requireSessions]
      rw [requireSessions] at ended
      split at ended
      next done => rw [if_pos done, if_pos done]
      next unsettled =>
          rw [if_neg unsettled, if_neg unsettled]
          exact ih ended

end Collected

end CtxRemote.Capture.CustomHistory
