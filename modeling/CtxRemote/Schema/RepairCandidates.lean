import Mathlib.Data.List.Dedup
import Mathlib.Data.List.ReduceOption
import CtxRemote.Library.Loops
import CtxRemote.Schema.ProviderSessionRepair

/-! What the merged components hold: each candidate comes from one live session, no session is in two
components, and the sessions of a component share provider and external id.
-/

namespace CtxRemote.Schema
open CtxRemote.Library
open CtxRemote.Store (Uuid StoreError)

-----------------------------------------------------------------------------------------
-- Sessions of candidates
-----------------------------------------------------------------------------------------

/-- What the query reads of the session and the source of a candidate. -/
theorem of_sessionCandidate {jsonExtract : JsonExtract} {db : Database} {session : SessionRow}
    {key : String × String} {candidate : SessionCandidate}
    (read : sessionCandidate jsonExtract db session = .ok (some (key, candidate)))
    : candidate.id = session.id ∧ session.captureSourceId = some candidate.sourceId
      ∧ session.provider = key.1 ∧ session.externalSessionId = some key.2
      ∧ session.deletedAtMs = none := by
  unfold sessionCandidate at read
  split at read
  next externalSessionId source external found =>
      split at read
      next => cases read
      next candidates =>
          simp only [isCandidate, Bool.and_eq_true, Bool.not_eq_true', Bool.not_eq_false,
            Option.isNone_iff_eq_none] at candidates
          obtain ⟨sourceId, isSource, located⟩ := Option.bind_eq_some_iff.mp found
          have same : source.id = sourceId := by
            simpa using List.find?_some located
          obtain ⟨format, -, read⟩ := bind_eq_ok.mp read
          cases read
          exact ⟨rfl, by rw [isSource, same], rfl, external, candidates.1.1⟩
  next => cases read

/-- The session that a candidate comes from. -/
def CandidateOf (db : Database) (key : String × String) (candidate : SessionCandidate) : Prop :=
  ∃ session ∈ db.sessions.rows, candidate.id = session.id
    ∧ session.captureSourceId = some candidate.sourceId ∧ session.provider = key.1
    ∧ session.externalSessionId = some key.2 ∧ session.deletedAtMs = none

/-- The rows of the query are read from the sessions, in their order. By induction on the sessions. -/
theorem sublist_of_candidates {jsonExtract : JsonExtract} {db : Database}
    {sessions : List SessionRow} {found : List (Option ((String × String) × SessionCandidate))}
    (read
      : List.Forall₂ (fun session row => sessionCandidate jsonExtract db session = .ok row)
          sessions found)
    : (found.reduceOption.map (·.2.id)).Sublist (sessions.map (·.id))
      ∧ ∀ entry ∈ found.reduceOption, ∃ session ∈ sessions,
          sessionCandidate jsonExtract db session = .ok (some entry) := by
  induction read with
  | nil => exact ⟨.slnil, fun _ member => nomatch member⟩
  | @cons session row sessions found here _ ih =>
      obtain ⟨shorter, sources⟩ := ih
      have later : ∀ entry ∈ found.reduceOption, ∃ other ∈ session :: sessions,
          sessionCandidate jsonExtract db other = .ok (some entry) := fun entry member =>
        (sources entry member).imp fun _ other => ⟨List.mem_cons_of_mem _ other.1, other.2⟩
      cases row with
      | none =>
          rw [List.reduceOption_cons_of_none]
          exact ⟨shorter.trans (List.sublist_cons_self _ _), later⟩
      | some entry =>
          rw [List.reduceOption_cons_of_some]
          refine ⟨?_, fun other member => ?_⟩
          · rw [List.map_cons, List.map_cons, (of_sessionCandidate here).1]
            exact shorter.cons_cons _
          · rcases List.mem_cons.mp member with rfl | member
            · exact ⟨session, List.mem_cons_self, here⟩
            · exact later other member

-----------------------------------------------------------------------------------------
-- Equivalent sessions
-----------------------------------------------------------------------------------------

section Rows

variable {jsonExtract : JsonExtract} {db : Database}
  {rows : List ((String × String) × SessionCandidate)}
  (read : sessionCandidates jsonExtract db = .ok rows)
include read

theorem candidateOf_of_mem {entry : (String × String) × SessionCandidate} (member : entry ∈ rows)
    : CandidateOf db entry.1 entry.2 := by
  obtain ⟨found, mapped, same⟩ := bind_eq_ok.mp read
  cases same
  obtain ⟨session, inside, here⟩ := (sublist_of_candidates (mapM_eq_ok.mp mapped)).2 entry member
  exact ⟨session, (List.mem_insertionSort _).mp inside, of_sessionCandidate here⟩

/-- The ids of the candidates are distinct, like those of the sessions. -/
theorem nodup_candidateIds : (rows.map (·.2.id)).Nodup := by
  obtain ⟨found, mapped, same⟩ := bind_eq_ok.mp read
  cases same
  have distinct : (db.sessions.rows.map (·.id)).Nodup := List.pairwise_map.mpr db.sessions.distinct
  have sorted := (List.perm_insertionSort SessionRow.before db.sessions.rows).map (·.id)
  exact (sublist_of_candidates (mapM_eq_ok.mp mapped)).1.nodup (sorted.nodup_iff.mpr distinct)

-----------------------------------------------------------------------------------------
-- Components
-----------------------------------------------------------------------------------------

/-- No session is twice among the merged components. -/
theorem nodup_mergedComponents : ((mergedComponents rows).flatten.map (·.id)).Nodup := by
  have keys : ((rows.map (toLex ·.1)).dedup.insertionSort (· ≤ ·)).Nodup :=
    (List.perm_insertionSort _ _).nodup_iff.mpr (List.nodup_dedup _)
  have covered : ∀ row ∈ rows, toLex row.1 ∈ (rows.map (toLex ·.1)).dedup.insertionSort (· ≤ ·) := by
    intro row member
    rw [List.mem_insertionSort, List.mem_dedup]
    exact List.mem_map_of_mem member
  have groups : (sessionGroups rows).flatten.Perm (rows.map (·.2)) := by
    have grouped := (flatMap_filter_perm _ keys covered).map Prod.snd
    rwa [List.map_flatMap] at grouped
  have split : ((sessionGroups rows).flatMap equivalentSessionComponents).flatten.Perm
      (rows.map (·.2)) := by
    refine .trans ?_ groups
    generalize sessionGroups rows = groups
    induction groups with
    | nil => exact .rfl
    | cons group rest ih =>
        rw [List.flatMap_cons, List.flatten_append, List.flatten_cons]
        exact (components_perm group).append ih
  have kept : (mergedComponents rows).flatten.Sublist
      ((sessionGroups rows).flatMap equivalentSessionComponents).flatten :=
    List.Sublist.flatten List.filter_sublist
  have distinct : ((rows.map (·.2)).map (·.id)).Nodup := by
    rw [List.map_map]
    exact nodup_candidateIds read
  exact (kept.map _).nodup ((split.map _).nodup_iff.mpr distinct)

/-- The candidates of a merged component come from sessions of one provider and external id. -/
theorem candidateOf_mergedComponents {component : List SessionCandidate}
    (member : component ∈ mergedComponents rows)
    : ∃ key, ∀ candidate ∈ component, CandidateOf db key candidate := by
  obtain ⟨inside, -⟩ := List.mem_filter.mp member
  obtain ⟨group, grouped, split⟩ := List.mem_flatMap.mp inside
  obtain ⟨key, -, rfl⟩ := List.mem_map.mp grouped
  refine ⟨ofLex key, fun candidate here => ?_⟩
  obtain ⟨entry, filtered, rfl⟩ := List.mem_map.mp (mem_of_mem_components split here)
  obtain ⟨present, same⟩ := List.mem_filter.mp filtered
  rw [decide_eq_true_eq] at same
  rw [← same]
  exact candidateOf_of_mem read present

end Rows

end CtxRemote.Schema
