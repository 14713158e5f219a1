import CtxRemote.Store.Catalog

/-! The counts of the catalog and of the inventory of source files. What is pending and what is indexed
are two conditions, each with comparisons that NULL makes unknown; the rows that are not stale satisfy
exactly one of them.
-/

namespace CtxRemote.Store
open CtxRemote.Library

-----------------------------------------------------------------------------------------
-- Conditions
-----------------------------------------------------------------------------------------

namespace ImportColumns

/-- `is_stale = 0`. -/
def fresh (columns : ImportColumns) : Condition := Condition.equal (some columns.isStale) (some 0)

/-- `is_stale != 0`. -/
def stale (columns : ImportColumns) : Condition := Condition.differ (some columns.isStale) (some 0)

/-- `indexed_status = 'failed'`. -/
def failed (columns : ImportColumns) : Condition :=
  Condition.equal (some columns.indexedStatus) (some .failed)

/-- `source_import_file_pending_condition_sql`. -/
def pending (columns : ImportColumns) : Condition :=
  (Condition.differ (some columns.indexedStatus) (some .indexed)).either <|
    (Condition.isNull columns.indexedFileSizeBytes).either <|
      (Condition.isNull columns.indexedFileModifiedAtMs).either <|
        (Condition.differ columns.indexedFileSizeBytes (some columns.fileSizeBytes)).either <|
          Condition.differ columns.indexedFileModifiedAtMs (some columns.fileModifiedAtMs)

/-- What the queries of indexed rows ask of these columns. -/
def indexed (columns : ImportColumns) : Condition :=
  (Condition.equal (some columns.indexedStatus) (some .indexed)).both <|
    (Condition.equal columns.indexedFileSizeBytes (some columns.fileSizeBytes)).both <|
      Condition.equal columns.indexedFileModifiedAtMs (some columns.fileModifiedAtMs)

/-- Exactly one of the conditions selects the columns. -/
theorem holds_pending (columns : ImportColumns) : columns.pending.holds = !columns.indexed.holds := by
  unfold pending indexed
  simp only [Condition.holds_either, Condition.holds_both, Condition.holds_equal,
    Condition.holds_differ, Condition.holds_isNull, Option.isSome_some, Bool.true_and]
  cases columns.indexedFileSizeBytes with
  | none => simp
  | some size =>
      cases columns.indexedFileModifiedAtMs with
      | none => simp
      | some time => simp [Bool.not_and]

theorem pending_of_failed {columns : ImportColumns} (failure : columns.failed.holds = true)
    : columns.pending.holds = true := by
  have status : columns.indexedStatus = .failed := by simpa [failed] using failure
  rw [holds_pending, indexed, status]
  rfl

end ImportColumns

/-- The columns of `sessions` that the conditions read. -/
structure SessionColumns where
  provider : CaptureProvider
  externalSessionId : Option String
  captureSourceId : Option String

/-- The columns of `capture_sources` that the conditions read. -/
structure CaptureSourceColumns where
  id : String
  sourceRoot : Option String

/-- The tables that the counts read. -/
structure CatalogTables where
  catalogSessions : List CatalogSessionRow
  sessions : List SessionColumns
  captureSources : List CaptureSourceColumns

namespace CatalogTables

variable (tables : CatalogTables) (row : CatalogSessionRow)

/-- `sessions LEFT JOIN capture_sources ON source.id = session.capture_source_id`. -/
def sessionsWithSources : List (SessionColumns × Option CaptureSourceColumns) :=
  tables.sessions.flatMap fun session =>
    match tables.captureSources.filter fun source =>
      (Condition.equal (some source.id) session.captureSourceId).holds with
    | [] => [(session, none)]
    | sources => sources.map fun source => (session, some source)

/-- `EXISTS` of a session that was imported from the row's file. -/
def importedSession : Condition :=
  Condition.exist <| tables.sessionsWithSources.filter fun (session, source) =>
    Condition.holds <|
      (Condition.equal (some session.provider) (some row.provider)).both <|
        (Condition.isNull row.externalSessionId).negated.both <|
          (Condition.equal session.externalSessionId row.externalSessionId).both <|
            (Condition.isNull session.captureSourceId).either <|
              Condition.equal (source.bind (·.sourceRoot)) (some row.sourceRoot)

/-- `catalog_pending_import_condition_sql`. -/
def pending : Condition :=
  row.toImportColumns.pending.either (tables.importedSession row).negated

/-- The condition of `catalog_indexed_count_sql` on rows that are not stale. -/
def indexed : Condition := row.toImportColumns.indexed.both (tables.importedSession row)

/-- Exactly one of the conditions selects the row. -/
theorem holds_pending : (tables.pending row).holds = !(tables.indexed row).holds := by
  unfold pending indexed
  rw [Condition.holds_either, Condition.holds_both, ImportColumns.holds_pending, Bool.not_and]
  congr 1
  exact Condition.holds_negated_exist _

theorem pending_of_failed {row : CatalogSessionRow} (failure : row.toImportColumns.failed.holds = true)
    : (tables.pending row).holds = true := by
  rw [pending, Condition.holds_either, ImportColumns.pending_of_failed failure, Bool.true_or]

end CatalogTables

-----------------------------------------------------------------------------------------
-- Counts
-----------------------------------------------------------------------------------------

/-- `CatalogCounts`, and `SourceImportFileCounts`. -/
structure CatalogCounts where
  total : Nat
  indexed : Nat
  stale : Nat
  pending : Nat
  failed : Nat

/-- `SELECT COUNT(*) … WHERE`. -/
def countWhere {Row : Type} (rows : List Row) (condition : Row → Condition) : Nat :=
  rows.countP fun row => (condition row).holds

/-- `catalog_session_counts`. -/
def CatalogTables.catalogSessionCounts (tables : CatalogTables) : CatalogCounts where
  total := countWhere tables.catalogSessions fun row => row.toImportColumns.fresh
  indexed :=
    countWhere tables.catalogSessions fun row => row.toImportColumns.fresh.both (tables.indexed row)
  stale := countWhere tables.catalogSessions fun row => row.toImportColumns.stale
  pending :=
    countWhere tables.catalogSessions fun row => row.toImportColumns.fresh.both (tables.pending row)
  failed :=
    countWhere tables.catalogSessions fun row =>
      row.toImportColumns.fresh.both row.toImportColumns.failed

/-- `source_import_file_counts`, which reads these columns only. -/
def sourceImportFileCounts (files : List ImportColumns) : CatalogCounts where
  total := countWhere files (·.fresh)
  indexed := countWhere files fun file => file.fresh.both file.indexed
  stale := countWhere files (·.stale)
  pending := countWhere files fun file => file.fresh.both file.pending
  failed := countWhere files fun file => file.fresh.both file.failed

/-- Conditions that share the rows that a third one selects share their count. -/
theorem countWhere_split {Row : Type} {rows : List Row} {all left right : Row → Condition}
    (opposite : ∀ row ∈ rows, (right row).holds = !(left row).holds)
    : countWhere rows all
      = countWhere rows (fun row => (all row).both (left row))
        + countWhere rows fun row => (all row).both (right row) := by
  unfold countWhere
  simp only [Condition.holds_both]
  induction rows with
  | nil => rfl
  | cons row rows ih =>
      have here := opposite row (.head _)
      rw [List.countP_cons, List.countP_cons, List.countP_cons,
        ih fun later member => opposite later (.tail _ member), here]
      cases (all row).holds <;> cases (left row).holds <;> simp <;> omega

theorem countWhere_le {Row : Type} {rows : List Row} {all left right : Row → Condition}
    (implied : ∀ row ∈ rows, (left row).holds = true → (right row).holds = true)
    : countWhere rows (fun row => (all row).both (left row))
      ≤ countWhere rows fun row => (all row).both (right row) := by
  refine List.countP_mono_left fun row member selected => ?_
  rw [Condition.holds_both, Bool.and_eq_true] at selected ⊢
  exact ⟨selected.1, implied row member selected.2⟩

/-- The counts fit together: the rows that are not stale are indexed or pending, and not both, and
those that have failed are pending.
-/
structure CatalogCounts.Consistent (counts : CatalogCounts) : Prop where
  total : counts.total = counts.indexed + counts.pending
  failed : counts.failed ≤ counts.pending

/-- The counts of every catalog and of every inventory fit together, as the conditions are opposite on
every row and a row that has failed is pending.
-/
theorem counts_consistent (tables : CatalogTables) (files : List ImportColumns)
    : (tables.catalogSessionCounts.Consistent
        ∧ ∀ row ∈ tables.catalogSessions,
            (tables.pending row).holds = !(tables.indexed row).holds
            ∧ (row.toImportColumns.failed.holds = true → (tables.pending row).holds = true))
      ∧ (sourceImportFileCounts files).Consistent
      ∧ ∀ file ∈ files,
          file.pending.holds = !file.indexed.holds
          ∧ (file.failed.holds = true → file.pending.holds = true) := by
  refine ⟨⟨⟨?_, ?_⟩, fun row _ => ⟨tables.holds_pending row, tables.pending_of_failed⟩⟩, ⟨?_, ?_⟩,
    fun file _ => ⟨file.holds_pending, ImportColumns.pending_of_failed⟩⟩
  · exact countWhere_split fun row _ => tables.holds_pending row
  · exact countWhere_le fun row _ => tables.pending_of_failed
  · exact countWhere_split fun file _ => file.holds_pending
  · exact countWhere_le fun file _ => ImportColumns.pending_of_failed

end CtxRemote.Store
