import CtxRemote.Library.Keyed
import CtxRemote.Library.Like
import Mathlib.Logic.Function.Basic

/-! The merge settings of the event search tables, and the transactions of a bulk import on them.
The settings are saved beside a marker before merges are suppressed; what is saved, or what is set
where nothing is saved, is what no transaction changes.
-/

namespace CtxRemote.Store
open CtxRemote.Library

-----------------------------------------------------------------------------------------
-- Tables
-----------------------------------------------------------------------------------------

/-- `EVENT_SEARCH_FTS_TABLES`. -/
inductive FtsTable where
  | eventSearch | eventSearchScriptgram
deriving DecidableEq, Repr

def FtsTable.asStr : FtsTable → String
  | eventSearch => "event_search"
  | eventSearchScriptgram => "event_search_scriptgram"

def eventSearchFtsTables : List FtsTable := [.eventSearch, .eventSearchScriptgram]

/-- The merge options of an FTS5 table. -/
inductive MergeOption where
  | automerge | crisismerge
deriving DecidableEq, Repr

namespace MergeOption

/-- `FTS_AUTOMERGE_DEFAULT` and `FTS_CRISISMERGE_DEFAULT`. -/
def default : MergeOption → Int
  | automerge => 4
  | crisismerge => 16

/-- What a bulk import sets: `0`, and `FTS_BULK_CRISISMERGE`. -/
def suppressed : MergeOption → Int
  | automerge => 0
  | crisismerge => 1000000

/-- `BULK_MODE_AUTOMERGE_KEY_PREFIX` and `BULK_MODE_CRISISMERGE_KEY_PREFIX`. -/
def keyPrefix : MergeOption → String
  | automerge => "event_search_bulk_mode_v1:automerge:"
  | crisismerge => "event_search_bulk_mode_v1:crisismerge:"

end MergeOption

/-- `BULK_MODE_MARKER_KEY`. -/
def bulkModeMarkerKey : String := "event_search_bulk_mode_v1"

/-- The key under which an option of a table is saved. -/
def savedKey (table : FtsTable) (option : MergeOption) : String := option.keyPrefix ++ table.asStr

/-- A row of `search_projection_stats`. -/
structure StatRow where
  key : String
  value : Int
  updatedAtMs : Int
deriving DecidableEq, Repr

/-- The part of a database that holds the merge settings: the `_config` rows of each FTS table that
exists, and the statistics, if their table exists.
-/
structure SearchDb where
  config : FtsTable → Option (MergeOption → Option Int)
  stats : Option (Keyed StatRow StatRow.key)

namespace SearchDb

/-- `table_exists`. -/
def tableExists (db : SearchDb) (table : FtsTable) : Bool := (db.config table).isSome

/-- `fts_config_value`, with the option's default. -/
def ftsConfigValue (db : SearchDb) (table : FtsTable) (option : MergeOption) : Int :=
  ((db.config table).bind fun rows => rows option).getD option.default

/-- `set_fts_config`. -/
def setFtsConfig (db : SearchDb) (table : FtsTable) (option : MergeOption) (value : Int)
    : SearchDb :=
  { db with
    config :=
      Function.update db.config table
        ((db.config table).map fun rows => Function.update rows option (some value)) }

/-- `bulk_mode_config`. -/
def bulkModeConfig (db : SearchDb) (key : String) : Option Int :=
  (db.stats.bind fun stats => stats.find? key).map (·.value)

/-- `bulk_mode_pending`. -/
def bulkModePending (db : SearchDb) : Bool := (db.bulkModeConfig bulkModeMarkerKey).isSome

/-- `ensure_search_projection_stats_table`. -/
def ensureStatsTable (db : SearchDb) : SearchDb :=
  { db with stats := some (db.stats.getD .empty) }

/-- `save_bulk_mode_config`, where the table exists. -/
def saveBulkModeConfig (db : SearchDb) (key : String) (value nowMs : Int) : SearchDb :=
  { db with stats := db.stats.map (·.put ⟨key, value, nowMs⟩) }

/-- `clear_bulk_mode_state`. -/
def clearBulkModeState (db : SearchDb) : SearchDb :=
  { db with
    stats :=
      db.stats.map
        (·.keep fun key =>
          !(key = bulkModeMarkerKey
            || like none "event_search_bulk_mode_v1:%".toList key.toList)) }

/-- A change of both options of each table that exists. -/
def forTables (db : SearchDb) (change : SearchDb → FtsTable → SearchDb) : SearchDb :=
  eventSearchFtsTables.foldl (fun db table => if db.tableExists table then change db table else db) db

/-- `suppress_event_search_merges`. -/
def suppressEventSearchMerges (db : SearchDb) : SearchDb :=
  db.forTables fun db table =>
    (db.setFtsConfig table .automerge MergeOption.automerge.suppressed).setFtsConfig table
      .crisismerge MergeOption.crisismerge.suppressed

/-- The loop of `begin_event_search_bulk_mode` that saves the settings. -/
def saveSettings (db : SearchDb) (nowMs : Int) : SearchDb :=
  db.forTables fun db table =>
    let db :=
      db.saveBulkModeConfig (savedKey table .automerge) (db.ftsConfigValue table .automerge) nowMs
    db.saveBulkModeConfig (savedKey table .crisismerge) (db.ftsConfigValue table .crisismerge) nowMs

/-- `restore_event_search_merge_config`. -/
def restoreEventSearchMergeConfig (db : SearchDb) : SearchDb :=
  db.forTables fun db table =>
    let automerge :=
      (db.bulkModeConfig (savedKey table .automerge)).getD MergeOption.automerge.default
    let crisismerge :=
      (db.bulkModeConfig (savedKey table .crisismerge)).getD MergeOption.crisismerge.default
    (db.setFtsConfig table .automerge automerge).setFtsConfig table .crisismerge crisismerge

-----------------------------------------------------------------------------------------
-- Transactions
-----------------------------------------------------------------------------------------

/-- The transaction of `begin_event_search_bulk_mode`. -/
def beginBulkMode (db : SearchDb) (nowMs : Int) : SearchDb :=
  let db := db.ensureStatsTable
  let db :=
    if db.bulkModePending then db
    else (db.saveSettings nowMs).saveBulkModeConfig bulkModeMarkerKey 1 nowMs
  db.suppressEventSearchMerges

/-- The first transaction of `recover_event_search_bulk_mode`. -/
def reassertBulkMode (db : SearchDb) : SearchDb :=
  if db.bulkModePending then db.suppressEventSearchMerges else db

/-- The end of a transaction of `restore_event_search_bulk_mode_if_quiescent` without a merge. -/
def endBulkMode (db : SearchDb) : SearchDb :=
  db.restoreEventSearchMergeConfig.clearBulkModeState

/-- A migration creates tables that do not exist; they have no `_config` rows of these options. -/
def createTable (db : SearchDb) (table : FtsTable) : SearchDb :=
  if db.tableExists table then db
  else { db with config := Function.update db.config table (some fun _ => none) }

-----------------------------------------------------------------------------------------
-- What each statement leaves
-----------------------------------------------------------------------------------------

variable (db : SearchDb) (table other : FtsTable) (option another : MergeOption)

/-- An option as `restore_event_search_merge_config` reads it. -/
def saved : Int := (db.bulkModeConfig (savedKey table option)).getD option.default

theorem savedKey_inj
    : savedKey table option = savedKey other another ↔ table = other ∧ option = another := by
  cases table <;> cases other <;> cases option <;> cases another <;> decide +kernel

theorem savedKey_ne_marker : savedKey table option ≠ bulkModeMarkerKey := by
  cases table <;> cases option <;> decide +kernel

@[simp] theorem tableExists_setFtsConfig (value : Int)
    : (db.setFtsConfig table option value).tableExists other = db.tableExists other := by
  unfold setFtsConfig tableExists
  by_cases here : other = table
  · subst here
    simp
  · simp [Function.update_of_ne here]

/-- Setting an option of a table that exists. -/
theorem ftsConfigValue_setFtsConfig (there : db.tableExists table = true) (value : Int)
    : (db.setFtsConfig table option value).ftsConfigValue other another
      = if table = other ∧ option = another then value else db.ftsConfigValue other another := by
  obtain ⟨rows, held⟩ := Option.isSome_iff_exists.mp there
  unfold setFtsConfig ftsConfigValue
  by_cases here : other = table
  · subst here
    by_cases same : another = option
    · subst same
      simp [held]
    · simp [held, Function.update_of_ne same, Ne.symm same]
  · simp [Function.update_of_ne here, Ne.symm here]

@[simp] theorem ftsConfigValue_saveBulkModeConfig (key : String) (value nowMs : Int)
    : (db.saveBulkModeConfig key value nowMs).ftsConfigValue table option
      = db.ftsConfigValue table option := rfl

@[simp] theorem stats_saveBulkModeConfig (key : String) (value nowMs : Int)
    : (db.saveBulkModeConfig key value nowMs).stats.isSome = db.stats.isSome := by
  simp [saveBulkModeConfig]

/-- Saving a value, where the statistics exist. -/
theorem bulkModeConfig_saveBulkModeConfig (exist : db.stats.isSome = true) (key other : String)
    (value nowMs : Int)
    : (db.saveBulkModeConfig key value nowMs).bulkModeConfig other
      = if key = other then some value else db.bulkModeConfig other := by
  obtain ⟨stats, held⟩ := Option.isSome_iff_exists.mp exist
  unfold saveBulkModeConfig bulkModeConfig
  simp only [held, Option.map_some, Option.bind_some, Keyed.find?_put]
  split <;> rfl

/-- The loops of the statements that set options: both options of each table that exists. -/
theorem forTables_set (value : FtsTable → MergeOption → Int)
    (change : SearchDb → FtsTable → SearchDb)
    (sets
      : ∀ later table,
          later.stats = db.stats
          → change later table
            = (later.setFtsConfig table .automerge (value table .automerge)).setFtsConfig table
                .crisismerge (value table .crisismerge))
    : (db.forTables change).stats = db.stats
      ∧ ∀ table,
          (db.forTables change).tableExists table = db.tableExists table
          ∧ ∀ option,
              (db.forTables change).ftsConfigValue table option
              = if db.tableExists table then value table option
                else db.ftsConfigValue table option := by
  -- One pass of the loop.
  have one (later : SearchDb) (place : FtsTable) (same : later.stats = db.stats)
      : let next := if later.tableExists place then change later place else later
        next.stats = db.stats
        ∧ ∀ table,
            next.tableExists table = later.tableExists table
            ∧ ∀ option,
                next.ftsConfigValue table option
                = if place = table ∧ later.tableExists table then value table option
                  else later.ftsConfigValue table option := by
    dsimp only
    split
    next there =>
        rw [sets later place same]
        refine ⟨same, fun table => ⟨by simp, fun option => ?_⟩⟩
        rw [ftsConfigValue_setFtsConfig _ _ _ _ _ (by simpa using there),
          ftsConfigValue_setFtsConfig _ _ _ _ _ there]
        by_cases here : place = table
        · subst here
          cases option <;> simp [there]
        · simp [here]
    next absent =>
        refine ⟨same, fun table => ⟨rfl, fun option => ?_⟩⟩
        rw [if_neg]
        rintro ⟨rfl, there⟩
        exact absent there
  obtain ⟨firstStats, first⟩ := one db .eventSearch rfl
  obtain ⟨lastStats, last⟩ := one _ .eventSearchScriptgram firstStats
  refine ⟨lastStats, fun table => ⟨(last table).1.trans (first table).1, fun option => ?_⟩⟩
  unfold forTables eventSearchFtsTables
  simp only [List.foldl_cons, List.foldl_nil]
  rw [(last table).2, (first table).2, (first table).1]
  cases table <;> simp

theorem suppressEventSearchMerges_spec
    : db.suppressEventSearchMerges.stats = db.stats
      ∧ ∀ table,
          db.suppressEventSearchMerges.tableExists table = db.tableExists table
          ∧ ∀ option,
              db.suppressEventSearchMerges.ftsConfigValue table option
              = if db.tableExists table then option.suppressed
                else db.ftsConfigValue table option :=
  forTables_set db (fun _ option => option.suppressed) _ fun _ _ _ => rfl

@[simp] theorem bulkModeConfig_suppress (key : String)
    : db.suppressEventSearchMerges.bulkModeConfig key = db.bulkModeConfig key := by
  unfold bulkModeConfig
  rw [db.suppressEventSearchMerges_spec.1]

@[simp] theorem bulkModePending_suppress
    : db.suppressEventSearchMerges.bulkModePending = db.bulkModePending := by
  unfold bulkModePending
  rw [bulkModeConfig_suppress]

@[simp] theorem bulkModePending_reassert
    : db.reassertBulkMode.bulkModePending = db.bulkModePending := by
  unfold reassertBulkMode
  split
  next => exact db.bulkModePending_suppress
  next => rfl

theorem restoreEventSearchMergeConfig_spec
    : db.restoreEventSearchMergeConfig.stats = db.stats
      ∧ ∀ table,
          db.restoreEventSearchMergeConfig.tableExists table = db.tableExists table
          ∧ ∀ option,
              db.restoreEventSearchMergeConfig.ftsConfigValue table option
              = if db.tableExists table then db.saved table option
                else db.ftsConfigValue table option :=
  forTables_set db db.saved _ fun later table same => by
    unfold saved bulkModeConfig
    rw [same]

/-- The saved settings of the tables that exist. -/
theorem saveSettings_spec (exist : db.stats.isSome = true) (nowMs : Int)
    : (db.saveSettings nowMs).config = db.config
      ∧ (db.saveSettings nowMs).stats.isSome = true
      ∧ ∀ table option,
          (db.saveSettings nowMs).bulkModeConfig (savedKey table option)
          = if db.tableExists table then some (db.ftsConfigValue table option)
            else db.bulkModeConfig (savedKey table option) := by
  -- One pass of the loop.
  have one (later : SearchDb) (place : FtsTable) (same : later.config = db.config)
      (exist : later.stats.isSome = true)
      : let next :=
          if later.tableExists place then
            let db :=
              later.saveBulkModeConfig (savedKey place .automerge)
                (later.ftsConfigValue place .automerge) nowMs
            db.saveBulkModeConfig (savedKey place .crisismerge)
              (db.ftsConfigValue place .crisismerge) nowMs
          else later
        next.config = db.config
        ∧ next.stats.isSome = true
        ∧ ∀ table option,
            next.bulkModeConfig (savedKey table option)
            = if place = table ∧ db.tableExists table then some (db.ftsConfigValue table option)
              else later.bulkModeConfig (savedKey table option) := by
    have tables (table : FtsTable) : later.tableExists table = db.tableExists table := by
      unfold tableExists
      rw [same]
    have values (table : FtsTable) (option : MergeOption)
        : later.ftsConfigValue table option = db.ftsConfigValue table option := by
      unfold ftsConfigValue
      rw [same]
    dsimp only
    split
    next there =>
        refine ⟨same, by simpa using exist, fun table option => ?_⟩
        rw [tables] at there
        rw [bulkModeConfig_saveBulkModeConfig _ (by simpa using exist),
          bulkModeConfig_saveBulkModeConfig _ exist, ftsConfigValue_saveBulkModeConfig]
        simp only [savedKey_inj, values]
        by_cases here : place = table
        · subst here
          cases option <;> simp [there]
        · simp [here]
    next absent =>
        refine ⟨same, exist, fun table option => ?_⟩
        rw [if_neg]
        rintro ⟨rfl, there⟩
        rw [tables] at absent
        exact absent there
  obtain ⟨firstConfig, firstStats, first⟩ := one db .eventSearch rfl exist
  obtain ⟨lastConfig, lastStats, last⟩ := one _ .eventSearchScriptgram firstConfig firstStats
  refine ⟨lastConfig, lastStats, fun table option => ?_⟩
  unfold saveSettings forTables eventSearchFtsTables
  simp only [List.foldl_cons, List.foldl_nil]
  rw [last, first]
  cases table <;> simp

/-- The cleared keys: the marker and those of the saved settings. -/
theorem bulkModeConfig_clearBulkModeState (key : String)
    : db.clearBulkModeState.bulkModeConfig key
      = if key = bulkModeMarkerKey
            || like none "event_search_bulk_mode_v1:%".toList key.toList then none
        else db.bulkModeConfig key := by
  unfold clearBulkModeState bulkModeConfig
  cases db.stats with
  | none =>
      split <;> rfl
  | some stats =>
      simp only [Option.map_some, Option.bind_some, Keyed.find?_keep]
      generalize (decide (key = bulkModeMarkerKey)
        || like none "event_search_bulk_mode_v1:%".toList key.toList) = cleared
      cases cleared <;> rfl

theorem like_savedKey
    : like none "event_search_bulk_mode_v1:%".toList (savedKey table option).toList = true := by
  cases table <;> cases option <;> decide +kernel

-----------------------------------------------------------------------------------------
-- What no transaction changes
-----------------------------------------------------------------------------------------

/-- The settings of a store, whether they are suppressed or not. -/
def underlying : Int :=
  if db.bulkModePending then db.saved table option else db.ftsConfigValue table option

/-- Settings are saved only beside the marker, and only for tables that exist. -/
structure SavedBesideMarker : Prop where
  pending : ∀ table option, (db.bulkModeConfig (savedKey table option)).isSome → db.bulkModePending
  exist
    : ∀ table option, (db.bulkModeConfig (savedKey table option)).isSome → db.tableExists table

/-- A change keeps the settings, and what is known of the saved ones. -/
structure Keeps (next : SearchDb) : Prop where
  besideMarker : next.SavedBesideMarker
  underlying : ∀ table option, next.underlying table option = db.underlying table option

variable {db}

/-- The value of an option of a table that does not exist. -/
theorem ftsConfigValue_absent (absent : db.tableExists table = false)
    : db.ftsConfigValue table option = option.default := by
  unfold tableExists at absent
  have none : db.config table = none := Option.not_isSome_iff_eq_none.mp (by simp [absent])
  unfold ftsConfigValue
  rw [none]
  rfl

theorem SavedBesideMarker.saved_absent (beside : db.SavedBesideMarker)
    (absent : db.tableExists table = false)
    : db.saved table option = option.default := by
  unfold saved
  cases held : db.bulkModeConfig (savedKey table option) with
  | none => rfl
  | some value =>
      have there := beside.exist table option (by simp [held])
      rw [absent] at there
      cases there

/-- Suppression beside the marker leaves what is saved. -/
theorem keeps_suppress (beside : db.SavedBesideMarker) (pending : db.bulkModePending = true)
    : db.Keeps db.suppressEventSearchMerges := by
  have still : db.suppressEventSearchMerges.bulkModePending = true := by simpa using pending
  constructor
  · constructor
    · exact fun _ _ _ => still
    · intro table option held
      rw [bulkModeConfig_suppress] at held
      rw [(db.suppressEventSearchMerges_spec.2 table).1]
      exact beside.exist table option held
  · intro table option
    unfold underlying saved
    rw [if_pos still, if_pos pending, bulkModeConfig_suppress]

theorem keeps_refl (beside : db.SavedBesideMarker) : db.Keeps db := ⟨beside, fun _ _ => rfl⟩

theorem Keeps.trans {middle last : SearchDb} (first : db.Keeps middle) (second : middle.Keeps last)
    : db.Keeps last :=
  ⟨second.besideMarker, fun table option =>
    (second.underlying table option).trans (first.underlying table option)⟩

/-- The first transaction of a recovery. -/
theorem keeps_reassert (beside : db.SavedBesideMarker) : db.Keeps db.reassertBulkMode := by
  unfold reassertBulkMode
  split
  next pending => exact keeps_suppress beside pending
  next => exact keeps_refl beside

@[simp] theorem bulkModeConfig_ensureStatsTable (db : SearchDb) (key : String)
    : db.ensureStatsTable.bulkModeConfig key = db.bulkModeConfig key := by
  unfold ensureStatsTable bulkModeConfig
  cases db.stats <;> rfl

/-- The transaction of a begin: outside bulk mode it saves what is set before it suppresses. -/
theorem keeps_begin (beside : db.SavedBesideMarker) (nowMs : Int)
    : db.Keeps (db.beginBulkMode nowMs) ∧ (db.beginBulkMode nowMs).bulkModePending = true := by
  have ensured : db.Keeps db.ensureStatsTable := by
    constructor
    · constructor
      · intro table option held
        rw [bulkModeConfig_ensureStatsTable] at held
        unfold bulkModePending
        rw [bulkModeConfig_ensureStatsTable]
        exact beside.pending table option held
      · intro table option held
        rw [bulkModeConfig_ensureStatsTable] at held
        exact beside.exist table option held
    · intro table option
      unfold underlying bulkModePending saved
      simp only [bulkModeConfig_ensureStatsTable]
      rfl
  have marked (next : SearchDb) (keeps : db.Keeps next) (pending : next.bulkModePending = true)
      : db.Keeps next.suppressEventSearchMerges
        ∧ next.suppressEventSearchMerges.bulkModePending = true :=
    ⟨keeps.trans (keeps_suppress keeps.besideMarker pending), by simpa using pending⟩
  unfold beginBulkMode
  dsimp only
  by_cases pending : db.ensureStatsTable.bulkModePending = true
  · rw [if_pos pending]
    exact marked _ ensured pending
  · rw [if_neg pending]
    have exist : db.ensureStatsTable.stats.isSome = true := rfl
    obtain ⟨config, stats, settings⟩ := db.ensureStatsTable.saveSettings_spec exist nowMs
    have unsaved (table : FtsTable) (option : MergeOption)
        : db.ensureStatsTable.bulkModeConfig (savedKey table option) = none := by
      rw [← Option.not_isSome_iff_eq_none]
      exact fun held => pending (ensured.besideMarker.pending table option held)
    let next := (db.ensureStatsTable.saveSettings nowMs).saveBulkModeConfig bulkModeMarkerKey 1 nowMs
    have marker : next.bulkModePending = true := by
      unfold bulkModePending
      rw [bulkModeConfig_saveBulkModeConfig _ stats, if_pos rfl]
      rfl
    have kept (table : FtsTable) (option : MergeOption)
        : next.bulkModeConfig (savedKey table option)
          = if db.tableExists table then some (db.ftsConfigValue table option) else none := by
      rw [bulkModeConfig_saveBulkModeConfig _ stats,
        if_neg (Ne.symm (savedKey_ne_marker table option)), settings, unsaved]
      rfl
    refine marked next ⟨⟨fun _ _ _ => marker, fun table option held => ?_⟩, fun table option => ?_⟩
      marker
    · rw [kept] at held
      split at held
      next there =>
          have same : next.tableExists table = db.tableExists table := by
            unfold tableExists
            exact congrArg (fun config => (config table).isSome) config
          rw [same, there]
      next => cases held
    · have outside : ¬ db.bulkModePending = true := by
        unfold bulkModePending at pending ⊢
        rwa [bulkModeConfig_ensureStatsTable] at pending
      unfold underlying saved
      rw [if_pos marker, if_neg outside, kept]
      split
      next => rfl
      next absent => rw [ftsConfigValue_absent table option (by simpa using absent)]; rfl

/-- The end of bulk mode sets what is saved, and then forgets it. -/
theorem keeps_end (beside : db.SavedBesideMarker) (pending : db.bulkModePending = true)
    : db.Keeps db.endBulkMode ∧ db.endBulkMode.bulkModePending = false := by
  obtain ⟨stats, tables⟩ := db.restoreEventSearchMergeConfig_spec
  have outside : db.endBulkMode.bulkModePending = false := by
    unfold bulkModePending endBulkMode
    rw [bulkModeConfig_clearBulkModeState, if_pos (by simp)]
    rfl
  have unsaved (table : FtsTable) (option : MergeOption)
      : db.endBulkMode.bulkModeConfig (savedKey table option) = none := by
    unfold endBulkMode
    rw [bulkModeConfig_clearBulkModeState, if_pos (by rw [like_savedKey, Bool.or_true])]
  refine ⟨⟨⟨fun table option held => ?_, fun table option held => ?_⟩, fun table option => ?_⟩,
    outside⟩
  · rw [unsaved] at held
    cases held
  · rw [unsaved] at held
    cases held
  · unfold underlying
    rw [if_neg (by simp [outside]), if_pos pending]
    have set : db.endBulkMode.ftsConfigValue table option
        = db.restoreEventSearchMergeConfig.ftsConfigValue table option := rfl
    rw [set, (tables table).2]
    split
    next => rfl
    next absent =>
        have absent : db.tableExists table = false := by simpa using absent
        rw [ftsConfigValue_absent table option absent, beside.saved_absent table option absent]

/-- A table that a migration creates has the default settings, which it had while it was absent. -/
theorem keeps_createTable (beside : db.SavedBesideMarker) (created : FtsTable)
    : db.Keeps (db.createTable created) := by
  unfold createTable
  split
  next => exact keeps_refl beside
  next absent =>
      refine ⟨⟨beside.pending, fun table option held => ?_⟩, fun table option => ?_⟩
      · have there := beside.exist table option held
        unfold tableExists at there ⊢
        dsimp only
        by_cases here : table = created
        · simp [here]
        · rw [Function.update_of_ne here]
          exact there
      · unfold underlying saved
        split
        next pending => rw [if_pos (show db.bulkModePending = true from pending)]; rfl
        next outside =>
            rw [if_neg (show ¬ db.bulkModePending = true from outside)]
            unfold ftsConfigValue
            dsimp only
            by_cases here : table = created
            · subst here
              have none : db.config table = none :=
                Option.not_isSome_iff_eq_none.mp (by simpa [tableExists] using absent)
              rw [Function.update_self, none]
              rfl
            · rw [Function.update_of_ne here]

end SearchDb

end CtxRemote.Store
