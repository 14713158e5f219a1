import CtxRemote.Config.SectionAgreement
import CtxRemote.Store.EventKeys
import Mathlib.Data.List.Sort
import Mathlib.Data.String.Basic

/-! The settings of a configuration file: `AppConfig::apply_values`, and what `set_daemon_enabled` makes
of the file. It writes nothing that does not load, so the settings that it leaves load as before.
-/

namespace CtxRemote.Config
open CtxRemote.Library
open CtxRemote.Store (parseU64)
open CtxRemote.Turso (trim)

-----------------------------------------------------------------------------------------
-- Values
-----------------------------------------------------------------------------------------

/-- A text behind its key and the number of its line, and what it must be. -/
def mustBe (key : List Char) (value : ConfigValue) (expected : String) : String :=
  String.ofList key ++ " at line " ++ value.line.repr ++ " must " ++ expected

/-- `parse_config_string`. -/
def parseConfigString (key : List Char) (value : ConfigValue) : Except String (List Char) :=
  let raw := trim value.raw
  if 2 ≤ raw.length
      ∧ (raw.head? = some '"' ∧ raw.getLast? = some '"'
        ∨ raw.head? = some '\'' ∧ raw.getLast? = some '\'') then .ok raw.tail.dropLast
  else .error (mustBe key value "be a quoted string")

/-- `parse_non_empty_string`. -/
def parseNonEmptyString (key : List Char) (value : ConfigValue) : Except String (List Char) := do
  let parsed ← parseConfigString key value
  if (trim parsed).isEmpty then .error (mustBe key value "not be empty") else .ok parsed

/-- `parse_config_bool`. -/
def parseConfigBool (key : List Char) (value : ConfigValue) : Except String Bool :=
  if trim value.raw = "true".toList then .ok true
  else if trim value.raw = "false".toList then .ok false
  else .error (mustBe key value "be a boolean")

/-- `parse_config_u64`. -/
def parseConfigU64 (key : List Char) (value : ConfigValue) : Except String Nat :=
  match parseU64 (trim value.raw) with
  | some number => .ok number.toNat
  | none => .error (mustBe key value "be an unsigned integer")

/-- `parse_upgrade_auto`. -/
def parseUpgradeAuto (value : ConfigValue) : Except String (List Char) := do
  let auto ← parseNonEmptyString "upgrade.auto".toList value
  let lower := auto.map Char.toLower
  if lower = "apply".toList ∨ lower = "off".toList then .ok lower
  else .error (mustBe "upgrade.auto".toList value "be either \"apply\" or \"off\"")

-----------------------------------------------------------------------------------------
-- Settings
-----------------------------------------------------------------------------------------

/-- `AnalyticsConfig`. -/
structure AnalyticsConfig where
  enabled : Bool
  endpoint : List Char
deriving DecidableEq

/-- `UpgradeConfig`, its interval in seconds. -/
structure UpgradeConfig where
  auto : List Char
  channel : List Char
  interval : Nat
  functionsBase : List Char
deriving DecidableEq

/-- `DaemonConfig`. -/
structure DaemonConfig where
  enabled : Bool
deriving DecidableEq

/-- `SearchConfig`. -/
structure SearchConfig where
  semantic : Option Bool
deriving DecidableEq

/-- `AppConfig`. -/
structure AppConfig where
  analytics : AnalyticsConfig
  upgrade : UpgradeConfig
  daemon : DaemonConfig
  search : SearchConfig
deriving DecidableEq

/-- `AppConfig::default`. -/
def AppConfig.default : AppConfig where
  analytics := ⟨true, "https://cli.ctx.rs/functions/v1/analytics".toList⟩
  upgrade :=
    ⟨"apply".toList, "stable".toList, 24 * 60 * 60, "https://cli.ctx.rs/functions/v1".toList⟩
  daemon := ⟨false⟩
  search := ⟨none⟩

namespace AppConfig

/-- The body of the loop of `AppConfig::apply_values`. -/
def applyValue (config : AppConfig) (row : List Char × ConfigValue) : Except String AppConfig :=
  let (key, value) := row
  let { analytics, upgrade, .. } := config
  match String.ofList key with
  | "analytics.enabled" =>
      (parseConfigBool key value).map fun enabled =>
        { config with analytics := { analytics with enabled } }
  | "analytics.endpoint" =>
      (parseNonEmptyString key value).map fun endpoint =>
        { config with analytics := { analytics with endpoint } }
  | "upgrade.auto" =>
      (parseUpgradeAuto value).map fun auto => { config with upgrade := { upgrade with auto } }
  | "upgrade.channel" =>
      (parseNonEmptyString key value).map fun channel =>
        { config with upgrade := { upgrade with channel } }
  | "upgrade.interval_hours" =>
      (parseConfigU64 key value).map fun hours =>
        { config with upgrade := { upgrade with interval := min (hours * (60 * 60)) (2 ^ 64 - 1) } }
  | "upgrade.interval_seconds" =>
      (parseConfigU64 key value).map fun interval =>
        { config with upgrade := { upgrade with interval } }
  | "upgrade.functions_base" =>
      (parseNonEmptyString key value).map fun functionsBase =>
        { config with upgrade := { upgrade with functionsBase } }
  | "daemon.enabled" =>
      (parseConfigBool key value).map fun enabled => { config with daemon := ⟨enabled⟩ }
  | "search.semantic" =>
      (parseConfigBool key value).map fun enabled => { config with search := ⟨some enabled⟩ }
  | key => .error ("unknown config key `" ++ key ++ "` at line " ++ value.line.repr)

/-- The values in the order of their keys, as a `BTreeMap` has them. -/
def sortedValues (values : ConfigValues) : List (List Char × ConfigValue) :=
  values.rows.insertionSort fun left right => String.ofList left.1 ≤ String.ofList right.1

/-- `AppConfig::apply_values`. -/
def applyValues (config : AppConfig) (values : ConfigValues) : Except String AppConfig :=
  (sortedValues values).foldlM applyValue config

end AppConfig

/-- The settings of a text: what `AppConfig::load` makes of a file before it looks at the environment. -/
def loadText (text : List Char) : Except String AppConfig := do
  AppConfig.default.applyValues (← parseTomlSubset text)

/-- `set_daemon_enabled`: what it writes, where it does not fail, for the file that is there. -/
def setDaemonEnabledFile (existing : Option (List Char)) (enabled : Bool)
    : Except String (List Char) := do
  let text := existing.getD []
  let _ ← loadText text
  let updated := setDaemonEnabled enabled text
  let _ ← loadText updated
  return updated

-----------------------------------------------------------------------------------------
-- Results of settings
-----------------------------------------------------------------------------------------

section Results

variable {α β : Type}

theorem toOption_map (result : Except String α) (f : α → β)
    : (result.map f).toOption = result.toOption.map f := by
  cases result <;> rfl

theorem map_map {γ : Type} (result : Except String α) (f : α → β) (g : β → γ)
    : (result.map f).map g = result.map (g ∘ f) := by
  cases result <;> rfl

theorem toOption_bind (result : Except String α) (next : α → Except String β)
    : (result >>= next).toOption = result.toOption.bind fun value => (next value).toOption := by
  cases result <;> rfl

theorem toOption_eq_some {result : Except String α} {value : α}
    : result.toOption = some value ↔ result = .ok value := by
  cases result with
  | error error => simp [Except.toOption]
  | ok value => simp [Except.toOption]

end Results

section Lines

variable (key raw : List Char) (line : Nat)

theorem parseConfigString_line
    : (parseConfigString key ⟨raw, line⟩).toOption = (parseConfigString key ⟨raw, 0⟩).toOption := by
  unfold parseConfigString
  dsimp only
  split <;> rfl

theorem parseNonEmptyString_line
    : (parseNonEmptyString key ⟨raw, line⟩).toOption
      = (parseNonEmptyString key ⟨raw, 0⟩).toOption := by
  unfold parseNonEmptyString
  rw [toOption_bind, toOption_bind, parseConfigString_line]
  congr 1
  funext parsed
  split <;> rfl

theorem parseConfigBool_line
    : (parseConfigBool key ⟨raw, line⟩).toOption = (parseConfigBool key ⟨raw, 0⟩).toOption := by
  unfold parseConfigBool
  dsimp only
  split
  next => rfl
  next => split <;> rfl

theorem parseConfigU64_line
    : (parseConfigU64 key ⟨raw, line⟩).toOption = (parseConfigU64 key ⟨raw, 0⟩).toOption := by
  unfold parseConfigU64
  dsimp only
  split <;> rfl

theorem parseUpgradeAuto_line
    : (parseUpgradeAuto ⟨raw, line⟩).toOption = (parseUpgradeAuto ⟨raw, 0⟩).toOption := by
  unfold parseUpgradeAuto
  rw [toOption_bind, toOption_bind, parseNonEmptyString_line]
  congr 1
  funext auto
  dsimp only
  split <;> rfl

/-- Which line sets a value makes no difference but in errors. -/
theorem applyValue_line (config : AppConfig)
    : (config.applyValue (key, ⟨raw, line⟩)).toOption
      = (config.applyValue (key, ⟨raw, 0⟩)).toOption := by
  unfold AppConfig.applyValue
  dsimp only
  split
  case h_10 => rfl
  all_goals
    simp only [toOption_map, parseConfigBool_line key raw line,
      parseNonEmptyString_line key raw line, parseUpgradeAuto_line raw line,
      parseConfigU64_line key raw line]

end Lines

/-- A value without its line. -/
def unnumbered (row : List Char × ConfigValue) : List Char × ConfigValue := (row.1, ⟨row.2.raw, 0⟩)

theorem toOption_foldlM_unnumbered (rows : List (List Char × ConfigValue)) (config : AppConfig)
    : (rows.foldlM AppConfig.applyValue config).toOption
      = ((rows.map unnumbered).foldlM AppConfig.applyValue config).toOption := by
  induction rows generalizing config with
  | nil => rfl
  | cons row rest ih =>
      obtain ⟨key, raw, line⟩ := row
      rw [List.map_cons, List.foldlM_cons, List.foldlM_cons, toOption_bind, toOption_bind,
        applyValue_line, unnumbered]
      congr 1
      funext next
      exact ih next

-----------------------------------------------------------------------------------------
-- The switch of the daemon
-----------------------------------------------------------------------------------------

/-- The settings with the daemon on or off. -/
def AppConfig.withDaemon (config : AppConfig) (enabled : Bool) : AppConfig :=
  { config with daemon := ⟨enabled⟩ }

/-- The key of the switch. -/
def daemonKey : List Char := "daemon.enabled".toList

theorem ofList_daemonKey : String.ofList daemonKey = "daemon.enabled" := by decide +kernel

theorem applyValue_daemonKey (config : AppConfig) (value : ConfigValue)
    : config.applyValue (daemonKey, value) = (parseConfigBool daemonKey value).map config.withDaemon := by
  unfold AppConfig.applyValue
  simp only [ofList_daemonKey]
  rfl

/-- Other values do not go by the switch, and leave it. -/
theorem applyValue_withDaemon (config : AppConfig) (enabled : Bool)
    {row : List Char × ConfigValue} (other : row.1 ≠ daemonKey)
    : (config.withDaemon enabled).applyValue row
      = (config.applyValue row).map (·.withDaemon enabled) := by
  obtain ⟨key, value⟩ := row
  have apart : String.ofList key ≠ "daemon.enabled" := by
    intro same
    rw [← ofList_daemonKey] at same
    exact other (String.ofList_injective same)
  unfold AppConfig.applyValue
  dsimp only
  split
  case h_8 same => exact absurd same apart
  case h_10 => rfl
  all_goals
    rw [map_map]
    rfl

/-- Without a value for the switch, the settings do not go by it. -/
theorem foldlM_withDaemon {rows : List (List Char × ConfigValue)}
    (others : ∀ row ∈ rows, row.1 ≠ daemonKey) (config : AppConfig) (enabled : Bool)
    : (rows.foldlM AppConfig.applyValue (config.withDaemon enabled)).toOption
      = (rows.foldlM AppConfig.applyValue config).toOption.map (·.withDaemon enabled) := by
  induction rows generalizing config with
  | nil => rfl
  | cons row rest ih =>
      rw [List.foldlM_cons, List.foldlM_cons, toOption_bind, toOption_bind,
        applyValue_withDaemon config enabled (others row (.head _)), toOption_map]
      cases (config.applyValue row).toOption with
      | none => rfl
      | some next => exact ih (fun row member => others row (.tail _ member)) next

/-- The values but for that of the switch. -/
def otherRows (rows : List (List Char × ConfigValue)) : List (List Char × ConfigValue) :=
  rows.filter (·.1 ≠ daemonKey)

theorem otherRows_eq_self {rows : List (List Char × ConfigValue)}
    (absent : daemonKey ∉ rows.map Prod.fst)
    : otherRows rows = rows := by
  refine List.filter_eq_self.mpr fun row member => decide_eq_true fun same => absent ?_
  exact List.mem_map.mpr ⟨row, member, same⟩

/-- The one value of the switch sets it, whatever values stand around it. -/
theorem foldlM_switch {rows : List (List Char × ConfigValue)} (distinct : (rows.map Prod.fst).Nodup)
    {value : ConfigValue} (member : (daemonKey, value) ∈ rows) {enabled : Bool}
    (reads : parseConfigBool daemonKey value = .ok enabled) (config : AppConfig)
    : (rows.foldlM AppConfig.applyValue config).toOption
      = ((otherRows rows).foldlM AppConfig.applyValue config).toOption.map (·.withDaemon enabled) := by
  induction rows generalizing config with
  | nil => cases member
  | cons row rest ih =>
      rw [List.map_cons, List.nodup_cons] at distinct
      rcases List.mem_cons.mp member with rfl | later
      · have others : otherRows ((daemonKey, value) :: rest) = rest := by
          rw [otherRows, List.filter_cons_of_neg (by simp)]
          exact otherRows_eq_self distinct.1
        have apart : ∀ row ∈ rest, row.1 ≠ daemonKey := fun row member same =>
          distinct.1 (List.mem_map.mpr ⟨row, member, same⟩)
        rw [others, List.foldlM_cons, toOption_bind, applyValue_daemonKey, reads]
        exact foldlM_withDaemon apart config enabled
      · have other : row.1 ≠ daemonKey := fun same =>
          distinct.1 (List.mem_map.mpr ⟨_, later, same.symm⟩)
        have kept : otherRows (row :: rest) = row :: otherRows rest :=
          List.filter_cons_of_pos (by simpa using other)
        rw [kept, List.foldlM_cons, List.foldlM_cons, toOption_bind, toOption_bind]
        cases (config.applyValue row).toOption with
        | none => rfl
        | some next => exact ih distinct.2 later next

-----------------------------------------------------------------------------------------
-- The order of values
-----------------------------------------------------------------------------------------

open AppConfig (sortedValues)

theorem perm_sortedValues (values : ConfigValues) : (sortedValues values).Perm values.rows :=
  List.perm_insertionSort _ _

theorem nodup_sortedValues (values : ConfigValues) : ((sortedValues values).map Prod.fst).Nodup :=
  ((perm_sortedValues values).map Prod.fst).nodup_iff.mpr values.distinct

/-- No two keys are at one place of the order. -/
theorem pairwise_sortedValues (values : ConfigValues)
    : (sortedValues values).Pairwise fun left right =>
        String.ofList left.1 < String.ofList right.1 := by
  have sorted : (sortedValues values).Pairwise fun left right =>
      String.ofList left.1 ≤ String.ofList right.1 := by
    have : Std.Total fun left right : List Char × ConfigValue =>
        String.ofList left.1 ≤ String.ofList right.1 := ⟨fun _ _ => le_total _ _⟩
    have : IsTrans (List Char × ConfigValue) fun left right =>
        String.ofList left.1 ≤ String.ofList right.1 := ⟨fun _ _ _ => le_trans⟩
    exact List.pairwise_insertionSort _ _
  have distinct := List.pairwise_map.mp (nodup_sortedValues values)
  refine (sorted.and distinct).imp fun both => lt_of_le_of_ne both.1 fun same => both.2 ?_
  exact String.ofList_injective same

/-- The rows of other keys, without their lines. -/
def otherValues (values : ConfigValues) : List (List Char × ConfigValue) :=
  (otherRows (sortedValues values)).map unnumbered

theorem mem_otherValues {values : ConfigValues} {row : List Char × ConfigValue}
    : row ∈ otherValues values
      ↔ row.1 ≠ daemonKey ∧ row.2.line = 0 ∧ rawOf values row.1 = some row.2.raw := by
  unfold otherValues otherRows rawOf
  constructor
  · intro member
    obtain ⟨found, inside, rfl⟩ := List.mem_map.mp member
    obtain ⟨held, other⟩ := List.mem_filter.mp inside
    have here : values.find? found.1 = some found :=
      Keyed.find?_eq_some.mpr ⟨(perm_sortedValues values).mem_iff.mp held, rfl⟩
    refine ⟨of_decide_eq_true other, rfl, ?_⟩
    change (values.find? found.1).map _ = _
    rw [here]
    rfl
  · rintro ⟨other, unlined, raw⟩
    obtain ⟨found, held, same⟩ := Option.map_eq_some_iff.mp raw
    obtain ⟨member, key⟩ := Keyed.find?_eq_some.mp held
    refine List.mem_map.mpr ⟨found, List.mem_filter.mpr ⟨?_, ?_⟩, ?_⟩
    · exact (perm_sortedValues values).mem_iff.mpr member
    · simpa [key] using other
    · obtain ⟨rowKey, rowRaw, rowLine⟩ := row
      obtain ⟨foundKey, foundRaw, foundLine⟩ := found
      dsimp only at unlined same key
      subst unlined same key
      rfl

theorem pairwise_otherValues (values : ConfigValues)
    : (otherValues values).Pairwise fun left right =>
        String.ofList left.1 < String.ofList right.1 :=
  List.pairwise_map.mpr ((pairwise_sortedValues values).filter _)

/-- Values that say the same under other keys have the same rows of them. -/
theorem otherValues_eq {before after : ConfigValues}
    (same : ∀ key, key ≠ daemonKey → rawOf after key = rawOf before key)
    : otherValues after = otherValues before := by
  have member (row : List Char × ConfigValue) : row ∈ otherValues after ↔ row ∈ otherValues before := by
    rw [mem_otherValues, mem_otherValues]
    exact and_congr_right fun other => by rw [same row.1 other]
  have distinct (values : ConfigValues) : (otherValues values).Nodup :=
    (pairwise_otherValues values).imp fun {left right} less => by
      rintro rfl
      exact lt_irrefl _ less
  refine List.Perm.eq_of_pairwise (fun left right _ _ less more => absurd more (lt_asymm less))
    (pairwise_otherValues after) (pairwise_otherValues before) ?_
  exact (List.perm_ext_iff_of_nodup (distinct after) (distinct before)).mpr member

/-- Settings of values that do not say whether the daemon is on. -/
theorem applyValues_of_none {values : ConfigValues} (unsaid : rawOf values daemonKey = none)
    (config : AppConfig)
    : (config.applyValues values).toOption
      = ((otherValues values).foldlM AppConfig.applyValue config).toOption := by
  have absent : daemonKey ∉ (sortedValues values).map Prod.fst := by
    rw [((perm_sortedValues values).map Prod.fst).mem_iff, ← map_fst_pairs, ← lookup_eq_none_iff,
      lookup_pairs, unsaid]
  rw [AppConfig.applyValues, toOption_foldlM_unnumbered, otherValues, otherRows_eq_self absent]

/-- Settings of values that say whether the daemon is on. -/
theorem applyValues_of_some {values : ConfigValues} {raw : List Char} {enabled : Bool}
    (said : rawOf values daemonKey = some raw)
    (reads : parseConfigBool daemonKey ⟨raw, 0⟩ = .ok enabled) (config : AppConfig)
    : (config.applyValues values).toOption
      = ((otherValues values).foldlM AppConfig.applyValue config).toOption.map
          (·.withDaemon enabled) := by
  obtain ⟨found, held, rfl⟩ := Option.map_eq_some_iff.mp said
  obtain ⟨member, key⟩ := Keyed.find?_eq_some.mp held
  have inside : (daemonKey, found.2) ∈ sortedValues values := by
    rw [(perm_sortedValues values).mem_iff, ← key]
    exact member
  have switch : parseConfigBool daemonKey found.2 = .ok enabled := by
    have line := parseConfigBool_line daemonKey found.2.raw found.2.line
    rw [reads] at line
    exact toOption_eq_some.mp line
  rw [AppConfig.applyValues, foldlM_switch (nodup_sortedValues values) inside switch, otherValues,
    toOption_foldlM_unnumbered]

/-- Every value of settings that load is one that its key accepts, by induction on the values. -/
theorem applies_of_mem {rows : List (List Char × ConfigValue)} {config loaded : AppConfig}
    (loads : rows.foldlM AppConfig.applyValue config = .ok loaded) {row : List Char × ConfigValue}
    (member : row ∈ rows)
    : ∃ before after, AppConfig.applyValue before row = .ok after := by
  induction rows generalizing config with
  | nil => cases member
  | cons first rest ih =>
      rw [List.foldlM_cons] at loads
      cases applied : config.applyValue first with
      | error error =>
          rw [applied] at loads
          cases loads
      | ok next =>
          rw [applied] at loads
          rcases List.mem_cons.mp member with rfl | later
          · exact ⟨config, next, applied⟩
          · exact ih loads later

/-- Values that load say of the daemon that it is on or off. -/
theorem reads_of_loads {values : ConfigValues} {config loaded : AppConfig} {raw : List Char}
    (loads : config.applyValues values = .ok loaded) (said : rawOf values daemonKey = some raw)
    : ∃ enabled, parseConfigBool daemonKey ⟨raw, 0⟩ = .ok enabled := by
  obtain ⟨found, held, rfl⟩ := Option.map_eq_some_iff.mp said
  obtain ⟨member, key⟩ := Keyed.find?_eq_some.mp held
  obtain ⟨before, after, applied⟩ :=
    applies_of_mem loads ((perm_sortedValues values).mem_iff.mpr member)
  obtain ⟨foundKey, value⟩ := found
  dsimp only at key
  subst key
  rw [applyValue_daemonKey] at applied
  have line := parseConfigBool_line daemonKey value.raw value.line
  cases reads : parseConfigBool daemonKey value with
  | error error =>
      rw [reads] at applied
      cases applied
  | ok enabled =>
      rw [show (⟨value.raw, value.line⟩ : ConfigValue) = value from rfl, reads] at line
      exact ⟨enabled, toOption_eq_some.mp line.symm⟩

-----------------------------------------------------------------------------------------
-- The edit of the file
-----------------------------------------------------------------------------------------

/-- The switch is on or off in the first part of its section, if it is set at all. -/
def SwitchInFirst (text : List Char) : Prop :=
  daemonKey ∈ (entries [] (lines text)).map Prod.fst →
    setInFirst "daemon".toList "enabled".toList (lines text) = true

/-- The parser accepts the edit of a text only where the switch is set in the first part. -/
theorem switchInFirst_of_parses {text : List Char} {values after : ConfigValues} {enabled : Bool}
    (accepted : parseTomlSubset text = .ok values)
    (parses : parseTomlSubset (setDaemonEnabled enabled text) = .ok after)
    : SwitchInFirst text := by
  intro held
  have spelled := spelled_daemon enabled
  have valid := valid_lines accepted
  have spec := parseTomlSubset_spec (setDaemonEnabled enabled text)
  rw [parses] at spec
  have distinct : ((entries [] (lines (setDaemonEnabled enabled text))).map Prod.fst).Nodup :=
    spec.1.distinct
  rw [setDaemonEnabled, lines_setTomlBool spelled, entries_map_chomp, entries_edited spelled valid,
    List.map_append, List.nodup_append, List.map_cons, List.nodup_cons] at distinct
  rw [entries_around spelled valid, List.map_append, List.mem_append, List.map_append,
    List.mem_append] at held
  rcases @keyLines_cases "daemon".toList "enabled".toList _ valid with ⟨none, -⟩ | ⟨_, _, -, set, -⟩
  · rw [none] at held
    rcases held with before | inside | behind
    · exact absurd rfl (distinct.2.2 _ before _ (.head _))
    · cases inside
    · exact absurd behind distinct.2.1.1
  · exact set

theorem parseConfigBool_boolText (enabled : Bool)
    : parseConfigBool daemonKey ⟨boolText enabled, 0⟩ = .ok enabled := by
  cases enabled <;> rfl

/-- Settings with another value of the switch are the settings with that switch. -/
theorem applyValues_edited {before after : ConfigValues} {enabled : Bool}
    (change : ∀ key, rawOf after key
      = if key = daemonKey then some (boolText enabled) else rawOf before key)
    {config loaded : AppConfig} (loads : config.applyValues before = .ok loaded)
    : config.applyValues after = .ok (loaded.withDaemon enabled) := by
  have others := otherValues_eq fun key other => (change key).trans (if_neg other)
  have edited := applyValues_of_some ((change daemonKey).trans (if_pos rfl))
    (parseConfigBool_boolText enabled) config
  have original := toOption_eq_some.mpr loads
  rw [← toOption_eq_some, edited, others]
  cases said : rawOf before daemonKey with
  | none =>
      rw [applyValues_of_none said] at original
      rw [original]
      rfl
  | some raw =>
      obtain ⟨old, reads⟩ := reads_of_loads loads said
      rw [applyValues_of_some said reads] at original
      obtain ⟨without, found, rfl⟩ := Option.map_eq_some_iff.mp original
      rw [found]
      rfl

/-- For every file, `set_daemon_enabled` writes one exactly where the file loads and the switch is not set
elsewhere than in the first part of its section; and what it writes loads with that switch and all other
settings as before.
-/
theorem setDaemonEnabledFile_exact (existing : Option (List Char)) (enabled : Bool)
    (updated : List Char)
    : (setDaemonEnabledFile existing enabled = .ok updated
        ↔ (∃ config, loadText (existing.getD []) = .ok config)
          ∧ SwitchInFirst (existing.getD [])
          ∧ updated = setDaemonEnabled enabled (existing.getD []))
      ∧ (setDaemonEnabledFile existing enabled = .ok updated →
          ∀ config, loadText (existing.getD []) = .ok config →
            loadText updated = .ok (config.withDaemon enabled)) := by
  have unfolded : setDaemonEnabledFile existing enabled
      = (loadText (existing.getD []) >>= fun _ =>
          loadText (setDaemonEnabled enabled (existing.getD [])) >>= fun _ =>
            .ok (setDaemonEnabled enabled (existing.getD []))) := rfl
  rw [unfolded]
  generalize existing.getD [] = text
  have loads (config : AppConfig) (inFirst : SwitchInFirst text) (old : loadText text = .ok config)
      : loadText (setDaemonEnabled enabled text) = .ok (config.withDaemon enabled) := by
    obtain ⟨values, accepted, applied⟩ : ∃ values, parseTomlSubset text = .ok values
        ∧ AppConfig.default.applyValues values = .ok config := by
      unfold loadText at old
      cases parsed : parseTomlSubset text with
      | error error =>
          rw [parsed] at old
          cases old
      | ok values =>
          rw [parsed] at old
          exact ⟨values, rfl, old⟩
    obtain ⟨after, parses, change⟩ :=
      (reads_setTomlBool_iff (spelled_daemon enabled) accepted).mpr inFirst
    rw [loadText, setDaemonEnabled, parses]
    exact applyValues_edited change applied
  cases old : loadText text with
  | error error =>
      refine ⟨iff_of_false ?_ ?_, ?_⟩
      · intro written
        cases written
      · rintro ⟨⟨config, wrong⟩, -⟩
        cases wrong
      · intro written
        cases written
  | ok config =>
      cases new : loadText (setDaemonEnabled enabled text) with
      | error error =>
          refine ⟨iff_of_false ?_ ?_, ?_⟩
          · intro written
            cases written
          · rintro ⟨-, inFirst, -⟩
            rw [loads config inFirst old] at new
            cases new
          · intro written
            cases written
      | ok loaded =>
          have inFirst : SwitchInFirst text := by
            unfold loadText at old new
            cases parsed : parseTomlSubset text with
            | error error =>
                rw [parsed] at old
                cases old
            | ok values =>
                cases parsed' : parseTomlSubset (setDaemonEnabled enabled text) with
                | error error =>
                    rw [parsed'] at new
                    cases new
                | ok after => exact switchInFirst_of_parses parsed parsed'
          have written : (Except.ok (setDaemonEnabled enabled text) : Except String _) = .ok updated
              ↔ updated = setDaemonEnabled enabled text :=
            ⟨fun same => (Except.ok.inj same).symm, fun same => congrArg _ same.symm⟩
          change ((Except.ok (setDaemonEnabled enabled text) : Except String _) = .ok updated ↔ _) ∧
            ((Except.ok (setDaemonEnabled enabled text) : Except String _) = .ok updated → _)
          rw [written]
          refine ⟨⟨fun same => ⟨⟨config, rfl⟩, inFirst, same⟩, fun all => all.2.2⟩, ?_⟩
          rintro rfl config' same
          exact loads config' inFirst (old.trans same)

end CtxRemote.Config
