import CtxRemote.Library.Split
import CtxRemote.Turso.DedupeKey
import Mathlib.Algebra.Order.Ring.Int
import Mathlib.Algebra.Order.Ring.Nat
import Mathlib.Data.List.Sort

/-! The dedupe keys of provider events in the local store: how `provider_event_dedupe_key` and
`provider_source_event_dedupe_key` write them, and what `parse_provider_event_dedupe_key` reads back.

A key joins its parts with colons, and an external session id is free text. A key whose id has a
colon is read as a key of another session, or of none.
-/

namespace CtxRemote.Store
open CtxRemote.Library
open CtxRemote.Turso (stripPrefix)

-----------------------------------------------------------------------------------------
-- Providers, ids and numbers
-----------------------------------------------------------------------------------------

/-- `CaptureProvider`. -/
inductive CaptureProvider where
  | codex | claude | pi | openCode | kilo | kiroCli | antigravity | gemini | tabnine | cursor
  | windsurf | zed | copilotCli | factoryAiDroid | qwenCode | kimiCodeCli | auggie | junie
  | firebender | forgeCode | deepAgents | mistralVibe | mux | rovoDev | openClaw | hermes
  | nanoClaw | astrBot | shelley | «continue» | openHands | cline | rooCode | crush | goose | lingma
  | qoder | warp | codeBuddy | trae | shell | git | jj | gh | custom | unknown | miMoCode
deriving DecidableEq, Repr

/-- `CaptureProvider::as_str`. -/
def CaptureProvider.asStr : CaptureProvider → String
  | .codex => "codex"
  | .claude => "claude"
  | .pi => "pi"
  | .openCode => "opencode"
  | .kilo => "kilo"
  | .kiroCli => "kiro_cli"
  | .antigravity => "antigravity"
  | .gemini => "gemini"
  | .tabnine => "tabnine"
  | .cursor => "cursor"
  | .windsurf => "windsurf"
  | .zed => "zed"
  | .copilotCli => "copilot_cli"
  | .factoryAiDroid => "factory_ai_droid"
  | .qwenCode => "qwen_code"
  | .kimiCodeCli => "kimi_code_cli"
  | .auggie => "auggie"
  | .junie => "junie"
  | .firebender => "firebender"
  | .forgeCode => "forgecode"
  | .deepAgents => "deepagents"
  | .mistralVibe => "mistral_vibe"
  | .mux => "mux"
  | .rovoDev => "rovodev"
  | .openClaw => "openclaw"
  | .hermes => "hermes"
  | .nanoClaw => "nanoclaw"
  | .astrBot => "astrbot"
  | .shelley => "shelley"
  | .continue => "continue"
  | .openHands => "openhands"
  | .cline => "cline"
  | .rooCode => "roo_code"
  | .crush => "crush"
  | .goose => "goose"
  | .lingma => "lingma"
  | .qoder => "qoder"
  | .warp => "warp"
  | .codeBuddy => "codebuddy"
  | .trae => "trae"
  | .shell => "shell"
  | .git => "git"
  | .jj => "jj"
  | .gh => "gh"
  | .custom => "custom"
  | .unknown => "unknown"
  | .miMoCode => "mimocode"

/-- The provider names in the order of the declaration. -/
def CaptureProvider.names : List String :=
  ["codex", "claude", "pi", "opencode", "kilo", "kiro_cli", "antigravity", "gemini", "tabnine",
    "cursor", "windsurf", "zed", "copilot_cli", "factory_ai_droid", "qwen_code", "kimi_code_cli",
    "auggie", "junie", "firebender", "forgecode", "deepagents", "mistral_vibe", "mux", "rovodev",
    "openclaw", "hermes", "nanoclaw", "astrbot", "shelley", "continue", "openhands", "cline",
    "roo_code", "crush", "goose", "lingma", "qoder", "warp", "codebuddy", "trae", "shell", "git",
    "jj", "gh", "custom", "unknown", "mimocode"]

/-- A name stands where its provider stands in the declaration. -/
theorem CaptureProvider.idxOf_asStr (provider : CaptureProvider)
    : CaptureProvider.names.idxOf provider.asStr = provider.ctorIdx := by
  cases provider <;> decide

/-- No two providers share a name. -/
theorem CaptureProvider.asStr_injective : Function.Injective CaptureProvider.asStr := by
  intro left right same
  have index : left.ctorIdx = right.ctorIdx := by
    rw [← idxOf_asStr left, ← idxOf_asStr right, same]
  rw [← ofNat_ctorIdx left, index, ofNat_ctorIdx]

theorem CaptureProvider.asStr_plain (provider : CaptureProvider)
    : provider.asStr ≠ "" ∧ ':' ∉ provider.asStr.toList := by
  cases provider <;> decide

/-- A `Uuid`, as its hyphenated text. -/
structure Uuid where
  text : String
  length : text.toList.length = 36
  digits : text.toList.all ("0123456789abcdef-".toList.contains ·)
deriving DecidableEq

@[ext] theorem Uuid.ext {left right : Uuid} (same : left.text = right.text) : left = right := by
  cases left
  cases right
  cases same
  rfl

theorem Uuid.text_plain (id : Uuid) : id.text ≠ "" ∧ ':' ∉ id.text.toList := by
  constructor
  · intro empty
    have length := id.length
    simp [empty] at length
  · intro member
    exact absurd (List.all_eq_true.mp id.digits ':' member) (by decide)

/-- `str::parse::<u64>`: digits behind an optional plus sign, without overflow. -/
def parseU64 (text : List Char) : Option UInt64 :=
  let digits :=
    match text with
    | '+' :: digits => digits
    | digits => digits
  if digits.isEmpty || !digits.all Char.isDigit then none
  else
    let value := Nat.ofDigitChars 10 digits 0
    if value < 2 ^ 64 then some (UInt64.ofNat value) else none

/-- The decimal digits of a number are parsed to it. -/
theorem parseU64_toDigits (index : UInt64)
    : parseU64 (Nat.toDigits 10 index.toNat) = some index := by
  have digits : ∀ c ∈ Nat.toDigits 10 index.toNat, c.isDigit :=
    fun c member => Nat.isDigit_of_mem_toDigits (by decide) (by decide) member
  have plain
      : (match Nat.toDigits 10 index.toNat with
          | '+' :: rest => rest
          | rest => rest)
        = Nat.toDigits 10 index.toNat := by
    split
    next rest same => exact absurd (digits '+' (by simp [same])) (by decide)
    next => rfl
  unfold parseU64
  dsimp only
  rw [plain]
  have filled : (Nat.toDigits 10 index.toNat).isEmpty = false := by simp
  have allDigits : (Nat.toDigits 10 index.toNat).all Char.isDigit = true :=
    List.all_eq_true.mpr digits
  rw [filled, allDigits, if_neg (by decide), Nat.ofDigitChars_ten_toDigits,
    if_pos index.toNat_lt, UInt64.ofNat_toNat]

/-- Digits have no colon. -/
theorem colon_not_mem_toDigits (n : Nat) : ':' ∉ Nat.toDigits 10 n := by
  intro member
  exact absurd (Nat.isDigit_of_mem_toDigits (by decide) (by decide) member) (by decide)

-----------------------------------------------------------------------------------------
-- Keys
-----------------------------------------------------------------------------------------

/-- `Store::provider_event_dedupe_key`. -/
def providerEventDedupeKey (provider : CaptureProvider) (externalSessionId : String)
    (providerIndex : UInt64) (payloadHash : String)
    : String :=
  "provider:" ++ provider.asStr ++ ":" ++ externalSessionId ++ ":" ++ providerIndex.toNat.repr
    ++ ":" ++ payloadHash

/-- `Store::provider_source_event_dedupe_key`. -/
def providerSourceEventDedupeKey (sourceId : Uuid) (providerIndex : UInt64)
    (payloadHash : String)
    : String :=
  "provider-source:" ++ sourceId.text ++ ":" ++ providerIndex.toNat.repr ++ ":" ++ payloadHash

theorem toList_providerEventDedupeKey (provider : CaptureProvider) (externalSessionId : String)
    (providerIndex : UInt64) (payloadHash : String)
    : (providerEventDedupeKey provider externalSessionId providerIndex payloadHash).toList
      = "provider".toList ++ ':' :: (provider.asStr.toList ++ ':' :: (externalSessionId.toList
          ++ ':' :: (Nat.toDigits 10 providerIndex.toNat ++ ':' :: payloadHash.toList))) := by
  unfold providerEventDedupeKey
  simp

theorem toList_providerSourceEventDedupeKey (sourceId : Uuid) (providerIndex : UInt64)
    (payloadHash : String)
    : (providerSourceEventDedupeKey sourceId providerIndex payloadHash).toList
      = "provider-source:".toList ++ (sourceId.text.toList ++ ':' ::
          (Nat.toDigits 10 providerIndex.toNat ++ ':' :: payloadHash.toList)) := by
  unfold providerSourceEventDedupeKey
  simp

/-- `ParsedProviderEventDedupeKey`. -/
structure ParsedProviderEventDedupeKey where
  provider : String
  externalSessionId : String
  sourceId : Option String
  providerIndex : UInt64
  payloadHash : String
deriving DecidableEq, Repr

/-- `has_same_event_identity`. -/
def ParsedProviderEventDedupeKey.hasSameEventIdentity
    (left right : ParsedProviderEventDedupeKey)
    : Bool :=
  left.provider = right.provider && left.externalSessionId = right.externalSessionId
    && left.sourceId = right.sourceId && left.providerIndex = right.providerIndex

/-- `parse_provider_event_dedupe_key`. -/
def parseProviderEventDedupeKey (dedupeKey : String) : Option ParsedProviderEventDedupeKey :=
  match stripPrefix "provider-source:".toList dedupeKey.toList with
  | some rest =>
      match splitn ':' 3 rest with
      | [sourceId, providerIndex, payloadHash] => do
          let providerIndex ← parseU64 providerIndex
          if sourceId.isEmpty || payloadHash.isEmpty then none
          else
            some
              { provider := "provider-source"
                externalSessionId := String.ofList sourceId
                sourceId := some (String.ofList sourceId)
                providerIndex := providerIndex
                payloadHash := String.ofList payloadHash }
      | _ => none
  | none =>
      match splitn ':' 5 dedupeKey.toList with
      | [lead, provider, externalSessionId, providerIndex, payloadHash] =>
          if lead ≠ "provider".toList then none
          else do
            let providerIndex ← parseU64 providerIndex
            if provider.isEmpty || externalSessionId.isEmpty || payloadHash.isEmpty then none
            else
              some
                { provider := String.ofList provider
                  externalSessionId := String.ofList externalSessionId
                  sourceId := none
                  providerIndex := providerIndex
                  payloadHash := String.ofList payloadHash }
      | _ => none

theorem stripPrefix_append (lead rest : List Char)
    : stripPrefix lead (lead ++ rest) = some rest := by
  induction lead with
  | nil => rfl
  | cons c lead ih => simp [stripPrefix, ih]

-----------------------------------------------------------------------------------------
-- Round trips
-----------------------------------------------------------------------------------------

/-- The arguments of the two functions that write a provider event's key. -/
inductive EventKey where
  | session (provider : CaptureProvider) (externalSessionId : String) (providerIndex : UInt64)
      (payloadHash : String)
  | source (sourceId : Uuid) (providerIndex : UInt64) (payloadHash : String)
deriving DecidableEq

namespace EventKey

def text : EventKey → String
  | session provider externalSessionId providerIndex payloadHash =>
      providerEventDedupeKey provider externalSessionId providerIndex payloadHash
  | source sourceId providerIndex payloadHash =>
      providerSourceEventDedupeKey sourceId providerIndex payloadHash

/-- What reading the key back has to give. -/
def parsed : EventKey → ParsedProviderEventDedupeKey
  | session provider externalSessionId providerIndex payloadHash =>
      { provider := provider.asStr
        externalSessionId := externalSessionId
        sourceId := none
        providerIndex := providerIndex
        payloadHash := payloadHash }
  | source sourceId providerIndex payloadHash =>
      { provider := "provider-source"
        externalSessionId := sourceId.text
        sourceId := some sourceId.text
        providerIndex := providerIndex
        payloadHash := payloadHash }

/-- The event a key is for: all arguments but the payload hash. -/
def SameEvent : EventKey → EventKey → Prop
  | session provider externalSessionId providerIndex _,
      session provider' externalSessionId' providerIndex' _ =>
      provider = provider' ∧ externalSessionId = externalSessionId' ∧ providerIndex = providerIndex'
  | source sourceId providerIndex _, source sourceId' providerIndex' _ =>
      sourceId = sourceId' ∧ providerIndex = providerIndex'
  | _, _ => False

def payloadHash : EventKey → String
  | session _ _ _ payloadHash => payloadHash
  | source _ _ payloadHash => payloadHash

/-- The session id has a text without colons, and there is a hash. -/
def Unambiguous : EventKey → Prop
  | session _ externalSessionId _ payloadHash =>
      externalSessionId ≠ "" ∧ ':' ∉ externalSessionId.toList ∧ payloadHash ≠ ""
  | source _ _ payloadHash => payloadHash ≠ ""

/-- Reading an unambiguous key gives its parts back. -/
theorem parse_text {key : EventKey} (clear : key.Unambiguous)
    : parseProviderEventDedupeKey key.text = some key.parsed := by
  cases key with
  | session provider externalSessionId providerIndex payloadHash =>
      obtain ⟨named, plain, hashed⟩ := clear
      have unscoped (rest : List Char)
          : stripPrefix "provider-source:".toList ("provider".toList ++ ':' :: rest) = none := by
        simp [stripPrefix]
      unfold text parseProviderEventDedupeKey
      rw [toList_providerEventDedupeKey, unscoped]
      dsimp only
      rw [splitn_append (by decide), splitn_append provider.asStr_plain.2,
        splitn_append plain, splitn_append (colon_not_mem_toDigits _)]
      simp [splitn, parsed, parseU64_toDigits, provider.asStr_plain.1, named, hashed]
  | source sourceId providerIndex payloadHash =>
      have hashed : payloadHash ≠ "" := clear
      unfold text parseProviderEventDedupeKey
      rw [toList_providerSourceEventDedupeKey, stripPrefix_append]
      dsimp only
      rw [splitn_append sourceId.text_plain.2, splitn_append (colon_not_mem_toDigits _)]
      simp [splitn, parsed, parseU64_toDigits, sourceId.text_plain.1, hashed]

end EventKey

/-- Only keys with plain parts are read at all. -/
theorem plain_of_parse {dedupeKey : String} {parsed : ParsedProviderEventDedupeKey}
    (read : parseProviderEventDedupeKey dedupeKey = some parsed)
    : parsed.externalSessionId ≠ "" ∧ ':' ∉ parsed.externalSessionId.toList
      ∧ parsed.payloadHash ≠ "" := by
  unfold parseProviderEventDedupeKey at read
  split at read
  next rest _ =>
      split at read
      next sourceId providerIndex payloadHash parts =>
          have free : ':' ∉ sourceId := not_mem_of_splitn parts (by simp)
          simp only [Option.bind_eq_bind, Option.bind_eq_some_iff] at read
          obtain ⟨index, -, read⟩ := read
          split at read
          next => cases read
          next filled =>
              cases read
              simp only [Bool.or_eq_true, List.isEmpty_iff, not_or] at filled
              simpa [String.ofList_eq_empty_iff] using ⟨filled.1, free, filled.2⟩
      next => cases read
  next =>
      split at read
      next lead provider externalSessionId providerIndex payloadHash parts =>
          obtain ⟨_, _, parts⟩ := splitn_tail parts (by simp)
          obtain ⟨_, _, parts⟩ := splitn_tail parts (by simp)
          have free : ':' ∉ externalSessionId := not_mem_of_splitn parts (by simp)
          split at read
          next => cases read
          next =>
              simp only [Option.bind_eq_bind, Option.bind_eq_some_iff] at read
              obtain ⟨index, -, read⟩ := read
              split at read
              next => cases read
              next filled =>
                  cases read
                  simp only [Bool.or_eq_true, List.isEmpty_iff, not_or] at filled
                  simpa [String.ofList_eq_empty_iff] using ⟨filled.1.2, free, filled.2⟩
      next => cases read

@[simp] theorem ParsedProviderEventDedupeKey.hasSameEventIdentity_iff
    {left right : ParsedProviderEventDedupeKey}
    : left.hasSameEventIdentity right = true
      ↔ left.provider = right.provider ∧ left.externalSessionId = right.externalSessionId
        ∧ left.sourceId = right.sourceId ∧ left.providerIndex = right.providerIndex := by
  simp [hasSameEventIdentity, and_assoc]

@[simp] theorem EventKey.parsed_payloadHash (key : EventKey)
    : key.parsed.payloadHash = key.payloadHash := by
  cases key <;> rfl

/-- Two keys stand for one event if their parts but the hash are the same. -/
theorem EventKey.sameEvent_of_parsed {left right : EventKey}
    (same : left.parsed.hasSameEventIdentity right.parsed)
    : left.SameEvent right := by
  rw [ParsedProviderEventDedupeKey.hasSameEventIdentity_iff] at same
  obtain ⟨provider, session, source, index⟩ := same
  cases left with
  | session =>
      cases right with
      | session => exact ⟨CaptureProvider.asStr_injective provider, session, index⟩
      | source => cases source
  | source =>
      cases right with
      | session => cases source
      | source => exact ⟨Uuid.ext session, index⟩

-----------------------------------------------------------------------------------------
-- The conflict check
-----------------------------------------------------------------------------------------

/-- `StoreError::ProviderEventConflict`. -/
structure ProviderEventConflict where
  provider : String
  externalSessionId : String
  providerIndex : UInt64
  existingHash : String
  newHash : String
deriving DecidableEq, Repr

/-- `provider_event_dedupe_key_prefix`. -/
def providerEventDedupeKeyPrefix (parsed : ParsedProviderEventDedupeKey) : String :=
  match parsed.sourceId with
  | some sourceId => "provider-source:" ++ sourceId ++ ":" ++ parsed.providerIndex.toNat.repr ++ ":"
  | none =>
      "provider:" ++ parsed.provider ++ ":" ++ parsed.externalSessionId ++ ":"
        ++ parsed.providerIndex.toNat.repr ++ ":"

/-- `provider_event_dedupe_key_upper_bound`: the prefix and `char::MAX`. -/
def providerEventDedupeKeyUpperBound (lead : String) : String :=
  lead.push (Char.ofNat 0x10FFFF)

/-- The test of `reject_provider_event_hash_conflict_from_rows` on one row. -/
def conflictingRow (incoming : ParsedProviderEventDedupeKey) (existingKey : String)
    : Option ParsedProviderEventDedupeKey := do
  let existing ← parseProviderEventDedupeKey existingKey
  if existing.hasSameEventIdentity incoming && existing.payloadHash ≠ incoming.payloadHash then
    some existing
  else none

/-- `reject_provider_event_hash_conflict_from_rows`. -/
def rejectProviderEventHashConflictFromRows (dedupeKey : String) (rows : List String)
    : Except ProviderEventConflict Unit :=
  match parseProviderEventDedupeKey dedupeKey with
  | none => .ok ()
  | some incoming =>
      match rows.findSome? (conflictingRow incoming) with
      | none => .ok ()
      | some existing =>
          .error
            { provider := incoming.provider
              externalSessionId := incoming.externalSessionId
              providerIndex := incoming.providerIndex
              existingHash := existing.payloadHash
              newHash := incoming.payloadHash }

/-- The rows of `dedupe_key >= prefix AND dedupe_key < upper_bound ORDER BY dedupe_key`. -/
def keysInRange (storedKeys : List String) (lead : String) : List String :=
  (storedKeys.filter fun key =>
    decide (lead ≤ key) && decide (key < providerEventDedupeKeyUpperBound lead)).insertionSort
      (· ≤ ·)

/-- `reject_provider_event_hash_conflict`, and `reject_provider_event_hash_conflict_tx`. -/
def rejectProviderEventHashConflict (storedKeys : List String) (dedupeKey : String)
    : Except ProviderEventConflict Unit :=
  match parseProviderEventDedupeKey dedupeKey with
  | none => .ok ()
  | some parsed =>
      rejectProviderEventHashConflictFromRows dedupeKey
        (keysInRange storedKeys (providerEventDedupeKeyPrefix parsed))

theorem mem_keysInRange {storedKeys : List String} {lead key : String}
    : key ∈ keysInRange storedKeys lead
      ↔ key ∈ storedKeys ∧ lead ≤ key ∧ key < providerEventDedupeKeyUpperBound lead := by
  simp [keysInRange, List.mem_insertionSort]

theorem conflictingRow_eq_some {incoming existing : ParsedProviderEventDedupeKey}
    {existingKey : String}
    : conflictingRow incoming existingKey = some existing
      ↔ parseProviderEventDedupeKey existingKey = some existing
        ∧ existing.hasSameEventIdentity incoming
        ∧ existing.payloadHash ≠ incoming.payloadHash := by
  unfold conflictingRow
  cases read : parseProviderEventDedupeKey existingKey with
  | none => simp
  | some found =>
      simp only [Option.bind_eq_bind, Option.bind_some, Option.ite_none_right_eq_some,
        Option.some.injEq, Bool.and_eq_true, decide_eq_true_eq]
      constructor
      · rintro ⟨⟨same, other⟩, rfl⟩
        exact ⟨rfl, same, other⟩
      · rintro ⟨rfl, same, other⟩
        exact ⟨⟨same, other⟩, rfl⟩

/-- A reported conflict names a stored key of the same parsed identity with another hash. -/
theorem conflict_of_reject {storedKeys : List String} {dedupeKey : String}
    {conflict : ProviderEventConflict}
    (rejected : rejectProviderEventHashConflict storedKeys dedupeKey = .error conflict)
    : ∃ incoming existing, ∃ key ∈ storedKeys,
        parseProviderEventDedupeKey dedupeKey = some incoming
        ∧ parseProviderEventDedupeKey key = some existing
        ∧ existing.hasSameEventIdentity incoming
        ∧ existing.payloadHash ≠ incoming.payloadHash
        ∧ conflict
          = { provider := incoming.provider
              externalSessionId := incoming.externalSessionId
              providerIndex := incoming.providerIndex
              existingHash := existing.payloadHash
              newHash := incoming.payloadHash } := by
  unfold rejectProviderEventHashConflict rejectProviderEventHashConflictFromRows at rejected
  cases read : parseProviderEventDedupeKey dedupeKey with
  | none => simp [read] at rejected
  | some incoming =>
      simp only [read] at rejected
      split at rejected
      next => cases rejected
      next existing found =>
          cases rejected
          obtain ⟨key, member, row⟩ := List.exists_of_findSome?_eq_some found
          obtain ⟨readKey, same, other⟩ := conflictingRow_eq_some.mp row
          exact ⟨incoming, existing, key, (mem_keysInRange.mp member).1, rfl, readKey, same, other,
            rfl⟩

-----------------------------------------------------------------------------------------
-- What the keys tell apart
-----------------------------------------------------------------------------------------

/-- The keys of these events are read back as they were written, keys of two events are neither
equal nor read as one event's, and a reported conflict is one between two keys of one event.
-/
def KeysIdentifyEvents (stored : List EventKey) (incoming : EventKey) : Prop :=
  (∀ key ∈ incoming :: stored, parseProviderEventDedupeKey key.text = some key.parsed)
  ∧ (∀ left ∈ incoming :: stored, ∀ right ∈ incoming :: stored, ¬ left.SameEvent right →
      left.text ≠ right.text
      ∧ ∀ leftParsed rightParsed, parseProviderEventDedupeKey left.text = some leftParsed →
          parseProviderEventDedupeKey right.text = some rightParsed →
          leftParsed.hasSameEventIdentity rightParsed = false)
  ∧ ∀ conflict,
      rejectProviderEventHashConflict (stored.map EventKey.text) incoming.text = .error conflict →
      ∃ key ∈ stored, key.SameEvent incoming ∧ key.payloadHash ≠ incoming.payloadHash
        ∧ conflict.existingHash = key.payloadHash ∧ conflict.newHash = incoming.payloadHash

/-- Keys identify events exactly when no session id among them is empty or has a colon, and no
hash is empty.
-/
theorem keysIdentifyEvents_iff (stored : List EventKey) (incoming : EventKey)
    : KeysIdentifyEvents stored incoming ↔ ∀ key ∈ incoming :: stored, key.Unambiguous := by
  constructor
  · intro identify key member
    have plain := plain_of_parse (identify.1 key member)
    cases key with
    | session => exact plain
    | source => exact plain.2.2
  · intro clear
    have read : ∀ key ∈ incoming :: stored,
        parseProviderEventDedupeKey key.text = some key.parsed :=
      fun key member => EventKey.parse_text (clear key member)
    refine ⟨read, ?_, ?_⟩
    · intro left leftMember right rightMember other
      constructor
      · intro same
        have parsed := read left leftMember
        rw [same, read right rightMember] at parsed
        apply other
        apply EventKey.sameEvent_of_parsed
        simp [Option.some.inj parsed]
      · intro leftParsed rightParsed readLeft readRight
        rw [read left leftMember] at readLeft
        rw [read right rightMember] at readRight
        cases readLeft
        cases readRight
        cases same : left.parsed.hasSameEventIdentity right.parsed with
        | false => rfl
        | true => exact absurd (EventKey.sameEvent_of_parsed same) other
    · intro conflict rejected
      obtain ⟨incomingParsed, existing, text, member, readIncoming, readKey, same, other, rfl⟩ :=
        conflict_of_reject rejected
      obtain ⟨key, keyMember, rfl⟩ := List.mem_map.mp member
      rw [read incoming List.mem_cons_self] at readIncoming
      rw [read key (List.mem_cons_of_mem _ keyMember)] at readKey
      cases readIncoming
      cases readKey
      simp only [EventKey.parsed_payloadHash] at other
      exact ⟨key, keyMember, EventKey.sameEvent_of_parsed same, other,
        EventKey.parsed_payloadHash key, EventKey.parsed_payloadHash incoming⟩

/-- The session ids `a:1` and `a` share a key. -/
theorem keys_of_two_sessions_collide
    : ¬ KeysIdentifyEvents [.session .codex "a" 1 "5:h"] (.session .codex "a:1" 5 "h") := by
  intro identify
  have apart := identify.2.1 (.session .codex "a:1" 5 "h") List.mem_cons_self
    (.session .codex "a" 1 "5:h") (by simp) (by simp [EventKey.SameEvent])
  exact apart.1 (by decide)

end CtxRemote.Store
