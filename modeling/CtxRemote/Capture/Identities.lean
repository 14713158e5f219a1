import CtxRemote.Store.Events

/-! The ids that provider imports give to sources, sessions, edges, runs, events and file touches:
hashes of texts that spell what the id stands for.
-/

namespace CtxRemote.Capture
open CtxRemote.Store (Uuid CaptureProvider Json)
open CtxRemote.Turso (trim)

-----------------------------------------------------------------------------------------
-- Hashes
-----------------------------------------------------------------------------------------

/-- `str::as_bytes`. -/
def asBytes (text : String) : List UInt8 := text.toByteArray.data.toList

/-- `fnv1a64`, with the wrapping product of `u64` written out. -/
def fnv1a64 (bytes : List UInt8) : UInt64 :=
  UInt64.ofNat
    (bytes.foldl (fun hash byte => ((hash ^^^ byte.toNat) * 0x100000001b3) % 2 ^ 64)
      0xcbf29ce484222325)

/-- A hexadecimal digit. -/
def hexDigit (n : Nat) : Char := "0123456789abcdef".toList.getD (n % 16) '0'

theorem hexDigit_mem (n : Nat) : hexDigit n ∈ "0123456789abcdef-".toList := by
  have digits
      : ∀ digit < 16, "0123456789abcdef".toList.getD digit '0' ∈ "0123456789abcdef-".toList := by
    decide
  exact digits _ (Nat.mod_lt n (by decide))

/-- The two digits of a byte. -/
def hexByte (byte : UInt8) : List Char := [hexDigit (byte.toNat / 16), hexDigit byte.toNat]

/-- `Uuid::from_bytes` and its hyphenated text. -/
def uuidChars (byte : Fin 16 → UInt8) : List Char :=
  (List.finRange 16).flatMap fun index =>
    (if index.val ∈ [4, 6, 8, 10] then ['-'] else []) ++ hexByte (byte index)

theorem length_uuidChars (byte : Fin 16 → UInt8) : (uuidChars byte).length = 36 := by
  have pieces
      : ((List.finRange 16).map fun index =>
          ((if index.val ∈ [4, 6, 8, 10] then ['-'] else []) ++ hexByte (byte index)).length)
        = (List.finRange 16).map fun index => if index.val ∈ [4, 6, 8, 10] then 3 else 2 := by
    refine List.map_congr_left fun index _ => ?_
    split <;> simp [hexByte]
  rw [uuidChars, List.length_flatMap, pieces]
  decide

/-- `Uuid::from_bytes`. -/
def Uuid.fromBytes (byte : Fin 16 → UInt8) : Uuid where
  text := String.ofList (uuidChars byte)
  length := by rw [String.toList_ofList, length_uuidChars]
  digits := by
    rw [String.toList_ofList, List.all_eq_true]
    intro c member
    obtain ⟨index, -, piece⟩ := List.mem_flatMap.mp member
    rw [List.contains_iff_mem]
    rcases List.mem_append.mp piece with hyphen | digit
    · split at hyphen
      next =>
          obtain rfl := List.mem_singleton.mp hyphen
          decide
      next => simp at hyphen
    · unfold hexByte at digit
      rcases List.mem_cons.mp digit with rfl | digit
      · exact hexDigit_mem _
      · obtain rfl := List.mem_singleton.mp digit
        exact hexDigit_mem _

/-- One of the bytes of `u64::to_be_bytes`. -/
def beByte (value : UInt64) (index : Nat) : UInt8 :=
  UInt8.ofNat (value.toNat >>> (8 * (7 - index)))

/-- `stable_capture_uuid`. -/
def stableCaptureUuid (dedupeKey role : String) : Uuid :=
  let name := "ctx-ctx-history-capture:" ++ dedupeKey ++ ":" ++ role
  let first := fnv1a64 (asBytes name)
  let second := fnv1a64 (asBytes (name ++ ":uuid-v7"))
  Uuid.fromBytes fun index =>
    if index.val < 6 then beByte first index
    else if index.val = 6 then 0x70 ||| (beByte first 6 &&& 0x0f)
    else if index.val = 7 then beByte first 7
    else if index.val = 8 then 0x80 ||| (beByte second 0 &&& 0x3f)
    else beByte second (index.val - 8)

/-- `compute_payload_hash`. -/
def computePayloadHash (payload : Json) : String :=
  let hash := (fnv1a64 (asBytes payload.text)).toNat
  "fnv1a64:" ++ String.ofList ((List.range 16).map fun index => hexDigit (hash >>> (4 * (15 - index))))

-----------------------------------------------------------------------------------------
-- Sources
-----------------------------------------------------------------------------------------

/-- A JSON text, or `null`. -/
def optionalText (value : Option String) : Json :=
  match value with
  | some text => .string text
  | none => .null

/-- `provider_scoped_source_identity_key`. -/
def providerScopedSourceIdentityKey (provider : CaptureProvider) (providerSessionId : String)
    (sourceFormat : String) (rawSourcePath : Option String)
    : String :=
  (Json.array [.string "provider-source-v2", .string provider.asStr, .string providerSessionId,
    .string sourceFormat, optionalText rawSourcePath]).text

/-- `provider_scoped_source_uuid`. -/
def providerScopedSourceUuid (provider : CaptureProvider) (providerSessionId : String)
    (sourceFormat : String) (rawSourcePath : Option String)
    : Uuid :=
  stableCaptureUuid
    (providerScopedSourceIdentityKey provider providerSessionId sourceFormat rawSourcePath) "source"

/-- `.map(str::trim).filter(|text| !text.is_empty())`. -/
def trimmed (value : Option String) : Option String :=
  (value.map fun text => String.ofList (trim text.toList)).filter (· ≠ "")

/-- `provider_source_root`. -/
def providerSourceRoot (sourceRoot rawSourcePath : Option String) : Option String :=
  (trimmed sourceRoot).or (trimmed rawSourcePath)

/-- `while normalized.len() > 1 && normalized.ends_with('/')`, on the reversed text. -/
def popSlashes : List Char → List Char
  | '/' :: next :: rest => popSlashes (next :: rest)
  | text => text

/-- `normalized_source_identity_value`. -/
def normalizedSourceIdentityValue (value : String) : Option String :=
  let value := trim value.toList
  if value.isEmpty then none
  else
    let replaced := value.map fun c => if c = '\\' then '/' else c
    some (String.ofList (popSlashes replaced.reverse).reverse)

/-- `provider_source_identity_component`. -/
def providerSourceIdentityComponent (sourceRoot rawSourcePath sourceIdempotencyKey : Option String)
    (sourceMetadata : Json)
    : Option (String × String) :=
  let root := (sourceRoot.bind normalizedSourceIdentityValue).map ("root", ·)
  let path := (rawSourcePath.bind normalizedSourceIdentityValue).map ("path", ·)
  let named :=
    ["source_id", "native_source_id", "workspace_id", "native_workspace_id", "root_id"].findSome?
      fun key =>
        (((sourceMetadata.get key).bind Json.asStr).bind normalizedSourceIdentityValue).map (key, ·)
  let idempotency :=
    (sourceIdempotencyKey.bind normalizedSourceIdentityValue).map ("idempotency_key", ·)
  ((root.or path).or named).or idempotency

/-- `provider_source_identity_key`. -/
def providerSourceIdentityKey (provider : CaptureProvider)
    (sourceFormat componentKind componentValue : String)
    : String :=
  (Json.array [.string "provider-source-identity-v1", .string provider.asStr,
    .string sourceFormat, .string componentKind, .string componentValue]).text

/-- `provider_source_identity`. -/
def providerSourceIdentity (provider : CaptureProvider) (sourceFormat : String)
    (sourceRoot rawSourcePath sourceIdempotencyKey : Option String) (sourceMetadata : Json)
    : Option String :=
  (providerSourceIdentityComponent sourceRoot rawSourcePath sourceIdempotencyKey
      sourceMetadata).map fun (kind, value) =>
    (stableCaptureUuid (providerSourceIdentityKey provider sourceFormat kind value)
      "provider-source-root").text

-----------------------------------------------------------------------------------------
-- Sessions, edges and runs
-----------------------------------------------------------------------------------------

/-- `provider_session_uuid`. -/
def providerSessionUuid (provider : CaptureProvider) (providerSessionId : String) : Uuid :=
  stableCaptureUuid ("provider:" ++ provider.asStr ++ ":" ++ providerSessionId) "session"

/-- `provider_source_session_uuid`. -/
def providerSourceSessionUuid (sourceIdentity providerSessionId : String) : Uuid :=
  stableCaptureUuid ("provider-source-root:" ++ sourceIdentity ++ ":session:" ++ providerSessionId)
    "session"

/-- `provider_source_edge_uuid`. -/
def providerSourceEdgeUuid (sourceIdentity providerSessionId edgeKind : String) : Uuid :=
  stableCaptureUuid
    ("provider-source-root:" ++ sourceIdentity ++ ":session:" ++ providerSessionId ++ ":" ++ edgeKind)
    "session-edge"

/-- `provider_edge_uuid`. -/
def providerEdgeUuid (provider : CaptureProvider) (providerSessionId edgeKind : String) : Uuid :=
  stableCaptureUuid
    ("provider:" ++ provider.asStr ++ ":" ++ providerSessionId ++ ":" ++ edgeKind) "session-edge"

/-- `provider_import_edge_uuid`. -/
def providerImportEdgeUuid (provider : CaptureProvider) (providerSessionId : String)
    (sourceIdentity : Option String) (sessionId : Uuid) (edgeKind : String)
    : Uuid :=
  match sourceIdentity with
  | some sourceIdentity =>
      if provider ≠ .custom ∧ sessionId ≠ providerSessionUuid provider providerSessionId
      then providerSourceEdgeUuid sourceIdentity providerSessionId edgeKind
      else providerEdgeUuid provider providerSessionId edgeKind
  | none => providerEdgeUuid provider providerSessionId edgeKind

/-- `provider_run_uuid`. -/
def providerRunUuid (provider : CaptureProvider) (providerSessionId runKey : String) : Uuid :=
  stableCaptureUuid ("provider:" ++ provider.asStr ++ ":" ++ providerSessionId ++ ":run:" ++ runKey)
    "run"

/-- `provider_source_run_uuid`. -/
def providerSourceRunUuid (sourceId : Uuid) (runKey : String) : Uuid :=
  stableCaptureUuid ("provider-source:" ++ sourceId.text ++ ":run:" ++ runKey) "run"

-----------------------------------------------------------------------------------------
-- Events and file touches
-----------------------------------------------------------------------------------------

/-- `provider_event_uuid`. -/
def providerEventUuid (provider : CaptureProvider) (providerSessionId : String)
    (providerEventIndex : UInt64)
    : Uuid :=
  stableCaptureUuid
    ("provider:" ++ provider.asStr ++ ":" ++ providerSessionId ++ ":"
      ++ providerEventIndex.toNat.repr)
    "event"

/-- `provider_event_seq`. -/
def providerEventSeq (provider : CaptureProvider) (providerSessionId : String)
    (providerEventIndex : UInt64)
    : UInt64 :=
  let sessionKey := "provider:" ++ provider.asStr ++ ":" ++ providerSessionId
  ((fnv1a64 (asBytes sessionKey) &&& 0x000007ffffffffff) <<< 20)
    ||| (providerEventIndex &&& 0x000fffff)

/-- `provider_source_event_uuid`. -/
def providerSourceEventUuid (sourceId : Uuid) (providerEventIndex : UInt64) : Uuid :=
  stableCaptureUuid
    ("provider-source:" ++ sourceId.text ++ ":event:" ++ providerEventIndex.toNat.repr) "event"

/-- `provider_source_event_seq`. -/
def providerSourceEventSeq (sourceId : Uuid) (providerEventIndex : UInt64) : UInt64 :=
  ((fnv1a64 (asBytes sourceId.text) &&& 0x000000007fffffff) <<< 32)
    ||| (providerEventIndex &&& 0xffffffff)

/-- `provider_file_touch_uuid`. -/
def providerFileTouchUuid (provider : CaptureProvider) (providerSessionId : String)
    (providerTouchIndex : UInt64)
    : Uuid :=
  stableCaptureUuid
    ("provider:" ++ provider.asStr ++ ":" ++ providerSessionId ++ ":file-touch:"
      ++ providerTouchIndex.toNat.repr)
    "file-touch"

/-- `provider_source_file_touch_uuid`. -/
def providerSourceFileTouchUuid (sourceId : Uuid) (providerTouchIndex : UInt64) : Uuid :=
  stableCaptureUuid
    ("provider-source:" ++ sourceId.text ++ ":file-touch:" ++ providerTouchIndex.toNat.repr)
    "file-touch"

end CtxRemote.Capture
