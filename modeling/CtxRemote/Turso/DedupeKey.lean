import Mathlib.Data.List.Basic

/-! The dedupe key an event carries to the remote, as `remote_dedupe_key` and
`remote_dedupe_candidate` compute it from the local key and the session identities.
-/

namespace CtxRemote.Turso

-----------------------------------------------------------------------------------------
-- String functions of the standard library, on code points
-----------------------------------------------------------------------------------------

/-- `char::is_whitespace`: the Unicode `White_Space` property. -/
def isWhitespace (c : Char) : Bool :=
  let code := c.toNat
  (9 ≤ code && code ≤ 13) || code == 0x20 || code == 0x85 || code == 0xA0 || code == 0x1680
    || (0x2000 ≤ code && code ≤ 0x200A) || code == 0x2028 || code == 0x2029 || code == 0x202F
    || code == 0x205F || code == 0x3000

/-- `str::trim`. -/
def trim (text : List Char) : List Char :=
  ((text.dropWhile isWhitespace).reverse.dropWhile isWhitespace).reverse

/-- `str::strip_prefix`. -/
def stripPrefix : List Char → List Char → Option (List Char)
  | [], text => some text
  | _ :: _, [] => none
  | c :: lead, d :: text => if c = d then stripPrefix lead text else none

/-- `str::split_once`: the parts before and after the first occurrence of the separator. -/
def splitOnce (separator : Char) : List Char → Option (List Char × List Char)
  | [] => none
  | c :: text =>
      if c = separator then some ([], text)
      else (splitOnce separator text).map fun (before, after) => (c :: before, after)

-----------------------------------------------------------------------------------------
-- Keys
-----------------------------------------------------------------------------------------

/-- What `push` keeps of a session: its provider and its provider-side session id. -/
structure SessionIdentity where
  provider : String
  externalSessionId : Option String
deriving DecidableEq, Repr

/-- `canonical_provider_source_dedupe_key`: drops the machine-local source path from a
`provider-source:{source}:{index}:{hash}` key and names the session instead.
-/
def canonicalProviderSourceDedupeKey (provider : String)
    (externalSessionId : Option String) (sourceDedupeKey : String)
    : Option String := do
  let externalSessionId := trim (← externalSessionId).toList
  if externalSessionId.isEmpty then none
  let sourceDedupeKey ← stripPrefix "provider-source:".toList sourceDedupeKey.toList
  let (_, eventIdentity) ← splitOnce ':' sourceDedupeKey
  let (providerEventIndex, payloadHash) ← splitOnce ':' eventIdentity
  if providerEventIndex.isEmpty || payloadHash.isEmpty then none
  return "provider:" ++ provider ++ ":" ++ String.ofList externalSessionId ++ ":"
    ++ String.ofList providerEventIndex ++ ":" ++ String.ofList payloadHash

/-- `visibility` of an event's sync metadata. -/
inductive Visibility
  | localOnly
  | reportable
  | syncMetadata
  | syncFull
  | withheld
deriving DecidableEq, Repr

/-- `sync_state` of an event's sync metadata. -/
inductive SyncState
  | localOnly
  | pending
  | synced
  | failed
  | withheld
deriving DecidableEq, Repr

/-- The fields of a stored local event that `push` reads. Ids are the textual UUIDs the store
orders by; `payloadJson` is the serialized payload.
-/
structure Event where
  id : String
  sessionId : Option String
  captureSourceId : Option String
  role : Option String
  eventType : String
  occurredAtMs : Int
  dedupeKey : Option String
  payloadJson : String
  visibility : Visibility
  syncState : SyncState
deriving DecidableEq, Repr

/-- The session and capture-source maps that `push` reads once before its page loop. -/
structure PushContext where
  sessionIdentities : List (String × SessionIdentity)
  captureSourceProviders : List (String × String)

/-- `HashMap::get` after `collect`: of several entries with one key the last one is kept. -/
def hashMapGet {Value : Type} (entries : List (String × Value)) (key : String)
    : Option Value :=
  entries.reverse.lookup key

/-- `remote_dedupe_candidate`: the canonical key, if the event has one. -/
def remoteDedupeCandidate (context : PushContext) (event : Event) : Option String := do
  let sourceDedupeKey ← event.dedupeKey
  let sessionId ← event.sessionId
  let identity ← hashMapGet context.sessionIdentities sessionId
  let externalSessionId := trim (← identity.externalSessionId).toList
  if externalSessionId.isEmpty then none
  canonicalProviderSourceDedupeKey identity.provider (some (String.ofList externalSessionId))
    sourceDedupeKey

/-- `remote_dedupe_key`: the canonical key, or else the local key as it is. -/
def remoteDedupeKey (context : PushContext) (event : Event) : Option String := do
  let sourceDedupeKey ← event.dedupeKey
  let sessionId ← event.sessionId
  let identity ← hashMapGet context.sessionIdentities sessionId
  match canonicalProviderSourceDedupeKey identity.provider identity.externalSessionId
      sourceDedupeKey with
  | some canonical => some canonical
  | none => some sourceDedupeKey

/-- `remote_export_allowed`. -/
def remoteExportAllowed (event : Event) (includeLocalOnly : Bool) : Bool :=
  if event.visibility = .withheld || event.syncState = .withheld then false
  else event.visibility = .syncFull || includeLocalOnly

/-- The provider of an exported event: its session's, else its capture source's. -/
def exportProvider (context : PushContext) (event : Event) : String :=
  let ofSession :=
    (event.sessionId.bind (hashMapGet context.sessionIdentities)).map (·.provider)
  let ofCaptureSource :=
    event.captureSourceId.bind (hashMapGet context.captureSourceProviders)
  (ofSession.or ofCaptureSource).getD "unknown"

end CtxRemote.Turso
