import CtxRemote.Capture.Envelopes
import CtxRemote.Capture.FileTouches

/-! The file touches that an import reads off the payload of an event: those of its patches, or else
those of the paths in its fields, each numbered behind the event's index.
-/

namespace CtxRemote.Capture
open CtxRemote.Library
open CtxRemote.Store (Json EventType)
open CtxRemote.Turso (trim)

-----------------------------------------------------------------------------------------
-- Keys and kinds
-----------------------------------------------------------------------------------------

/-- `normalized_key`. -/
def normalizedKey (key : String) : String :=
  String.ofList ((key.toList.filter isAsciiAlphanumeric).map Char.toLower)

/-- `str::to_ascii_lowercase`. -/
def toAsciiLowercase (text : String) : List Char := text.toList.map Char.toLower

/-- `str::contains`. -/
def containsText (needle : String) (text : List Char) : Bool := decide (needle.toList <:+: text)

/-- The keys of fields that name an operation. -/
def operationKeys : List String := ["tool", "name", "action", "command", "operation", "type"]

/-- `is_file_path_key`. -/
def isFilePathKey (key : String) : Bool :=
  normalizedKey key
    ∈ ["path", "file", "filepath", "filename", "targetfile", "targetpath", "relativepath",
      "absolutepath", "uri", "destinationfile", "destinationpath"]

/-- `is_old_file_path_key`. -/
def isOldFilePathKey (key : String) : Bool :=
  normalizedKey key ∈ ["oldpath", "frompath", "sourcepath", "originalpath", "previouspath"]

/-- `value_looks_like_file_content`. -/
def valueLooksLikeFileContent (value : Json) : Bool :=
  value.asStr.any fun text =>
    text.toList.contains '\n' || 120 < text.utf8ByteSize
    || containsText "*** Begin Patch" text.toList || containsText "@@" text.toList

/-- What `inferred_file_change_kind` searches for words: the keys, and the texts of fields that name
an operation.
-/
def changeKindHaystack (fields : List (String × Json)) : List Char :=
  fields.flatMap fun (key, value) =>
    toAsciiLowercase key ++ ' '
      :: (if String.ofList (toAsciiLowercase key) ∈ operationKeys then
            (value.asStr.map fun text => toAsciiLowercase text ++ [' ']).getD []
          else [])

/-- `inferred_file_change_kind`. -/
def inferredFileChangeKind (fields : List (String × Json)) : FileChangeKind :=
  let haystack := changeKindHaystack fields
  let mentions (words : List String) : Bool := words.any (containsText · haystack)
  if mentions ["rename", "move"] then .renamed
  else if mentions ["delete", "remove"] then .deleted
  else if mentions ["create", "write", "add"] then .created
  else if mentions ["read", "view", "open"] then .read
  else if fields.any (fun field => valueLooksLikeFileContent field.2)
      || mentions ["edit", "patch", "replace", "update"] then .modified
  else .unknown

/-- `object_operation_hint_kind`. -/
def objectOperationHintKind (fields : List (String × Json)) : Option FileChangeKind :=
  let hinted :=
    fields.any fun (key, value) =>
      normalizedKey key ∈ operationKeys && value.asStr.any fun text => !(trim text.toList).isEmpty
  if hinted && inferredFileChangeKind fields ≠ .unknown then some (inferredFileChangeKind fields)
  else none

-----------------------------------------------------------------------------------------
-- Drafts
-----------------------------------------------------------------------------------------

/-- `collect_structured_file_touch_object`. -/
def collectStructuredFileTouchObject (fields : List (String × Json))
    (inheritedKind : Option FileChangeKind)
    : List FileTouchDraft :=
  let changeKind := inheritedKind.getD (inferredFileChangeKind fields)
  let oldPath :=
    fields.findSome? fun (key, value) =>
      if isOldFilePathKey key then value.asStr.bind fun text => normalizeFilePath text.toList
      else none
  fields.filterMap fun (key, value) => do
    guard (isFilePathKey key)
    let rawPath ← value.asStr
    guard (normalizedKey key ≠ "uri" ∨ "file://".toList <+: trim rawPath.toList)
    let path ← normalizeFilePath rawPath.toList
    return {
      path := path
      oldPath := oldPath
      changeKind := some changeKind
      confidence := .high
      metadata :=
        .object [("path_key", .string key), ("source", .string "structured_provider_payload")] }

mutual
/-- `collect_patch_file_touches`. -/
def collectPatchFileTouches : Json → List FileTouchDraft
  | .string text =>
      if containsText "*** Begin Patch" text.toList then parseApplyPatchFileTouches text.toList
      else []
  | .array items => collectPatchFileTouchesItems items
  | .object fields => collectPatchFileTouchesFields fields
  | _ => []

/-- The loop over the items of an array. -/
def collectPatchFileTouchesItems : List Json → List FileTouchDraft
  | [] => []
  | item :: rest => collectPatchFileTouches item ++ collectPatchFileTouchesItems rest

/-- The loop over the values of an object. -/
def collectPatchFileTouchesFields : List (String × Json) → List FileTouchDraft
  | [] => []
  | (_, value) :: rest => collectPatchFileTouches value ++ collectPatchFileTouchesFields rest
end

mutual
/-- `collect_structured_file_touches_with_context`. -/
def collectStructuredFileTouches (inheritedKind : Option FileChangeKind)
    : Json → List FileTouchDraft
  | .array items => collectStructuredFileTouchesItems inheritedKind items
  | .object fields =>
      let objectKind := (objectOperationHintKind fields).or inheritedKind
      collectStructuredFileTouchObject fields objectKind
        ++ collectStructuredFileTouchesFields objectKind fields
  | _ => []

/-- The loop over the items of an array. -/
def collectStructuredFileTouchesItems (inheritedKind : Option FileChangeKind)
    : List Json → List FileTouchDraft
  | [] => []
  | item :: rest =>
      collectStructuredFileTouches inheritedKind item
        ++ collectStructuredFileTouchesItems inheritedKind rest

/-- The loop over the values of an object. -/
def collectStructuredFileTouchesFields (inheritedKind : Option FileChangeKind)
    : List (String × Json) → List FileTouchDraft
  | [] => []
  | (_, value) :: rest =>
      collectStructuredFileTouches inheritedKind value
        ++ collectStructuredFileTouchesFields inheritedKind rest
end

/-- The drafts that `provider_file_touches_from_event` collects of an event. -/
def fileTouchDrafts (event : ProviderEventEnvelope) : List FileTouchDraft :=
  if event.eventType ∉ [.toolCall, .toolOutput, .commandOutput, .fileTouched] then []
  else
    let drafts := collectPatchFileTouches event.payload
    if drafts.isEmpty && (event.eventType = .toolCall || event.eventType = .fileTouched) then
      collectStructuredFileTouches none event.payload
    else drafts

-----------------------------------------------------------------------------------------
-- Envelopes
-----------------------------------------------------------------------------------------

/-- The first draft of each file, old path and kind. -/
def distinctDrafts (drafts : List FileTouchDraft) : List FileTouchDraft :=
  drafts.foldl (fun kept draft =>
    if kept.any (fun held => held.touch = draft.touch) then kept else kept ++ [draft]) []

/-- The envelope of a draft at a position behind the base index of its event. -/
def touchEnvelope (capture : ProviderCaptureEnvelope) (event : ProviderEventEnvelope)
    (draft : FileTouchDraft) (position : Nat)
    : ProviderFileTouchedEnvelope where
  provider := capture.provider
  providerSessionId := capture.session.providerSessionId
  providerTouchIndex := (event.providerEventIndex <<< 16) ||| UInt64.ofNat position
  providerEventIndex := some event.providerEventIndex
  rawSourcePath := capture.source.rawSourcePath
  sourceRoot := capture.source.sourceRoot
  path := String.ofList draft.path
  changeKind := draft.changeKind
  oldPath := draft.oldPath.map String.ofList
  lineCountDelta := none
  confidence := draft.confidence
  occurredAt := event.occurredAt
  sourceFormat := capture.source.sourceFormat
  metadata := draft.metadata

/-- The loop of `provider_file_touch_envelopes`: a draft is passed over where an envelope of its
file, old path and kind is there.
-/
def providerFileTouchEnvelopes (capture : ProviderCaptureEnvelope) (event : ProviderEventEnvelope)
    (drafts : List FileTouchDraft)
    : List ProviderFileTouchedEnvelope :=
  (distinctDrafts drafts).mapIdx fun position draft => touchEnvelope capture event draft position

/-- `provider_file_touches_from_event`, without the line number. -/
def providerFileTouchesFromEvent (capture : ProviderCaptureEnvelope)
    (event : ProviderEventEnvelope)
    : List ProviderFileTouchedEnvelope :=
  providerFileTouchEnvelopes capture event (fileTouchDrafts event)

end CtxRemote.Capture
