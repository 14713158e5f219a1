import CtxRemote.Capture.DerivedTouches
import Mathlib.Logic.Relation

/-! What an import keeps of the text and the body of an event: native adapters and the Claude adapter
put both under one retention policy, which withholds the outputs of tools and commands.
-/

namespace CtxRemote.Capture
open CtxRemote.Store (Json EventType EventRole CaptureProvider DateTime)
open CtxRemote.Turso (trim)

-----------------------------------------------------------------------------------------
-- Patch content
-----------------------------------------------------------------------------------------

/-- `provider_text_contains_patch_or_diff`. -/
def providerTextContainsPatchOrDiff (text : List Char) : Bool :=
  containsText "*** Begin Patch" text || containsText "diff --git " text
  || "@@".toList.isPrefixOf text || "+++ ".toList.isPrefixOf text || "--- ".toList.isPrefixOf text
  || containsText "\n@@" text || containsText "\n+++ " text || containsText "\n--- " text

mutual
/-- `provider_value_contains_patch_or_diff`. -/
def providerValueContainsPatchOrDiff : Json → Bool
  | .string text => providerTextContainsPatchOrDiff text.toList
  | .array items => anyItemContainsPatchOrDiff items
  | .object fields => anyFieldContainsPatchOrDiff fields
  | _ => false

def anyItemContainsPatchOrDiff : List Json → Bool
  | [] => false
  | item :: rest => providerValueContainsPatchOrDiff item || anyItemContainsPatchOrDiff rest

def anyFieldContainsPatchOrDiff : List (String × Json) → Bool
  | [] => false
  | (_, value) :: rest =>
      providerValueContainsPatchOrDiff value || anyFieldContainsPatchOrDiff rest
end

/-- `provider_value_approx_bytes`. -/
def providerValueApproxBytes : Json → Nat
  | .string text => text.utf8ByteSize
  | value => value.text.utf8ByteSize

/-- What stands in for an output of that many bytes. -/
def outputOmitted (bytes : Nat) : List Char :=
  "[output omitted: contains patch or diff content; bytes=".toList ++ bytes.repr.toList ++ [']']

/-- `provider_output_preview_omitting_patch_diff`. -/
def providerOutputPreviewOmittingPatchDiff (text : String) : List Char :=
  if providerTextContainsPatchOrDiff text.toList then outputOmitted text.utf8ByteSize
  else text.toList

/-- `provider_output_preview_omitting_nested_patch_diff`. -/
def providerOutputPreviewOmittingNestedPatchDiff (value : Json) (text : String) : List Char :=
  if providerValueContainsPatchOrDiff value then outputOmitted (providerValueApproxBytes value)
  else providerOutputPreviewOmittingPatchDiff text

-----------------------------------------------------------------------------------------
-- Failures
-----------------------------------------------------------------------------------------

/-- `provider_status_text_is_failure`. -/
def providerStatusTextIsFailure (status : String) : Bool :=
  String.ofList ((trim status.toList).map Char.toLower)
    ∈ ["failed", "failure", "error", "errored", "timeout", "timed_out", "timedout"]

/-- `provider_error_value_indicates_failure`. -/
def providerErrorValueIndicatesFailure : Json → Bool
  | .null => false
  | .bool value => value
  | .string value => !(trim value.toList).isEmpty
  | .number value => value.asI64.any (· ≠ 0)
  | .array values => !values.isEmpty
  | .object values => !values.isEmpty

/-- `provider_output_object_indicates_failure`. -/
def providerOutputObjectIndicatesFailure (object : List (String × Json)) : Bool :=
  ((((object.lookup "timed_out").or (object.lookup "timedOut")).or (object.lookup "timeout")).bind
    Json.asBool).getD false
  || ((object.lookup "success").bind Json.asBool).any (!·)
  || (((object.lookup "isError").or (object.lookup "is_error")).bind Json.asBool).getD false
  || ["exit_code", "exitCode"].any (fun key => ((object.lookup key).bind Json.asI64).any (· ≠ 0))
  || ["status_code", "statusCode"].any
      (fun key => ((object.lookup key).bind Json.asI64).any (400 ≤ ·))
  || ["status", "state", "outcome"].any
      (fun key => ((object.lookup key).bind Json.asStr).any providerStatusTextIsFailure)
  || (object.lookup "error").any providerErrorValueIndicatesFailure

mutual
/-- `provider_output_event_is_failure`. -/
def providerOutputEventIsFailure : Json → Bool
  | .object fields => providerOutputObjectIndicatesFailure fields || anyFieldIsFailure fields
  | .array items => anyItemIsFailure items
  | _ => false

def anyItemIsFailure : List Json → Bool
  | [] => false
  | item :: rest => providerOutputEventIsFailure item || anyItemIsFailure rest

def anyFieldIsFailure : List (String × Json) → Bool
  | [] => false
  | (_, value) :: rest => providerOutputEventIsFailure value || anyFieldIsFailure rest
end

-----------------------------------------------------------------------------------------
-- Texts
-----------------------------------------------------------------------------------------

/-- `PROVIDER_MAX_TEXT_CHARS`. -/
def providerMaxTextChars : Nat := 16000

/-- `PROVIDER_MAX_PREVIEW_CHARS`. -/
def providerMaxPreviewChars : Nat := 4000

/-- `provider_local_preview`, which is `capped_text`: at most that many characters, and whether there
are more.
-/
def providerLocalPreview (value : List Char) (maxChars : Nat) : List Char × Bool :=
  (value.take maxChars, decide (maxChars < value.length))

/-- `NativeTextOmissionPolicy`. -/
inductive NativeTextOmissionPolicy where
  | none | patchOrDiff
deriving DecidableEq, Repr

/-- `NativeTextOmissionPolicy::as_str`. -/
def NativeTextOmissionPolicy.asStr : NativeTextOmissionPolicy → String
  | none => "none"
  | patchOrDiff => "patch_or_diff"

/-- `NativeTextRetentionPolicy`. -/
structure NativeTextRetentionPolicy where
  limitChars : Option Nat
  omissionPolicy : NativeTextOmissionPolicy

/-- `ProviderTextRetention`. -/
structure ProviderTextRetention where
  limitChars : Option Nat
  truncated : Bool
  omissionPolicy : NativeTextOmissionPolicy
  omissionApplied : Bool

/-- A size as a JSON number. -/
def sizeJson (size : Nat) : Json := .number (.posInt (UInt64.ofNat size))

/-- `ProviderTextRetention::as_json`. -/
def ProviderTextRetention.asJson (retention : ProviderTextRetention) : Json :=
  .object
    [("limit_chars", (retention.limitChars.map sizeJson).getD .null),
      ("mode", .string (if retention.limitChars.isSome then "bounded" else "none")),
      ("omission_applied", .bool retention.omissionApplied),
      ("omission_policy", .string retention.omissionPolicy.asStr),
      ("truncated", .bool retention.truncated)]

/-- `ProviderPolicyText`. -/
structure ProviderPolicyText where
  text : List Char
  retention : ProviderTextRetention

/-- `native_event_text_retention_policy`. -/
def nativeEventTextRetentionPolicy (eventType : EventType) (body : Json)
    : NativeTextRetentionPolicy :=
  match eventType with
  | .message | .summary => ⟨some providerMaxTextChars, .none⟩
  | .toolCall | .commandStarted | .commandFinished => ⟨some providerMaxPreviewChars, .none⟩
  | .toolOutput | .commandOutput =>
      if providerOutputEventIsFailure body then ⟨some providerMaxPreviewChars, .patchOrDiff⟩
      else ⟨none, .none⟩
  | .fileTouched | .vcsChange | .artifact | .notice => ⟨none, .none⟩

/-- `provider_policy_event_text`. -/
def providerPolicyEventText (eventType : EventType) (text : String) (body : Json)
    : ProviderPolicyText :=
  let policy := nativeEventTextRetentionPolicy eventType body
  let omissionApplied :=
    policy.omissionPolicy == .patchOrDiff
    && (providerValueContainsPatchOrDiff body || providerTextContainsPatchOrDiff text.toList)
  let kept :=
    if omissionApplied then providerOutputPreviewOmittingNestedPatchDiff body text else text.toList
  let preview := (policy.limitChars.map (providerLocalPreview kept)).getD ([], false)
  { text := preview.1
    retention := ⟨policy.limitChars, preview.2, policy.omissionPolicy, omissionApplied⟩ }

-----------------------------------------------------------------------------------------
-- Bodies
-----------------------------------------------------------------------------------------

/-- `provider_normalized_key`. -/
def providerNormalizedKey (key : String) : String := normalizedKey key

/-- Whether a value is an object. -/
def isObject : Json → Bool
  | .object _ => true
  | _ => false

/-- `provider_should_omit_body_field`. -/
def providerShouldOmitBodyField (eventType : EventType) (key : String) (value : Json) : Bool :=
  let key := providerNormalizedKey key
  if eventType ∈ [.notice, .fileTouched, .vcsChange, .artifact]
      ∧ key ∈ ["text", "content", "message", "prompt", "summary", "details"] then true
  else if eventType ∈ [.toolOutput, .commandOutput]
      ∧ (key ∈ ["details", "text", "content", "outputpreview"]
        ∨ key = "message" ∧ isObject value = false) then true
  else
    decide (key
      ∈ ["output", "stdout", "stderr", "tooloutput", "toolresult", "toolresults", "tooluseresult",
        "toolcallstates", "commandoutput", "executionoutput", "result", "results", "diff", "patch",
        "oldstring", "newstring", "oldcontent", "newcontent", "beforecontent", "aftercontent",
        "beforetext", "aftertext"])
    || (decide (key ∈ ["input", "arguments", "args", "params"])
      && providerValueContainsPatchOrDiff value)

/-- `provider_omitted_body_field`. -/
def providerOmittedBodyField (value : Json) : Json :=
  .object
    [("field_retention",
      .object
        [("contained_patch_or_diff", .bool (providerValueContainsPatchOrDiff value)),
          ("mode", .string "omitted"),
          ("original_bytes", sizeJson (providerValueApproxBytes value))])]

mutual
/-- `provider_filter_body_by_retention_policy`. -/
def providerFilterBodyByRetentionPolicy (eventType : EventType) (key : Option String)
    (value : Json)
    : Json :=
  if key.any (providerShouldOmitBodyField eventType · value) then providerOmittedBodyField value
  else
    match value with
    | .array items => .array (filterItems eventType key items)
    | .object fields => .object (filterFields eventType fields)
    | value => value

def filterItems (eventType : EventType) (key : Option String) : List Json → List Json
  | [] => []
  | item :: rest =>
      providerFilterBodyByRetentionPolicy eventType key item :: filterItems eventType key rest

def filterFields (eventType : EventType) : List (String × Json) → List (String × Json)
  | [] => []
  | (key, value) :: rest =>
      (key, providerFilterBodyByRetentionPolicy eventType (some key) value)
        :: filterFields eventType rest
end

/-- `provider_policy_body`. -/
def providerPolicyBody (eventType : EventType) (body : Json) : Json :=
  providerFilterBodyByRetentionPolicy eventType none body

/-- `provider_capped_json`. -/
def providerCappedJson (value : Json) (maxChars : Nat) : Json :=
  match value with
  | .null => .null
  | .string text =>
      let preview := providerLocalPreview text.toList maxChars
      .object [("text", .string (String.ofList preview.1)), ("truncated", .bool preview.2)]
  | value =>
      let preview := providerLocalPreview value.compact maxChars
      .object [("json", .string (String.ofList preview.1)), ("truncated", .bool preview.2)]

-----------------------------------------------------------------------------------------
-- Native events
-----------------------------------------------------------------------------------------

/-- `NativeEventDraft`. -/
structure NativeEventDraft where
  provider : CaptureProvider
  sourceFormat : String
  providerSessionId : String
  providerEventIndex : UInt64
  providerEventHash : Option String
  cursor : String
  eventType : EventType
  role : Option EventRole
  occurredAt : DateTime
  text : String
  body : Json
  metadata : Json

/-- The payload of a native event. -/
def nativePayload (draft : NativeEventDraft) : Json :=
  let retained := providerPolicyEventText draft.eventType draft.text draft.body
  .object
    [("body", providerCappedJson (providerPolicyBody draft.eventType draft.body)
        providerMaxPreviewChars),
      ("source_format", .string draft.sourceFormat),
      ("text", .string (String.ofList retained.text)),
      ("text_retention", retained.retention.asJson)]

/-- `native_event`. -/
def nativeEvent (draft : NativeEventDraft) : ProviderEventEnvelope where
  providerEventIndex := draft.providerEventIndex
  providerEventHash := draft.providerEventHash
  cursor := some draft.cursor
  eventType := draft.eventType
  role := draft.role
  occurredAt := draft.occurredAt
  fidelity := .imported
  idempotencyKey :=
    some ("provider-event:" ++ draft.provider.asStr ++ ":" ++ draft.providerSessionId ++ ":"
      ++ draft.providerEventIndex.toNat.repr)
  artifacts := .array []
  payload := nativePayload draft
  metadata := draft.metadata

-----------------------------------------------------------------------------------------
-- Claude events
-----------------------------------------------------------------------------------------

/-- The part of a content block that its text is made of. -/
def blockText (block : Json) : Option String :=
  match ((((block.get "text").or (block.get "content")).or (block.get "output")).or
      (block.get "summary")).bind Json.asStr with
  | some text => some text
  | none => do
      let kind ← (block.get "type").bind Json.asStr
      if kind ∈ ["tool_use", "tool", "toolCall", "function_call", "agent"] then
        some ("tool call: "
          ++ ((((block.get "name").or (block.get "tool")).bind Json.asStr).getD "tool"))
      else if kind = "tool_result" then some "tool result"
      else none

/-- `provider_value_text`. -/
def providerValueText : Json → Option String
  | .string text => some text
  | .array blocks =>
      let parts := blocks.filterMap blockText
      if parts.isEmpty then none else some ("\n".intercalate parts)
  | .null => none
  | value => some value.text

/-- `provider_role`. -/
def providerRole : Option String → EventRole
  | some "user" => .user
  | some "assistant" => .assistant
  | some "system" | some "developer" => .system
  | some "tool" | some "toolResult" | some "bashExecution" => .tool
  | _ => .unknown

/-- `claude_content_has_type`. -/
def claudeContentHasType (content : Option Json) (expected : String) : Bool :=
  match content with
  | some (.array blocks) =>
      blocks.any fun block => (block.get "type").bind Json.asStr == some expected
  | _ => false

/-- `claude_event_type`. -/
def claudeEventType (entryType : String) (message : Json) : EventType :=
  if claudeContentHasType (message.get "content") "tool_result"
      || (message.get "toolUseResult").isSome then .toolOutput
  else if claudeContentHasType (message.get "content") "tool_use" then .toolCall
  else if entryType ∈ ["user", "assistant"] then .message
  else .notice

/-- An optional text as a JSON value. -/
def textJson (text : Option String) : Json := (text.map Json.string).getD .null

/-- The type of an entry of a Claude transcript. -/
def claudeEntryType (value : Json) : String := ((value.get "type").bind Json.asStr).getD "unknown"

/-- The message of an entry of a Claude transcript. -/
def claudeMessage (value : Json) : Json := (value.get "message").getD value

/-- Who speaks in an entry of a Claude transcript. -/
def claudeMessageRole (value : Json) : Option String :=
  (((claudeMessage value).get "role").bind Json.asStr).or ((value.get "role").bind Json.asStr)

/-- The content of an entry of a Claude transcript. -/
def claudeContent (value : Json) : Json := ((claudeMessage value).get "content").getD .null

/-- The payload of a Claude event. -/
def claudePayload (value : Json) : Json :=
  let entryType := claudeEntryType value
  let content := claudeContent value
  let eventType := claudeEventType entryType (claudeMessage value)
  let text :=
    (providerValueText content).getD
      (if eventType = .notice then "Claude event: " ++ entryType else "")
  let retained := providerPolicyEventText eventType text content
  .object
    [("content_preview", providerCappedJson (providerPolicyBody eventType content)
        providerMaxPreviewChars),
      ("entry_type", .string entryType),
      ("message_id", textJson (((claudeMessage value).get "id").bind Json.asStr)),
      ("parent_uuid", textJson ((value.get "parentUuid").bind Json.asStr)),
      ("request_id", textJson ((value.get "requestId").bind Json.asStr)),
      ("role", textJson (claudeMessageRole value)),
      ("text", .string (String.ofList retained.text)),
      ("text_retention", retained.retention.asJson),
      ("uuid", textJson ((value.get "uuid").bind Json.asStr))]

/-- `claude_event`. -/
def claudeEvent (value : Json) (lineNumber : Nat) (occurredAt : DateTime)
    : Option ProviderEventEnvelope :=
  let uuid := (value.get "uuid").bind Json.asStr
  let message := claudeMessage value
  some
    { providerEventIndex := UInt64.ofNat (lineNumber - 1)
      providerEventHash := uuid
      cursor := uuid
      eventType := claudeEventType (claudeEntryType value) message
      role := some (providerRole (claudeMessageRole value))
      occurredAt := occurredAt
      fidelity := .imported
      idempotencyKey := uuid.map ("provider-event:claude:" ++ ·)
      artifacts := .array []
      payload := claudePayload value
      metadata := .object
        [("entry_type", .string (claudeEntryType value)),
          ("is_sidechain", (((value.get "isSidechain").bind Json.asBool).map Json.bool).getD .null),
          ("line", sizeJson lineNumber),
          ("model", textJson ((message.get "model").bind Json.asStr)),
          ("source", .string "claude_projects_jsonl"),
          ("source_format", .string "claude_projects_jsonl_tree"),
          ("stop_reason", textJson ((message.get "stop_reason").bind Json.asStr)),
          ("tool_use_result",
            ((value.get "toolUseResult").map (providerPolicyBody .toolOutput)).getD .null),
          ("usage", (message.get "usage").getD .null)] }

-----------------------------------------------------------------------------------------
-- Withheld content
-----------------------------------------------------------------------------------------

/-- The events whose content is an output. -/
def IsOutput (eventType : EventType) : Prop := eventType = .toolOutput ∨ eventType = .commandOutput

/-- A value that the policy does not replace in its field. -/
def KeepsField (eventType : EventType) (key : Option String) (value : Json) : Prop :=
  key.any (providerShouldOmitBodyField eventType · value) = false

/-- One output takes another's place in a field that the policy withholds: it is as long, and it has
patch content just when the other one has.
-/
inductive Replaced (eventType : EventType) : Option String → Json → Json → Prop where
  | output {key : String} {output output' : Json}
      (withheld : providerShouldOmitBodyField eventType key output = true)
      (withheld' : providerShouldOmitBodyField eventType key output' = true)
      (bytes : providerValueApproxBytes output = providerValueApproxBytes output')
      (patch : providerValueContainsPatchOrDiff output = providerValueContainsPatchOrDiff output')
      : Replaced eventType (some key) output output'
  | item {key : Option String} {item item' : Json} (before after : List Json)
      (kept : KeepsField eventType key (.array (before ++ item :: after)))
      (kept' : KeepsField eventType key (.array (before ++ item' :: after)))
      (inside : Replaced eventType key item item')
      : Replaced eventType key (.array (before ++ item :: after)) (.array (before ++ item' :: after))
  | member {key : Option String} {name : String} {value value' : Json}
      (before after : List (String × Json))
      (kept : KeepsField eventType key (.object (before ++ (name, value) :: after)))
      (kept' : KeepsField eventType key (.object (before ++ (name, value') :: after)))
      (inside : Replaced eventType (some name) value value')
      : Replaced eventType key (.object (before ++ (name, value) :: after))
          (.object (before ++ (name, value') :: after))

theorem filterItems_eq_map {eventType : EventType} {key : Option String} (items : List Json)
    : filterItems eventType key items
      = items.map (providerFilterBodyByRetentionPolicy eventType key) := by
  induction items with
  | nil => rfl
  | cons item rest ih => rw [filterItems, ih, List.map_cons]

theorem filterFields_eq_map {eventType : EventType} (fields : List (String × Json))
    : filterFields eventType fields
      = fields.map fun field =>
          (field.1, providerFilterBodyByRetentionPolicy eventType (some field.1) field.2) := by
  induction fields with
  | nil => rfl
  | cons field rest ih =>
      obtain ⟨key, value⟩ := field
      rw [filterFields, ih, List.map_cons]

theorem filter_array {eventType : EventType} {key : Option String} {items : List Json}
    (kept : KeepsField eventType key (.array items))
    : providerFilterBodyByRetentionPolicy eventType key (.array items)
      = .array (items.map (providerFilterBodyByRetentionPolicy eventType key)) := by
  rw [providerFilterBodyByRetentionPolicy, if_neg (by rw [kept]; exact Bool.false_ne_true),
    filterItems_eq_map]

theorem filter_object {eventType : EventType} {key : Option String}
    {fields : List (String × Json)} (kept : KeepsField eventType key (.object fields))
    : providerFilterBodyByRetentionPolicy eventType key (.object fields)
      = .object (fields.map fun field =>
          (field.1, providerFilterBodyByRetentionPolicy eventType (some field.1) field.2)) := by
  rw [providerFilterBodyByRetentionPolicy, if_neg (by rw [kept]; exact Bool.false_ne_true),
    filterFields_eq_map]

theorem filter_withheld {eventType : EventType} {key : String} {value : Json}
    (withheld : providerShouldOmitBodyField eventType key value = true)
    : providerFilterBodyByRetentionPolicy eventType (some key) value
      = providerOmittedBodyField value := by
  unfold providerFilterBodyByRetentionPolicy
  exact if_pos withheld

/-- The policy keeps nothing of a replaced output, by induction on the place of the output. -/
theorem Replaced.filter_eq {eventType : EventType} {key : Option String} {body body' : Json}
    (replaced : Replaced eventType key body body')
    : providerFilterBodyByRetentionPolicy eventType key body
      = providerFilterBodyByRetentionPolicy eventType key body' := by
  induction replaced with
  | output withheld withheld' bytes patch =>
      rw [filter_withheld withheld, filter_withheld withheld', providerOmittedBodyField,
        providerOmittedBodyField, bytes, patch]
  | item before after kept kept' _ ih =>
      rw [filter_array kept, filter_array kept']
      simp only [List.map_append, List.map_cons, ih]
  | member before after kept kept' _ ih =>
      rw [filter_object kept, filter_object kept']
      simp only [List.map_append, List.map_cons, ih]

/-- Any number of replacements, one after the other. -/
def ReplacedOutputs (eventType : EventType) : Json → Json → Prop :=
  Relation.ReflTransGen (Replaced eventType none)

theorem ReplacedOutputs.policyBody_eq {eventType : EventType} {body body' : Json}
    (replaced : ReplacedOutputs eventType body body')
    : providerPolicyBody eventType body = providerPolicyBody eventType body' := by
  induction replaced with
  | refl => rfl
  | tail _ last ih => exact ih.trans last.filter_eq

/-- A successful output leaves nothing of its text. -/
theorem policyEventText_of_success {eventType : EventType} {body : Json} (text : String)
    (output : IsOutput eventType) (success : providerOutputEventIsFailure body = false)
    : providerPolicyEventText eventType text body = ⟨[], none, false, .none, false⟩ := by
  have policy : nativeEventTextRetentionPolicy eventType body = ⟨none, .none⟩ := by
    rcases output with rfl | rfl
      <;> rw [nativeEventTextRetentionPolicy, success, if_neg Bool.false_ne_true]
  rw [providerPolicyEventText, policy]
  rfl

-----------------------------------------------------------------------------------------
-- Patch content in texts
-----------------------------------------------------------------------------------------

/-- The characters that patch content is recognized by. -/
def patchMarks : List Char := ['*', '-', '@', '+']

/-- A text without the marks of patches has no patch content. -/
theorem noPatch_of_noMarks {text : List Char} (plain : ∀ c ∈ text, c ∉ patchMarks)
    : providerTextContainsPatchOrDiff text = false := by
  have absent (needle : String) (mark : Char) (has : mark ∈ needle.toList)
      (isMark : mark ∈ patchMarks) : containsText needle text = false :=
    decide_eq_false fun inside => plain mark (inside.subset has) isMark
  have start (needle : String) (mark : Char) (has : mark ∈ needle.toList)
      (isMark : mark ∈ patchMarks) : needle.toList.isPrefixOf text = false := by
    rw [Bool.eq_false_iff]
    intro inside
    exact plain mark ((List.isPrefixOf_iff_prefix.mp inside).subset has) isMark
  simp only [providerTextContainsPatchOrDiff, Bool.or_eq_false_iff]
  refine ⟨⟨⟨⟨⟨⟨⟨absent _ '*' ?_ ?_, absent _ '-' ?_ ?_⟩, start _ '@' ?_ ?_⟩, start _ '+' ?_ ?_⟩,
    start _ '-' ?_ ?_⟩, absent _ '@' ?_ ?_⟩, absent _ '+' ?_ ?_⟩, absent _ '-' ?_ ?_⟩
  all_goals decide

/-- A preview of a text without patch content has none. -/
theorem noPatch_take {text : List Char} (none : providerTextContainsPatchOrDiff text = false)
    (n : Nat)
    : providerTextContainsPatchOrDiff (text.take n) = false := by
  have absent {needle : String} (whole : containsText needle text = false)
      : containsText needle (text.take n) = false :=
    decide_eq_false fun inside =>
      of_decide_eq_false whole (inside.trans (List.take_prefix n text).isInfix)
  have start {needle : List Char} (whole : needle.isPrefixOf text = false)
      : needle.isPrefixOf (text.take n) = false := by
    rw [Bool.eq_false_iff, Ne, List.isPrefixOf_iff_prefix] at whole ⊢
    exact fun inside => whole (inside.trans (List.take_prefix n text))
  simp only [providerTextContainsPatchOrDiff, Bool.or_eq_false_iff] at none ⊢
  obtain ⟨⟨⟨⟨⟨⟨⟨begins, git⟩, hunk⟩, plus⟩, minus⟩, hunkLine⟩, plusLine⟩, minusLine⟩ := none
  exact ⟨⟨⟨⟨⟨⟨⟨absent begins, absent git⟩, start hunk⟩, start plus⟩, start minus⟩, absent hunkLine⟩,
    absent plusLine⟩, absent minusLine⟩

/-- What stands in for an output has no patch content. -/
theorem noPatch_outputOmitted (bytes : Nat)
    : providerTextContainsPatchOrDiff (outputOmitted bytes) = false := by
  have front : (patchMarks.all fun mark =>
      !"[output omitted: contains patch or diff content; bytes=".toList.contains mark) = true := by
    decide +kernel
  have back : (patchMarks.all fun mark => !mark.isDigit && !([']'].contains mark)) = true := by
    decide +kernel
  refine noPatch_of_noMarks fun c member mark => ?_
  have notFront := List.all_eq_true.mp front c mark
  have notBack := List.all_eq_true.mp back c mark
  simp only [Bool.and_eq_true, Bool.not_eq_true', ← Bool.not_eq_true, List.contains_iff_mem]
    at notFront notBack
  rcases List.mem_append.mp member with inside | inBack
  · rcases List.mem_append.mp inside with inFront | inDigits
    · exact notFront inFront
    · rw [Nat.toList_repr] at inDigits
      exact notBack.1 (Nat.isDigit_of_mem_toDigits (by decide) (by decide) inDigits)
  · exact notBack.2 inBack

theorem noPatch_omittingNested (value : Json) (text : String)
    : providerTextContainsPatchOrDiff (providerOutputPreviewOmittingNestedPatchDiff value text)
      = false := by
  unfold providerOutputPreviewOmittingNestedPatchDiff providerOutputPreviewOmittingPatchDiff
  split
  next => exact noPatch_outputOmitted _
  next =>
      split
      next => exact noPatch_outputOmitted _
      next none => exact Bool.eq_false_iff.mpr none

/-- The text that an output keeps has no patch content. -/
theorem noPatch_policyEventText {eventType : EventType} (output : IsOutput eventType)
    (text : String) (body : Json)
    : providerTextContainsPatchOrDiff (providerPolicyEventText eventType text body).text
      = false := by
  cases failed : providerOutputEventIsFailure body with
  | false =>
      rw [policyEventText_of_success text output failed]
      decide
  | true =>
      have policy : nativeEventTextRetentionPolicy eventType body
          = ⟨some providerMaxPreviewChars, .patchOrDiff⟩ := by
        rcases output with rfl | rfl <;> rw [nativeEventTextRetentionPolicy, failed, if_pos rfl]
      simp only [providerPolicyEventText, policy, Option.map_some, Option.getD_some,
        providerLocalPreview]
      refine noPatch_take ?_ _
      split
      next => exact noPatch_omittingNested body text
      next applied =>
          rw [beq_self_eq_true, Bool.true_and, Bool.or_eq_true, not_or] at applied
          exact Bool.eq_false_iff.mpr applied.2

-----------------------------------------------------------------------------------------
-- Strings in bodies
-----------------------------------------------------------------------------------------

/-- A value has the string at some place. -/
inductive HasString : Json → String → Prop where
  | here {text : String} : HasString (.string text) text
  | item {items : List Json} {item : Json} {text : String} (member : item ∈ items)
      (inside : HasString item text)
      : HasString (.array items) text
  | member {fields : List (String × Json)} {name : String} {value : Json} {text : String}
      (member : (name, value) ∈ fields) (inside : HasString value text)
      : HasString (.object fields) text

/-- A value has the string at a place that is in no withheld field. -/
inductive KeptString (eventType : EventType) : Option String → Json → String → Prop where
  | here {key : Option String} {text : String} (kept : KeepsField eventType key (.string text))
      : KeptString eventType key (.string text) text
  | item {key : Option String} {items : List Json} {item : Json} {text : String}
      (kept : KeepsField eventType key (.array items)) (member : item ∈ items)
      (inside : KeptString eventType key item text)
      : KeptString eventType key (.array items) text
  | member {key : Option String} {fields : List (String × Json)} {name : String} {value : Json}
      {text : String} (kept : KeepsField eventType key (.object fields))
      (member : (name, value) ∈ fields) (inside : KeptString eventType (some name) value text)
      : KeptString eventType key (.object fields) text

/-- The only string of what stands in for a field is its mode. -/
theorem omitted_of_hasString {value : Json} {text : String}
    (has : HasString (providerOmittedBodyField value) text)
    : text = "omitted" := by
  cases has with
  | member member inside =>
      simp only [List.mem_singleton, Prod.mk.injEq] at member
      obtain ⟨-, rfl⟩ := member
      cases inside with
      | member member inside =>
          simp only [List.mem_cons, List.not_mem_nil, or_false, Prod.mk.injEq] at member
          rcases member with ⟨-, rfl⟩ | ⟨-, rfl⟩ | ⟨-, rfl⟩
          · cases inside
          · cases inside
            rfl
          · cases inside

/-- What the policy makes of a value: a withheld one is replaced, an array or an object keeps its
filtered parts, and any other value stays.
-/
theorem filter_cases (eventType : EventType) (key : Option String) (value : Json)
    : providerFilterBodyByRetentionPolicy eventType key value = providerOmittedBodyField value
      ∨ KeepsField eventType key value
        ∧ ((∃ items, value = .array items
            ∧ providerFilterBodyByRetentionPolicy eventType key value
              = .array (items.map (providerFilterBodyByRetentionPolicy eventType key)))
          ∨ (∃ fields, value = .object fields
            ∧ providerFilterBodyByRetentionPolicy eventType key value
              = .object (fields.map fun field =>
                  (field.1, providerFilterBodyByRetentionPolicy eventType (some field.1) field.2)))
          ∨ ((∀ items, value ≠ .array items) ∧ (∀ fields, value ≠ .object fields)
            ∧ providerFilterBodyByRetentionPolicy eventType key value = value)) := by
  by_cases withheld : key.any (providerShouldOmitBodyField eventType · value) = true
  · left
    unfold providerFilterBodyByRetentionPolicy
    exact if_pos withheld
  · have kept : KeepsField eventType key value := Bool.eq_false_iff.mpr withheld
    refine .inr ⟨kept, ?_⟩
    cases value with
    | array items => exact .inl ⟨items, rfl, filter_array kept⟩
    | object fields => exact .inr (.inl ⟨fields, rfl, filter_object kept⟩)
    | null | bool _ | number _ | string _ =>
        refine .inr (.inr ⟨fun _ => Json.noConfusion, fun _ => Json.noConfusion, ?_⟩)
        unfold providerFilterBodyByRetentionPolicy
        exact if_neg withheld

/-- A string of a retained body marks an omission or is a string of the body outside of the withheld
fields, by induction on its place.
-/
theorem keptString_of_hasString {retained : Json} {text : String} (has : HasString retained text)
    {eventType : EventType} {key : Option String} {value : Json}
    (filtered : providerFilterBodyByRetentionPolicy eventType key value = retained)
    : text = "omitted" ∨ KeptString eventType key value text := by
  induction has generalizing key value with
  | here =>
      rcases filter_cases eventType key value with
        omitted | ⟨kept, ⟨items, -, same⟩ | ⟨fields, -, same⟩ | ⟨-, -, same⟩⟩
      · cases omitted.symm.trans filtered
      · cases same.symm.trans filtered
      · cases same.symm.trans filtered
      · obtain rfl := same.symm.trans filtered
        exact .inr (.here kept)
  | item member inside ih =>
      rcases filter_cases eventType key value with
        omitted | ⟨kept, ⟨items, rfl, same⟩ | ⟨fields, -, same⟩ | ⟨noArray, -, same⟩⟩
      · cases omitted.symm.trans filtered
      · obtain rfl := Json.array.inj (same.symm.trans filtered)
        obtain ⟨part, partMember, rfl⟩ := List.mem_map.mp member
        exact (ih rfl).imp_right (.item kept partMember)
      · cases same.symm.trans filtered
      · exact absurd (same.symm.trans filtered) (noArray _)
  | member member inside ih =>
      rcases filter_cases eventType key value with
        omitted | ⟨kept, ⟨items, -, same⟩ | ⟨fields, rfl, same⟩ | ⟨-, noObject, same⟩⟩
      · have whole := HasString.member member inside
        rw [← filtered, omitted] at whole
        exact .inl (omitted_of_hasString whole)
      · cases same.symm.trans filtered
      · obtain rfl := Json.object.inj (same.symm.trans filtered)
        obtain ⟨part, partMember, same⟩ := List.mem_map.mp member
        obtain ⟨rfl, rfl⟩ := Prod.mk.inj same
        exact (ih rfl).imp_right (.member kept partMember)
      · exact absurd (same.symm.trans filtered) (noObject _)

-----------------------------------------------------------------------------------------
-- The retention of outputs
-----------------------------------------------------------------------------------------

/-- Two entries of Claude transcripts agree on all that their events read besides the content. -/
structure SameEntry (value value' : Json) : Prop where
  entryType : claudeEntryType value = claudeEntryType value'
  eventType : claudeEventType (claudeEntryType value) (claudeMessage value)
    = claudeEventType (claudeEntryType value') (claudeMessage value')
  role : claudeMessageRole value = claudeMessageRole value'
  messageId : ((claudeMessage value).get "id").bind Json.asStr
    = ((claudeMessage value').get "id").bind Json.asStr
  uuid : (value.get "uuid").bind Json.asStr = (value'.get "uuid").bind Json.asStr
  parentUuid : (value.get "parentUuid").bind Json.asStr = (value'.get "parentUuid").bind Json.asStr
  requestId : (value.get "requestId").bind Json.asStr = (value'.get "requestId").bind Json.asStr

/-- What a payload holds of the text and the body of an output: a text without patch content, and a
preview of a body whose strings with patch content are strings outside of the withheld fields.
-/
structure RetainsOutput (eventType : EventType) (bodyKey : String) (body payload : Json)
    : Prop where
  text : ∃ text, payload.get "text" = some (.string text)
    ∧ providerTextContainsPatchOrDiff text.toList = false
  body : ∃ retained, payload.get bodyKey = some (providerCappedJson retained providerMaxPreviewChars)
    ∧ ∀ text, HasString retained text → providerTextContainsPatchOrDiff text.toList = true →
        KeptString eventType none body text

theorem keptString_of_policyBody {eventType : EventType} {body : Json} {text : String}
    (has : HasString (providerPolicyBody eventType body) text)
    (patch : providerTextContainsPatchOrDiff text.toList = true)
    : KeptString eventType none body text := by
  rcases keptString_of_hasString has rfl with rfl | kept
  · exact absurd patch (by decide +kernel)
  · exact kept

/-- The payloads of successful outputs tell nothing of the outputs but their sizes and whether they
have patch content; and the payload of an output, failed or not, has patch content in no place but
those that the policy keeps.
-/
theorem retention_of_outputs
    : (∀ draft draft' : NativeEventDraft, IsOutput draft.eventType →
          draft'.eventType = draft.eventType → draft'.sourceFormat = draft.sourceFormat →
          providerOutputEventIsFailure draft.body = false →
          providerOutputEventIsFailure draft'.body = false →
          ReplacedOutputs draft.eventType draft.body draft'.body →
          (nativeEvent draft).payload = (nativeEvent draft').payload)
      ∧ (∀ value value' : Json, SameEntry value value' →
          IsOutput (claudeEventType (claudeEntryType value) (claudeMessage value)) →
          providerOutputEventIsFailure (claudeContent value) = false →
          providerOutputEventIsFailure (claudeContent value') = false →
          ReplacedOutputs (claudeEventType (claudeEntryType value) (claudeMessage value))
            (claudeContent value) (claudeContent value') →
          ∀ line line' at' at'',
            (claudeEvent value line at').map (·.payload) = (claudeEvent value' line' at'').map (·.payload))
      ∧ (∀ draft : NativeEventDraft, IsOutput draft.eventType →
          RetainsOutput draft.eventType "body" draft.body (nativeEvent draft).payload)
      ∧ ∀ (value : Json) (line : Nat) (occurredAt : DateTime) (event : ProviderEventEnvelope),
          claudeEvent value line occurredAt = some event → IsOutput event.eventType →
          RetainsOutput event.eventType "content_preview" (claudeContent value) event.payload := by
  refine ⟨fun draft draft' output sameType sameFormat success success' replaced => ?_,
    fun value value' same output success success' replaced line line' at' at'' => ?_,
    fun draft output => ⟨?_, ?_⟩, fun value line occurredAt event made output => ?_⟩
  · have output' := output
    rw [← sameType] at output'
    simp only [nativeEvent, nativePayload, policyEventText_of_success _ output success,
      policyEventText_of_success _ output' success', sameFormat]
    rw [sameType, replaced.policyBody_eq]
  · have output' := output
    rw [same.eventType] at output'
    simp only [claudeEvent, Option.map_some, claudePayload,
      policyEventText_of_success _ output success, policyEventText_of_success _ output' success',
      same.role, same.messageId, same.uuid, same.parentUuid, same.requestId]
    rw [replaced.policyBody_eq, same.eventType, same.entryType]
  · refine ⟨_, rfl, ?_⟩
    rw [String.toList_ofList]
    exact noPatch_policyEventText output _ _
  · exact ⟨_, rfl, fun text has patch => keptString_of_policyBody has patch⟩
  · obtain rfl := Option.some.inj made
    refine ⟨⟨_, rfl, ?_⟩, _, rfl, fun text has patch => keptString_of_policyBody has patch⟩
    rw [String.toList_ofList]
    exact noPatch_policyEventText output _ _

/-- A tool output with that field and text. -/
def toolOutputDraft (field text : String) : NativeEventDraft where
  provider := .codex
  sourceFormat := "sample"
  providerSessionId := "session"
  providerEventIndex := 0
  providerEventHash := none
  cursor := "0"
  eventType := .toolOutput
  role := none
  occurredAt := ⟨0⟩
  text := text
  body := .object [(field, .string text)]
  metadata := .null

/-- An entry of a Claude transcript with the result of a tool. -/
def toolResultEntry (text : String) : Json :=
  .object
    [("message", .object
        [("content", .array
            [.object [("content", .string text), ("type", .string "tool_result")]])]),
      ("type", .string "user")]

/-- Two outputs of one length, in a body and in a content block. -/
theorem retention_of_two_outputs
    : (nativeEvent (toolOutputDraft "output" "aaaa")).payload
        = (nativeEvent (toolOutputDraft "output" "bbbb")).payload
      ∧ (claudeEvent (toolResultEntry "aaaa") 1 ⟨0⟩).map (·.payload)
        = (claudeEvent (toolResultEntry "bbbb") 2 ⟨0⟩).map (·.payload)
      ∧ RetainsOutput .toolOutput "body" (toolOutputDraft "output" "aaaa").body
          (nativeEvent (toolOutputDraft "output" "aaaa")).payload := by
  have replaced (eventType : EventType) (field : String)
      (withheld : ∀ text, providerShouldOmitBodyField eventType field (.string text) = true)
      : Replaced eventType (some field) (.string "aaaa") (.string "bbbb") :=
    .output (withheld _) (withheld _) (by decide +kernel) (by decide +kernel)
  obtain ⟨native, claude, retains, -⟩ := retention_of_outputs
  refine ⟨native _ _ (.inl rfl) rfl rfl (by decide +kernel) (by decide +kernel)
      (.single (.member [] [] rfl rfl (replaced _ _ fun text => ?_))),
    claude _ _ ⟨by decide +kernel, by decide +kernel, by decide +kernel, by decide +kernel,
      by decide +kernel, by decide +kernel, by decide +kernel⟩ (.inl ?_) (by decide +kernel)
      (by decide +kernel)
      (.single (.item [] [] (by rfl) (by rfl)
        (.member [] [_] (by rfl) (by rfl) (replaced _ _ fun text => ?_)))) _ _ _ _,
    retains (toolOutputDraft "output" "aaaa") (.inl rfl)⟩
  · rfl
  · decide +kernel
  · rfl

/-- Outputs of one length in a field that the policy keeps give different payloads, and so do outputs
of one length of which one has patch content; and patch content in a field that the policy keeps is
in the payload.
-/
theorem retention_keeps_data
    : providerOutputEventIsFailure (toolOutputDraft "data" "aaaa").body = false
      ∧ providerOutputEventIsFailure (toolOutputDraft "data" "bbbb").body = false
      ∧ (nativeEvent (toolOutputDraft "data" "aaaa")).payload.compact
        ≠ (nativeEvent (toolOutputDraft "data" "bbbb")).payload.compact
      ∧ (nativeEvent (toolOutputDraft "output" "@@")).payload.compact
        ≠ (nativeEvent (toolOutputDraft "output" "ab")).payload.compact
      ∧ containsText "diff --git a b"
          (nativeEvent (toolOutputDraft "data" "diff --git a b")).payload.compact = true := by
  decide +kernel

end CtxRemote.Capture
