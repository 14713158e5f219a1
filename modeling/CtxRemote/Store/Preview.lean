import CtxRemote.Library.Strip
import CtxRemote.Turso.DedupeKey
import Mathlib.Algebra.Order.Ring.Int
import Mathlib.Algebra.Order.Ring.Nat

/-! Event payloads as JSON values, their serialized text, and the preview that the search projection
takes of them (`event_search_preview_from_payload`).
-/

namespace CtxRemote.Store
open CtxRemote.Library
open CtxRemote.Turso (trim isWhitespace)

-----------------------------------------------------------------------------------------
-- JSON values
-----------------------------------------------------------------------------------------

/-- The printed form of a float. -/
structure FloatText where
  text : String
  start : ∃ c rest, text.toList = c :: rest ∧ (c = '-' ∨ c.isDigit)
deriving DecidableEq

/-- `serde_json::Number`. -/
inductive Number where
  | posInt (value : UInt64)
  | negInt (value : Int)
  | float (value : FloatText)
deriving DecidableEq

/-- `Number`'s `Display`. -/
def Number.text : Number → String
  | posInt value => value.toNat.repr
  | negInt (.ofNat n) => n.repr
  | negInt (.negSucc n) => "-" ++ (n + 1).repr
  | float value => value.text

/-- `Number::as_i64`. -/
def Number.asI64 : Number → Option Int
  | posInt value => if value.toNat < 2 ^ 63 then some value.toNat else none
  | negInt value => some value
  | float _ => none

/-- `serde_json::Value`. -/
inductive Json where
  | null
  | bool (value : Bool)
  | number (value : Number)
  | string (value : String)
  | array (items : List Json)
  | object (fields : List (String × Json))

namespace Json

mutual
/-- `PartialEq` of `Value`. -/
def beq : Json → Json → Bool
  | null, null => true
  | bool left, bool right => left == right
  | number left, number right => left == right
  | string left, string right => left == right
  | array left, array right => beqItems left right
  | object left, object right => beqFields left right
  | _, _ => false

def beqItems : List Json → List Json → Bool
  | [], [] => true
  | left :: lefts, right :: rights => beq left right && beqItems lefts rights
  | _, _ => false

def beqFields : List (String × Json) → List (String × Json) → Bool
  | [], [] => true
  | (leftKey, left) :: lefts, (rightKey, right) :: rights =>
      leftKey == rightKey && beq left right && beqFields lefts rights
  | _, _ => false
end

instance : BEq Json := ⟨beq⟩

/-- `Value::get` with a string key. -/
def get (value : Json) (key : String) : Option Json :=
  match value with
  | object fields => fields.lookup key
  | _ => none

/-- `Value::as_str`. -/
def asStr : Json → Option String
  | string value => some value
  | _ => none

/-- `Value::as_bool`. -/
def asBool : Json → Option Bool
  | bool value => some value
  | _ => none

/-- `Value::as_i64`. -/
def asI64 : Json → Option Int
  | number value => value.asI64
  | _ => none

/-- `Value::as_object`. -/
def asObject : Json → Option (List (String × Json))
  | object fields => some fields
  | _ => none

-----------------------------------------------------------------------------------------
-- Serialized text
-----------------------------------------------------------------------------------------

/-- How `serde_json` writes one character of a string. -/
def escape (c : Char) : List Char :=
  if c = '"' then ['\\', '"']
  else if c = '\\' then ['\\', '\\']
  else if c = '\n' then ['\\', 'n']
  else if c = '\r' then ['\\', 'r']
  else if c = '\t' then ['\\', 't']
  else if c.toNat = 8 then ['\\', 'b']
  else if c.toNat = 12 then ['\\', 'f']
  else if c.toNat < 0x20 then
    ['\\', 'u', '0', '0', Nat.digitChar (c.toNat / 16), Nat.digitChar (c.toNat % 16)]
  else [c]

/-- A JSON string literal. -/
def quoted (text : String) : List Char :=
  '"' :: (text.toList.flatMap escape ++ ['"'])

mutual
/-- `serde_json::to_string` of a `Value`. -/
def compact : Json → List Char
  | null => "null".toList
  | bool value => (if value then "true" else "false").toList
  | number value => value.text.toList
  | string value => quoted value
  | array items => '[' :: compactItems items
  | object fields => '\x7b' :: compactFields fields

/-- The items of an array behind its opening bracket. -/
def compactItems : List Json → List Char
  | [] => [']']
  | item :: rest =>
      compact item ++ (match rest with
        | [] => [']']
        | _ :: _ => ',' :: compactItems rest)

/-- The fields of an object behind its opening brace. -/
def compactFields : List (String × Json) → List Char
  | [] => ['\x7d']
  | (key, value) :: rest =>
      quoted key ++ ':' :: (compact value ++ (match rest with
        | [] => ['\x7d']
        | _ :: _ => ',' :: compactFields rest))
end

/-- `serde_json::to_string`. -/
def text (value : Json) : String := String.ofList value.compact

end Json

-----------------------------------------------------------------------------------------
-- Previews
-----------------------------------------------------------------------------------------

/-- `EventType`. -/
inductive EventType where
  | message | toolCall | toolOutput | commandStarted | commandOutput | commandFinished
  | fileTouched | vcsChange | artifact | summary | notice
deriving DecidableEq, Repr

/-- `EventType::as_str`. -/
def EventType.asStr : EventType → String
  | message => "message"
  | toolCall => "tool_call"
  | toolOutput => "tool_output"
  | commandStarted => "command_started"
  | commandOutput => "command_output"
  | commandFinished => "command_finished"
  | fileTouched => "file_touched"
  | vcsChange => "vcs_change"
  | artifact => "artifact"
  | summary => "summary"
  | notice => "notice"

/-- `EventRole`. -/
inductive EventRole where
  | user | assistant | system | tool | unknown
deriving DecidableEq, Repr

/-- `RedactionState`. -/
inductive RedactionState where
  | raw | redacted | safePreview | withheld
deriving DecidableEq, Repr

/-- `non_blank`. -/
def nonBlank (value : String) : Option String :=
  let trimmed := trim value.toList
  if trimmed.isEmpty then none else some (String.ofList trimmed)

/-- `event_preview_fragment`. -/
def eventPreviewFragment : Json → Option String
  | .string value => nonBlank value
  | .number value => some value.text
  | .bool value => some (if value then "true" else "false")
  | _ => none

/-- `event_text_value_preview`. -/
def eventTextValuePreview (value : Json) : Option String :=
  match value.asStr with
  | some text => nonBlank text
  | none => do
      let object ← value.asObject
      ["text", "preview", "summary", "message"].findSome? fun key =>
        (object.lookup key).bind eventPreviewFragment

/-- `event_payload_text_preview`. -/
def eventPayloadTextPreview (payload : Json) : Option String :=
  ((payload.get "body").bind eventTextValuePreview).or (eventTextValuePreview payload)

/-- `event_tool_call_preview_fields`. -/
def eventToolCallPreviewFields (payload : Json) : Option String := do
  let object ← payload.asObject
  match (object.lookup "command").bind eventPreviewFragment with
  | some command => some command
  | none =>
      match (object.lookup "text").bind eventPreviewFragment with
      | some text => some text
      | none =>
          let structured :=
            ["tool", "name", "arguments_preview", "status"].filterMap fun key =>
              ((object.lookup key).bind eventPreviewFragment).map (key ++ ": " ++ ·)
          if structured.isEmpty then none else some (" | ".intercalate structured)

/-- `event_tool_call_preview`. -/
def eventToolCallPreview (payload : Json) : Option String :=
  ((payload.get "body").bind eventToolCallPreviewFields).or (eventToolCallPreviewFields payload)

/-- `event_failed_output_preview`. -/
def eventFailedOutputPreview (payload : Json) : Option String :=
  (((payload.get "output_preview").bind eventPreviewFragment).or
    (((payload.get "body").bind (·.get "output_preview")).bind eventPreviewFragment)).or
    (eventPayloadTextPreview payload)

/-- `event_output_fields_indicate_failure`. -/
def eventOutputFieldsIndicateFailure (payload : Json) : Bool :=
  ((payload.get "timed_out").bind Json.asBool).getD false
  || (match (payload.get "exit_code").bind Json.asI64 with
      | some code => code ≠ 0
      | none => false)
  || (payload.get "output_retention").bind Json.asStr = some "failed_preview"
  || ((payload.get "text_retention").bind (·.get "omission_policy")).bind Json.asStr
      = some "patch_or_diff"
  || (payload.get "content_retention").bind Json.asStr = some "failed_output_preview"

/-- `event_output_is_failure`. -/
def eventOutputIsFailure (payload : Json) : Bool :=
  eventOutputFieldsIndicateFailure payload
  || (match payload.get "body" with
      | some body => eventOutputFieldsIndicateFailure body
      | none => false)

/-- `event_role_is_searchable_conversation`. -/
def eventRoleIsSearchableConversation : Option EventRole → Bool
  | some .user | some .assistant | some .system | none => true
  | _ => false

/-- `local_preview`. -/
def localPreview (text : String) (maxChars : Nat) : String :=
  String.ofList (text.toList.take maxChars)

/-- `event_search_preview_from_payload`. -/
def eventSearchPreviewFromPayload (eventType : EventType) (role : Option EventRole)
    (payload : Json) (redactionState : RedactionState)
    : String :=
  if redactionState = .raw || redactionState = .withheld then ""
  else
    let preview :=
      match eventType with
      | .message =>
          if eventRoleIsSearchableConversation role then eventPayloadTextPreview payload else none
      | .summary => eventPayloadTextPreview payload
      | .toolCall | .commandStarted | .commandFinished => eventToolCallPreview payload
      | .toolOutput | .commandOutput =>
          if eventOutputIsFailure payload then eventFailedOutputPreview payload else none
      | _ => none
    localPreview (preview.getD "") 2048

-----------------------------------------------------------------------------------------
-- How previews start
-----------------------------------------------------------------------------------------

/-- The text starts with a character that is not white space. -/
def Starts (text : String) : Prop :=
  ∃ c rest, text.toList = c :: rest ∧ isWhitespace c = false

/-- A trimmed text is empty or starts with a character that is not white space. -/
theorem trim_cases (text : List Char)
    : trim text = [] ∨ ∃ c rest, trim text = c :: rest ∧ isWhitespace c = false := by
  unfold trim
  cases kept : text.dropWhile isWhitespace with
  | nil => exact .inl rfl
  | cons c rest =>
      have visible : isWhitespace c = false := by
        have first := List.head?_dropWhile_not isWhitespace text
        simpa [kept] using first
      have stripped := strip_cons visible rest
      unfold strip at stripped
      rw [List.dropWhile_cons_of_neg (by simp [visible])] at stripped
      exact .inr ⟨c, _, stripped, visible⟩

theorem starts_of_nonBlank {value text : String} (found : nonBlank value = some text)
    : Starts text := by
  unfold nonBlank at found
  rcases trim_cases value.toList with blank | ⟨c, rest, same, visible⟩
  · simp [blank] at found
  · rw [same] at found
    simp only [List.isEmpty_cons, Bool.false_eq_true, if_false, Option.some.injEq] at found
    exact ⟨c, rest, by simp [← found], visible⟩

/-- Digits are not white space. -/
theorem visible_of_isDigit {c : Char} (digit : c.isDigit = true) : isWhitespace c = false := by
  have bounds := Char.isDigit_iff_toNat.mp digit
  have low : '0'.toNat = 48 := rfl
  have high : '9'.toNat = 57 := rfl
  simp only [isWhitespace, Bool.or_eq_false_iff, Bool.and_eq_false_iff, decide_eq_false_iff_not,
    beq_eq_false_iff_ne]
  omega

theorem starts_repr (n : Nat) : Starts n.repr := by
  unfold Starts
  rw [Nat.toList_repr]
  cases digits : Nat.toDigits 10 n with
  | nil => exact absurd digits Nat.toDigits_ne_nil
  | cons c rest =>
      have member : c ∈ Nat.toDigits 10 n := by
        rw [digits]
        exact .head rest
      have digit : c.isDigit = true := Nat.isDigit_of_mem_toDigits (by decide) (by decide) member
      exact ⟨c, rest, rfl, visible_of_isDigit digit⟩

theorem Number.starts_text (value : Number) : Starts value.text := by
  cases value with
  | posInt value => exact starts_repr _
  | negInt value =>
      cases value with
      | ofNat n => exact starts_repr n
      | negSucc n => exact ⟨'-', (n + 1).repr.toList, by simp [Number.text], by decide⟩
  | float value =>
      obtain ⟨c, rest, same, member⟩ := value.start
      refine ⟨c, rest, same, ?_⟩
      rcases member with rfl | digit
      · decide
      · exact visible_of_isDigit digit

theorem starts_of_fragment {value : Json} {text : String}
    (found : eventPreviewFragment value = some text)
    : Starts text := by
  unfold eventPreviewFragment at found
  split at found
  next => exact starts_of_nonBlank found
  next value =>
      obtain rfl := Option.some.inj found
      exact value.starts_text
  next value =>
      obtain rfl := Option.some.inj found
      cases value
      · exact ⟨'f', "alse".toList, by decide, by decide⟩
      · exact ⟨'t', "rue".toList, by decide, by decide⟩
  next => cases found

theorem starts_of_textValue {value : Json} {text : String}
    (found : eventTextValuePreview value = some text)
    : Starts text := by
  unfold eventTextValuePreview at found
  split at found
  next => exact starts_of_nonBlank found
  next =>
      obtain ⟨object, -, found⟩ := Option.bind_eq_some_iff.mp found
      obtain ⟨key, -, found⟩ := List.exists_of_findSome?_eq_some found
      obtain ⟨value, -, found⟩ := Option.bind_eq_some_iff.mp found
      exact starts_of_fragment found

theorem starts_of_payloadText {payload : Json} {text : String}
    (found : eventPayloadTextPreview payload = some text)
    : Starts text := by
  unfold eventPayloadTextPreview at found
  rcases Option.or_eq_some_iff.mp found with found | ⟨-, found⟩
  · obtain ⟨body, -, found⟩ := Option.bind_eq_some_iff.mp found
    exact starts_of_textValue found
  · exact starts_of_textValue found

end CtxRemote.Store
