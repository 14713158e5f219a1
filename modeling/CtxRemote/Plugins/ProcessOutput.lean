import CtxRemote.Library.Lines
import CtxRemote.Turso.DedupeKey

/-! The output of a history source plugin: `collect_child_output_with_timeout` on Unix, which reads two
pipes until both are closed and the process has ended, and the report of a plugin that fails.
-/

namespace CtxRemote.Plugins
open CtxRemote.Library
open CtxRemote.Turso (trim)

-----------------------------------------------------------------------------------------
-- UTF-8
-----------------------------------------------------------------------------------------

/-- A byte that continues a character. -/
def isContinuation (b : UInt8) : Bool := 0x80 ≤ b && b ≤ 0xBF

/-- The second byte of a character of three bytes. -/
def isSecondOfThree (a b : UInt8) : Bool :=
  if a = 0xE0 then 0xA0 ≤ b && b ≤ 0xBF
  else if a = 0xED then 0x80 ≤ b && b ≤ 0x9F
  else isContinuation b

/-- The second byte of a character of four bytes. -/
def isSecondOfFour (a b : UInt8) : Bool :=
  if a = 0xF0 then 0x90 ≤ b && b ≤ 0xBF
  else if a = 0xF4 then 0x80 ≤ b && b ≤ 0x8F
  else isContinuation b

/-- The character of the bits in front with six more of each byte. -/
def decodeBits (bits : UInt8) (continued : List UInt8) : Char :=
  Char.ofNat (continued.foldl (fun code b => code * 64 + (b &&& 0x3F).toNat) bits.toNat)

/-- `char::REPLACEMENT_CHARACTER`. -/
def replacement : Char := '\uFFFD'

/-- `String::from_utf8_lossy`: a replacement stands for every longest start of a character that no
character follows.
-/
def fromUtf8Lossy : List UInt8 → List Char
  | [] => []
  | a :: rest =>
      if a ≤ 0x7F then decodeBits a [] :: fromUtf8Lossy rest
      else if 0xC2 ≤ a && a ≤ 0xDF then
        match rest with
        | b :: after =>
            if isContinuation b then decodeBits (a &&& 0x1F) [b] :: fromUtf8Lossy after
            else replacement :: fromUtf8Lossy (b :: after)
        | [] => [replacement]
      else if 0xE0 ≤ a && a ≤ 0xEF then
        match rest with
        | b :: c :: after =>
            if !isSecondOfThree a b then replacement :: fromUtf8Lossy (b :: c :: after)
            else if isContinuation c then decodeBits (a &&& 0x0F) [b, c] :: fromUtf8Lossy after
            else replacement :: fromUtf8Lossy (c :: after)
        | [b] => if isSecondOfThree a b then [replacement] else replacement :: fromUtf8Lossy [b]
        | [] => [replacement]
      else if 0xF0 ≤ a && a ≤ 0xF4 then
        match rest with
        | b :: c :: d :: after =>
            if !isSecondOfFour a b then replacement :: fromUtf8Lossy (b :: c :: d :: after)
            else if !isContinuation c then replacement :: fromUtf8Lossy (c :: d :: after)
            else if isContinuation d then decodeBits (a &&& 0x07) [b, c, d] :: fromUtf8Lossy after
            else replacement :: fromUtf8Lossy (d :: after)
        | [b, c] =>
            if !isSecondOfFour a b then replacement :: fromUtf8Lossy [b, c]
            else if !isContinuation c then replacement :: fromUtf8Lossy [c]
            else [replacement]
        | [b] => if isSecondOfFour a b then [replacement] else replacement :: fromUtf8Lossy [b]
        | [] => [replacement]
      else replacement :: fromUtf8Lossy rest

-- A start of a character is one replacement, also where a character begins behind it.
example : fromUtf8Lossy [0x61, 0xE2, 0x82, 0xC3, 0xA9, 0xFF] = ['a', replacement, 'é', replacement] := by
  decide +kernel

-----------------------------------------------------------------------------------------
-- Pipes
-----------------------------------------------------------------------------------------

/-- What one read of a pipe gives. -/
inductive PipeRead where
  | bytes (chunk : List UInt8)
  | closed
  | wouldBlock
  | interrupted
  | failed
deriving DecidableEq

/-- `ExitStatus`, with its text. -/
structure ExitStatus where
  success : Bool
  text : List Char
deriving DecidableEq

/-- The errors of the collection. -/
inductive CollectError where
  | exceeded (pipe : String) (maxBytes : Nat)
  | io (pipe : String)
  | timedOut
deriving DecidableEq

/-- `MAX_PLUGIN_STDOUT_BYTES`. -/
def maxPluginStdoutBytes : Nat := 64 * 1024 * 1024

/-- `MAX_PLUGIN_STDERR_BYTES`. -/
def maxPluginStderrBytes : Nat := 256 * 1024

/-- `MAX_PLUGIN_STDERR_SNIPPET_BYTES`. -/
def maxPluginStderrSnippetBytes : Nat := 4096

/-- A pipe of the child, with what its reads will give, and what has been read. -/
structure PipeState where
  reads : List PipeRead
  bytes : List UInt8
  isOpen : Bool

/-- `read_available_with_limit`. A pipe whose reads give nothing more blocks. -/
def readAvailableWithLimit (maxBytes : Nat) (name : String)
    : List PipeRead → List UInt8 → Except CollectError PipeState
  | [], bytes => .ok ⟨[], bytes, true⟩
  | .closed :: rest, bytes => .ok ⟨rest, bytes, false⟩
  | .bytes chunk :: rest, bytes =>
      if maxBytes < bytes.length + chunk.length then .error (.exceeded name maxBytes)
      else readAvailableWithLimit maxBytes name rest (bytes ++ chunk)
  | .wouldBlock :: rest, bytes => .ok ⟨rest, bytes, true⟩
  | .interrupted :: rest, bytes => readAvailableWithLimit maxBytes name rest bytes
  | .failed :: _, _ => .error (.io name)

/-- One read of a pipe in the loop. -/
def PipeState.read (maxBytes : Nat) (name : String) (pipe : PipeState)
    : Except CollectError PipeState :=
  if pipe.isOpen then readAvailableWithLimit maxBytes name pipe.reads pipe.bytes else .ok pipe

/-- The variables of `collect_child_output_with_timeout`, with what polling the child will give. -/
structure CollectState where
  stdout : PipeState
  stderr : PipeState
  status : Option ExitStatus
  polls : List (Option ExitStatus)

/-- The output of a child that has ended. -/
structure ChildOutput where
  status : ExitStatus
  stdout : List UInt8
  stderr : List UInt8
deriving DecidableEq

/-- The body of the loop: the output where the child has ended, and else the next variables. -/
def CollectState.round (timedOut : Bool) (state : CollectState)
    : Except CollectError (ChildOutput ⊕ CollectState) := do
  let stdout ← state.stdout.read maxPluginStdoutBytes "stdout"
  let stderr ← state.stderr.read maxPluginStderrBytes "stderr"
  let status := state.status.or state.polls.head?.join
  let polls := if state.status.isNone then state.polls.tail else state.polls
  match status with
  | some ended =>
      if !stdout.isOpen && !stderr.isOpen then return .inl ⟨ended, stdout.bytes, stderr.bytes⟩
  | none => pure ()
  if timedOut then throw .timedOut
  return .inr ⟨stdout, stderr, status, polls⟩

/-- `collect_child_output_with_timeout`, for a number of rounds: `none` while it is still waiting.
`timedOut` says of each round whether the time is over at its end.
-/
def collectChildOutputWithTimeout (timedOut : Nat → Bool)
    : Nat → CollectState → Option (Except CollectError ChildOutput)
  | 0, _ => none
  | rounds + 1, state =>
      match state.round (timedOut rounds) with
      | .error error => some (.error error)
      | .ok (.inl output) => some (.ok output)
      | .ok (.inr next) => collectChildOutputWithTimeout timedOut rounds next

-----------------------------------------------------------------------------------------
-- Reports
-----------------------------------------------------------------------------------------

/-- The lines that a snippet is made of. -/
def snippetLines (value : List Char) : List (List Char) :=
  ((lines value).map trim).filter (!·.isEmpty)

/-- The text of a snippet that is not cut. -/
def snippetText (value : List Char) : List Char :=
  " | ".toList.intercalate ((snippetLines value).take 12)

/-- `stderr_snippet`; `none` where `String::truncate` panics. -/
def stderrSnippet (value : List Char) : Option (List Char) :=
  if maxPluginStderrSnippetBytes < utf8Len (snippetText value) then
    (takeBytes maxPluginStderrSnippetBytes (snippetText value)).map (· ++ "...".toList)
  else some (snippetText value)

/-- What becomes of a run of a plugin. -/
inductive PluginOutcome where
  | waiting
  | panicked
  | failed (detail : List Char)
  | collectFailed (error : CollectError)
  | ran (stdout : List UInt8) (stderr : List Char)
deriving DecidableEq

/-- `run_history_source_plugin` behind the collection. -/
def reportOutput (output : ChildOutput) : PluginOutcome :=
  let stderr := trim (fromUtf8Lossy output.stderr)
  if output.status.success then .ran output.stdout stderr
  else if stderr.isEmpty then .failed ("exit status ".toList ++ output.status.text)
  else
    match stderrSnippet stderr with
    | some snippet => .failed ("exit status ".toList ++ output.status.text ++ ": ".toList ++ snippet)
    | none => .panicked

/-- `run_history_source_plugin` from the collection on. -/
def runHistorySourcePlugin (timedOut : Nat → Bool) (rounds : Nat) (state : CollectState)
    : PluginOutcome :=
  match collectChildOutputWithTimeout timedOut rounds state with
  | none => .waiting
  | some (.error error) => .collectFailed error
  | some (.ok output) => reportOutput output

end CtxRemote.Plugins
