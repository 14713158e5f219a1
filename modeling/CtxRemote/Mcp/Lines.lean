import CtxRemote.Capture.JsonlLines

/-! The lines that the MCP server reads from its input. As in the transcripts of providers, a line may
go over several chunks, and one that is too long is passed over up to its end.
-/

namespace CtxRemote.Mcp
open CtxRemote.Capture
  (BufReader usizeMax saturatingAdd newline newlineIndex bytesOfLine bytesOfLine_pos cutLine
    cutLine_eq_nil newlineIndex_cases)

-----------------------------------------------------------------------------------------
-- Reading
-----------------------------------------------------------------------------------------

/-- `MCP_MAX_LINE_BYTES`. -/
def mcpMaxLineBytes : Nat := 1024 * 1024

/-- `McpInputLine`. -/
inductive McpInputLine where
  | line (text : String)
  | invalidUtf8
  | tooLarge
deriving DecidableEq, Repr

/-- `String::from_utf8`. -/
def fromUtf8 (bytes : List UInt8) : Option String := String.fromUTF8? ⟨bytes.toArray⟩

/-- The line of a full buffer. -/
def lineOfBuffer (buffer : List UInt8) : McpInputLine :=
  match fromUtf8 buffer with
  | some text => .line text
  | none => .invalidUtf8

/-- `discard_until_newline`. -/
def discardUntilNewline (reader : BufReader) : BufReader :=
  if _ : reader.fillBuf = [] then reader
  else
    let bytesToConsume := bytesOfLine reader.fillBuf
    let foundNewline :=
      bytesToConsume ≤ reader.fillBuf.length ∧ reader.fillBuf[bytesToConsume - 1]? = some newline
    let rest := reader.consume bytesToConsume
    if foundNewline then rest else discardUntilNewline rest
termination_by reader.stream.length
decreasing_by exact reader.consume_lt ‹_› (bytesOfLine_pos ‹_›)

/-- The loop of `read_mcp_input_line`, with its buffer. -/
def readInputFrom (reader : BufReader) (buffer : List UInt8) : Option McpInputLine × BufReader :=
  if _ : reader.fillBuf = [] then
    (if buffer.isEmpty then none else some (lineOfBuffer buffer), reader)
  else
    match newlineIndex reader.fillBuf with
    | some index =>
        let bytesToConsume := index + 1
        let rest := reader.consume bytesToConsume
        if saturatingAdd buffer.length bytesToConsume > mcpMaxLineBytes then (some .tooLarge, rest)
        else (some (lineOfBuffer (buffer ++ reader.fillBuf.take bytesToConsume)), rest)
    | none =>
        let bytesToConsume := reader.fillBuf.length
        let rest := reader.consume bytesToConsume
        if saturatingAdd buffer.length bytesToConsume > mcpMaxLineBytes then
          (some .tooLarge, discardUntilNewline rest)
        else readInputFrom rest (buffer ++ reader.fillBuf)
termination_by reader.stream.length
decreasing_by exact reader.consume_lt ‹_› (List.length_pos_of_ne_nil ‹_›)

/-- `read_mcp_input_line`. -/
def readMcpInputLine (reader : BufReader) : Option McpInputLine × BufReader :=
  readInputFrom reader []

-----------------------------------------------------------------------------------------
-- What one call reads
-----------------------------------------------------------------------------------------

/-- What a call says of a line of the stream, its line break included. -/
def inputLine (bytes : List UInt8) : McpInputLine :=
  if mcpMaxLineBytes < bytes.length then .tooLarge else lineOfBuffer bytes

theorem saturatingAdd_gt_max {left right : Nat}
    : saturatingAdd left right > mcpMaxLineBytes ↔ left + right > mcpMaxLineBytes := by
  have small : mcpMaxLineBytes < usizeMax := by decide
  unfold saturatingAdd
  omega

/-- What is discarded is the rest of the line, by induction on the calls of `fill_buf`. -/
theorem discardUntilNewline_stream (reader : BufReader)
    : (discardUntilNewline reader).stream = (cutLine reader.stream).2 := by
  fun_induction discardUntilNewline reader with
  | case1 reader empty =>
      rw [reader.fillBuf_eq_nil.mp empty]
      rfl
  | case2 reader more bytesToConsume found rest here =>
      rcases newlineIndex_cases reader.fillBuf with ⟨missed, unbroken⟩ | ⟨part, later, split, unbroken, at'⟩
      · exact absurd (List.mem_of_getElem? here.2) unbroken
      · have bytes : bytesToConsume = part.length + 1 := by
          change bytesOfLine _ = _
          rw [bytesOfLine, at']
          rfl
        rw [reader.cutLine_of_newline split unbroken, ← bytes]
  | case3 reader more bytesToConsume found rest here ih =>
      rcases newlineIndex_cases reader.fillBuf with ⟨missed, unbroken⟩ | ⟨part, later, split, unbroken, at'⟩
      · have bytes : bytesToConsume = reader.fillBuf.length := by
          change bytesOfLine _ = _
          rw [bytesOfLine, missed]
          rfl
        rw [ih, reader.cutLine_of_unbroken unbroken, ← bytes]
      · refine absurd ?_ here
        change bytesOfLine reader.fillBuf ≤ _ ∧ reader.fillBuf[bytesOfLine reader.fillBuf - 1]? = _
        rw [bytesOfLine, at']
        simp [split]

/-- A call within a line reads the rest of it, by induction on the calls of `fill_buf`. -/
theorem readInputFrom_spec (reader : BufReader) {buffer : List UInt8}
    (fits : buffer.length ≤ mcpMaxLineBytes)
    : (readInputFrom reader buffer).1
        = (if buffer ++ (cutLine reader.stream).1 = [] then none
          else some (inputLine (buffer ++ (cutLine reader.stream).1)))
      ∧ (readInputFrom reader buffer).2.stream = (cutLine reader.stream).2 := by
  fun_induction readInputFrom reader buffer with
  | case1 reader buffer empty =>
      rw [reader.fillBuf_eq_nil.mp empty, show (cutLine []).1 = [] from rfl, List.append_nil]
      refine ⟨?_, rfl⟩
      cases buffer with
      | nil => rfl
      | cons byte buffer =>
          rw [if_neg (List.cons_ne_nil _ _), inputLine, if_neg (Nat.not_lt.mpr fits)]
          rfl
  | case2 reader buffer more index found bytesToConsume rest tooLarge =>
      rcases newlineIndex_cases reader.fillBuf with ⟨missed, _⟩ | ⟨part, later, split, unbroken, at'⟩
      · rw [missed] at found
        cases found
      · obtain rfl := Option.some.inj (at'.symm.trans found)
        rw [saturatingAdd_gt_max] at tooLarge
        rw [reader.cutLine_of_newline split unbroken, if_neg (by simp), inputLine, if_pos]
        · exact ⟨rfl, rfl⟩
        · simp only [List.length_append, List.length_singleton]
          omega
  | case3 reader buffer more index found bytesToConsume rest small =>
      rcases newlineIndex_cases reader.fillBuf with ⟨missed, _⟩ | ⟨part, later, split, unbroken, at'⟩
      · rw [missed] at found
        cases found
      · obtain rfl := Option.some.inj (at'.symm.trans found)
        have front : reader.fillBuf.take bytesToConsume = part ++ [newline] := by
          rw [split, show bytesToConsume = part.length + 1 from rfl, List.take_append]
          simp
        rw [saturatingAdd_gt_max] at small
        rw [reader.cutLine_of_newline split unbroken, if_neg (by simp), inputLine, if_neg, front]
        · exact ⟨rfl, rfl⟩
        · simp only [List.length_append, List.length_singleton]
          omega
  | case4 reader buffer more missed bytesToConsume rest tooLarge =>
      rcases newlineIndex_cases reader.fillBuf with ⟨_, unbroken⟩ | ⟨part, later, split, _, at'⟩
      · rw [saturatingAdd_gt_max] at tooLarge
        have nonempty : reader.fillBuf ≠ [] := more
        rw [reader.cutLine_of_unbroken unbroken, if_neg (by simp [nonempty]), inputLine, if_pos]
        · exact ⟨rfl, discardUntilNewline_stream rest⟩
        · simp only [List.length_append]
          omega
      · rw [missed] at at'
        cases at'
  | case5 reader buffer more missed bytesToConsume rest small ih =>
      rcases newlineIndex_cases reader.fillBuf with ⟨_, unbroken⟩ | ⟨part, later, split, _, at'⟩
      · rw [saturatingAdd_gt_max] at small
        obtain ⟨reads, behind⟩ := ih (by rw [List.length_append]; omega)
        rw [reads, behind, reader.cutLine_of_unbroken unbroken, List.append_assoc]
        exact ⟨rfl, rfl⟩
      · rw [missed] at at'
        cases at'

/-- A call reads the line at the front of the stream, whatever the chunks. -/
theorem readMcpInputLine_spec (reader : BufReader)
    : (readMcpInputLine reader).1
        = (if reader.stream = [] then none else some (inputLine (cutLine reader.stream).1))
      ∧ (readMcpInputLine reader).2.stream = (cutLine reader.stream).2 := by
  obtain ⟨reads, behind⟩ := @readInputFrom_spec reader [] (Nat.zero_le _)
  refine ⟨?_, behind⟩
  rw [readMcpInputLine, reads, List.nil_append]
  simp only [cutLine_eq_nil]

end CtxRemote.Mcp
