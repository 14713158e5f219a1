import CtxRemote.Capture.CustomHistory
import CtxRemote.Library.Segments
import Mathlib.Algebra.Order.Ring.Nat

/-! The lines that an importer reads from a stream of bytes. The reader shows the stream in chunks of any
sizes; a line may go over several of them, and one that is too long is passed over up to its end.
-/

namespace CtxRemote.Capture
open CtxRemote.Library
open CtxRemote.Capture.CustomHistory (maxLineBytes)

-----------------------------------------------------------------------------------------
-- Readers
-----------------------------------------------------------------------------------------

/-- `usize::MAX`. -/
def usizeMax : Nat := 2 ^ 64 - 1

/-- `usize::saturating_add`. -/
def saturatingAdd (left right : Nat) : Nat := min (left + right) usizeMax

/-- `b'\n'`. -/
def newline : UInt8 := 0x0a

/-- `BufRead`, without failures: the bytes that are not yet consumed, and how many of them each call of
`fill_buf` that is to come can show.
-/
structure BufReader where
  stream : List UInt8
  shown : Nat → Nat

namespace BufReader

variable (reader : BufReader)

/-- `fill_buf`. Only at the end of the stream it shows nothing. -/
def fillBuf : List UInt8 := reader.stream.take (max 1 (reader.shown 0))

/-- `consume`, with the next call of `fill_buf` still to come. -/
def consume (amount : Nat) : BufReader where
  stream := reader.stream.drop amount
  shown call := reader.shown (call + 1)

theorem consume_lt {amount : Nat} (more : ¬reader.fillBuf = []) (some' : 0 < amount)
    : (reader.consume amount).stream.length < reader.stream.length := by
  have nonempty : reader.stream ≠ [] := by
    intro empty
    exact more (by rw [fillBuf, empty, List.take_nil])
  have positive := List.length_pos_of_ne_nil nonempty
  change (reader.stream.drop amount).length < _
  rw [List.length_drop]
  omega

end BufReader

-----------------------------------------------------------------------------------------
-- Lines
-----------------------------------------------------------------------------------------

/-- `position` of the first line break. -/
def newlineIndex (available : List UInt8) : Option Nat := available.findIdx? (· = newline)

/-- The bytes of a chunk that belong to a line. -/
def bytesOfLine (available : List UInt8) : Nat :=
  ((newlineIndex available).map (· + 1)).getD available.length

theorem bytesOfLine_pos {available : List UInt8} (more : ¬available = [])
    : 0 < bytesOfLine available := by
  unfold bytesOfLine
  cases newlineIndex available with
  | none => exact List.length_pos_of_ne_nil more
  | some index => exact Nat.succ_pos index

/-- The loop of `discard_provider_jsonl_line`. -/
def discardFrom (reader : BufReader) (discarded : Nat) : Nat × BufReader :=
  if _ : reader.fillBuf = [] then (discarded, reader)
  else
    let bytesToConsume := bytesOfLine reader.fillBuf
    let foundNewline := reader.fillBuf[bytesToConsume - 1]? = some newline
    let rest := reader.consume bytesToConsume
    let discarded := saturatingAdd discarded bytesToConsume
    if foundNewline then (discarded, rest) else discardFrom rest discarded
termination_by reader.stream.length
decreasing_by exact reader.consume_lt ‹_› (bytesOfLine_pos ‹_›)

/-- `discard_provider_jsonl_line`. -/
def discardProviderJsonlLine (reader : BufReader) : Nat × BufReader := discardFrom reader 0

/-- `ProviderJsonlLineRead`. -/
inductive ProviderJsonlLineRead where
  | eof
  | line (bytes : Nat)
  | oversized (bytes : Nat)
deriving DecidableEq, Repr

/-- The loop of `read_provider_jsonl_line_or_skip_oversized`, with its buffer and its count. -/
def readLineFrom (reader : BufReader) (buffer : List UInt8) (total : Nat)
    : ProviderJsonlLineRead × List UInt8 × BufReader :=
  if _ : reader.fillBuf = [] then (if total > 0 then .line total else .eof, buffer, reader)
  else
    match newlineIndex reader.fillBuf with
    | some index =>
        let bytesToConsume := index + 1
        if saturatingAdd total bytesToConsume > maxLineBytes then
          (.oversized (saturatingAdd total bytesToConsume), [], reader.consume bytesToConsume)
        else
          (.line (saturatingAdd total bytesToConsume), buffer ++ reader.fillBuf.take bytesToConsume,
            reader.consume bytesToConsume)
    | none =>
        let bytesToConsume := reader.fillBuf.length
        if saturatingAdd total bytesToConsume > maxLineBytes then
          let (discarded, rest) := discardProviderJsonlLine (reader.consume bytesToConsume)
          (.oversized (saturatingAdd (saturatingAdd total bytesToConsume) discarded), [], rest)
        else
          readLineFrom (reader.consume bytesToConsume) (buffer ++ reader.fillBuf)
            (saturatingAdd total bytesToConsume)
termination_by reader.stream.length
decreasing_by exact reader.consume_lt ‹_› (List.length_pos_of_ne_nil ‹_›)

/-- `read_provider_jsonl_line_or_skip_oversized`. -/
def readProviderJsonlLineOrSkipOversized (reader : BufReader)
    : ProviderJsonlLineRead × List UInt8 × BufReader :=
  readLineFrom reader [] 0

-----------------------------------------------------------------------------------------
-- The line at the front of a stream
-----------------------------------------------------------------------------------------

/-- The line that a stream starts with, its line break included, and what follows it. -/
def cutLine : List UInt8 → List UInt8 × List UInt8
  | [] => ([], [])
  | byte :: rest =>
      if byte = newline then ([byte], rest) else (byte :: (cutLine rest).1, (cutLine rest).2)

theorem cutLine_append (stream : List UInt8) : (cutLine stream).1 ++ (cutLine stream).2 = stream := by
  induction stream with
  | nil => rfl
  | cons byte rest ih =>
      unfold cutLine
      split
      next => rfl
      next => rw [List.cons_append, ih]

/-- A chunk without a line break is a part of the line. -/
theorem cutLine_part {part : List UInt8} (unbroken : newline ∉ part) (rest : List UInt8)
    : cutLine (part ++ rest) = (part ++ (cutLine rest).1, (cutLine rest).2) := by
  induction part with
  | nil => rfl
  | cons byte part ih =>
      obtain ⟨here, later⟩ := List.ne_and_not_mem_of_not_mem_cons unbroken
      rw [List.cons_append, cutLine, if_neg here.symm, ih later]
      rfl

/-- The first line break ends the line. -/
theorem cutLine_end {part : List UInt8} (unbroken : newline ∉ part) (rest : List UInt8)
    : cutLine (part ++ newline :: rest) = (part ++ [newline], rest) := by
  rw [cutLine_part unbroken, cutLine, if_pos rfl]

/-- The first line break of a chunk, if it has one. -/
theorem newlineIndex_cases (available : List UInt8)
    : (newlineIndex available = none ∧ newline ∉ available)
      ∨ ∃ part later, available = part ++ newline :: later ∧ newline ∉ part
        ∧ newlineIndex available = some part.length := by
  induction available with
  | nil => exact .inl ⟨rfl, List.not_mem_nil⟩
  | cons byte rest ih =>
      unfold newlineIndex
      rw [List.findIdx?_cons]
      by_cases here : byte = newline
      · exact .inr ⟨[], rest, by rw [here]; rfl, List.not_mem_nil, by simp [here]⟩
      · rw [if_neg (by simpa using here)]
        rcases ih with ⟨missed, unbroken⟩ | ⟨part, later, split, unbroken, found⟩
        · refine .inl ⟨by rw [show rest.findIdx? _ = none from missed]; rfl, ?_⟩
          simp [unbroken, Ne.symm here]
        · refine .inr ⟨byte :: part, later, by rw [split]; rfl, ?_, ?_⟩
          · simp [unbroken, Ne.symm here]
          · rw [show rest.findIdx? _ = some part.length from found]
            rfl

namespace BufReader

variable (reader : BufReader)

/-- What a reader shows is the front of its stream, and what follows is left behind it. -/
theorem fillBuf_append
    : reader.fillBuf ++ (reader.consume reader.fillBuf.length).stream = reader.stream := by
  have front : reader.fillBuf = reader.stream.take reader.fillBuf.length :=
    List.prefix_iff_eq_take.mp (List.take_prefix _ _)
  calc reader.fillBuf ++ (reader.consume reader.fillBuf.length).stream
      = reader.stream.take reader.fillBuf.length ++ reader.stream.drop reader.fillBuf.length :=
        congrArg (· ++ _) front
    _ = reader.stream := List.take_append_drop _ _

/-- Only at its end a stream shows nothing. -/
theorem fillBuf_eq_nil : reader.fillBuf = [] ↔ reader.stream = [] := by
  unfold fillBuf
  rw [List.take_eq_nil_iff]
  constructor
  · rintro (none | empty)
    · omega
    · exact empty
  · exact .inr

/-- A line break within the chunk ends the line of the stream, and the reader goes on behind it. -/
theorem cutLine_of_newline {part later : List UInt8}
    (split : reader.fillBuf = part ++ newline :: later) (unbroken : newline ∉ part)
    : cutLine reader.stream = (part ++ [newline], (reader.consume (part.length + 1)).stream) := by
  have whole : reader.stream
      = part ++ newline :: (later ++ (reader.consume reader.fillBuf.length).stream) := by
    rw [← reader.fillBuf_append, split, List.append_assoc, List.cons_append]
  have behind : (reader.consume (part.length + 1)).stream
      = later ++ (reader.consume reader.fillBuf.length).stream := by
    calc (reader.consume (part.length + 1)).stream
        = reader.stream.drop (part.length + 1) := rfl
      _ = (part ++ newline :: (later ++ (reader.consume reader.fillBuf.length).stream)).drop
            (part.length + 1) := by rw [← whole]
      _ = later ++ (reader.consume reader.fillBuf.length).stream := by
          rw [List.drop_append]
          simp
  rw [behind]
  conv_lhs => rw [whole]
  exact cutLine_end unbroken _

/-- A chunk without a line break is the front of the line, and the reader goes on within it. -/
theorem cutLine_of_unbroken (unbroken : newline ∉ reader.fillBuf)
    : cutLine reader.stream
      = (reader.fillBuf ++ (cutLine (reader.consume reader.fillBuf.length).stream).1,
          (cutLine (reader.consume reader.fillBuf.length).stream).2) := by
  conv_lhs => rw [← reader.fillBuf_append]
  exact cutLine_part unbroken _

end BufReader

-----------------------------------------------------------------------------------------
-- What one call reads
-----------------------------------------------------------------------------------------

theorem saturatingAdd_saturatingAdd (left middle right : Nat)
    : saturatingAdd (saturatingAdd left middle) right = saturatingAdd left (middle + right) := by
  unfold saturatingAdd
  omega

/-- A line is discarded up to its end, by induction on the calls of `fill_buf`. -/
theorem discardFrom_spec (reader : BufReader) {discarded : Nat} (fits : discarded ≤ usizeMax)
    : (discardFrom reader discarded).1 = saturatingAdd discarded (cutLine reader.stream).1.length
      ∧ (discardFrom reader discarded).2.stream = (cutLine reader.stream).2 := by
  fun_induction discardFrom reader discarded with
  | case1 reader discarded empty =>
      have ended := reader.fillBuf_eq_nil.mp empty
      rw [ended]
      exact ⟨(Nat.min_eq_left fits).symm, rfl⟩
  | case2 reader discarded more bytesToConsume found rest total here =>
      rcases newlineIndex_cases reader.fillBuf with ⟨missed, unbroken⟩ | ⟨part, later, split, unbroken, at'⟩
      · exact absurd (List.mem_of_getElem? here) unbroken
      · have bytes : bytesToConsume = part.length + 1 := by
          change bytesOfLine _ = _
          rw [bytesOfLine, at']
          rfl
        rw [reader.cutLine_of_newline split unbroken, List.length_append, List.length_singleton,
          ← bytes]
        exact ⟨rfl, rfl⟩
  | case3 reader discarded more bytesToConsume found rest total here ih =>
      rcases newlineIndex_cases reader.fillBuf with ⟨missed, unbroken⟩ | ⟨part, later, split, unbroken, at'⟩
      · have bytes : bytesToConsume = reader.fillBuf.length := by
          change bytesOfLine _ = _
          rw [bytesOfLine, missed]
          rfl
        obtain ⟨counted, left⟩ := ih (Nat.min_le_right _ _)
        rw [reader.cutLine_of_unbroken unbroken, List.length_append, ← bytes]
        refine ⟨?_, left⟩
        rw [counted]
        exact saturatingAdd_saturatingAdd _ _ _
      · refine absurd ?_ here
        change reader.fillBuf[bytesOfLine reader.fillBuf - 1]? = some newline
        rw [bytesOfLine, at']
        simp [split]

theorem maxLineBytes_lt : maxLineBytes < usizeMax := by decide

/-- The sum is compared with the limit before it can be cut off. -/
theorem saturatingAdd_gt {left right : Nat}
    : saturatingAdd left right > maxLineBytes ↔ left + right > maxLineBytes := by
  have small := maxLineBytes_lt
  unfold saturatingAdd
  omega

theorem saturatingAdd_eq {left right : Nat} (fits : ¬saturatingAdd left right > maxLineBytes)
    : saturatingAdd left right = left + right := by
  have small := maxLineBytes_lt
  rw [saturatingAdd_gt] at fits
  unfold saturatingAdd
  omega

/-- What a call says of a line. -/
def lineRead (line : List UInt8) : ProviderJsonlLineRead × List UInt8 :=
  if line.length ≤ maxLineBytes then (.line line.length, line)
  else (.oversized (min line.length usizeMax), [])

/-- A call within a line reads the rest of it, by induction on the calls of `fill_buf`. -/
theorem readLineFrom_spec (reader : BufReader) {buffer : List UInt8} {total : Nat}
    (count : total = buffer.length) (fits : total ≤ maxLineBytes)
    : ((readLineFrom reader buffer total).1, (readLineFrom reader buffer total).2.1)
        = (if buffer ++ (cutLine reader.stream).1 = [] then (.eof, [])
          else lineRead (buffer ++ (cutLine reader.stream).1))
      ∧ (readLineFrom reader buffer total).2.2.stream = (cutLine reader.stream).2 := by
  fun_induction readLineFrom reader buffer total with
  | case1 reader buffer total empty =>
      have ended := reader.fillBuf_eq_nil.mp empty
      subst count
      rw [ended]
      refine ⟨?_, rfl⟩
      rw [show (cutLine []).1 = [] from rfl, List.append_nil]
      cases buffer with
      | nil => rfl
      | cons byte buffer =>
          have positive : (byte :: buffer).length > 0 := Nat.succ_pos _
          rw [if_neg (List.cons_ne_nil _ _), lineRead, if_pos fits, if_pos positive]
  | case2 reader buffer total more index found bytesToConsume oversized =>
      obtain ⟨missed, _⟩ | ⟨part, later, split, unbroken, at'⟩ := newlineIndex_cases reader.fillBuf
      · rw [missed] at found
        cases found
      · obtain rfl := Option.some.inj (at'.symm.trans found)
        subst count
        rw [reader.cutLine_of_newline split unbroken, if_neg (by simp), lineRead, if_neg]
        · exact ⟨by simp [saturatingAdd, bytesToConsume], rfl⟩
        · rw [saturatingAdd_gt] at oversized
          simp only [List.length_append, List.length_singleton]
          omega
  | case3 reader buffer total more index found bytesToConsume small =>
      obtain ⟨missed, _⟩ | ⟨part, later, split, unbroken, at'⟩ := newlineIndex_cases reader.fillBuf
      · rw [missed] at found
        cases found
      · obtain rfl := Option.some.inj (at'.symm.trans found)
        subst count
        have taken : reader.fillBuf.take (part.length + 1) = part ++ [newline] := by
          rw [split, List.take_append]
          simp
        have sum := saturatingAdd_eq small
        rw [saturatingAdd_gt] at small
        rw [reader.cutLine_of_newline split unbroken, if_neg (by simp), lineRead, if_pos]
        · refine ⟨?_, rfl⟩
          simp only [sum, bytesToConsume, taken, List.length_append, List.length_singleton]
        · simp only [List.length_append, List.length_singleton]
          omega
  | case4 reader buffer total more missed bytesToConsume oversized discarded rest ended =>
      obtain ⟨_, unbroken⟩ | ⟨part, later, split, unbroken, found⟩ := newlineIndex_cases reader.fillBuf
      · obtain ⟨counted, left⟩ := discardFrom_spec (reader.consume bytesToConsume) (Nat.zero_le _)
        rw [show discardFrom (reader.consume bytesToConsume) 0 = (discarded, rest) from ended]
          at counted left
        subst count
        rw [saturatingAdd_gt] at oversized
        have nonempty : buffer ++ (cutLine reader.stream).1 ≠ [] := by
          rw [reader.cutLine_of_unbroken unbroken]
          simp [more]
        rw [if_neg nonempty, lineRead, if_neg]
        · rw [reader.cutLine_of_unbroken unbroken]
          refine ⟨?_, left⟩
          dsimp only at counted ⊢
          rw [saturatingAdd_saturatingAdd, counted]
          simp [saturatingAdd, bytesToConsume]
          omega
        · rw [reader.cutLine_of_unbroken unbroken]
          simp only [List.length_append]
          omega
      · rw [found] at missed
        cases missed
  | case5 reader buffer total more missed bytesToConsume small ih =>
      obtain ⟨_, unbroken⟩ | ⟨part, later, split, unbroken, found⟩ := newlineIndex_cases reader.fillBuf
      · subst count
        have sum := saturatingAdd_eq small
        rw [sum] at ih ⊢
        rw [saturatingAdd_gt] at small
        obtain ⟨said, left⟩ := ih (List.length_append ..).symm (Nat.le_of_not_gt small)
        rw [reader.cutLine_of_unbroken unbroken, ← List.append_assoc]
        exact ⟨said, left⟩
      · rw [found] at missed
        cases missed

/-- A line starts every stream that has not ended. -/
theorem cutLine_eq_nil {stream : List UInt8} : (cutLine stream).1 = [] ↔ stream = [] := by
  cases stream with
  | nil => exact iff_of_true rfl rfl
  | cons byte rest =>
      unfold cutLine
      split <;> simp

/-- A call reads the line that the stream starts with. -/
theorem readLine_spec (reader : BufReader)
    : ((readProviderJsonlLineOrSkipOversized reader).1,
          (readProviderJsonlLineOrSkipOversized reader).2.1)
        = (if reader.stream = [] then (.eof, []) else lineRead (cutLine reader.stream).1)
      ∧ (readProviderJsonlLineOrSkipOversized reader).2.2.stream = (cutLine reader.stream).2 := by
  have read := readLineFrom_spec reader (List.length_nil (α := UInt8)).symm (Nat.zero_le _)
  simp only [List.nil_append, cutLine_eq_nil] at read
  exact read

theorem readLine_eof {reader : BufReader}
    : (readProviderJsonlLineOrSkipOversized reader).1 = .eof ↔ reader.stream = [] := by
  have read := congrArg Prod.fst (readLine_spec reader).1
  dsimp only at read
  rw [read]
  constructor
  · intro ended
    by_contra more
    rw [if_neg more, lineRead] at ended
    split at ended <;> cases ended
  · intro empty
    rw [if_pos empty]

theorem readLine_lt {reader : BufReader}
    (more : ¬(readProviderJsonlLineOrSkipOversized reader).1 = .eof)
    : (readProviderJsonlLineOrSkipOversized reader).2.2.stream.length < reader.stream.length := by
  rw [readLine_eof] at more
  have line := List.length_pos_of_ne_nil (mt cutLine_eq_nil.mp more)
  have sizes := congrArg List.length (cutLine_append reader.stream)
  rw [List.length_append] at sizes
  rw [(readLine_spec reader).2]
  omega

-----------------------------------------------------------------------------------------
-- What all calls read
-----------------------------------------------------------------------------------------

/-- The calls up to the end of the stream, each with its buffer. -/
def readLines (reader : BufReader) : List (ProviderJsonlLineRead × List UInt8) :=
  if _ : (readProviderJsonlLineOrSkipOversized reader).1 = .eof then []
  else
    ((readProviderJsonlLineOrSkipOversized reader).1,
      (readProviderJsonlLineOrSkipOversized reader).2.1)
    :: readLines (readProviderJsonlLineOrSkipOversized reader).2.2
termination_by reader.stream.length
decreasing_by exact readLine_lt ‹_›

/-- The lines of a stream: a byte joins a line that has not ended. -/
def streamLines (stream : List UInt8) : List (List UInt8) :=
  segments (fun line _ => line.getLast? ≠ some newline) stream

/-- A line that has ended stays as it is. -/
theorem segmentsFrom_ended {line : List UInt8} (ended : line.getLast? = some newline)
    (rest : List UInt8)
    : segmentsFrom (fun line _ => line.getLast? ≠ some newline) line rest
      = line :: streamLines rest := by
  cases rest with
  | nil => rfl
  | cons byte rest => rw [segmentsFrom, if_neg (by simp [ended])]; rfl

/-- A line that has not ended goes on, by induction on the bytes behind it. -/
theorem segmentsFrom_open {line : List UInt8} (unended : line.getLast? ≠ some newline)
    (rest : List UInt8)
    : segmentsFrom (fun line _ => line.getLast? ≠ some newline) line rest
      = (line ++ (cutLine rest).1) :: streamLines (cutLine rest).2 := by
  induction rest generalizing line with
  | nil => rw [segmentsFrom, cutLine, List.append_nil]; rfl
  | cons byte rest ih =>
      rw [segmentsFrom, if_pos (by simpa using unended)]
      unfold cutLine
      by_cases here : byte = newline
      · rw [if_pos here, segmentsFrom_ended (by simp [here])]
      · rw [if_neg here, ih (by simpa using here), List.append_assoc, List.singleton_append]

theorem streamLines_cut {stream : List UInt8} (more : stream ≠ [])
    : streamLines stream = (cutLine stream).1 :: streamLines (cutLine stream).2 := by
  cases stream with
  | nil => exact absurd rfl more
  | cons byte rest =>
      change segmentsFrom _ [byte] rest = _
      unfold cutLine
      by_cases here : byte = newline
      · rw [if_pos here, segmentsFrom_ended (by rw [here]; rfl)]
      · rw [if_neg here, segmentsFrom_open (by simpa using here)]
        rfl

/-- The calls read the lines of the stream in their order, by induction on the calls. -/
theorem readLines_eq (reader : BufReader)
    : readLines reader = (streamLines reader.stream).map lineRead := by
  fun_induction readLines reader with
  | case1 reader ended =>
      rw [readLine_eof.mp ended]
      rfl
  | case2 reader more ih =>
      obtain ⟨read, rest⟩ := readLine_spec reader
      rw [readLine_eof] at more
      rw [if_neg more] at read
      rw [ih, read, rest, streamLines_cut more, List.map_cons]

/-- The split of a stream at its line breaks: each line ends with the first line break in it, and only
the last one may end with the stream instead.
-/
structure SplitAtNewlines (stream : List UInt8) (lines : List (List UInt8)) : Prop where
  whole : lines.flatten = stream
  nonempty : ∀ line ∈ lines, line ≠ []
  unbroken : ∀ line ∈ lines, newline ∉ line.dropLast
  ended : ∀ line ∈ lines.dropLast, line.getLast? = some newline

theorem newline_not_mem_dropLast_cutLine (stream : List UInt8)
    : newline ∉ (cutLine stream).1.dropLast := by
  induction stream with
  | nil => exact List.not_mem_nil
  | cons byte rest ih =>
      unfold cutLine
      split
      next => exact List.not_mem_nil
      next other =>
          cases line : (cutLine rest).1 with
          | nil => exact List.not_mem_nil
          | cons second later =>
              rw [line] at ih
              intro member
              rcases List.mem_cons.mp member with same | inside
              · exact other same.symm
              · exact ih inside

theorem getLast?_cutLine {stream : List UInt8} (more : (cutLine stream).2 ≠ [])
    : (cutLine stream).1.getLast? = some newline := by
  induction stream with
  | nil => exact absurd rfl more
  | cons byte rest ih =>
      unfold cutLine at more ⊢
      by_cases here : byte = newline
      · rw [if_pos here, here]
        rfl
      · rw [if_neg here] at more ⊢
        rw [List.getLast?_cons, ih more]
        rfl

/-- A line before the split of what follows it. -/
theorem SplitAtNewlines.cons {stream : List UInt8} {lines : List (List UInt8)} (more : stream ≠ [])
    (rest : SplitAtNewlines (cutLine stream).2 lines)
    : SplitAtNewlines stream ((cutLine stream).1 :: lines) where
  whole := by rw [List.flatten_cons, rest.whole, cutLine_append]
  nonempty := by
    intro line member
    rcases List.mem_cons.mp member with rfl | later
    · exact mt cutLine_eq_nil.mp more
    · exact rest.nonempty line later
  unbroken := by
    intro line member
    rcases List.mem_cons.mp member with rfl | later
    · exact newline_not_mem_dropLast_cutLine stream
    · exact rest.unbroken line later
  ended := by
    intro line member
    cases lines with
    | nil => cases member
    | cons second later =>
        rcases List.mem_cons.mp member with rfl | inside
        · apply getLast?_cutLine
          intro none
          have empty := rest.whole.trans none
          exact rest.nonempty second (.head _) (List.append_eq_nil_iff.mp empty).1
        · exact rest.ended line inside

/-- The lines are the split, by induction on the length of the stream. -/
theorem splitAtNewlines_streamLines (stream : List UInt8)
    : SplitAtNewlines stream (streamLines stream) := by
  induction size : stream.length using Nat.strong_induction_on generalizing stream with
  | _ size ih =>
      by_cases more : stream = []
      · subst more
        exact ⟨rfl, fun _ => nofun, fun _ => nofun, fun _ => nofun⟩
      · have line := List.length_pos_of_ne_nil (mt cutLine_eq_nil.mp more)
        have sizes := congrArg List.length (cutLine_append stream)
        rw [List.length_append] at sizes
        rw [streamLines_cut more]
        exact .cons more (ih _ (by omega) _ rfl)

/-- Counts that are cut off add up to the size that is cut off. -/
theorem foldl_saturatingAdd (lines : List (List UInt8)) (start : Nat)
    : (lines.map fun line => min line.length usizeMax).foldl saturatingAdd (min start usizeMax)
      = min (start + (lines.map List.length).sum) usizeMax := by
  induction lines generalizing start with
  | nil => rfl
  | cons line lines ih =>
      have step : saturatingAdd (min start usizeMax) (min line.length usizeMax)
          = min (start + line.length) usizeMax := by
        unfold saturatingAdd
        omega
      rw [List.map_cons, List.foldl_cons, step, ih, List.map_cons, List.sum_cons, Nat.add_assoc]

/-- The bytes that a call reports. -/
def ProviderJsonlLineRead.bytes : ProviderJsonlLineRead → Nat
  | .eof => 0
  | .line bytes => bytes
  | .oversized bytes => bytes

theorem bytes_lineRead (line : List UInt8)
    : (lineRead line).1.bytes = min line.length usizeMax := by
  have small := maxLineBytes_lt
  unfold lineRead
  split
  next fits => exact (Nat.min_eq_left (fits.trans small.le)).symm
  next => rfl

/-- Over the bytes that a reader still has, the calls up to the end of the stream return its split at
line breaks, whatever chunks the reader shows: a line of at most the maximum as it is, a longer one once
as oversized, and the bytes that they report add up to those of the stream, as far as a count goes.
-/
theorem readLines_exact (reader : BufReader)
    : SplitAtNewlines reader.stream (streamLines reader.stream)
      ∧ readLines reader
        = (streamLines reader.stream).map (fun line =>
            if line.length ≤ maxLineBytes then (.line line.length, line)
            else (.oversized (min line.length usizeMax), []))
      ∧ ((readLines reader).map (·.1.bytes)).foldl saturatingAdd 0
        = min reader.stream.length usizeMax
      ∧ (reader.stream.length ≤ usizeMax →
          ((readLines reader).map (·.1.bytes)).sum = reader.stream.length)
      ∧ ∀ other : BufReader, other.stream = reader.stream → readLines other = readLines reader := by
  have split := splitAtNewlines_streamLines reader.stream
  have counts : (readLines reader).map (·.1.bytes)
      = (streamLines reader.stream).map fun line => min line.length usizeMax := by
    rw [readLines_eq, List.map_map]
    exact List.map_congr_left fun line _ => bytes_lineRead line
  have sizes : ((streamLines reader.stream).map List.length).sum = reader.stream.length := by
    rw [← List.length_flatten, split.whole]
  refine ⟨split, readLines_eq reader, ?_, ?_, ?_⟩
  · have sum := foldl_saturatingAdd (streamLines reader.stream) 0
    rw [Nat.zero_min, Nat.zero_add, sizes] at sum
    rw [counts, sum]
  · intro fits
    have exact_counts : (streamLines reader.stream).map (fun line => min line.length usizeMax)
        = (streamLines reader.stream).map List.length := by
      refine List.map_congr_left fun line member => Nat.min_eq_left ?_
      have inside := (List.sublist_flatten_of_mem member).length_le
      rw [split.whole] at inside
      exact inside.trans fits
    rw [counts, exact_counts, sizes]
  · intro other same
    rw [readLines_eq, readLines_eq, same]

end CtxRemote.Capture
