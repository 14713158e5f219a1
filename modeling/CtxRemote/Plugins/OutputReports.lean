import CtxRemote.Library.Strip
import CtxRemote.Plugins.ProcessOutput

/-! A plugin whose output stays within the limits is read to its end, and its failure is reported where
the text of the snippet is short or can be cut at the limit.
-/

namespace CtxRemote.Plugins
open CtxRemote.Library
open CtxRemote.Turso (trim isWhitespace)

-----------------------------------------------------------------------------------------
-- Processes
-----------------------------------------------------------------------------------------

/-- What the reads of a pipe give before it is closed. -/
inductive PipeEvent where
  | bytes (chunk : List UInt8)
  | wouldBlock
  | interrupted
deriving DecidableEq

/-- The read that gives an event. -/
def PipeEvent.read : PipeEvent → PipeRead
  | .bytes chunk => .bytes chunk
  | .wouldBlock => .wouldBlock
  | .interrupted => .interrupted

/-- The bytes that events carry. -/
def content (events : List PipeEvent) : List UInt8 :=
  events.flatMap fun
    | .bytes chunk => chunk
    | _ => []

/-- A pipe whose content is within a limit. -/
structure Pipe (limit : Nat) where
  events : List PipeEvent
  fits : (content events).length ≤ limit

/-- A plugin process: the status it ends with, how many polls find it running, and its pipes. -/
structure PluginProcess where
  status : ExitStatus
  waits : Nat
  stdout : Pipe maxPluginStdoutBytes
  stderr : Pipe maxPluginStderrBytes

/-- A pipe of which nothing has been read. -/
def Pipe.start {limit : Nat} (pipe : Pipe limit) : PipeState :=
  ⟨pipe.events.map PipeEvent.read ++ [.closed], [], true⟩

/-- The variables before the first round. -/
def PluginProcess.start (process : PluginProcess) : CollectState where
  stdout := process.stdout.start
  stderr := process.stderr.start
  status := none
  polls := List.replicate process.waits none ++ [some process.status]

/-- The output of a process. -/
def PluginProcess.output (process : PluginProcess) : ChildOutput :=
  ⟨process.status, content process.stdout.events, content process.stderr.events⟩

-----------------------------------------------------------------------------------------
-- Collection
-----------------------------------------------------------------------------------------

section Collection

variable {out err : List UInt8} {ended : ExitStatus} {limit : Nat}

/-- What is left of a pipe with a content, and how many reads that can take. -/
inductive PipeLeft (out : List UInt8) : PipeState → Nat → Prop where
  | reading (events : List PipeEvent) (bytes : List UInt8) (whole : bytes ++ content events = out)
    : PipeLeft out ⟨events.map PipeEvent.read ++ [.closed], bytes, true⟩ (events.length + 1)
  | closed (rest : List PipeRead) : PipeLeft out ⟨rest, out, false⟩ 0

/-- What is left of a process that ends with a status, and how many polls that can take. -/
inductive PollsLeft (ended : ExitStatus) : Option ExitStatus → List (Option ExitStatus) → Nat → Prop
  where
  | waiting (waits : Nat)
    : PollsLeft ended none (List.replicate waits none ++ [some ended]) (waits + 1)
  | reached (polls : List (Option ExitStatus)) : PollsLeft ended (some ended) polls 0

/-- Reading an open pipe takes something off it. Witness: induction on the events. -/
theorem readAvailable_left (name : String) (fits : out.length ≤ limit) (events : List PipeEvent)
    {bytes : List UInt8} (whole : bytes ++ content events = out)
    : ∃ next left,
        readAvailableWithLimit limit name (events.map PipeEvent.read ++ [.closed]) bytes = .ok next
        ∧ PipeLeft out next left
        ∧ left ≤ events.length := by
  induction events generalizing bytes with
  | nil =>
      obtain rfl : bytes = out := by simpa [content] using whole
      exact ⟨⟨[], bytes, false⟩, 0, rfl, .closed [], Nat.le_refl 0⟩
  | cons event rest ih =>
      cases event with
      | bytes chunk =>
          have split : (bytes ++ chunk) ++ content rest = out := by
            rw [List.append_assoc]
            exact whole
          have short : ¬limit < bytes.length + chunk.length := by
            have size := congrArg List.length split
            rw [List.length_append, List.length_append] at size
            omega
          obtain ⟨next, left, read, later, fewer⟩ := ih split
          refine ⟨next, left, ?_, later, by simp only [List.length_cons]; omega⟩
          rw [List.map_cons, List.cons_append, PipeEvent.read, readAvailableWithLimit, if_neg short, read]
      | wouldBlock =>
          exact ⟨_, _, rfl, .reading rest bytes whole, by simp⟩
      | interrupted =>
          obtain ⟨next, left, read, later, fewer⟩ := ih whole
          exact ⟨next, left, read, later, by simp only [List.length_cons]; omega⟩

/-- A read takes something off a pipe, or the pipe was closed. -/
theorem PipeLeft.read {pipe : PipeState} {left : Nat} (name : String) (fits : out.length ≤ limit)
    (before : PipeLeft out pipe left)
    : ∃ next less,
        pipe.read limit name = .ok next
        ∧ PipeLeft out next less
        ∧ (less < left ∨ less = 0 ∧ left = 0) := by
  cases before with
  | reading events bytes whole =>
      obtain ⟨next, less, read, later, fewer⟩ := readAvailable_left name fits events whole
      exact ⟨next, less, read, later, .inl (by omega)⟩
  | closed rest => exact ⟨_, 0, rfl, .closed rest, .inr ⟨rfl, rfl⟩⟩

/-- A pipe is closed where nothing is left of it. -/
theorem PipeLeft.isOpen_iff {pipe : PipeState} {left : Nat} (before : PipeLeft out pipe left)
    : pipe.isOpen = false ↔ left = 0 := by
  cases before <;> simp

theorem PipeLeft.bytes_eq {pipe : PipeState} (before : PipeLeft out pipe 0) : pipe.bytes = out := by
  cases before
  rfl

/-- A poll takes something off what is left, or the process was over. -/
theorem PollsLeft.poll {status : Option ExitStatus} {polls : List (Option ExitStatus)} {left : Nat}
    (before : PollsLeft ended status polls left)
    : ∃ less,
        PollsLeft ended (status.or polls.head?.join) (if status.isNone then polls.tail else polls) less
        ∧ (less < left ∨ less = 0 ∧ left = 0) := by
  cases before with
  | waiting waits =>
      cases waits with
      | zero => exact ⟨0, .reached _, .inl (Nat.lt_succ_self 0)⟩
      | succ waits => exact ⟨waits + 1, .waiting waits, .inl (by omega)⟩
  | reached polls => exact ⟨0, .reached polls, .inr ⟨rfl, rfl⟩⟩

/-- A process has ended where no poll is left. -/
theorem PollsLeft.status_eq {status : Option ExitStatus} {polls : List (Option ExitStatus)} {left : Nat}
    (before : PollsLeft ended status polls left)
    : status = if left = 0 then some ended else none := by
  cases before <;> simp

/-- A round with its reads, while there is time. -/
theorem round_eq {state : CollectState} {stdout stderr : PipeState}
    (readOut : state.stdout.read maxPluginStdoutBytes "stdout" = .ok stdout)
    (readErr : state.stderr.read maxPluginStderrBytes "stderr" = .ok stderr)
    : state.round false
      = .ok
          (match state.status.or state.polls.head?.join, stdout.isOpen || stderr.isOpen with
          | some ended, false => .inl ⟨ended, stdout.bytes, stderr.bytes⟩
          | status, _ =>
              .inr ⟨stdout, stderr, status, if state.status.isNone then state.polls.tail else state.polls⟩) := by
  unfold CollectState.round
  rw [readOut, readErr]
  cases state.status.or state.polls.head?.join with
  | none => rfl
  | some ended => cases stdoutOpen : stdout.isOpen <;> cases stderrOpen : stderr.isOpen <;>
      simp [bind, Except.bind, pure, Except.pure, stdoutOpen, stderrOpen]

/-- With rounds for all that is left, the output is collected. Witness: induction on the rounds; a round
that does not return takes something off what is left.
-/
theorem collect_of_left {state : CollectState} {first second third rounds : Nat}
    (fitsOut : out.length ≤ maxPluginStdoutBytes) (fitsErr : err.length ≤ maxPluginStderrBytes)
    (stdoutLeft : PipeLeft out state.stdout first) (stderrLeft : PipeLeft err state.stderr second)
    (pollsLeft : PollsLeft ended state.status state.polls third)
    (enough : first + second + third < rounds)
    : collectChildOutputWithTimeout (fun _ => false) rounds state = some (.ok ⟨ended, out, err⟩) := by
  induction rounds generalizing state first second third with
  | zero => omega
  | succ rounds ih =>
      obtain ⟨stdout, first', readOut, stdoutLeft', lessOut⟩ := stdoutLeft.read "stdout" fitsOut
      obtain ⟨stderr, second', readErr, stderrLeft', lessErr⟩ := stderrLeft.read "stderr" fitsErr
      obtain ⟨third', pollsLeft', lessPolls⟩ := pollsLeft.poll
      have status := pollsLeft'.status_eq
      have next (running : first' ≠ 0 ∨ second' ≠ 0 ∨ third' ≠ 0)
          : collectChildOutputWithTimeout (fun _ => false) rounds
              ⟨stdout, stderr, state.status.or state.polls.head?.join,
                if state.status.isNone then state.polls.tail else state.polls⟩
            = some (.ok ⟨ended, out, err⟩) :=
        ih stdoutLeft' stderrLeft' pollsLeft' (by omega)
      rw [collectChildOutputWithTimeout, round_eq readOut readErr]
      by_cases polled : third' = 0
      · rw [status, if_pos polled] at next ⊢
        cases isOpen : stdout.isOpen || stderr.isOpen with
        | false =>
            rw [Bool.or_eq_false_iff] at isOpen
            obtain rfl := stdoutLeft'.isOpen_iff.mp isOpen.1
            obtain rfl := stderrLeft'.isOpen_iff.mp isOpen.2
            rw [← stdoutLeft'.bytes_eq, ← stderrLeft'.bytes_eq]
        | true =>
            refine next ?_
            by_contra none
            have first : stdout.isOpen = false := stdoutLeft'.isOpen_iff.mpr (by omega)
            have second : stderr.isOpen = false := stderrLeft'.isOpen_iff.mpr (by omega)
            rw [first, second] at isOpen
            cases isOpen
      · rw [status, if_neg polled] at next ⊢
        exact next (.inr (.inr polled))

/-- The collection of the output of a process returns, with all of it. -/
def OutputCollected (process : PluginProcess) : Prop :=
  ∃ enough, ∀ rounds, enough ≤ rounds →
    collectChildOutputWithTimeout (fun _ => false) rounds process.start
      = some (.ok process.output)

theorem collects (process : PluginProcess) : OutputCollected process := by
  refine ⟨process.stdout.events.length + process.stderr.events.length + process.waits + 4,
    fun rounds many => ?_⟩
  exact collect_of_left process.stdout.fits process.stderr.fits
    (.reading process.stdout.events [] rfl) (.reading process.stderr.events [] rfl)
    (.waiting process.waits) (by omega)

end Collection

-----------------------------------------------------------------------------------------
-- Reports
-----------------------------------------------------------------------------------------

/-- The text on the standard error of a process. -/
def PluginProcess.stderrText (process : PluginProcess) : List Char :=
  trim (fromUtf8Lossy (content process.stderr.events))

/-- A snippet of a text: a start of its lines within the limit, with dots where it is cut. -/
def IsSnippet (value snippet : List Char) : Prop :=
  ∃ shown,
    shown <+: " | ".toList.intercalate (snippetLines value)
    ∧ utf8Len shown ≤ maxPluginStderrSnippetBytes
    ∧ (snippet = shown ∨ snippet = shown ++ "...".toList)

/-- A process is reported: with its output where it succeeds, and else with a snippet of its text. -/
def Reported (process : PluginProcess) : PluginOutcome → Prop
  | .ran stdout stderr =>
      process.status.success = true ∧ stdout = content process.stdout.events
      ∧ stderr = process.stderrText
  | .failed detail =>
      process.status.success = false
      ∧ (process.stderrText = [] ∧ detail = "exit status ".toList ++ process.status.text
        ∨ ∃ snippet,
            IsSnippet process.stderrText snippet
            ∧ detail = "exit status ".toList ++ process.status.text ++ ": ".toList ++ snippet)
  | _ => False

/-- The run of a plugin returns with its report. -/
def RunReported (process : PluginProcess) : Prop :=
  ∃ enough, ∀ rounds, enough ≤ rounds →
    Reported process (runHistorySourcePlugin (fun _ => false) rounds process.start)

/-- The text of a snippet can be cut at the limit, or is within it. -/
def CanBeCut (value : List Char) : Prop :=
  utf8Len (snippetText value) ≤ maxPluginStderrSnippetBytes
  ∨ isCharBoundary (snippetText value) maxPluginStderrSnippetBytes = true

/-- The first lines are a start of all of them. -/
theorem intercalate_take_isPrefix (separator : List Char) (texts : List (List Char)) (count : Nat)
    : separator.intercalate (texts.take count) <+: separator.intercalate texts := by
  induction texts generalizing count with
  | nil => simp
  | cons first rest ih =>
      cases count with
      | zero => exact List.nil_prefix
      | succ count =>
          cases rest with
          | nil => simp
          | cons second later =>
              cases count with
              | zero =>
                  simp only [List.take_succ_cons, List.take_zero]
                  rw [List.intercalate_cons_cons, List.append_assoc]
                  simp
              | succ count =>
                  have tail := ih (count + 1)
                  simp only [List.take_succ_cons] at tail ⊢
                  rw [List.intercalate_cons_cons, List.intercalate_cons_cons]
                  exact (List.prefix_append_right_inj _).mpr tail

/-- What `stderr_snippet` gives where it does not panic. -/
theorem stderrSnippet_isSnippet {value snippet : List Char} (shown : stderrSnippet value = some snippet)
    : IsSnippet value snippet := by
  have first : snippetText value <+: " | ".toList.intercalate (snippetLines value) :=
    intercalate_take_isPrefix _ _ _
  unfold stderrSnippet at shown
  split at shown
  next =>
    obtain ⟨taken, cut, rfl⟩ := Option.map_eq_some_iff.mp shown
    obtain ⟨part, size⟩ := takeBytes_eq_some cut
    exact ⟨taken, part.trans first, size.le, .inr rfl⟩
  next short =>
    obtain rfl := Option.some.inj shown
    exact ⟨snippetText value, first, Nat.le_of_not_lt short, .inl rfl⟩

theorem stderrSnippet_isSome_iff (value : List Char)
    : (stderrSnippet value).isSome = true ↔ CanBeCut value := by
  unfold stderrSnippet CanBeCut isCharBoundary
  split
  next long => simp [Nat.not_le_of_lt long]
  next short => simp [Nat.le_of_not_lt short]

/-- A process that fails with a text that cannot be cut panics. -/
theorem reportOutput_panics {process : PluginProcess} (fails : process.status.success = false)
    (stuck : ¬CanBeCut process.stderrText)
    : reportOutput process.output = .panicked := by
  have none : stderrSnippet process.stderrText = none := by
    rw [← Option.not_isSome_iff_eq_none]
    exact fun some => stuck ((stderrSnippet_isSome_iff _).mp some)
  have present : process.stderrText.isEmpty = false := by
    by_contra blank
    have empty : process.stderrText = [] := by simpa using blank
    rw [empty] at stuck
    exact stuck (.inl (Nat.zero_le _))
  have same : trim (fromUtf8Lossy process.output.stderr) = process.stderrText := rfl
  have status : process.output.status.success = false := fails
  unfold reportOutput
  simp only [same, status, present, none, Bool.false_eq_true, if_false]

/-- Every other process is reported. -/
theorem reportOutput_reported {process : PluginProcess}
    (calm : process.status.success = true ∨ CanBeCut process.stderrText)
    : Reported process (reportOutput process.output) := by
  have same : trim (fromUtf8Lossy process.output.stderr) = process.stderrText := rfl
  have status : process.output.status = process.status := rfl
  unfold reportOutput
  simp only [same, status]
  split
  next success => exact ⟨success, rfl, rfl⟩
  next fails =>
    have fails : process.status.success = false := by simpa using fails
    split
    next blank => exact ⟨fails, .inl ⟨by simpa using blank, rfl⟩⟩
    next =>
      have cut := (stderrSnippet_isSome_iff _).mpr (calm.resolve_left (by simp [fails]))
      obtain ⟨snippet, shown⟩ := Option.isSome_iff_exists.mp cut
      rw [shown]
      exact ⟨fails, .inr ⟨snippet, stderrSnippet_isSnippet shown, rfl⟩⟩

/-- A run that panics in the end is not reported. -/
theorem not_runReported {process : PluginProcess} (panics : reportOutput process.output = .panicked)
    : ¬RunReported process := by
  rintro ⟨enough, reported⟩
  obtain ⟨needed, collected⟩ := collects process
  have report := reported (max enough needed) (Nat.le_max_left _ _)
  unfold runHistorySourcePlugin at report
  rw [collected _ (Nat.le_max_right _ _)] at report
  simp only [panics] at report
  exact report

/-- The output is collected in any case. A run is reported exactly where the plugin succeeds, or the
text of its snippet is within the limit or has a character that starts at it. Witness: the rounds that
the output takes are enough.
-/
theorem runReported_iff (process : PluginProcess)
    : OutputCollected process
      ∧ (RunReported process
        ↔ process.status.success = true ∨ CanBeCut process.stderrText) := by
  refine ⟨collects process, ?_, ?_⟩
  · intro reported
    by_contra panics
    obtain ⟨fails, stuck⟩ := not_or.mp panics
    exact not_runReported (reportOutput_panics (by simpa using fails) stuck) reported
  · intro calm
    obtain ⟨enough, collected⟩ := collects process
    refine ⟨enough, fun rounds many => ?_⟩
    unfold runHistorySourcePlugin
    rw [collected rounds many]
    exact reportOutput_reported calm

-----------------------------------------------------------------------------------------
-- A letter across the limit
-----------------------------------------------------------------------------------------

/-- A text of letters of one byte with a letter of two bytes behind them. -/
def longText (letters : Nat) : List Char := List.replicate letters 'a' ++ ['é']

theorem fromUtf8Lossy_longText (letters : Nat)
    : fromUtf8Lossy (List.replicate letters 0x61 ++ [0xC3, 0xA9]) = longText letters := by
  induction letters with
  | zero => decide +kernel
  | succ letters ih =>
      have first (rest : List UInt8) : fromUtf8Lossy (0x61 :: rest) = 'a' :: fromUtf8Lossy rest := by
        rw [fromUtf8Lossy.eq_def]
        rfl
      rw [List.replicate_succ, List.cons_append, first, ih]
      rfl

theorem mem_longText {letters : Nat} {c : Char} (member : c ∈ longText letters) : c = 'a' ∨ c = 'é' := by
  rcases List.mem_append.mp member with front | back
  · exact .inl (List.eq_of_mem_replicate front)
  · exact .inr (List.mem_singleton.mp back)

theorem trim_longText (letters : Nat) : trim (longText letters) = longText letters := by
  have more : longText letters ≠ [] := by simp [longText]
  have visible {c : Char} (member : c ∈ longText letters) : isWhitespace c = false := by
    rcases mem_longText member with rfl | rfl <;> decide
  obtain ⟨first, starts⟩ := Option.isSome_iff_exists.mp (List.isSome_head?.mpr more)
  obtain ⟨last, ends⟩ := Option.isSome_iff_exists.mp (List.getLast?_isSome.mpr more)
  exact strip_eq_self starts (visible (List.mem_of_mem_head? starts)) ends
    (visible (List.mem_of_getLast? ends))

theorem utf8Len_longText (letters : Nat) : utf8Len (longText letters) = letters + 2 := by
  induction letters with
  | zero => rfl
  | succ letters ih =>
      have first : longText (letters + 1) = 'a' :: longText letters := rfl
      have one : 'a'.utf8Size = 1 := rfl
      rw [first, utf8Len_cons, ih, one]
      omega

theorem snippetText_longText (letters : Nat) : snippetText (longText letters) = longText letters := by
  have single : '\n' ∉ longText letters := by
    intro feed
    rcases mem_longText feed with same | same <;> exact absurd same (by decide)
  have more : longText letters ≠ [] := by simp [longText]
  unfold snippetText snippetLines
  rw [lines_last single more, List.map_cons, List.map_nil, trim_longText]
  simp [more]

theorem takeBytes_longText (letters : Nat) : takeBytes (letters + 1) (longText letters) = none := by
  induction letters with
  | zero => decide
  | succ letters ih =>
      have first : longText (letters + 1) = 'a' :: longText letters := rfl
      rw [first, takeBytes]
      · have fits : 'a'.utf8Size ≤ letters + 1 + 1 := by
          have one : 'a'.utf8Size = 1 := rfl
          omega
        rw [if_pos fits]
        exact congrArg _ ih
      · exact Nat.succ_ne_zero _

/-- The bytes of a letter across the limit. -/
def accentedBytes : List UInt8 := List.replicate 4095 0x61 ++ [0xC3, 0xA9]

theorem content_accentedBytes : content [.bytes accentedBytes] = accentedBytes :=
  List.append_nil accentedBytes

theorem length_accentedBytes : accentedBytes.length = 4097 := by
  unfold accentedBytes
  rw [List.length_append, List.length_replicate]
  rfl

/-- A plugin that fails with a letter across the limit. -/
def accentedFailure : PluginProcess where
  status := ⟨false, "exit status: 1".toList⟩
  waits := 0
  stdout := ⟨[], Nat.zero_le _⟩
  stderr :=
    ⟨[.bytes accentedBytes], by
      rw [content_accentedBytes, length_accentedBytes]
      decide⟩

/-- A letter across the limit makes the report panic. -/
theorem accentedFailure_not_runReported : ¬RunReported accentedFailure := by
  refine not_runReported (reportOutput_panics rfl ?_)
  have text : accentedFailure.stderrText = longText 4095 := by
    have read : accentedFailure.stderrText = trim (fromUtf8Lossy (content [.bytes accentedBytes])) := rfl
    rw [read, content_accentedBytes, accentedBytes, fromUtf8Lossy_longText, trim_longText]
  rw [text]
  unfold CanBeCut isCharBoundary maxPluginStderrSnippetBytes
  rw [snippetText_longText, utf8Len_longText, takeBytes_longText]
  rintro (short | boundary)
  · omega
  · cases boundary

end CtxRemote.Plugins
