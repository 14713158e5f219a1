import CtxRemote.Capture.Envelopes
import CtxRemote.Capture.JsonlLines
import CtxRemote.Library.Lines
import CtxRemote.Library.Loops
import CtxRemote.Store.Catalog
import Mathlib.Data.List.Infix

/-! `catalog_codex_session_paths`: the entry of each session file, or its failure. The files are shared
out to worker threads, and a file that makes its worker panic takes the other files with it.

`serde_json`'s parser, `chrono`'s, and the number of processors are left open.
-/

namespace CtxRemote.Capture.CodexCatalog
open CtxRemote.Library
open CtxRemote.Store (Json CatalogSession DateTime AgentType timestampMs)
open CtxRemote.Sync (ProviderImportFailure)
open CtxRemote.Turso (trim)

-----------------------------------------------------------------------------------------
-- Paths
-----------------------------------------------------------------------------------------

/-- `Path::file_name`: the last component, unless that is `..`. -/
def fileName (path : String) : Option (List Char) :=
  let components := (path.toList.splitOn '/').filter fun part => part ≠ [] ∧ part ≠ ['.']
  components.getLast?.filter (· ≠ ['.', '.'])

/-- `Path::file_stem`: the name before its last dot, unless it has no other character there. -/
def fileStem (path : String) : Option (List Char) :=
  (fileName path).map fun name =>
    let before := (name.reverse.dropWhile (· ≠ '.')).tail.reverse
    if before = [] then name else before

/-- `char::is_ascii_hexdigit`. -/
def isAsciiHexdigit (ch : Char) : Bool :=
  ch.isDigit || ('a' ≤ ch && ch ≤ 'f') || ('A' ≤ ch && ch ≤ 'F')

/-- `codex_session_id_from_path`; `none` where the slice of the stem panics. -/
def codexSessionIdFromPath (path : String) : Option (Option String) :=
  match fileStem path with
  | none => some none
  | some stem =>
      let whole := if trim stem = [] then none else some (String.ofList stem)
      if 36 ≤ utf8Len stem then
        (dropBytes (utf8Len stem - 36) stem).map fun tail =>
          if tail.all fun ch => isAsciiHexdigit ch || ch = '-' then some (String.ofList tail) else whole
      else some whole

-----------------------------------------------------------------------------------------
-- Headers
-----------------------------------------------------------------------------------------

/-- `fs::Metadata`. The time of the last change is in nanoseconds since the epoch, where it is known. -/
structure FileMetadata where
  len : UInt64
  modified : Option Int

/-- A file that is open: what is still to be read, and which of the reads to come fail. -/
structure OpenedFile where
  reader : BufReader
  fault : Nat → Option String

/-- What the file system answers about a path. Its errors are given by their texts. -/
structure Files where
  metadata : String → Except String FileMetadata
  opened : String → Except String OpenedFile

/-- Functions that this model leaves open: `serde_json::from_slice`, `parse_from_rfc3339`, and
`available_parallelism`.
-/
structure Externals where
  fromSlice : List UInt8 → Option Json
  parseFromRfc3339 : String → Option DateTime
  availableParallelism : Option Nat

/-- `contains_bytes`. -/
def containsBytes (haystack needle : List UInt8) : Bool := haystack.tails.any needle.isPrefixOf

/-- `br#""session_meta""#`. -/
def sessionMetaNeedle : List UInt8 := "\"session_meta\"".toList.map fun c => UInt8.ofNat c.toNat

/-- The rounds of `read_codex_session_meta`. -/
def sessionMetaFrom (fromSlice : List UInt8 → Option Json)
    : Nat → OpenedFile → Except String (Option Json)
  | 0, _ => .ok none
  | rounds + 1, file =>
      match file.fault 0 with
      | some error => .error error
      | none =>
          let (read, line, reader) := readProviderJsonlLineOrSkipOversized file.reader
          let later := sessionMetaFrom fromSlice rounds ⟨reader, fun round => file.fault (round + 1)⟩
          match read with
          | .eof => .ok none
          | .oversized _ => later
          | .line _ =>
              if !line.contains 0x7b || !containsBytes line sessionMetaNeedle then later
              else
                match fromSlice line with
                | none => later
                | some value =>
                    if (value.get "type").bind Json.asStr = some "session_meta" then .ok (some value)
                    else later

variable (files : Files) (externals : Externals)

/-- `read_codex_session_meta`. -/
def readCodexSessionMeta (path : String) : Except CaptureError (Option Json) :=
  match files.opened path with
  | .error error => .error (.io error)
  | .ok file => (sessionMetaFrom externals.fromSlice 32 file).mapError .io

/-- `Value::pointer`, with keys that are no index of an array. -/
def pointer (value : Json) (keys : List String) : Option Json := keys.foldlM Json.get value

/-- A text of a field, unless it is blank. -/
def nonBlank (value : Option Json) : Option String :=
  (value.bind Json.asStr).filter fun text => trim text.toList ≠ []

/-- `codex_parent_session_id`. -/
def codexParentSessionId (source : Json) : Option String :=
  nonBlank <| ((pointer source ["subagent", "thread_spawn", "parent_thread_id"]).or
    (pointer source ["thread_spawn", "parent_thread_id"])).or (source.get "parent_thread_id")

/-- `codex_source_kind`. -/
def codexSourceKind (source : Json) : Option String :=
  match nonBlank (some source) with
  | some value => some value
  | none =>
      if (pointer source ["subagent", "thread_spawn"]).isSome then some "subagent"
      else if (pointer source ["thread_spawn"]).isSome then some "thread_spawn"
      else source.asObject.bind fun fields => fields.head?.map (·.1)

/-- `system_time_ms`, and zero where the time is not known. -/
def systemTimeMs (modified : Option Int) : Int :=
  match modified with
  | none => 0
  | some nanos => if nanos < 0 then 0 else min (nanos / 1000000) 9223372036854775807

/-- `AgentType::as_str`. -/
def agentTypeText : AgentType → String
  | .primary => "primary"
  | .subagent => "subagent"
  | .agentTeamMember => "agent_team_member"
  | .reviewer => "reviewer"
  | .implementer => "implementer"
  | .unknown => "unknown"

-----------------------------------------------------------------------------------------
-- Entries
-----------------------------------------------------------------------------------------

/-- The payload of a header. -/
def payloadOf (sessionMeta : Option Json) : Option Json := sessionMeta.bind (·.get "payload")

/-- The entry of a file with a header and an id. -/
def sessionOf (path sourceRoot : String) (metadata : FileMetadata) (catalogedAtMs : Int)
    (sessionMeta : Option Json) (externalSessionId : Option String)
    : CatalogSession :=
  let payload := payloadOf sessionMeta
  let field (key : String) := payload.bind (·.get key)
  let source := (field "source").getD .null
  let parentExternalSessionId := codexParentSessionId source
  let timestamp := ((field "timestamp").bind Json.asStr).or
    ((sessionMeta.bind (·.get "timestamp")).bind Json.asStr)
  let agentType := if parentExternalSessionId.isSome then .subagent else .primary
  {
    provider := .codex
    sourceFormat := "codex_session_jsonl"
    sourceRoot
    sourcePath := path
    externalSessionId
    parentExternalSessionId
    agentType
    roleHint := (nonBlank (field "agent_role")).or (some (agentTypeText agentType))
    externalAgentId := nonBlank (field "agent_nickname")
    cwd := nonBlank (field "cwd")
    sessionStartedAtMs := (timestamp.bind externals.parseFromRfc3339).map timestampMs
    fileSizeBytes := metadata.len
    fileModifiedAtMs := systemTimeMs metadata.modified
    catalogedAtMs
    metadata := .object [
      ("catalog_scope", .string "session_meta"),
      ("cli_version", optionalText ((field "cli_version").bind Json.asStr)),
      ("model_provider", optionalText ((field "model_provider").bind Json.asStr)),
      ("originator", optionalText ((field "originator").bind Json.asStr)),
      ("source", source),
      ("source_kind", optionalText (codexSourceKind source))
    ]
  }

/-- The id that a header names. -/
def headerId (sessionMeta : Option Json) : Option String :=
  nonBlank ((payloadOf sessionMeta).bind (·.get "id"))

/-- `catalog_codex_session_file`; `none` where it panics. -/
def catalogCodexSessionFile (path sourceRoot : String) (metadata : FileMetadata) (catalogedAtMs : Int)
    : Option (Except CaptureError CatalogSession) :=
  match readCodexSessionMeta files externals path with
  | .error error => some (.error error)
  | .ok sessionMeta =>
      let externalSessionId :=
        match headerId sessionMeta with
        | some id => some (some id)
        | none => codexSessionIdFromPath path
      externalSessionId.map fun id =>
        .ok (sessionOf externals path sourceRoot metadata catalogedAtMs sessionMeta id)

-----------------------------------------------------------------------------------------
-- Batches
-----------------------------------------------------------------------------------------

/-- `CatalogSummary`. -/
structure CatalogSummary where
  sourceFiles : Nat := 0
  sourceBytes : Nat := 0
  catalogedSessions : Nat := 0
  cachedSessions : Nat := 0
  parsedSessions : Nat := 0
  skippedSessions : Nat := 0
  failedSessions : Nat := 0
  failures : List ProviderImportFailure := []

/-- `CatalogWorkerBatch`. -/
structure CatalogWorkerBatch where
  summary : CatalogSummary := {}
  sessions : List CatalogSession := []
  failures : List String := []

/-- A batch with the failure of one more file. -/
def CatalogWorkerBatch.failed (batch : CatalogWorkerBatch) (path error : String) : CatalogWorkerBatch :=
  { batch with
    summary := { batch.summary with failedSessions := batch.summary.failedSessions + 1 }
    failures := batch.failures ++ [path ++ ": " ++ error] }

/-- A batch with the entry of one more file. -/
def CatalogWorkerBatch.parsed (batch : CatalogWorkerBatch) (session : CatalogSession)
    : CatalogWorkerBatch :=
  { batch with
    summary := { batch.summary with parsedSessions := batch.summary.parsedSessions + 1 }
    sessions := batch.sessions ++ [session] }

/-- A batch with one more file that is there. -/
def CatalogWorkerBatch.counted (batch : CatalogWorkerBatch) (metadata : FileMetadata)
    : CatalogWorkerBatch :=
  { batch with
    summary := { batch.summary with
      sourceFiles := batch.summary.sourceFiles + 1
      sourceBytes := saturatingAdd batch.summary.sourceBytes metadata.len.toNat } }

/-- One round of `catalog_codex_session_chunk`; `none` where it panics. -/
def catalogNext (sourceRoot : String) (catalogedAtMs : Int) (batch : CatalogWorkerBatch) (path : String)
    : Option CatalogWorkerBatch :=
  match files.metadata path with
  | .error error => some (batch.failed path error)
  | .ok metadata =>
      match catalogCodexSessionFile files externals path sourceRoot metadata catalogedAtMs with
      | none => none
      | some (.ok session) => some ((batch.counted metadata).parsed session)
      | some (.error error) => some ((batch.counted metadata).failed path error.text)

/-- `catalog_codex_session_chunk`; `none` where it panics. -/
def catalogCodexSessionChunk (paths : List String) (sourceRoot : String) (catalogedAtMs : Int)
    : Option CatalogWorkerBatch :=
  paths.foldlM (catalogNext files externals sourceRoot catalogedAtMs) {}

/-- `catalog_parallelism`. -/
def catalogParallelism (pathCount : Nat) (requestedParallelism : Option Nat) : Nat :=
  if pathCount ≤ 1 then 1
  else
    min (max 1 (min ((requestedParallelism.or externals.availableParallelism).getD 1) 32)) pathCount

/-- The joins of `thread::scope`, one after another. The first worker that panicked ends them with an
error, and another one that panicked and is not joined makes the scope panic, which is `none`.
-/
def joinWorkers : List (Option CatalogWorkerBatch) → Option (Except CaptureError (List CatalogWorkerBatch))
  | [] => some (.ok [])
  | none :: rest =>
      if rest.all Option.isSome then some (.error (.workerPanicked "Codex catalog")) else none
  | some batch :: rest => (joinWorkers rest).map (·.map (batch :: ·))

/-- One round of the loop over the batches. -/
def mergeBatch (total : CatalogSummary × List CatalogSession) (batch : CatalogWorkerBatch)
    : CatalogSummary × List CatalogSession :=
  ({ total.1 with
      sourceFiles := total.1.sourceFiles + batch.summary.sourceFiles
      sourceBytes := saturatingAdd total.1.sourceBytes batch.summary.sourceBytes
      parsedSessions := total.1.parsedSessions + batch.summary.parsedSessions
      failedSessions := total.1.failedSessions + batch.summary.failedSessions
      failures := total.1.failures ++ batch.failures.map (⟨0, ·⟩) },
    total.2 ++ batch.sessions)

/-- `catalog_codex_session_paths`; `none` where it panics. -/
def catalogCodexSessionPaths (paths : List String) (sourceRoot : String) (catalogedAtMs : Int)
    (requestedParallelism : Option Nat)
    : Option (Except CaptureError (CatalogSummary × List CatalogSession)) :=
  let parallelism := catalogParallelism externals paths.length requestedParallelism
  let batches :=
    if parallelism ≤ 1 then
      (catalogCodexSessionChunk files externals paths sourceRoot catalogedAtMs).map fun batch =>
        .ok [batch]
    else
      let chunkSize := max ((paths.length + parallelism - 1) / parallelism) 1
      joinWorkers ((chunks chunkSize paths).map fun chunk =>
        catalogCodexSessionChunk files externals chunk sourceRoot catalogedAtMs)
  batches.map (·.map (·.foldl mergeBatch ({}, [])))

-----------------------------------------------------------------------------------------
-- What is recorded of a path
-----------------------------------------------------------------------------------------

/-- The slice of a path's stem is taken, since its header names no id, and it starts within a character.
-/
def SplitsCharacter (path : String) : Prop :=
  ∃ metadata sessionMeta stem, files.metadata path = .ok metadata
    ∧ readCodexSessionMeta files externals path = .ok sessionMeta
    ∧ headerId sessionMeta = none
    ∧ fileStem path = some stem
    ∧ 36 ≤ utf8Len stem
    ∧ isCharBoundary stem (utf8Len stem - 36) = false

/-- What is recorded of a path: an entry or a failure of it. -/
def Belongs (path : String) : CatalogSession ⊕ ProviderImportFailure → Prop
  | .inl session => session.sourcePath = path
  | .inr failure => failure.line = 0 ∧ ∃ error, failure.error = path ++ ": " ++ error

/-- A catalog of some paths records an outcome for each of them, and counts what it records. -/
structure Recorded (paths : List String) (summary : CatalogSummary) (sessions : List CatalogSession)
    (outcomes : List (CatalogSession ⊕ ProviderImportFailure)) : Prop where
  each : List.Forall₂ Belongs paths outcomes
  entries : sessions = outcomes.filterMap Sum.getLeft?
  failures : summary.failures = outcomes.filterMap Sum.getRight?
  parsedSessions : summary.parsedSessions = sessions.length
  failedSessions : summary.failedSessions = summary.failures.length

/-- A catalog returns, and records for each path what it records of that path alone. -/
def CatalogsEach (paths : List String) (sourceRoot : String) (catalogedAtMs : Int)
    (requestedParallelism : Option Nat) : Prop :=
  let catalog (paths : List String) :=
    catalogCodexSessionPaths files externals paths sourceRoot catalogedAtMs requestedParallelism
  ∃ summary sessions outcomes, catalog paths = some (.ok (summary, sessions))
    ∧ Recorded paths summary sessions outcomes
    ∧ List.Forall₂ (fun path outcome => ∃ alone single, catalog [path] = some (.ok (alone, single))
        ∧ Recorded [path] alone single [outcome]) paths outcomes

theorem codexSessionIdFromPath_eq_none {path : String}
    : codexSessionIdFromPath path = none
      ↔ ∃ stem, fileStem path = some stem ∧ 36 ≤ utf8Len stem
        ∧ isCharBoundary stem (utf8Len stem - 36) = false := by
  unfold codexSessionIdFromPath
  cases fileStem path with
  | none => simp
  | some stem =>
      by_cases long : 36 ≤ utf8Len stem
      · simp [long, ← isSome_dropBytes]
      · simp [long]

variable (sourceRoot : String) (catalogedAtMs : Int)

/-- The outcome of a path, which is `none` where the worker panics. -/
def outcomeOf (path : String) : Option (CatalogSession ⊕ ProviderImportFailure) :=
  match files.metadata path with
  | .error error => some (.inr ⟨0, path ++ ": " ++ error⟩)
  | .ok metadata =>
      match catalogCodexSessionFile files externals path sourceRoot metadata catalogedAtMs with
      | none => none
      | some (.ok session) => some (.inl session)
      | some (.error error) => some (.inr ⟨0, path ++ ": " ++ error.text⟩)

variable {files externals sourceRoot catalogedAtMs}

theorem catalogCodexSessionFile_eq_none {path : String} {metadata : FileMetadata}
    : catalogCodexSessionFile files externals path sourceRoot metadata catalogedAtMs = none
      ↔ ∃ sessionMeta, readCodexSessionMeta files externals path = .ok sessionMeta
        ∧ headerId sessionMeta = none ∧ codexSessionIdFromPath path = none := by
  unfold catalogCodexSessionFile
  cases readCodexSessionMeta files externals path with
  | error error => simp
  | ok sessionMeta => cases named : headerId sessionMeta <;> simp [named]

/-- A worker panics over a path where the slice of its stem starts within a character. -/
theorem outcomeOf_eq_none {path : String}
    : outcomeOf files externals sourceRoot catalogedAtMs path = none
      ↔ SplitsCharacter files externals path := by
  have panics := @catalogCodexSessionFile_eq_none files externals sourceRoot catalogedAtMs path
  unfold outcomeOf SplitsCharacter
  cases files.metadata path with
  | error error => simp
  | ok metadata =>
      rw [codexSessionIdFromPath_eq_none] at panics
      have same := @panics metadata
      dsimp only
      split
      next none =>
          obtain ⟨sessionMeta, read, unnamed, stem, split⟩ := same.mp none
          exact iff_of_true rfl ⟨metadata, sessionMeta, stem, rfl, read, unnamed, split⟩
      all_goals
        next returned =>
          refine iff_of_false nofun ?_
          intro ⟨_, sessionMeta, stem, _, read, unnamed, split⟩
          have panicked := same.mpr ⟨sessionMeta, read, unnamed, stem, split⟩
          rw [returned] at panicked
          cases panicked

theorem belongs_of_outcomeOf {path : String} {outcome : CatalogSession ⊕ ProviderImportFailure}
    (recorded : outcomeOf files externals sourceRoot catalogedAtMs path = some outcome)
    : Belongs path outcome := by
  unfold outcomeOf at recorded
  split at recorded
  next => cases recorded; exact ⟨rfl, _, rfl⟩
  next metadata found =>
      split at recorded
      next => cases recorded
      next session returned =>
          cases recorded
          unfold catalogCodexSessionFile at returned
          split at returned
          next => cases returned
          next sessionMeta read =>
              obtain ⟨id, _, same⟩ := Option.map_eq_some_iff.mp returned
              cases same
              rfl
      next => cases recorded; exact ⟨rfl, _, rfl⟩

-----------------------------------------------------------------------------------------
-- What is recorded of many
-----------------------------------------------------------------------------------------

/-- A batch holds the outcomes of its paths. -/
structure CatalogWorkerBatch.Holds (batch : CatalogWorkerBatch)
    (outcomes : List (CatalogSession ⊕ ProviderImportFailure)) : Prop where
  entries : batch.sessions = outcomes.filterMap Sum.getLeft?
  failures : batch.failures.map (ProviderImportFailure.mk 0) = outcomes.filterMap Sum.getRight?
  parsedSessions : batch.summary.parsedSessions = batch.sessions.length
  failedSessions : batch.summary.failedSessions = batch.failures.length

namespace CatalogWorkerBatch.Holds

variable {batch : CatalogWorkerBatch} {outcomes : List (CatalogSession ⊕ ProviderImportFailure)}

theorem counted (holds : batch.Holds outcomes) (metadata : FileMetadata)
    : (batch.counted metadata).Holds outcomes :=
  ⟨holds.entries, holds.failures, holds.parsedSessions, holds.failedSessions⟩

theorem parsed (holds : batch.Holds outcomes) (session : CatalogSession)
    : (batch.parsed session).Holds (outcomes ++ [.inl session]) where
  entries := by simp [CatalogWorkerBatch.parsed, holds.entries]
  failures := by simp [CatalogWorkerBatch.parsed, holds.failures]
  parsedSessions := by simp [CatalogWorkerBatch.parsed, holds.parsedSessions]
  failedSessions := holds.failedSessions

theorem failed (holds : batch.Holds outcomes) (path error : String)
    : (batch.failed path error).Holds (outcomes ++ [.inr ⟨0, path ++ ": " ++ error⟩]) where
  entries := by simp [CatalogWorkerBatch.failed, holds.entries]
  failures := by simp [CatalogWorkerBatch.failed, holds.failures]
  parsedSessions := holds.parsedSessions
  failedSessions := by simp [CatalogWorkerBatch.failed, holds.failedSessions]

end CatalogWorkerBatch.Holds

/-- One round records the outcome of its path. -/
theorem holds_catalogNext {batch next : CatalogWorkerBatch} {path : String}
    {before : List (CatalogSession ⊕ ProviderImportFailure)} (holds : batch.Holds before)
    (went : catalogNext files externals sourceRoot catalogedAtMs batch path = some next)
    : ∃ outcome, outcomeOf files externals sourceRoot catalogedAtMs path = some outcome
      ∧ next.Holds (before ++ [outcome]) := by
  unfold catalogNext at went
  unfold outcomeOf
  split at went
  next error found =>
      cases went
      exact ⟨_, rfl, holds.failed path error⟩
  next metadata found =>
      split at went
      next => cases went
      next session returned =>
          cases went
          exact ⟨_, rfl, (holds.counted metadata).parsed session⟩
      next error returned =>
          cases went
          exact ⟨_, rfl, (holds.counted metadata).failed path error.text⟩

theorem exists_catalogNext {path : String}
    (returns : outcomeOf files externals sourceRoot catalogedAtMs path ≠ none) (batch : CatalogWorkerBatch)
    : ∃ next, catalogNext files externals sourceRoot catalogedAtMs batch path = some next := by
  unfold outcomeOf at returns
  unfold catalogNext
  cases found : files.metadata path with
  | error error => exact ⟨_, rfl⟩
  | ok metadata =>
      rw [found] at returns
      dsimp only at returns ⊢
      cases went : catalogCodexSessionFile files externals path sourceRoot metadata catalogedAtMs with
      | none =>
          rw [went] at returns
          exact absurd rfl returns
      | some result => cases result <;> exact ⟨_, rfl⟩

/-- The rounds record the outcomes of their paths, by induction on the paths. -/
theorem holds_rounds {paths : List String} {batch last : CatalogWorkerBatch}
    {before : List (CatalogSession ⊕ ProviderImportFailure)} (holds : batch.Holds before)
    (went : paths.foldlM (catalogNext files externals sourceRoot catalogedAtMs) batch = some last)
    : ∃ outcomes,
      paths.map (outcomeOf files externals sourceRoot catalogedAtMs) = outcomes.map some
        ∧ last.Holds (before ++ outcomes) := by
  induction paths generalizing batch before with
  | nil =>
      cases went
      exact ⟨[], rfl, by rwa [List.append_nil]⟩
  | cons path rest ih =>
      obtain ⟨next, here, later⟩ := Option.bind_eq_some_iff.mp went
      obtain ⟨outcome, recorded, holds⟩ := holds_catalogNext holds here
      obtain ⟨outcomes, others, holds⟩ := ih holds later
      refine ⟨outcome :: outcomes, by rw [List.map_cons, List.map_cons, recorded, others], ?_⟩
      rwa [List.append_assoc] at holds

theorem exists_rounds {paths : List String}
    (returns : ∀ path ∈ paths, outcomeOf files externals sourceRoot catalogedAtMs path ≠ none)
    (batch : CatalogWorkerBatch)
    : ∃ last, paths.foldlM (catalogNext files externals sourceRoot catalogedAtMs) batch = some last := by
  induction paths generalizing batch with
  | nil => exact ⟨batch, rfl⟩
  | cons path rest ih =>
      obtain ⟨here, others⟩ := List.forall_mem_cons.mp returns
      obtain ⟨next, went⟩ := exists_catalogNext here batch
      obtain ⟨last, later⟩ := ih others next
      exact ⟨last, Option.bind_eq_some_iff.mpr ⟨next, went, later⟩⟩

-----------------------------------------------------------------------------------------
-- Workers
-----------------------------------------------------------------------------------------

theorem CatalogWorkerBatch.holds_empty : ({} : CatalogWorkerBatch).Holds [] := ⟨rfl, rfl, rfl, rfl⟩

/-- The workers that are all joined record the outcomes of their paths, by induction on the workers. -/
theorem holds_joinWorkers {parts : List (List String)} {batches : List CatalogWorkerBatch}
    (joined : joinWorkers (parts.map fun part =>
        catalogCodexSessionChunk files externals part sourceRoot catalogedAtMs)
      = some (.ok batches))
    : ∃ lists : List (List (CatalogSession ⊕ ProviderImportFailure)),
      parts.flatten.map (outcomeOf files externals sourceRoot catalogedAtMs) = lists.flatten.map some
        ∧ List.Forall₂ CatalogWorkerBatch.Holds batches lists := by
  induction parts generalizing batches with
  | nil =>
      cases joined
      exact ⟨[], rfl, .nil⟩
  | cons part parts ih =>
      rw [List.map_cons] at joined
      cases went : catalogCodexSessionChunk files externals part sourceRoot catalogedAtMs with
      | none =>
          rw [went, joinWorkers] at joined
          split at joined <;> cases joined
      | some batch =>
          rw [went, joinWorkers] at joined
          obtain ⟨error | later, rest, same⟩ := Option.map_eq_some_iff.mp joined
          · cases same
          · cases same
            obtain ⟨outcomes, recorded, holds⟩ := holds_rounds CatalogWorkerBatch.holds_empty went
            obtain ⟨lists, others, each⟩ := ih rest
            refine ⟨outcomes :: lists, ?_, .cons holds each⟩
            rw [List.flatten_cons, List.flatten_cons, List.map_append, List.map_append, recorded, others]

theorem exists_joinWorkers {parts : List (List String)}
    (returns : ∀ path ∈ parts.flatten, outcomeOf files externals sourceRoot catalogedAtMs path ≠ none)
    : ∃ batches, joinWorkers (parts.map fun part =>
        catalogCodexSessionChunk files externals part sourceRoot catalogedAtMs)
      = some (.ok batches) := by
  induction parts with
  | nil => exact ⟨[], rfl⟩
  | cons part parts ih =>
      rw [List.flatten_cons] at returns
      obtain ⟨here, others⟩ := List.forall_mem_append.mp returns
      obtain ⟨batch, went⟩ := exists_rounds here {}
      obtain ⟨batches, joined⟩ := ih others
      refine ⟨batch :: batches, ?_⟩
      rw [List.map_cons, catalogCodexSessionChunk, went, joinWorkers, joined]
      rfl

/-- A summary and its entries hold outcomes. -/
structure Holds (total : CatalogSummary × List CatalogSession)
    (outcomes : List (CatalogSession ⊕ ProviderImportFailure)) : Prop where
  entries : total.2 = outcomes.filterMap Sum.getLeft?
  failures : total.1.failures = outcomes.filterMap Sum.getRight?
  parsedSessions : total.1.parsedSessions = total.2.length
  failedSessions : total.1.failedSessions = total.1.failures.length

theorem Holds.mergeBatch {total : CatalogSummary × List CatalogSession} {batch : CatalogWorkerBatch}
    {before outcomes : List (CatalogSession ⊕ ProviderImportFailure)} (holds : Holds total before)
    (more : batch.Holds outcomes)
    : Holds (mergeBatch total batch) (before ++ outcomes) where
  entries := by simp [CodexCatalog.mergeBatch, holds.entries, more.entries]
  failures := by
    simp only [CodexCatalog.mergeBatch, List.filterMap_append, holds.failures, ← more.failures]
  parsedSessions := by simp [CodexCatalog.mergeBatch, holds.parsedSessions, more.parsedSessions]
  failedSessions := by simp [CodexCatalog.mergeBatch, holds.failedSessions, more.failedSessions]

/-- The merged batches hold the outcomes of all of them, by induction on the batches. -/
theorem Holds.foldl {batches : List CatalogWorkerBatch}
    {lists : List (List (CatalogSession ⊕ ProviderImportFailure))}
    (each : List.Forall₂ CatalogWorkerBatch.Holds batches lists)
    {total : CatalogSummary × List CatalogSession}
    {before : List (CatalogSession ⊕ ProviderImportFailure)} (holds : Holds total before)
    : Holds (batches.foldl CodexCatalog.mergeBatch total) (before ++ lists.flatten) := by
  induction each generalizing total before with
  | nil => rwa [List.flatten_nil, List.append_nil]
  | cons here _ ih =>
      have later := ih (holds.mergeBatch here)
      rwa [List.append_assoc] at later

variable {requestedParallelism : Option Nat}

/-- A catalog that returns holds the outcomes of its paths. -/
theorem holds_catalogCodexSessionPaths {paths : List String}
    {total : CatalogSummary × List CatalogSession}
    (returned : catalogCodexSessionPaths files externals paths sourceRoot catalogedAtMs requestedParallelism
      = some (.ok total))
    : ∃ outcomes, paths.map (outcomeOf files externals sourceRoot catalogedAtMs) = outcomes.map some
      ∧ Holds total outcomes := by
  have start : Holds ({}, []) [] := ⟨rfl, rfl, rfl, rfl⟩
  unfold catalogCodexSessionPaths at returned
  obtain ⟨error | batches, joined, same⟩ := Option.map_eq_some_iff.mp returned
  · cases same
  · cases same
    split at joined
    next =>
        obtain ⟨batch, went, same⟩ := Option.map_eq_some_iff.mp joined
        cases same
        obtain ⟨outcomes, recorded, holds⟩ := holds_rounds CatalogWorkerBatch.holds_empty went
        exact ⟨outcomes, recorded, start.mergeBatch holds⟩
    next =>
        obtain ⟨lists, recorded, each⟩ := holds_joinWorkers joined
        rw [chunks_flatten] at recorded
        exact ⟨lists.flatten, recorded, start.foldl each⟩

variable (requestedParallelism) in
theorem exists_catalogCodexSessionPaths {paths : List String}
    (returns : ∀ path ∈ paths, outcomeOf files externals sourceRoot catalogedAtMs path ≠ none)
    : ∃ total, catalogCodexSessionPaths files externals paths sourceRoot catalogedAtMs
      requestedParallelism = some (.ok total) := by
  unfold catalogCodexSessionPaths
  dsimp only
  split
  next =>
      obtain ⟨batch, went⟩ := exists_rounds returns {}
      rw [catalogCodexSessionChunk, went]
      exact ⟨_, rfl⟩
  next =>
      rw [← chunks_flatten (max ((paths.length
        + catalogParallelism externals paths.length requestedParallelism - 1)
        / catalogParallelism externals paths.length requestedParallelism) 1) paths] at returns
      obtain ⟨batches, joined⟩ := exists_joinWorkers returns
      rw [joined]
      exact ⟨_, rfl⟩

-----------------------------------------------------------------------------------------
-- Which catalogs return
-----------------------------------------------------------------------------------------

theorem forall₂_outcomes {paths : List String}
    {outcomes : List (CatalogSession ⊕ ProviderImportFailure)}
    (each : paths.map (outcomeOf files externals sourceRoot catalogedAtMs) = outcomes.map some)
    : List.Forall₂ (fun path outcome =>
        outcomeOf files externals sourceRoot catalogedAtMs path = some outcome) paths outcomes := by
  have same : List.Forall₂ (· = ·) (paths.map (outcomeOf files externals sourceRoot catalogedAtMs))
      (outcomes.map some) := by
    rw [each, List.forall₂_eq_eq_eq]
  exact List.forall₂_map_right_iff.mp (List.forall₂_map_left_iff.mp same)

theorem Holds.recorded {paths : List String} {total : CatalogSummary × List CatalogSession}
    {outcomes : List (CatalogSession ⊕ ProviderImportFailure)} (holds : Holds total outcomes)
    (each : List.Forall₂ (fun path outcome =>
      outcomeOf files externals sourceRoot catalogedAtMs path = some outcome) paths outcomes)
    : Recorded paths total.1 total.2 outcomes where
  each := each.imp fun _ _ => belongs_of_outcomeOf
  entries := holds.entries
  failures := holds.failures
  parsedSessions := holds.parsedSessions
  failedSessions := holds.failedSessions

/-- A path alone gets its outcome. -/
theorem recorded_alone {path : String} {outcome : CatalogSession ⊕ ProviderImportFailure}
    (recorded : outcomeOf files externals sourceRoot catalogedAtMs path = some outcome)
    : ∃ alone single, catalogCodexSessionPaths files externals [path] sourceRoot catalogedAtMs
        requestedParallelism = some (.ok (alone, single))
      ∧ Recorded [path] alone single [outcome] := by
  have returns : ∀ other ∈ [path], outcomeOf files externals sourceRoot catalogedAtMs other ≠ none := by
    simp [recorded]
  obtain ⟨⟨alone, single⟩, returned⟩ := exists_catalogCodexSessionPaths requestedParallelism returns
  obtain ⟨outcomes, each, holds⟩ := holds_catalogCodexSessionPaths returned
  have same : [outcome] = outcomes := by
    apply List.map_injective_iff.mpr (Option.some_injective _)
    rw [← each, List.map_singleton, List.map_singleton, recorded]
  subst same
  exact ⟨alone, single, returned, holds.recorded (.cons recorded .nil)⟩

/-- A catalog that returns meets no file whose name is cut within a character. -/
theorem not_splitsCharacter {paths : List String} {total : CatalogSummary × List CatalogSession}
    (returned : catalogCodexSessionPaths files externals paths sourceRoot catalogedAtMs requestedParallelism
      = some (.ok total)) {path : String} (member : path ∈ paths)
    : ¬SplitsCharacter files externals path := by
  obtain ⟨outcomes, each, _⟩ := holds_catalogCodexSessionPaths returned
  intro split
  have inside : none ∈ outcomes.map some := by
    rw [← each, ← outcomeOf_eq_none.mpr split]
    exact List.mem_map_of_mem member
  obtain ⟨_, _, same⟩ := List.mem_map.mp inside
  cases same

variable (files externals sourceRoot catalogedAtMs requestedParallelism) in
/-- The catalog of some paths returns with an entry or a failure for each of them, the one that the path
alone gets, exactly when no file without an id in its header has a stem of at least 36 bytes whose last
36 start within a character.
-/
theorem catalogsEach_iff (paths : List String)
    : CatalogsEach files externals paths sourceRoot catalogedAtMs requestedParallelism
      ↔ ∀ path ∈ paths, ¬SplitsCharacter files externals path := by
  constructor
  · intro ⟨summary, sessions, outcomes, returned, _⟩ path member
    exact not_splitsCharacter returned member
  · intro whole
    have returns : ∀ path ∈ paths, outcomeOf files externals sourceRoot catalogedAtMs path ≠ none :=
      fun path member panics => whole path member (outcomeOf_eq_none.mp panics)
    obtain ⟨⟨summary, sessions⟩, returned⟩ := exists_catalogCodexSessionPaths requestedParallelism returns
    obtain ⟨outcomes, same, holds⟩ := holds_catalogCodexSessionPaths returned
    have each := forall₂_outcomes same
    exact ⟨summary, sessions, outcomes, returned, holds.recorded each,
      each.imp fun _ _ => recorded_alone⟩

/-- An empty file has no header. -/
theorem readCodexSessionMeta_empty {path : String} {shown : Nat → Nat} {fault : Nat → Option String}
    (opened : files.opened path = .ok ⟨⟨[], shown⟩, fault⟩) (readable : fault 0 = none)
    : readCodexSessionMeta files externals path = .ok none := by
  have ended : (readProviderJsonlLineOrSkipOversized ⟨[], shown⟩).1 = .eof := readLine_eof.mpr rfl
  simp [readCodexSessionMeta, opened, sessionMetaFrom, readable, ended, Except.mapError]

/-- An empty file whose stem is an `é` of two bytes and 35 more is not cataloged. -/
theorem catalog_panics_accented
    : ¬CatalogsEach
        ⟨fun _ => .ok ⟨0, some 0⟩, fun _ => .ok ⟨⟨[], fun _ => 8192⟩, fun _ => none⟩⟩
        ⟨fun _ => none, fun _ => none, some 4⟩
        ["/sessions/é-2026-06-26-export-of-my-last-visit.jsonl"] "/sessions" 0 none := by
  intro ⟨summary, sessions, outcomes, returned, _⟩
  apply not_splitsCharacter returned (.head _)
  exact ⟨⟨0, some 0⟩, none, "é-2026-06-26-export-of-my-last-visit".toList, rfl,
    readCodexSessionMeta_empty rfl rfl, rfl, by decide, by decide, by decide⟩

end CtxRemote.Capture.CodexCatalog
