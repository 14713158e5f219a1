import CtxRemote.Semantic.Indexing
import CtxRemote.Store.Events

/-! The chunks of a text cover it from its start to its end, each over a range of characters. A stored
range is read again from the same rows, and gives the chunk that was embedded.
-/

namespace CtxRemote.Semantic
open CtxRemote.Library
open CtxRemote.Store (RedactionState StoreError localPreview)
open CtxRemote.Turso (isWhitespace trim)

-----------------------------------------------------------------------------------------
-- Where a chunk ends
-----------------------------------------------------------------------------------------

theorem whitespaceCut_le (chars : List Char) {boundaryFloor target : Nat}
    (room : boundaryFloor ≤ target)
    : whitespaceCut chars boundaryFloor target ≤ target := by
  unfold whitespaceCut
  dsimp only
  split
  next index found =>
      have member := List.mem_reverse.mp (List.mem_of_find?_eq_some found)
      have within := List.mem_range'_1.mp member
      omega
  next => exact Nat.le_refl _

/-- A chunk is not empty, is within the text, and has at most the target length. -/
theorem chunkEnd_bounds {chars : List Char} {start : Nat} (inside : start < chars.length)
    : start < chunkEnd chars start
      ∧ chunkEnd chars start ≤ min (start + semanticChunkTargetChars) chars.length := by
  have size : semanticChunkTargetChars = 1200 := rfl
  unfold chunkEnd
  dsimp only
  by_cases short : min (start + semanticChunkTargetChars) chars.length < chars.length
  · rw [if_pos short]
    have lower := lt_whitespaceCut chars
      (show max (min (start + semanticChunkTargetChars) chars.length - 150) (start + 1)
        < min (start + semanticChunkTargetChars) chars.length by omega)
    have upper := whitespaceCut_le chars
      (show max (min (start + semanticChunkTargetChars) chars.length - 150) (start + 1)
        ≤ min (start + semanticChunkTargetChars) chars.length by omega)
    rw [if_neg (by omega)]
    omega
  · rw [if_neg short]
    split <;> omega

-----------------------------------------------------------------------------------------
-- What the chunks cover
-----------------------------------------------------------------------------------------

/-- The characters of a range. -/
def charRange (chars : List Char) (start stop : Nat) : List Char :=
  (chars.drop start).take (stop - start)

/-- The chunks of a text from a start on: they go up to its end, each is the characters of its range, and
the next one starts behind it, and at its end or before.
-/
structure Covers (chars : List Char) (start : Nat) (chunks : List (Nat × Nat × List Char)) : Prop where
  first : chunks.head?.map (·.1) = some start
  last : chunks.getLast?.map (·.2.1) = some chars.length
  text : ∀ chunk ∈ chunks, chunk.2.2 = charRange chars chunk.1 chunk.2.1
  range : ∀ chunk ∈ chunks, chunk.1 < chunk.2.1 ∧ chunk.2.1 ≤ chars.length
  length : ∀ chunk ∈ chunks, chunk.2.2.length ≤ semanticChunkTargetChars
  adjacent : chunks.IsChain fun left right => left.1 < right.1 ∧ right.1 ≤ left.2.1

/-- The last chunk. -/
theorem Covers.single {chars : List Char} {start : Nat} (inside : start < chars.length)
    (short : chars.length ≤ start + semanticChunkTargetChars)
    : Covers chars start [(start, chars.length, charRange chars start chars.length)] where
  first := rfl
  last := rfl
  text := by simp
  range := by simpa using inside
  length := by
    simp only [List.mem_singleton, forall_eq, charRange, List.length_take]
    omega
  adjacent := .singleton _

/-- A chunk before the chunks that start within it. -/
theorem Covers.cons {chars : List Char} {start stop next : Nat} {chunks : List (Nat × Nat × List Char)}
    (inside : start < stop) (short : stop ≤ min (start + semanticChunkTargetChars) chars.length)
    (behind : start < next) (within : next ≤ stop) (rest : Covers chars next chunks)
    : Covers chars start ((start, stop, charRange chars start stop) :: chunks) where
  first := rfl
  last := by
    cases chunks with
    | nil => cases rest.first
    | cons chunk chunks =>
        rw [List.getLast?_cons_cons]
        exact rest.last
  text := List.forall_mem_cons.mpr ⟨rfl, rest.text⟩
  range := List.forall_mem_cons.mpr ⟨⟨inside, short.trans (Nat.min_le_right _ _)⟩, rest.range⟩
  length := by
    refine List.forall_mem_cons.mpr ⟨?_, rest.length⟩
    simp only [charRange, List.length_take]
    omega
  adjacent := by
    cases chunks with
    | nil => exact .singleton _
    | cons chunk chunks =>
        have starts : chunk.1 = next := Option.some.inj rest.first
        refine .cons_cons ⟨?_, ?_⟩ rest.adjacent
        · omega
        · dsimp only
          omega

/-- The chunks of a text from a start on, by induction on the chunks. -/
theorem covers_textChunksFrom {chars : List Char} {start : Nat} (inside : start < chars.length)
    : Covers chars start (textChunksFrom chars start) := by
  fun_induction textChunksFrom chars start with
  | case1 start _ chunk last =>
      obtain ⟨more, short⟩ := chunkEnd_bounds inside
      have stop : chunkEnd chars start = chars.length := by omega
      have single := Covers.single inside (by omega)
      rw [← stop] at single
      exact single
  | case2 start _ chunk more ih =>
      have further := lt_chunkEnd (show chunkEnd chars start < chars.length by omega)
      obtain ⟨bigger, short⟩ := chunkEnd_bounds inside
      exact .cons bigger short further (by omega) (ih (by omega))
  | case3 start outside => exact absurd inside outside

/-- The chunks of a text with characters cover it. -/
theorem covers_semanticTextChunks {chars : List Char} (some' : chars ≠ [])
    : Covers chars 0 (semanticTextChunks chars) := by
  have inside := List.length_pos_of_ne_nil some'
  unfold semanticTextChunks
  rw [if_neg (by simpa using some')]
  split
  next short =>
      have single := Covers.single inside (by omega)
      simpa [charRange] using single
  next => exact covers_textChunksFrom inside

/-- A text has no chunks only if it has no characters. -/
theorem semanticTextChunks_eq_nil {chars : List Char} : semanticTextChunks chars = [] ↔ chars = [] := by
  constructor
  · intro none
    by_contra some'
    have first := (covers_semanticTextChunks some').first
    rw [none] at first
    cases first
  · rintro rfl
    rfl

/-- The starts of the chunks increase. -/
theorem Covers.increasing {chars : List Char} {start : Nat} {chunks : List (Nat × Nat × List Char)}
    (covers : Covers chars start chunks)
    : (chunks.map (·.1)).Pairwise (· < ·) := by
  have chain : (chunks.map (·.1)).IsChain (· < ·) := by
    rw [List.isChain_map]
    exact covers.adjacent.imp fun _ _ => And.left
  exact chain.pairwise

-----------------------------------------------------------------------------------------
-- The rows behind a document
-----------------------------------------------------------------------------------------

/-- `SEMANTIC_TURN_TEXT_MAX_CHARS`. -/
def semanticTurnTextMaxChars : Nat := 64 * 1024

/-- `RedactionState::from_str`. -/
def redactionStateFromStr : String → Option RedactionState
  | "raw" => some .raw
  | "redacted" => some .redacted
  | "safe_preview" => some .safePreview
  | "withheld" => some .withheld
  | _ => none

/-- `event_semantic_source_text`. -/
def eventSemanticSourceText (previewText redactionState : String) : Except StoreError String :=
  match redactionStateFromStr redactionState with
  | none => .error .sql
  | some redaction =>
      if redaction = .raw || redaction = .withheld then .ok "raw event payload withheld"
      else .ok (localPreview previewText semanticTurnTextMaxChars)

/-- The columns of a turn that its text is made of. -/
structure TurnColumns where
  previewText : String
  redactionState : String
  assistantPreviewText : Option String
  assistantRedactionState : Option String

/-- `format!("user:\n{}", text.trim())`, for a role. -/
def turnPart (role text : String) : String := role ++ ":\n" ++ String.ofList (trim text.toList)

/-- The part of the assistant in `semantic_lite_turn_source_text`, where there is one. -/
def assistantParts (columns : TurnColumns) : Except StoreError (List String) :=
  match columns.assistantPreviewText, columns.assistantRedactionState with
  | some payloadJson, some redactionState => do
      let assistantText ← eventSemanticSourceText payloadJson redactionState
      return if (trim assistantText.toList).isEmpty then [] else [turnPart "assistant" assistantText]
  | _, _ => .ok []

/-- `semantic_lite_turn_source_text`. -/
def semanticLiteTurnSourceText (columns : TurnColumns) : Except StoreError String := do
  let userText ← eventSemanticSourceText columns.previewText columns.redactionState
  let parts ← assistantParts columns
  return localPreview ("\n\n".intercalate (turnPart "user" userText :: parts))
    semanticTurnTextMaxChars

/-- `semantic_lite_turn_source_chunk`. -/
def semanticLiteTurnSourceChunk (columns : TurnColumns) (startChar endChar : Nat)
    : Except StoreError String :=
  if endChar ≤ startChar then .ok ""
  else do
    let text ← semanticLiteTurnSourceText columns
    return String.ofList ((text.toList.drop startChar).take (endChar - startChar))

/-- A turn's text fits into the limit of what is embedded. -/
theorem semanticSourceText_turn {columns : TurnColumns} {text : String}
    (read : semanticLiteTurnSourceText columns = .ok text)
    : semanticSourceText text.toList = text.toList := by
  unfold semanticLiteTurnSourceText at read
  obtain ⟨userText, -, read⟩ := bind_eq_ok.mp read
  obtain ⟨parts, -, read⟩ := bind_eq_ok.mp read
  cases read
  rw [localPreview, String.toList_ofList, semanticSourceText, List.take_take]
  rfl

/-- A document's chunks are the pieces of its text, in their order. -/
theorem mem_chunks {sha256 : List Char → String} {document : EventEmbeddingDocument}
    {chunk : SemanticChunkDocument} (member : chunk ∈ document.chunks sha256)
    : ∃ piece ∈ semanticTextChunks (semanticSourceText document.text),
        chunk.startChar = piece.1 ∧ chunk.endChar = piece.2.1
        ∧ chunk.text = semanticEmbeddedChunkText document piece.2.2 := by
  unfold EventEmbeddingDocument.chunks semanticChunksForDocument at member
  obtain ⟨⟨piece, index⟩, inside, rfl⟩ := List.mem_map.mp member
  exact ⟨piece, List.fst_mem_of_mem_zipIdx inside, rfl, rfl, rfl⟩

/-- The chunks of every text are exact: they start at its first character and end at its last one, their
starts increase, each is the characters of its range and has at most the target length, and no character
is left between two of them. The ranges that a document's chunks are stored with are read again, from the
columns that its text was made of, as the pieces that were embedded.
-/
theorem semanticTextChunks_exact (chars : List Char)
    : (semanticTextChunks chars = [] ↔ chars = [])
      ∧ (∀ chunk ∈ (semanticTextChunks chars).head?, chunk.1 = 0)
      ∧ (∀ chunk ∈ (semanticTextChunks chars).getLast?, chunk.2.1 = chars.length)
      ∧ ((semanticTextChunks chars).map (·.1)).Pairwise (· < ·)
      ∧ (∀ chunk ∈ semanticTextChunks chars,
          chunk.1 < chunk.2.1 ∧ chunk.2.1 ≤ chars.length
          ∧ chunk.2.2 = (chars.drop chunk.1).take (chunk.2.1 - chunk.1)
          ∧ chunk.2.2.length ≤ semanticChunkTargetChars)
      ∧ (semanticTextChunks chars).IsChain (fun left right => right.1 ≤ left.2.1)
      ∧ ∀ (columns : TurnColumns) (text : String) (document : EventEmbeddingDocument)
          (sha256 : List Char → String),
          semanticLiteTurnSourceText columns = .ok text → document.text = text.toList →
          ∀ chunk ∈ document.chunks sha256, ∃ piece,
            semanticLiteTurnSourceChunk columns chunk.startChar chunk.endChar = .ok piece
            ∧ (chunk.startChar, chunk.endChar, piece.toList) ∈ semanticTextChunks document.text
            ∧ chunk.text = semanticEmbeddedChunkText document piece.toList := by
  have embedded (columns : TurnColumns) (text : String) (document : EventEmbeddingDocument)
      (sha256 : List Char → String) (read : semanticLiteTurnSourceText columns = .ok text)
      (made : document.text = text.toList) (chunk : SemanticChunkDocument)
      (member : chunk ∈ document.chunks sha256)
      : ∃ piece,
          semanticLiteTurnSourceChunk columns chunk.startChar chunk.endChar = .ok piece
          ∧ (chunk.startChar, chunk.endChar, piece.toList) ∈ semanticTextChunks document.text
          ∧ chunk.text = semanticEmbeddedChunkText document piece.toList := by
    obtain ⟨piece, inside, starts, stops, same⟩ := mem_chunks member
    rw [made, semanticSourceText_turn read] at inside
    have some' : text.toList ≠ [] := by
      intro none
      rw [none] at inside
      cases inside
    have covers := covers_semanticTextChunks some'
    have range := covers.range piece inside
    refine ⟨String.ofList piece.2.2, ?_, ?_, ?_⟩
    · rw [semanticLiteTurnSourceChunk, if_neg (by omega), read, covers.text piece inside, starts, stops]
      rfl
    · rw [made, starts, stops, String.toList_ofList]
      exact inside
    · rw [String.toList_ofList]
      exact same
  by_cases empty : chars = []
  · subst empty
    exact ⟨semanticTextChunks_eq_nil, nofun, nofun, .nil, nofun, .nil, embedded⟩
  · have covers := covers_semanticTextChunks empty
    refine ⟨semanticTextChunks_eq_nil, ?_, ?_, covers.increasing, fun chunk member => ?_, ?_, embedded⟩
    · intro chunk here
      have first := covers.first
      rw [Option.mem_def.mp here] at first
      exact Option.some.inj first
    · intro chunk here
      have last := covers.last
      rw [Option.mem_def.mp here] at last
      exact Option.some.inj last
    · have range := covers.range chunk member
      exact ⟨range.1, range.2, covers.text chunk member, covers.length chunk member⟩
    · exact covers.adjacent.imp fun _ _ => And.right

end CtxRemote.Semantic
