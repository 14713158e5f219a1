import CtxRemote.Store.Analyzer
import Mathlib.Data.List.DropRight

/-! Phrases that are copied out of a text against the terms that index the text. The index takes the
grams of whole runs; a query is trimmed first, so that it may lose the combining marks of its last
unit, and its grams are then those of another phrase.
-/

namespace CtxRemote.Store
open CtxRemote.Library
open CtxRemote.Turso (splitWhitespace isWhitespace)

-----------------------------------------------------------------------------------------
-- Units
-----------------------------------------------------------------------------------------

/-- A character that joins the open unit. -/
def unitAttaches (open' : List Char) (ch : Char) : Bool := attaching ch || absorbs open' [ch]

theorem pushToLast_concat (units : List (List Char)) (last text : List Char)
    : pushToLast (units ++ [last]) text = units ++ [last ++ text] := by
  simp [pushToLast]

/-- The first pass makes units of a character and its marks, by induction on the run. -/
theorem foldl_pushChar (units : List (List Char)) (open' run : List Char)
    : run.foldl pushChar (units ++ [open'])
      = units ++ segmentsFrom (fun _ ch => attaching ch) open' run := by
  induction run generalizing units open' with
  | nil => rfl
  | cons ch rest ih =>
      rw [List.foldl_cons, segmentsFrom, pushChar]
      by_cases joins : attaching ch = true
      · rw [if_pos joins, if_pos joins, pushToLast_concat, ih]
      · rw [if_neg joins, if_neg joins, ih, List.append_assoc]
        rfl

theorem mergeUnit_nil {unit : List Char} (some' : unit ≠ []) : mergeUnit [] unit = [unit] := by
  simp [mergeUnit, some']

theorem mergeUnit_concat {merged : List (List Char)} {previous unit : List Char}
    (some' : unit ≠ [])
    : mergeUnit (merged ++ [previous]) unit
      = merged ++ if absorbs previous unit then [previous ++ unit] else [previous, unit] := by
  by_cases merges : absorbs previous unit = true
  · simp [mergeUnit, pushToLast_concat, some', merges]
  · simp [mergeUnit, some', merges]

theorem absorbs_right_append {previous unit more : List Char} (some' : unit ≠ [])
    : absorbs previous (unit ++ more) = absorbs previous unit := by
  obtain ⟨first, rest, rfl⟩ := List.exists_cons_of_ne_nil some'
  rfl

/-- The second pass over the units of the first, behind an open unit of each: both passes are one.
By induction on the run.
-/
theorem foldl_mergeUnit {merged : List (List Char)} {previous open' run : List Char}
    (before : previous ≠ []) (some' : open' ≠ [])
    : (segmentsFrom (fun _ ch => attaching ch) open' run).foldl mergeUnit (merged ++ [previous])
      = merged ++
          if absorbs previous open' then segmentsFrom unitAttaches (previous ++ open') run
          else previous :: segmentsFrom unitAttaches open' run := by
  induction run generalizing merged previous open' with
  | nil =>
      rw [segmentsFrom, List.foldl_cons, List.foldl_nil, mergeUnit_concat some']
      rfl
  | cons ch rest ih =>
      by_cases joins : attaching ch = true
      · have here (unit : List Char) : unitAttaches unit ch = true := by simp [unitAttaches, joins]
        rw [segmentsFrom, if_pos joins, ih before (by simp), absorbs_right_append some',
          segmentsFrom, segmentsFrom, if_pos (here _), if_pos (here _), List.append_assoc]
      · have same (unit : List Char) : unitAttaches unit ch = absorbs unit [ch] := by
          simp [unitAttaches, joins]
        rw [segmentsFrom, if_neg joins, List.foldl_cons, mergeUnit_concat some']
        by_cases merges : absorbs previous open' = true
        · rw [if_pos merges, if_pos merges, ih (by simp [before]) (by simp), segmentsFrom, same]
        · rw [if_neg merges, if_neg merges, List.append_cons, ih some' (by simp), segmentsFrom,
            same, List.append_assoc]
          rfl

/-- The second pass from the start: the first unit has none before it, however many marks it has. -/
theorem foldl_mergeUnit_nil {open' run : List Char} (some' : open' ≠ [])
    : (segmentsFrom (fun _ ch => attaching ch) open' run).foldl mergeUnit []
      = segmentsFrom unitAttaches open' run := by
  induction run generalizing open' with
  | nil => rw [segmentsFrom, List.foldl_cons, mergeUnit_nil some', List.foldl_nil, segmentsFrom]
  | cons ch rest ih =>
      by_cases joins : attaching ch = true
      · have here : unitAttaches open' ch = true := by simp [unitAttaches, joins]
        rw [segmentsFrom, if_pos joins, ih (by simp), segmentsFrom, if_pos here]
      · have same : unitAttaches open' ch = absorbs open' [ch] := by simp [unitAttaches, joins]
        rw [segmentsFrom, if_neg joins, List.foldl_cons, mergeUnit_nil some', ← List.nil_append [open'],
          foldl_mergeUnit some' (by simp), List.nil_append, segmentsFrom, same]

/-- Units are segments, behind what attaches to nothing. -/
theorem graphemeishUnits_eq (run : List Char)
    : graphemeishUnits run = segments unitAttaches (run.dropWhile attaching) := by
  unfold graphemeishUnits mergeHangulJamoUnits
  induction run with
  | nil => rfl
  | cons ch rest ih =>
      rw [List.foldl_cons, pushChar]
      by_cases joins : attaching ch = true
      · rw [if_pos joins, List.dropWhile_cons_of_pos joins]
        exact ih
      · rw [if_neg joins, List.dropWhile_cons_of_neg joins, foldl_pushChar [] [ch] rest]
        exact foldl_mergeUnit_nil (List.cons_ne_nil _ _)

/-- A unit starts with a character that attaches to nothing. -/
theorem head_of_mem_units {run unit : List Char} (member : unit ∈ graphemeishUnits run)
    : ∃ ch rest, unit = ch :: rest ∧ attaching ch = false := by
  rw [graphemeishUnits_eq] at member
  cases kept : run.dropWhile attaching with
  | nil =>
      rw [kept] at member
      cases member
  | cons first more =>
      have starts : attaching first = false := by
        have head := List.head?_dropWhile_not attaching run
        simpa [kept] using head
      rw [kept] at member
      rcases head_of_mem_segmentsFrom member with ⟨rest, rfl⟩ | ⟨ch, rest, open', rfl, apart⟩
      · exact ⟨first, rest, rfl, starts⟩
      · refine ⟨ch, rest, rfl, ?_⟩
        have either := Bool.or_eq_false_iff.mp apart
        exact either.1

/-- A run that starts with such a character consists of its units. -/
theorem flatten_graphemeishUnits (run : List Char)
    : (graphemeishUnits run).flatten = run.dropWhile attaching := by
  rw [graphemeishUnits_eq, flatten_segments]

/-- Whole units of a run, taken out of it, are units as they were in it. -/
theorem units_of_isInfix {run : List Char} {piece : List (List Char)}
    (inside : piece <:+: graphemeishUnits run)
    : graphemeishUnits piece.flatten = piece := by
  have starts : piece.flatten.dropWhile attaching = piece.flatten := by
    cases piece with
    | nil => rfl
    | cons unit rest =>
        obtain ⟨ch, more, rfl, apart⟩ := head_of_mem_units (inside.subset List.mem_cons_self)
        simp [apart]
  rw [graphemeishUnits_eq] at inside
  rw [graphemeishUnits_eq, starts]
  exact segments_of_infix inside

/-- Two neighbouring units are the units of their gram. -/
theorem units_of_neighbours {run left right : List Char}
    (inside : (left, right) ∈ neighbours (graphemeishUnits run))
    : graphemeishUnits (left ++ right) = [left, right] := by
  have pair := units_of_isInfix (mem_neighbours.mp inside)
  simpa using pair

-----------------------------------------------------------------------------------------
-- Runs
-----------------------------------------------------------------------------------------

section Runs

variable {unicode : Unicode}

@[simp] theorem fromChar_eq_mark {ch : Char}
    : RunKind.fromChar unicode ch = .mark ↔ attaching ch = true := by
  unfold RunKind.fromChar
  by_cases attached : attaching ch = true
  · simp [attached]
  · rw [if_neg attached]
    split <;> [simp [attached]; split <;> simp [attached]]

/-- A run of a kind: one character of the kind, then characters of the kind and marks. -/
def IsRun (unicode : Unicode) (kind : RunKind) (run : List Char) : Prop :=
  ∃ first rest,
    run = first :: rest
    ∧ RunKind.fromChar unicode first = kind
    ∧ ∀ ch ∈ rest, RunKind.fromChar unicode ch = kind ∨ attaching ch = true

theorem IsRun.grow {kind : RunKind} {run : List Char} {ch : Char} (isRun : IsRun unicode kind run)
    (joins : RunKind.fromChar unicode ch = kind ∨ attaching ch = true)
    : IsRun unicode kind (run ++ [ch]) := by
  obtain ⟨first, more, rfl, starts, follows⟩ := isRun
  refine ⟨first, more ++ [ch], rfl, starts, fun other inside => ?_⟩
  rcases List.mem_append.mp inside with inside | inside
  · exact follows other inside
  · rwa [List.mem_singleton.mp inside]

/-- A flushed run is empty, or a run of words or of grams. -/
def Flushed (unicode : Unicode) (kind : Option RunKind) (current : List Char) : Prop :=
  (kind = none ∧ current = [])
  ∨ ∃ known, kind = some known ∧ (known = .word ∨ known = .gram) ∧ IsRun unicode known current

theorem Flushed.started {kind : RunKind} {ch : Char} (here : RunKind.fromChar unicode ch = kind)
    (known : kind = .word ∨ kind = .gram)
    : Flushed unicode (some kind) [ch] :=
  .inr ⟨kind, rfl, known, ch, [], rfl, here, by simp⟩

theorem Flushed.grown {kind : RunKind} {current : List Char} {ch : Char}
    (opened : Flushed unicode (some kind) current)
    (joins : RunKind.fromChar unicode ch = kind ∨ attaching ch = true)
    : Flushed unicode (some kind) (current ++ [ch]) := by
  rcases opened with ⟨⟨⟩, -⟩ | ⟨_, same, known, isRun⟩
  obtain rfl := Option.some.inj same
  exact .inr ⟨kind, rfl, known, isRun.grow joins⟩

/-- By induction on the text: the open run is a run of its kind. -/
theorem flushed_of_mem_runsFrom {current text : List Char} {currentKind : Option RunKind}
    {run : Option RunKind × List Char} (opened : Flushed unicode currentKind current)
    (member : run ∈ runsFrom unicode current currentKind text)
    : Flushed unicode run.1 run.2 := by
  induction text generalizing current currentKind with
  | nil =>
      obtain rfl := List.mem_singleton.mp member
      exact opened
  | cons ch rest ih =>
      unfold runsFrom at member
      -- A character of a known kind extends the open run of its kind, or ends the open run.
      have known (kind : RunKind) (here : RunKind.fromChar unicode ch = kind)
          (listed : kind = .word ∨ kind = .gram)
          (member
            : run ∈ if currentKind = some kind
                then runsFrom unicode (current ++ [ch]) currentKind rest
                else (currentKind, current) :: runsFrom unicode [ch] (some kind) rest)
          : Flushed unicode run.1 run.2 := by
        split at member
        next same =>
            subst same
            exact ih (opened.grown (.inl here)) member
        next =>
            rcases List.mem_cons.mp member with rfl | member
            · exact opened
            · exact ih (Flushed.started here listed) member
      cases kind : RunKind.fromChar unicode ch with
      | mark =>
          simp only [kind] at member
          split at member
          next => exact ih opened member
          next some' =>
              cases currentKind with
              | none =>
                  rcases opened with ⟨-, rfl⟩ | ⟨_, ⟨⟩, -⟩
                  exact absurd rfl some'
              | some currentKind =>
                  exact ih (opened.grown (.inr (fromChar_eq_mark.mp kind))) member
      | separator =>
          simp only [kind] at member
          rcases List.mem_cons.mp member with rfl | member
          · exact opened
          · exact ih (.inl ⟨rfl, rfl⟩) member
      | word =>
          simp only [kind] at member
          exact known _ kind (.inl rfl) member
      | gram =>
          simp only [kind] at member
          exact known _ kind (.inr rfl) member

theorem flushed_of_mem_runs {text : List Char} {run : Option RunKind × List Char}
    (member : run ∈ runs unicode text)
    : Flushed unicode run.1 run.2 :=
  flushed_of_mem_runsFrom (.inl ⟨rfl, rfl⟩) member

theorem isRun_of_mem_runs {text run : List Char} {kind : RunKind}
    (member : (some kind, run) ∈ runs unicode text)
    : IsRun unicode kind run := by
  rcases flushed_of_mem_runs member with ⟨⟨⟩, -⟩ | ⟨_, same, -, isRun⟩
  rwa [Option.some.inj same]

/-- The characters of a run are those of the text, by induction on it. -/
theorem subset_of_mem_runsFrom {current text : List Char}
    {currentKind : Option RunKind} {run : Option RunKind × List Char}
    (member : run ∈ runsFrom unicode current currentKind text)
    : run.2 ⊆ current ++ text := by
  induction text generalizing current currentKind with
  | nil =>
      obtain rfl := List.mem_singleton.mp member
      simp
  | cons ch rest ih =>
      have grown {kind} (member : run ∈ runsFrom unicode (current ++ [ch]) kind rest)
          : run.2 ⊆ current ++ ch :: rest := by
        rw [List.append_cons]
        exact ih member
      have skipped {kind} (member : run ∈ runsFrom unicode current kind rest)
          : run.2 ⊆ current ++ ch :: rest :=
        List.Subset.trans (ih member) (by simp)
      have ended {next kind}
          (member : run ∈ (currentKind, current) :: runsFrom unicode next kind rest)
          (within : next ⊆ [ch])
          : run.2 ⊆ current ++ ch :: rest := by
        rcases List.mem_cons.mp member with rfl | member
        · simp
        · intro other inside
          rcases List.mem_append.mp (ih member inside) with there | there
          · exact List.mem_append_right _ (List.mem_cons.mpr (.inl (List.mem_singleton.mp (within there))))
          · exact List.mem_append_right _ (List.mem_cons_of_mem _ there)
      unfold runsFrom at member
      split at member
      next =>
          split at member
          next => exact skipped member
          next => exact grown member
      next => exact ended member (by simp)
      next =>
          split at member
          next => exact grown member
          next => exact ended member (by simp)

theorem subset_of_mem_runs {text : List Char} {run : Option RunKind × List Char}
    (member : run ∈ runs unicode text)
    : run.2 ⊆ text :=
  subset_of_mem_runsFrom member

/-- The runs of a text that are indexed by grams. -/
def gramRuns (unicode : Unicode) (text : List Char) : List (List Char) :=
  ((runs unicode text).filter (·.1 = some .gram)).map (·.2)

theorem mem_gramRuns {text run : List Char}
    : run ∈ gramRuns unicode text ↔ (some .gram, run) ∈ runs unicode text := by
  unfold gramRuns
  simp

theorem mem_flushIndexRun {kind : Option RunKind} {current term : List Char}
    : term ∈ flushIndexRun unicode (kind, current)
      ↔ current ≠ []
        ∧ (kind = some .gram ∧ (term = current ∨ term ∈ adjacentGrams current)
          ∨ kind = some .word ∧ term = current ∧ term.any unicode.isAlphanumeric = true) := by
  unfold flushIndexRun
  cases current with
  | nil => simp
  | cons first rest =>
      cases kind with
      | none => simp
      | some kind =>
          cases kind with
          | gram => simp
          | word =>
              by_cases visible : (first :: rest).any unicode.isAlphanumeric = true
              · simp only [List.isEmpty_cons, Bool.false_eq_true, if_false, if_pos visible,
                  List.mem_singleton]
                constructor
                · rintro rfl
                  exact ⟨List.cons_ne_nil _ _, .inr ⟨trivial, rfl, visible⟩⟩
                · rintro ⟨-, ⟨⟨⟩, -⟩ | ⟨-, same, -⟩⟩
                  exact same
              · simp only [List.isEmpty_cons, Bool.false_eq_true, if_false, if_neg visible]
                constructor
                · rintro ⟨⟩
                · rintro ⟨-, ⟨⟨⟩, -⟩ | ⟨-, rfl, shown⟩⟩
                  exact absurd shown visible
          | mark => simp
          | separator => simp

/-- Index terms are the gram runs with their grams, and runs of words. -/
theorem mem_generatedIndexTerms {text term : List Char}
    : term ∈ generatedIndexTerms unicode text
      ↔ (∃ run ∈ gramRuns unicode text, term = run ∨ term ∈ adjacentGrams run)
        ∨ ((some .word, term) ∈ runs unicode text ∧ term.any unicode.isAlphanumeric = true) := by
  have some' {kind run} (member : (some kind, run) ∈ runs unicode text) : run ≠ [] := by
    obtain ⟨first, rest, rfl, -⟩ := isRun_of_mem_runs member
    exact List.cons_ne_nil _ _
  unfold generatedIndexTerms
  rw [List.mem_flatMap]
  constructor
  · rintro ⟨⟨kind, current⟩, member, inside⟩
    obtain ⟨-, ⟨rfl, listed⟩ | ⟨rfl, rfl, visible⟩⟩ := mem_flushIndexRun.mp inside
    · exact .inl ⟨current, mem_gramRuns.mpr member, listed⟩
    · exact .inr ⟨member, visible⟩
  · rintro (⟨run, member, inside⟩ | ⟨member, visible⟩)
    · have member := mem_gramRuns.mp member
      exact ⟨_, member, mem_flushIndexRun.mpr ⟨some' member, .inl ⟨rfl, inside⟩⟩⟩
    · exact ⟨_, member, mem_flushIndexRun.mpr ⟨some' member, .inr ⟨rfl, rfl, visible⟩⟩⟩

/-- Index terms start with a character that attaches to nothing. -/
theorem head_of_mem_indexTerms {text term : List Char}
    (member : term ∈ generatedIndexTerms unicode text)
    : ∃ ch rest, term = ch :: rest ∧ attaching ch = false := by
  have starts {kind : RunKind} {run : List Char} (isRun : IsRun unicode kind run)
      (other : kind ≠ .mark)
      : ∃ ch rest, run = ch :: rest ∧ attaching ch = false := by
    obtain ⟨first, rest, rfl, here, -⟩ := isRun
    refine ⟨first, rest, rfl, ?_⟩
    rw [← Bool.not_eq_true]
    intro attached
    exact other (here.symm.trans (fromChar_eq_mark.mpr attached))
  rcases mem_generatedIndexTerms.mp member with ⟨run, inside, rfl | gram⟩ | ⟨inside, -⟩
  · exact starts (isRun_of_mem_runs (mem_gramRuns.mp inside)) (by decide)
  · obtain ⟨⟨left, right⟩, pair, rfl⟩ := List.mem_map.mp gram
    obtain ⟨ch, rest, rfl, apart⟩ := head_of_mem_units (List.of_mem_zip pair).1
    exact ⟨ch, rest ++ right, rfl, apart⟩
  · exact starts (isRun_of_mem_runs inside) (by decide)

end Runs

-----------------------------------------------------------------------------------------
-- Queries
-----------------------------------------------------------------------------------------

section Queries

variable {unicode : Unicode} {phrase : List Char}

/-- A text in scripts that are indexed by grams, with marks. -/
def GramText (unicode : Unicode) (text : List Char) : Prop :=
  ∀ ch ∈ text, RunKind.fromChar unicode ch = .gram ∨ attaching ch = true

theorem IsRun.gramText {run : List Char} (isRun : IsRun unicode .gram run)
    : GramText unicode run := by
  obtain ⟨first, rest, rfl, here, follows⟩ := isRun
  intro ch member
  rcases List.mem_cons.mp member with rfl | member
  · exact .inl here
  · exact follows ch member

/-- The codes of white space. -/
def blankCodes : List Nat :=
  [9, 10, 11, 12, 13, 0x20, 0x85, 0xA0, 0x1680, 0x2000, 0x2001, 0x2002, 0x2003, 0x2004, 0x2005,
    0x2006, 0x2007, 0x2008, 0x2009, 0x200A, 0x2028, 0x2029, 0x202F, 0x205F, 0x3000]

theorem mem_blankCodes {ch : Char} (blank : isWhitespace ch = true) : ch.toNat ∈ blankCodes := by
  unfold isWhitespace at blank
  simp only [Bool.or_eq_true, Bool.and_eq_true, decide_eq_true_eq, beq_iff_eq] at blank
  simp only [blankCodes, List.mem_cons, List.not_mem_nil, or_false]
  omega

/-- White space is in no table of the analyzer. -/
theorem blank_unlisted
    : ∀ code ∈ blankCodes,
        inRanges code markRanges = false ∧ code ≠ 0x200C ∧ code ≠ 0x200D
        ∧ (SearchScript.ranges.find? fun (_, ranges) => inRanges code ranges) = none := by
  decide +kernel

/-- White space belongs to no script and is no mark. -/
theorem GramText.visible (script : GramText unicode phrase)
    : ∀ ch ∈ phrase, isWhitespace ch = false := by
  intro ch member
  rw [← Bool.not_eq_true]
  intro blank
  obtain ⟨unmarked, joinerLeft, joinerRight, unscripted⟩ :=
    blank_unlisted _ (mem_blankCodes blank)
  have detached : attaching ch = false := by
    simp [attaching, charIsMark, charIsJoiner, unmarked, joinerLeft, joinerRight]
  rcases script ch member with here | here
  · unfold RunKind.fromChar SearchScript.fromChar at here
    rw [detached, unscripted] at here
    simp at here
    split at here <;> cases here
  · rw [detached] at here
    cases here

/-- A run of grams grows to the end of such a text, by induction on the text. -/
theorem GramText.runsFrom (script : GramText unicode phrase) (current : List Char)
    (some' : current ≠ [])
    : runsFrom unicode current (some .gram) phrase = [(some .gram, current ++ phrase)] := by
  induction phrase generalizing current with
  | nil => simp [Store.runsFrom]
  | cons ch rest ih =>
      have later : GramText unicode rest := fun other member =>
        script other (List.mem_cons_of_mem _ member)
      have grown := ih later (current ++ [ch]) (by simp)
      rw [List.append_assoc] at grown
      rcases script ch List.mem_cons_self with here | here
      · simp only [Store.runsFrom, here, if_true]
        exact grown
      · simp only [Store.runsFrom, fromChar_eq_mark.mpr here]
        rw [if_neg (by simpa using some')]
        exact grown

/-- Such a text is asked for as one run, less the marks in front of it. -/
theorem GramText.queryRunTerms (script : GramText unicode phrase)
    : queryRunTerms unicode phrase = grammedQueryTerms (phrase.dropWhile attaching) := by
  unfold Store.queryRunTerms runs
  induction phrase with
  | nil => rfl
  | cons ch rest ih =>
      have later : GramText unicode rest := fun other member =>
        script other (List.mem_cons_of_mem _ member)
      by_cases attached : attaching ch = true
      · rw [List.dropWhile_cons_of_pos attached, ← ih later]
        simp only [Store.runsFrom, fromChar_eq_mark.mpr attached]
        rfl
      · have here := (script ch List.mem_cons_self).resolve_right attached
        have grown := later.runsFrom [ch] (List.cons_ne_nil _ _)
        rw [List.dropWhile_cons_of_neg attached]
        simp only [Store.runsFrom, here]
        rw [if_neg (by simp), grown]
        simp [flushQueryRun]

/-- The terms of a run are its only unit, or the grams of its units. -/
theorem mem_grammedQueryTerms {term : List Char}
    : term ∈ grammedQueryTerms (phrase.dropWhile attaching)
      ↔ graphemeishUnits phrase = [term]
        ∨ ∃ pair ∈ neighbours (graphemeishUnits phrase), term = pair.1 ++ pair.2 := by
  have same : graphemeishUnits (phrase.dropWhile attaching) = graphemeishUnits phrase := by
    rw [graphemeishUnits_eq, graphemeishUnits_eq, List.dropWhile_idempotent]
  unfold grammedQueryTerms
  rw [same, ← flatten_graphemeishUnits]
  rcases graphemeishUnits phrase with _ | ⟨left, _ | ⟨middle, _ | ⟨right, rest⟩⟩⟩
  · simp [neighbours]
  · simp [neighbours, eq_comm]
  · simp [neighbours, eq_comm]
  · simp [adjacentGramsFromUnits, eq_comm]

theorem grammedQueryTerms_eq_nil_iff
    : grammedQueryTerms (phrase.dropWhile attaching) = [] ↔ graphemeishUnits phrase = [] := by
  rw [List.eq_nil_iff_forall_not_mem]
  simp only [mem_grammedQueryTerms]
  rcases graphemeishUnits phrase with _ | ⟨left, _ | ⟨right, rest⟩⟩
  · simp [neighbours]
  · exact iff_of_false (fun none => none left (.inl rfl)) (List.cons_ne_nil _ _)
  · refine iff_of_false (fun none => none (left ++ right) (.inr ⟨(left, right), ?_, rfl⟩))
      (List.cons_ne_nil _ _)
    simp [neighbours]

/-- A copied phrase has one lexical term, if it has one at all. -/
theorem GramText.lexicalQueryTerms (script : GramText unicode phrase)
    : lexicalQueryTerms unicode phrase
      = if (trimFtsTerm unicode phrase).any unicode.isAlphanumeric
        then [trimFtsTerm unicode phrase] else [] := by
  have single : splitWhitespace phrase = if phrase.isEmpty then [] else [phrase] := by
    unfold splitWhitespace
    rw [List.splitOnP_eq_singleton (fun ch member => by simp [script.visible ch member])]
    cases phrase <;> simp
  unfold Store.lexicalQueryTerms
  rw [single]
  cases phrase with
  | nil => simp [trimFtsTerm, strip]
  | cons ch rest =>
      rw [if_neg (by simp), List.map_singleton, List.foldl_cons, List.foldl_nil]
      cases visible : (trimFtsTerm unicode (ch :: rest)).any unicode.isAlphanumeric <;> rfl

theorem GramText.trimmed (script : GramText unicode phrase)
    : GramText unicode (trimFtsTerm unicode phrase) := fun ch member =>
  script ch ((strip_isInfix _ phrase).subset member)

/-- Marks alone have no units. -/
theorem units_eq_nil_iff {text : List Char}
    : graphemeishUnits text = [] ↔ ∀ ch ∈ text, attaching ch = true := by
  rw [← List.dropWhile_eq_nil_iff, ← flatten_graphemeishUnits]
  constructor
  · intro none
    rw [none]
    rfl
  · intro flat
    rw [List.eq_nil_iff_forall_not_mem]
    intro unit member
    obtain ⟨ch, rest, rfl, -⟩ := head_of_mem_units member
    exact absurd (List.flatten_eq_nil_iff.mp flat _ member) (List.cons_ne_nil _ _)

/-- A character of such a text that is no mark belongs to a script. -/
theorem GramText.grammed (script : GramText unicode phrase)
    (unit : graphemeishUnits phrase ≠ [])
    : containsGrammedScript phrase = true := by
  rw [ne_eq, units_eq_nil_iff, not_forall] at unit
  obtain ⟨ch, unit⟩ := unit
  rw [Classical.not_imp] at unit
  obtain ⟨member, detached⟩ := unit
  refine List.any_eq_true.mpr ⟨ch, member, ?_⟩
  have here := (script ch member).resolve_right detached
  unfold RunKind.fromChar at here
  rw [if_neg detached] at here
  by_contra unscripted
  rw [if_neg unscripted] at here
  split at here <;> cases here

/-- The terms that a copied phrase asks for: what trimming leaves of it where that has no unit, its
only unit, or the grams of its units.
-/
theorem GramText.mem_generatedQueryTerms (script : GramText unicode phrase)
    (grammed : containsGrammedScript phrase = true) {term : List Char}
    : let trimmed := trimFtsTerm unicode phrase
      let units := graphemeishUnits trimmed
      term ∈ generatedQueryTerms unicode phrase
      ↔ trimmed.any unicode.isAlphanumeric = true
        ∧ (units = [] ∧ term = trimmed
          ∨ units = [term]
          ∨ ∃ pair ∈ neighbours units, term = pair.1 ++ pair.2) := by
  intro trimmed units
  have asked : Store.queryRunTerms unicode trimmed = grammedQueryTerms (trimmed.dropWhile attaching) :=
    script.trimmed.queryRunTerms
  have again : trimFtsTerm unicode trimmed = trimmed := strip_strip _ phrase
  have lexical : Store.lexicalQueryTerms unicode phrase
      = if trimmed.any unicode.isAlphanumeric then [trimmed] else [] :=
    script.lexicalQueryTerms
  have scripted (some' : units ≠ []) : containsGrammedScript trimmed = true :=
    script.trimmed.grammed some'
  unfold generatedQueryTerms
  rw [if_neg (by simp [grammed]), lexical]
  cases visible : trimmed.any unicode.isAlphanumeric with
  | false => simp
  | true =>
      rw [if_pos rfl, List.flatMap_singleton]
      unfold clauseTerms
      dsimp only
      rw [again, visible, asked]
      by_cases none : units = []
      · rw [grammedQueryTerms_eq_nil_iff.mpr none]
        simp [none, neighbours]
      · obtain ⟨first, more, terms⟩ :=
          List.exists_cons_of_ne_nil (grammedQueryTerms_eq_nil_iff.not.mpr none)
        rw [terms, scripted none]
        simp only [Bool.not_true, Bool.false_eq_true, if_false]
        rw [← terms, mem_grammedQueryTerms]
        simp [none, units]

/-- The units of such a text are such texts. -/
theorem GramText.units (script : GramText unicode phrase) {units : List (List Char)}
    (within : units <:+: graphemeishUnits phrase)
    : GramText unicode units.flatten := by
  intro ch member
  obtain ⟨unit, inside, member⟩ := List.mem_flatten.mp member
  have flat := List.mem_flatten.mpr ⟨unit, within.subset inside, member⟩
  rw [flatten_graphemeishUnits] at flat
  exact script ch ((List.dropWhile_sublist attaching).subset flat)

end Queries

-----------------------------------------------------------------------------------------
-- Copied phrases
-----------------------------------------------------------------------------------------

section Pieces

variable (unicode : Unicode) (text : List Char)

/-- The units are neighbours in a run of the text. -/
def NeighboursIn (pair : List Char × List Char) : Prop :=
  ∃ run ∈ gramRuns unicode text, pair ∈ neighbours (graphemeishUnits run)

/-- What trimming leaves of a phrase has nothing alphanumeric, or stands in the text as the phrase
does: it has units, each two neighbours of which are neighbours in a run of the text, and an only
unit is a run of the text.
-/
def TrimmedStands (phrase : List Char) : Prop :=
  let trimmed := trimFtsTerm unicode phrase
  let units := graphemeishUnits trimmed
  trimmed.any unicode.isAlphanumeric = false
  ∨ (units ≠ []
    ∧ (∀ unit ∈ units, units = [unit] → unit ∈ gramRuns unicode text)
    ∧ ∀ pair ∈ neighbours units, NeighboursIn unicode text pair)

instance (pair : List Char × List Char) : Decidable (NeighboursIn unicode text pair) :=
  inferInstanceAs
    (Decidable (∃ run ∈ gramRuns unicode text, pair ∈ neighbours (graphemeishUnits run)))

instance (phrase : List Char) : Decidable (TrimmedStands unicode text phrase) :=
  inferInstanceAs (Decidable (_ ∨ _))

variable {unicode text}

/-- A gram that indexes a text is one of its gram runs, or the gram of two neighbouring units. -/
theorem mem_indexTerms_iff_of_script {term : List Char} (script : GramText unicode term)
    : term ∈ generatedIndexTerms unicode text
      ↔ term ∈ gramRuns unicode text
        ∨ ∃ pair, NeighboursIn unicode text pair ∧ term = pair.1 ++ pair.2 := by
  rw [mem_generatedIndexTerms]
  constructor
  · rintro (⟨run, member, rfl | gram⟩ | ⟨member, -⟩)
    · exact .inl member
    · obtain ⟨pair, inside, rfl⟩ := List.mem_map.mp gram
      exact .inr ⟨pair, ⟨run, member, inside⟩, rfl⟩
    · obtain ⟨first, rest, rfl, here, -⟩ := isRun_of_mem_runs member
      rcases script first List.mem_cons_self with there | there
      · rw [here] at there
        cases there
      · rw [← @fromChar_eq_mark unicode, here] at there
        cases there
  · rintro (member | ⟨pair, ⟨run, member, inside⟩, rfl⟩)
    · exact .inl ⟨term, member, .inl rfl⟩
    · exact .inl ⟨run, member, .inr (List.mem_map.mpr ⟨pair, inside, rfl⟩)⟩

/-- A unit is an index term where it is a run: a gram has two units. -/
theorem unit_mem_indexTerms_iff {unit : List Char} (script : GramText unicode unit)
    (alone : graphemeishUnits unit = [unit])
    : unit ∈ generatedIndexTerms unicode text ↔ unit ∈ gramRuns unicode text := by
  rw [mem_indexTerms_iff_of_script script, or_iff_left_iff_imp]
  rintro ⟨pair, ⟨run, -, inside⟩, rfl⟩
  rw [units_of_neighbours inside] at alone
  simp at alone

/-- A gram is an index term where its units are neighbours in a run. -/
theorem gram_mem_indexTerms_iff {left right : List Char} (script : GramText unicode (left ++ right))
    (units : graphemeishUnits (left ++ right) = [left, right])
    : left ++ right ∈ generatedIndexTerms unicode text ↔ NeighboursIn unicode text (left, right) := by
  rw [mem_indexTerms_iff_of_script script]
  constructor
  · rintro (member | ⟨pair, ⟨run, member, inside⟩, same⟩)
    · exact ⟨_, member, by simp [units, neighbours]⟩
    · rw [same, units_of_neighbours inside] at units
      obtain ⟨rfl, rest⟩ := List.cons.inj units
      obtain ⟨rfl, -⟩ := List.cons.inj rest
      exact ⟨run, member, inside⟩
  · intro known
    exact .inr ⟨(left, right), known, rfl⟩

/-- A phrase of whole units, copied out of a run that the text is indexed by, asks only for terms
that index the text just if what trimming leaves of it stands in the text as well.
-/
theorem pieceTerms_indexed_iff {run : List Char} {piece : List (List Char)}
    (indexed : run ∈ gramRuns unicode text) (inside : piece <:+: graphemeishUnits run)
    : (∀ term ∈ generatedQueryTerms unicode piece.flatten,
        term ∈ generatedIndexTerms unicode text)
      ↔ TrimmedStands unicode text piece.flatten := by
  have script : GramText unicode piece.flatten :=
    (isRun_of_mem_runs (mem_gramRuns.mp indexed)).gramText.units inside
  unfold TrimmedStands
  cases piece with
  | nil => simp [generatedQueryTerms, containsGrammedScript, trimFtsTerm, strip]
  | cons unit rest =>
      have grammed : containsGrammedScript (unit :: rest).flatten = true :=
        script.grammed (by rw [units_of_isInfix inside]; exact List.cons_ne_nil _ _)
      generalize phrase : (unit :: rest).flatten = copied at *
      simp only [script.mem_generatedQueryTerms grammed]
      cases visible : (trimFtsTerm unicode copied).any unicode.isAlphanumeric with
      | false => simp
      | true =>
          simp only [true_and, Bool.true_eq_false, false_or]
          constructor
          · intro found
            refine ⟨fun none => ?_, fun unit _ alone => ?_, fun pair member => ?_⟩
            · -- Marks alone are asked for as they are, and no index term starts with a mark.
              obtain ⟨ch, more, same, apart⟩ :=
                head_of_mem_indexTerms (found _ (.inl ⟨none, rfl⟩))
              have attached := units_eq_nil_iff.mp none ch (by rw [same]; exact List.mem_cons_self)
              rw [apart] at attached
              cases attached
            · have within : [unit] <:+: graphemeishUnits (trimFtsTerm unicode copied) := by
                rw [alone]
              have own := units_of_isInfix within
              have scripted := script.trimmed.units within
              rw [List.flatten_singleton] at own scripted
              exact (unit_mem_indexTerms_iff scripted own).mp (found unit (.inr (.inl alone)))
            · obtain ⟨left, right⟩ := pair
              have scripted := script.trimmed.units (mem_neighbours.mp member)
              have term := found (left ++ right) (.inr (.inr ⟨(left, right), member, rfl⟩))
              refine (gram_mem_indexTerms_iff ?_ (units_of_neighbours member)).mp term
              simpa using scripted
          · rintro ⟨some', alone, pairs⟩ term (⟨none, -⟩ | single | ⟨⟨left, right⟩, member, rfl⟩)
            · exact absurd none some'
            · have member := alone term (by rw [single]; exact List.mem_singleton_self _) single
              exact (mem_indexTerms_iff_of_script
                (isRun_of_mem_runs (mem_gramRuns.mp member)).gramText).mpr (.inl member)
            · have scripted := script.trimmed.units (mem_neighbours.mp member)
              refine (gram_mem_indexTerms_iff ?_ (units_of_neighbours member)).mpr (pairs _ member)
              simpa using scripted

end Pieces

/-- The letters and digits of Thai; a tone mark is neither. -/
def thaiUnicode : Unicode where
  isAlphanumeric ch :=
    inRanges ch.toNat [(0x0E01, 0x0E3A), (0x0E40, 0x0E46), (0x0E4D, 0x0E4D), (0x0E50, 0x0E59)]
  toLowercase text := text

-- A word that ends in a tone mark, asked for as a whole: the term has lost the mark.
example
    : "ไม\u0E48".toList ∈ gramRuns thaiUnicode "ไม\u0E48".toList
      ∧ ¬ TrimmedStands thaiUnicode "ไม\u0E48".toList "ไม\u0E48".toList := by
  decide +kernel

end CtxRemote.Store
