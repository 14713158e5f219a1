import CtxRemote.Config.SectionAgreement
import CtxRemote.Library.Chains

/-! Where `set_toml_section_value` finds its section and its key in a text, and for which texts the edit
agrees with the parser.
-/

namespace CtxRemote.Config
open CtxRemote.Library
open CtxRemote.Turso (trim splitOnce isWhitespace)

-----------------------------------------------------------------------------------------
-- Places
-----------------------------------------------------------------------------------------

/-- A line with the lines before it. -/
abbrev LineAt : Type := List (List Char) × List Char

def linesFrom (before : List (List Char)) : List (List Char) → List LineAt
  | [] => []
  | raw :: rest => (before, raw) :: linesFrom (before ++ [raw]) rest

/-- The lines of a text, each with those before it. -/
def linesAt (all : List (List Char)) : List LineAt := linesFrom [] all

/-- The section that the parser is in behind some lines. -/
def sectionBehind (before : List (List Char)) : List Char := before.foldl behind []

section Places

variable (sectionName key : List Char)

/-- A line that the editor takes for a header, with its comment. -/
def inBrackets (raw : List Char) : Bool := isHeader (trim raw)

/-- Behind some lines the editor is in a part of the section: the last of them in brackets is spelled as
the section's header.
-/
def inPart (before : List (List Char)) : Bool :=
  (before.filter inBrackets).getLast?.any (opensExactly sectionName)

/-- The editor overwrites a line of a part that begins with the key and a blank, or the key and `=`. -/
def isOverwritten (here : LineAt) : Bool := inPart sectionName here.1 && startsWithKey key (trim here.2)

/-- The lines that the editor overwrites. -/
def overwrittenLines (all : List (List Char)) : List LineAt := (linesAt all).filter (isOverwritten sectionName key)

/-- The lines up to the end of the first part. -/
def throughFirstPart (all : List (List Char)) : List (List Char) :=
  uptoBlock (opensExactly sectionName) all
  ++ firstBlock (opensExactly sectionName) inBrackets all

/-- The key itself in the section of a line, next to the key that the line sets. -/
def keysAt (here : LineAt) : List (List Char × List Char) :=
  (entryOf (sectionBehind here.1) here.2).toList.map fun pair =>
    (fullKey (sectionBehind here.1) key, pair.1)

/-- The same of the overwritten lines that set another key. -/
def otherKeys (all : List (List Char)) : List (List Char × List Char) :=
  ((overwrittenLines sectionName key all).flatMap (keysAt key)).filter fun keys => keys.1 ≠ keys.2

end Places

/-- What a text has to be for the edit of a value to agree with the parser. -/
structure SectionEditHolds (sectionName key value text : List Char) : Prop where
  inFirst
    : fullKey sectionName key ∈ (entries [] (lines text)).map Prod.fst
      ↔ overwrittenLines sectionName key (throughFirstPart sectionName (lines text)) ≠ []
  spelled
    : fullKey sectionName key ∈ (entries [] (lines text)).map Prod.fst
      → otherKeys sectionName key (lines text) = []
  leads
    : (lines text).any (opensExactly sectionName) = true
      → overwrittenLines sectionName key (throughFirstPart sectionName (lines text)) = []
      → Leads (fullKey sectionName key)
          (fullKey (sectionBehind (throughFirstPart sectionName (lines text))) key)
          (otherKeys sectionName key (lines text))
  overwritten
    : ∀ here ∈ overwrittenLines sectionName key (lines text),
        ∀ pair ∈ entryOf (sectionBehind here.1) here.2,
          pair.1 = fullKey sectionName key ∨ pair.2 = value
  kept
    : ∀ here ∈ linesAt (lines text), isOverwritten sectionName key here = false
      → ∀ pair ∈ entryOf (sectionBehind here.1) here.2,
          pair.1 = fullKey sectionName key → pair.2 = value
  returns
    : ∀ here ∈ linesAt (lines text), isOverwritten sectionName key here = false
      → here.2.getLast? ≠ some '\r'

-----------------------------------------------------------------------------------------
-- The walk along the lines
-----------------------------------------------------------------------------------------

theorem linesFrom_append (before front rest : List (List Char))
    : linesFrom before (front ++ rest) = linesFrom before front ++ linesFrom (before ++ front) rest := by
  induction front generalizing before with
  | nil => simp [linesFrom]
  | cons raw front ih => simp [linesFrom, ih]

theorem sectionBehind_concat (before : List (List Char)) (raw : List Char)
    : sectionBehind (before ++ [raw]) = behind (sectionBehind before) raw := by
  rw [sectionBehind, List.foldl_append]
  rfl

section Walk

variable (sectionName key : List Char)

theorem inPart_concat (before : List (List Char)) (raw : List Char)
    : inPart sectionName (before ++ [raw])
      = if inBrackets raw then opensExactly sectionName raw else inPart sectionName before := by
  unfold inPart
  rw [List.filter_append]
  split <;> simp [*]

theorem inPart_append_plain {before part : List (List Char)}
    (plain : ∀ raw ∈ part, inBrackets raw = false)
    : inPart sectionName (before ++ part) = inPart sectionName before := by
  unfold inPart
  have none : part.filter inBrackets = [] :=
    List.filter_eq_nil_iff.mpr fun raw member => by simp [plain raw member]
  rw [List.filter_append, none, List.append_nil]

theorem writeLines_cons (inSection wroteKey : Bool) (raw : List Char) (rest : List (List Char))
    : writeLines sectionName key inSection wroteKey (raw :: rest)
      = if inBrackets raw then
          addition inSection wroteKey
            ++ .kept raw
              :: writeLines sectionName key (opensExactly sectionName raw) (wroteKey || inSection) rest
        else if inSection && startsWithKey key (trim raw) then
          .replaced raw :: writeLines sectionName key true true rest
        else .kept raw :: writeLines sectionName key inSection wroteKey rest := by
  rw [writeLines]
  rfl

/-- What the editor makes of a line, but for what it adds. -/
def writtenAt (here : LineAt) : Written :=
  if isOverwritten sectionName key here then .replaced here.2 else .kept here.2

end Walk

variable {sectionName key value : List Char} (marked : Marked sectionName key value)

include marked

theorem isOverwritten_header (before : List (List Char)) {raw : List Char} (header : inBrackets raw = true)
    : isOverwritten sectionName key (before, raw) = false := by
  rw [Bool.eq_false_iff]
  intro here
  have plain : inBrackets raw = false :=
    isHeader_of_startsWithKey marked ((Bool.and_eq_true _ _).mp here).2
  rw [plain] at header
  cases header

/-- Once it has written the key, the editor adds nothing. -/
theorem writeLines_true (before rest : List (List Char))
    : writeLines sectionName key (inPart sectionName before) true rest
      = (linesFrom before rest).map (writtenAt sectionName key) := by
  induction rest generalizing before with
  | nil => simp [writeLines, addition, linesFrom]
  | cons raw rest ih =>
      have later := ih (before ++ [raw])
      rw [inPart_concat] at later
      rw [writeLines_cons, linesFrom, List.map_cons, ← later]
      by_cases header : inBrackets raw = true
      · rw [if_pos header, if_pos header, writtenAt, isOverwritten_header marked before header]
        simp [addition, opensExactly]
      · rw [if_neg header, if_neg header]
        by_cases sets : (inPart sectionName before && startsWithKey key (trim raw)) = true
        · have inside := ((Bool.and_eq_true _ _).mp sets).1
          rw [if_pos sets, inside]
          have here : isOverwritten sectionName key (before, raw) = true := sets
          rw [writtenAt, here]
          rfl
        · have here : isOverwritten sectionName key (before, raw) = false := Bool.eq_false_iff.mpr sets
          rw [if_neg sets, writtenAt, here]
          rfl

/-- In a part, the editor adds the key behind lines of which it overwrites none. -/
theorem writeLines_part {before part : List (List Char)} (inside : inPart sectionName before = true)
    (plain : ∀ raw ∈ part, inBrackets raw = false) (rest : List (List Char))
    : writeLines sectionName key true false (part ++ rest)
      = (linesFrom before part).map (writtenAt sectionName key)
        ++ writeLines sectionName key true
          ((linesFrom before part).any (isOverwritten sectionName key)) rest := by
  induction part generalizing before with
  | nil => rfl
  | cons raw part ih =>
      obtain ⟨here, later⟩ := List.forall_mem_cons.mp plain
      have still : inPart sectionName (before ++ [raw]) = true := by
        rw [inPart_concat, here]
        exact inside
      rw [List.cons_append, writeLines_cons, here, if_neg Bool.false_ne_true, Bool.true_and, linesFrom,
        List.map_cons, List.any_cons]
      by_cases sets : startsWithKey key (trim raw) = true
      · have overwritten : isOverwritten sectionName key (before, raw) = true := by
          rw [isOverwritten, inside, sets]
          rfl
        have walked := writeLines_true marked (before ++ [raw]) (part ++ rest)
        have behind := writeLines_true marked (before ++ [raw] ++ part) rest
        rw [still] at walked
        rw [inPart_append_plain sectionName later, still] at behind
        rw [if_pos sets, overwritten, Bool.true_or, walked, linesFrom_append, List.map_append, ← behind,
          writtenAt, overwritten]
        rfl
      · have kept : isOverwritten sectionName key (before, raw) = false := by
          rw [isOverwritten, inside, Bool.eq_false_iff.mpr sets]
          rfl
        rw [if_neg sets, kept, Bool.false_or, ih still later, writtenAt, kept]
        rfl

/-- What the editor adds at the end of the first part. -/
def addedLine (sectionName key : List Char) (all : List (List Char)) : List Written :=
  if all.any (opensExactly sectionName)
      && (overwrittenLines sectionName key (throughFirstPart sectionName all)).isEmpty then [.added]
  else []

omit marked in
theorem inPart_of_none {before : List (List Char)}
    (closed : ∀ raw ∈ before, opensExactly sectionName raw = false)
    : inPart sectionName before = false := by
  unfold inPart
  rw [Bool.eq_false_iff]
  intro inside
  obtain ⟨raw, last, opens⟩ := (Option.any_eq_true _ _).mp inside
  rw [closed raw (List.mem_of_mem_filter (List.mem_of_getLast? last))] at opens
  cases opens

omit marked in
/-- No line is overwritten before the section is opened. -/
theorem overwritten_of_none {before rest : List (List Char)}
    (closed : ∀ raw ∈ before ++ rest, opensExactly sectionName raw = false)
    : (linesFrom before rest).any (isOverwritten sectionName key) = false := by
  induction rest generalizing before with
  | nil => rfl
  | cons raw rest ih =>
      have later : ∀ line ∈ before ++ [raw] ++ rest, opensExactly sectionName line = false := by
        rwa [List.append_assoc]
      have outside : inPart sectionName before = false :=
        inPart_of_none fun line member => closed line (List.mem_append_left _ member)
      rw [linesFrom, List.any_cons, ih later, isOverwritten, outside]
      rfl

omit marked in
theorem isEmpty_overwrittenLines (all : List (List Char))
    : (overwrittenLines sectionName key all).isEmpty
      = !(linesAt all).any (isOverwritten sectionName key) := by
  rw [Bool.eq_iff_iff, overwrittenLines, List.isEmpty_iff, List.filter_eq_nil_iff, Bool.not_eq_true',
    List.any_eq_false]

omit marked in
/-- Behind a part the editor adds the key, unless it has overwritten a line. -/
theorem writeLines_beyond {rest : List (List Char)}
    (ends : rest = [] ∨ ∃ header more, rest = header :: more ∧ inBrackets header = true) (wroteKey : Bool)
    : writeLines sectionName key true wroteKey rest
      = (if wroteKey then [] else [.added]) ++ writeLines sectionName key true true rest := by
  rcases ends with rfl | ⟨header, more, rfl, bracket⟩
  · cases wroteKey <;> rfl
  · rw [writeLines_cons, writeLines_cons, if_pos bracket, if_pos bracket]
    cases wroteKey <;> rfl

/-- The editor makes of the lines what it makes of each by itself, but for the line that it adds. -/
theorem writtenLines_eq (all : List (List Char))
    : writeLines sectionName key false false all
      = (linesAt (throughFirstPart sectionName all)).map (writtenAt sectionName key)
        ++ addedLine sectionName key all
        ++ (linesFrom (throughFirstPart sectionName all)
              (beyondBlock (opensExactly sectionName) inBrackets all)).map
            (writtenAt sectionName key) := by
  have parts := block_parts (opensExactly sectionName) inBrackets all
  by_cases opened : all.any (opensExactly sectionName) = true
  · obtain ⟨front, opener, upto, opens, closed⟩ := uptoBlock_of_any (List.any_eq_true.mp opened)
    have beyond := @beyondBlock_cases _ (opensExactly sectionName) inBrackets all
    have plain : ∀ raw ∈ firstBlock (opensExactly sectionName) inBrackets all, inBrackets raw = false :=
      fun raw member => ends_of_mem_firstBlock member
    unfold addedLine throughFirstPart
    rw [isEmpty_overwrittenLines, upto]
    rw [upto] at parts
    generalize firstBlock (opensExactly sectionName) inBrackets all = part at parts plain ⊢
    generalize beyondBlock (opensExactly sectionName) inBrackets all = rest at parts beyond ⊢
    have header : inBrackets opener = true := isHeader_of_opensExactly opens
    have inside : inPart sectionName (front ++ [opener]) = true := by
      rw [inPart_concat, if_pos header, opens]
    have begins : (linesAt (front ++ [opener])).map (writtenAt sectionName key)
        = front.map Written.kept ++ [.kept opener] := by
      have walked := writeLines_true marked [] (front ++ [opener])
      have first : inPart sectionName [] = false := rfl
      rw [first, writeLines_front closed, writeLines_cons, if_pos header, opens] at walked
      exact walked.symm
    have none : (linesAt (front ++ [opener])).any (isOverwritten sectionName key) = false := by
      have before := @overwritten_of_none sectionName key [] front closed
      rw [linesAt, linesFrom_append, List.any_append, before, List.nil_append]
      simp [linesFrom, isOverwritten_header marked front header]
    have ends : writeLines sectionName key true true rest
        = (linesFrom (front ++ [opener] ++ part) rest).map (writtenAt sectionName key) := by
      rw [← writeLines_true marked, inPart_append_plain sectionName plain, inside]
    have through : linesAt (front ++ [opener] ++ part)
        = linesAt (front ++ [opener]) ++ linesFrom (front ++ [opener]) part :=
      linesFrom_append [] _ _
    rw [through, List.map_append, begins, List.any_append, none, Bool.false_or, ← ends, opened, ← parts,
      List.append_assoc front, writeLines_front closed, List.singleton_append, writeLines_cons, if_pos header,
      opens, Bool.false_or, writeLines_part marked inside plain, writeLines_beyond beyond]
    cases (linesFrom (front ++ [opener]) part).any (isOverwritten sectionName key) <;> simp [addition]
  · rw [Bool.not_eq_true] at opened
    have closed : ∀ raw ∈ all, opensExactly sectionName raw = false := by simpa using opened
    obtain ⟨upto, first, beyond⟩ := @uptoBlock_of_none _ (opensExactly sectionName) inBrackets all closed
    have through : throughFirstPart sectionName all = all := by
      rw [throughFirstPart, upto, first, List.append_nil]
    have walked := writeLines_true marked [] all
    have outside : inPart sectionName [] = false := rfl
    have front (wroteKey : Bool) := @writeLines_front sectionName key all closed wroteKey []
    rw [List.append_nil] at front
    rw [outside, front true] at walked
    rw [through, beyond, addedLine, opened, front false]
    change _ = (linesFrom [] all).map _ ++ [] ++ []
    rw [← walked]
    simp [writeLines, addition]

-----------------------------------------------------------------------------------------
-- The keys of overwritten lines
-----------------------------------------------------------------------------------------

omit marked in
theorem splitOnce_append {word : List Char} (plain : ∀ c ∈ word, c ≠ '=') (rest : List Char)
    : splitOnce '=' (word ++ rest)
      = (splitOnce '=' rest).map fun parts => (word ++ parts.1, parts.2) := by
  induction word with
  | nil => simp
  | cons c word ih =>
      obtain ⟨here, later⟩ := List.forall_mem_cons.mp plain
      rw [List.cons_append, splitOnce, if_neg here, ih later, Option.map_map]
      rfl

/-- A word that a line begins with stays in front of what is left of it. -/
theorem trim_key_append (rest : List Char) : ∃ tail, trim (key ++ rest) = key ++ tail := by
  obtain ⟨c, more, rfl, -⟩ := marked.first
  obtain ⟨last, ends⟩ := Option.isSome_iff_exists.mp (by simp : (c :: more).getLast?.isSome)
  refine ⟨_, strip_append rest rfl (marked.word c (.head _)).2.1 ends ?_⟩
  exact (marked.word last (List.mem_of_getLast? ends)).2.1

/-- A line that begins with the key sets one that begins with it. -/
theorem key_isPrefix {raw found text : List Char} (starts : startsWithKey key (trim raw) = true)
    (item : itemOf raw = .entry found text)
    : key <+: found := by
  have begins : key <+: trim raw := by
    rcases (Bool.or_eq_true _ _).mp starts with spaced | equals
    · exact (List.prefix_append _ _).trans (List.isPrefixOf_iff_prefix.mp spaced)
    · exact (List.prefix_append _ _).trans (List.isPrefixOf_iff_prefix.mp equals)
  obtain ⟨tail, left⟩ := begins
  obtain ⟨lead, trail, whole, blank⟩ := exists_trim raw
  have kept : trim (stripComment raw) = trim (key ++ stripCommentFrom .plain (tail ++ trail)) := by
    conv_lhs => rw [whole]
    rw [stripComment, stripCommentFrom_append fun c member => isPlain_of_isWhitespace (blank c member),
      ← left, List.append_assoc, stripCommentFrom_append fun c member => (marked.word c member).1]
    exact strip_unwanted_append blank _
  obtain ⟨rest, same⟩ := trim_key_append marked (stripCommentFrom .plain (tail ++ trail))
  rw [same] at kept
  unfold itemOf at item
  dsimp only at item
  rw [kept] at item
  split at item
  next => cases item
  next =>
    split at item
    next => split at item <;> (try split at item) <;> cases item
    next =>
      rw [splitOnce_append fun c member => (marked.word c member).2.2] at item
      cases cut : splitOnce '=' rest with
      | none =>
          rw [cut] at item
          cases item
      | some parts =>
          rw [cut] at item
          dsimp only [Option.map_some] at item
          split at item
          · cases item
          · obtain ⟨same, -⟩ := Item.entry.inj item
            obtain ⟨more, front⟩ := trim_key_append marked parts.1
            rw [← same, front]
            exact List.prefix_append _ _

omit marked in
theorem length_fullKey_lt {sectionName key found : List Char} (begins : key <+: found) (other : key ≠ found)
    : (fullKey sectionName key).length < (fullKey sectionName found).length := by
  have shorter : key.length < found.length :=
    lt_of_le_of_ne begins.length_le fun same => other (begins.eq_of_length same)
  unfold fullKey
  split
  · exact shorter
  · simpa using shorter

/-- Where an overwritten line sets another key, that is longer than the key itself would be. -/
theorem longer_otherKeys (all : List (List Char))
    : ∀ keys ∈ otherKeys sectionName key all, keys.1.length < keys.2.length := by
  intro keys member
  obtain ⟨inside, other⟩ := List.mem_filter.mp member
  obtain ⟨here, overwritten, set⟩ := List.mem_flatMap.mp inside
  obtain ⟨pair, said, rfl⟩ := List.mem_map.mp set
  obtain ⟨-, starts⟩ := (Bool.and_eq_true _ _).mp (List.mem_filter.mp overwritten).2
  have entry := Option.mem_toList.mp said
  unfold entryOf at entry
  split at entry
  next found text item =>
    obtain rfl := Option.some.inj entry
    refine length_fullKey_lt (key_isPrefix marked starts item) fun same => ?_
    subst same
    simp at other
  next => cases entry

-----------------------------------------------------------------------------------------
-- What the lines set
-----------------------------------------------------------------------------------------

omit marked in
theorem flatMap_filter_eq {α β : Type} (keep : α → Bool) (f : α → List β) (xs : List α)
    : (xs.filter keep).flatMap f = xs.flatMap fun x => if keep x then f x else [] := by
  induction xs with
  | nil => rfl
  | cons x xs ih =>
      rw [List.filter_cons, List.flatMap_cons]
      split
      next kept => rw [List.flatMap_cons, ih]
      next => rw [ih, List.nil_append]

omit marked in
/-- What there is to take of the lines is taken of each in the section that the parser is in there. -/
theorem gather_written (take : List Char → Written → List (List Char × List Char))
    {before rest : List (List Char)}
    (found
      : ∀ here ∈ linesFrom before rest, isOverwritten sectionName key here = true
        → ∃ key value, itemOf here.2 = .entry key value)
    (more : List Written)
    : gather take (sectionBehind before)
          ((linesFrom before rest).map (writtenAt sectionName key) ++ more)
        = (linesFrom before rest).flatMap
              (fun here => take (sectionBehind here.1) (writtenAt sectionName key here))
          ++ gather take (sectionBehind (before ++ rest)) more := by
  induction rest generalizing before with
  | nil => rw [List.append_nil]; rfl
  | cons raw rest ih =>
      obtain ⟨here, later⟩ := List.forall_mem_cons.mp found
      have next : (writtenAt sectionName key (before, raw)).behind (sectionBehind before)
          = sectionBehind (before ++ [raw]) := by
        rw [sectionBehind_concat, writtenAt]
        split
        next overwritten =>
          obtain ⟨key, value, item⟩ := here overwritten
          rw [behind, item]
          rfl
        next => rfl
      rw [linesFrom, List.map_cons, List.cons_append, gather, next, ih later, List.flatMap_cons,
        List.append_assoc, List.append_assoc]
      rfl

section Text

variable {text : List Char} (valid : ∀ line ∈ lines text, itemOf line ≠ .invalid)

omit marked in
theorem mem_linesFrom {before rest : List (List Char)} {here : LineAt} (member : here ∈ linesFrom before rest)
    : here.2 ∈ rest := by
  induction rest generalizing before with
  | nil => cases member
  | cons raw rest ih =>
      rcases List.mem_cons.mp member with rfl | later
      · exact .head _
      · exact .tail _ (ih later)

include valid in
/-- An overwritten line sets a key. -/
theorem itemOf_of_isOverwritten {here : LineAt} (member : here ∈ linesAt (lines text))
    (overwritten : isOverwritten sectionName key here = true)
    : ∃ key value, itemOf here.2 = .entry key value :=
  itemOf_of_startsWithKey marked (valid _ (mem_linesFrom member)) ((Bool.and_eq_true _ _).mp overwritten).2

omit marked in
theorem linesAt_parts (sectionName : List Char) (all : List (List Char))
    : linesAt all
      = linesAt (throughFirstPart sectionName all)
        ++ linesFrom (throughFirstPart sectionName all)
            (beyondBlock (opensExactly sectionName) inBrackets all) := by
  have parts := block_parts (opensExactly sectionName) inBrackets all
  rw [← List.append_assoc] at parts
  conv_lhs => rw [← parts]
  exact linesFrom_append [] _ _

include valid in
/-- What there is to take of the lines of the result. -/
theorem gather_writtenLines (take : List Char → Written → List (List Char × List Char))
    : (gather take [] (writtenLines sectionName key text)).Perm
        ((linesAt (lines text)).flatMap
            (fun here => take (sectionBehind here.1) (writtenAt sectionName key here))
          ++ (addedLine sectionName key (lines text)).flatMap
            (take (sectionBehind (throughFirstPart sectionName (lines text))))) := by
  have found := fun here => @itemOf_of_isOverwritten _ _ _ marked text valid here
  have parts := linesAt_parts sectionName (lines text)
  rw [writtenLines, writtenLines_eq marked]
  rw [parts] at found ⊢
  generalize throughFirstPart sectionName (lines text) = through at found ⊢
  generalize beyondBlock (opensExactly sectionName) inBrackets (lines text) = beyond at found ⊢
  have added : ∀ more,
      gather take (sectionBehind through) (addedLine sectionName key (lines text) ++ more)
        = (addedLine sectionName key (lines text)).flatMap (take (sectionBehind through))
          ++ gather take (sectionBehind through) more := by
    intro more
    unfold addedLine
    split
    · rw [List.flatMap_singleton]
      rfl
    · rfl
  have first := @gather_written sectionName key take [] through
    (fun here member => found here (List.mem_append_left _ member))
  have second := @gather_written sectionName key take through beyond
    (fun here member => found here (List.mem_append_right _ member)) []
  rw [List.append_nil] at second
  rw [List.append_assoc]
  refine (List.Perm.of_eq (first _)).trans ?_
  rw [List.nil_append, added, second, List.flatMap_append, List.append_assoc]
  have none : gather take (sectionBehind (through ++ beyond)) [] = [] := rfl
  rw [none, List.append_nil]
  exact List.Perm.append_left _ List.perm_append_comm

include valid in
/-- What the edit overwrites. -/
theorem overwrittenEntries_perm
    : (overwrittenEntries sectionName key text).Perm
        ((overwrittenLines sectionName key (lines text)).flatMap fun here =>
          (entryOf (sectionBehind here.1) here.2).toList) := by
  refine (gather_writtenLines marked valid overwrittenEntry).trans (List.Perm.of_eq ?_)
  have none : (addedLine sectionName key (lines text)).flatMap
      (overwrittenEntry (sectionBehind (throughFirstPart sectionName (lines text)))) = [] := by
    unfold addedLine
    split <;> rfl
  rw [none, List.append_nil, overwrittenLines, flatMap_filter_eq]
  refine List.flatMap_congr fun here _ => ?_
  unfold writtenAt
  split <;> rfl

include valid in
theorem keptEntries_perm
    : (keptEntries sectionName key text).Perm
        (((linesAt (lines text)).filter fun here => !isOverwritten sectionName key here).flatMap fun here =>
          (entryOf (sectionBehind here.1) here.2).toList) := by
  refine (gather_writtenLines marked valid keptEntry).trans (List.Perm.of_eq ?_)
  have none : (addedLine sectionName key (lines text)).flatMap
      (keptEntry (sectionBehind (throughFirstPart sectionName (lines text)))) = [] := by
    unfold addedLine
    split <;> rfl
  rw [none, List.append_nil, flatMap_filter_eq]
  refine List.flatMap_congr fun here _ => ?_
  unfold writtenAt
  cases isOverwritten sectionName key here <;> rfl

omit marked in
/-- What the editor sets besides what it overwrites. -/
def addedKeys (sectionName key : List Char) (all : List (List Char)) : List (List Char) :=
  if all.any (opensExactly sectionName) then
    if (overwrittenLines sectionName key (throughFirstPart sectionName all)).isEmpty then
      [fullKey (sectionBehind (throughFirstPart sectionName all)) key]
    else []
  else [fullKey sectionName key]

include valid in
theorem writtenEntries_perm
    : ((writtenEntries sectionName key value text).map Prod.fst).Perm
        ((overwrittenLines sectionName key (lines text)).map
            (fun here => fullKey (sectionBehind here.1) key)
          ++ addedKeys sectionName key (lines text)) := by
  have walked := (gather_writtenLines marked valid (writtenEntry key value)).map Prod.fst
  rw [writtenEntries, List.map_append]
  refine (walked.append_right _).trans (List.Perm.of_eq ?_)
  have overwritten
      : ((linesAt (lines text)).flatMap fun here =>
            writtenEntry key value (sectionBehind here.1) (writtenAt sectionName key here)).map Prod.fst
        = (overwrittenLines sectionName key (lines text)).map
            fun here => fullKey (sectionBehind here.1) key := by
    have each (l : List LineAt)
        : l.map (fun here => fullKey (sectionBehind here.1) key)
          = l.flatMap fun here => [fullKey (sectionBehind here.1) key] :=
      List.map_eq_flatMap
    rw [each, overwrittenLines, flatMap_filter_eq, List.map_flatMap]
    refine List.flatMap_congr fun here _ => ?_
    unfold writtenAt
    split <;> rfl
  rw [List.map_append, overwritten, List.append_assoc]
  refine congrArg _ ?_
  unfold addedLine addedKeys
  cases (lines text).any (opensExactly sectionName)
  · rfl
  · cases (overwrittenLines sectionName key (throughFirstPart sectionName (lines text))).isEmpty <;> rfl

include valid in
/-- The keys that the edit writes and overwrites are the two sides of the overwritten lines' keys. -/
theorem keysAt_sides
    : ((overwrittenLines sectionName key (lines text)).flatMap (keysAt key)).map Prod.fst
          = (overwrittenLines sectionName key (lines text)).map
              (fun here => fullKey (sectionBehind here.1) key)
        ∧ ((overwrittenLines sectionName key (lines text)).flatMap (keysAt key)).map Prod.snd
          = ((overwrittenLines sectionName key (lines text)).flatMap fun here =>
              (entryOf (sectionBehind here.1) here.2).toList).map Prod.fst := by
  have found : ∀ here ∈ overwrittenLines sectionName key (lines text),
      ∃ key value, itemOf here.2 = .entry key value := by
    intro here member
    obtain ⟨inside, overwritten⟩ := List.mem_filter.mp member
    exact itemOf_of_isOverwritten marked valid inside overwritten
  constructor
  · rw [List.map_flatMap, List.map_eq_flatMap]
    refine List.flatMap_congr fun here member => ?_
    obtain ⟨key, value, item⟩ := found here member
    rw [keysAt, entryOf, item]
    rfl
  · rw [List.map_flatMap, List.map_flatMap]
    refine List.flatMap_congr fun here _ => ?_
    rw [keysAt, List.map_map]
    rfl

omit marked in
/-- Where no line opens the section, none is overwritten. -/
theorem otherKeys_of_closed {all : List (List Char)} (closed : all.any (opensExactly sectionName) = false)
    : otherKeys sectionName key all = []
      ∧ overwrittenLines sectionName key (throughFirstPart sectionName all) = [] := by
  have none : ∀ raw ∈ all, opensExactly sectionName raw = false := by simpa using closed
  obtain ⟨upto, first, -⟩ := @uptoBlock_of_none _ (opensExactly sectionName) inBrackets all none
  have empty : overwrittenLines sectionName key all = [] := by
    rw [← List.isEmpty_iff, isEmpty_overwrittenLines, linesAt, @overwritten_of_none _ _ [] all none]
    rfl
  refine ⟨?_, ?_⟩
  · rw [otherKeys, empty]
    rfl
  · rw [throughFirstPart, upto, first, List.append_nil]
    exact empty

omit marked in
/-- Pairs with two equal sides make no difference to whether the sides agree. -/
theorem sides_perm_iff {α : Type} [DecidableEq α] (pairs : List (α × α)) (left right : List α)
    : (pairs.map Prod.fst ++ left).Perm (pairs.map Prod.snd ++ right)
      ↔ ((pairs.filter fun pair => pair.1 ≠ pair.2).map Prod.fst ++ left).Perm
        ((pairs.filter fun pair => pair.1 ≠ pair.2).map Prod.snd ++ right) := by
  induction pairs generalizing left right with
  | nil => rfl
  | cons pair pairs ih =>
      rw [List.filter_cons]
      by_cases same : pair.1 = pair.2
      · rw [if_neg (by simp [same]), ← ih, List.map_cons, List.map_cons, same]
        exact List.perm_cons _
      · have moved (xs left : List α) (x : α) : (x :: xs ++ left).Perm (xs ++ x :: left) :=
          List.perm_middle.symm
        rw [if_pos (by simp [same]), List.map_cons, List.map_cons, List.map_cons, List.map_cons,
          (moved _ left _).congr_left, (moved _ right _).congr_right, (moved _ left _).congr_left,
          (moved _ right _).congr_right]
        exact ih _ _

include valid in
/-- The edit writes the keys that it overwrites, and the key itself, exactly where the text sets the key in
the first part if at all, and what is overwritten leads from the key to what is added.
-/
theorem written_iff
    : ((writtenEntries sectionName key value text).map Prod.fst).Perm
          ((overwrittenEntries sectionName key text).map Prod.fst
            ++ if fullKey sectionName key ∈ (entries [] (lines text)).map Prod.fst then []
              else [fullKey sectionName key])
        ↔ (fullKey sectionName key ∈ (entries [] (lines text)).map Prod.fst
            ↔ overwrittenLines sectionName key (throughFirstPart sectionName (lines text)) ≠ [])
          ∧ (fullKey sectionName key ∈ (entries [] (lines text)).map Prod.fst
            → otherKeys sectionName key (lines text) = [])
          ∧ ((lines text).any (opensExactly sectionName) = true
            → overwrittenLines sectionName key (throughFirstPart sectionName (lines text)) = []
            → Leads (fullKey sectionName key)
                (fullKey (sectionBehind (throughFirstPart sectionName (lines text))) key)
                (otherKeys sectionName key (lines text))) := by
  obtain ⟨written, overwritten⟩ := keysAt_sides marked valid
  have longer := longer_otherKeys marked (lines text)
  rw [(writtenEntries_perm marked valid).congr_left,
    (((overwrittenEntries_perm marked valid).map Prod.fst).append_right _).congr_right, ← written,
    ← overwritten, sides_perm_iff]
  change ((otherKeys sectionName key (lines text)).map Prod.fst ++ _).Perm
    ((otherKeys sectionName key (lines text)).map Prod.snd ++ _) ↔ _
  have none := fun closed => @otherKeys_of_closed sectionName key (lines text) closed
  have sizes {left right : List (List Char)}
      (same : ((otherKeys sectionName key (lines text)).map Prod.fst ++ left).Perm
        ((otherKeys sectionName key (lines text)).map Prod.snd ++ right))
      : left.length = right.length := by
    simpa using same.length_eq
  generalize otherKeys sectionName key (lines text) = others at longer none sizes ⊢
  unfold addedKeys
  by_cases set : fullKey sectionName key ∈ (entries [] (lines text)).map Prod.fst
  · rw [if_pos set]
    simp only [set, true_iff, true_imp_iff]
    by_cases first : overwrittenLines sectionName key (throughFirstPart sectionName (lines text)) = []
    · refine ⟨fun same => ?_, fun wrong => absurd first wrong.1⟩
      have counts := sizes same
      rw [first] at counts
      split at counts <;> cases counts
    · have opened : (lines text).any (opensExactly sectionName) = true := by
        by_contra closed
        exact first (none (Bool.not_eq_true _ ▸ closed)).2
      rw [if_pos opened, if_neg (mt List.isEmpty_iff.mp first), List.append_nil, List.append_nil]
      constructor
      · intro same
        exact ⟨first, eq_nil_of_perm longer same, fun _ empty => absurd empty first⟩
      · rintro ⟨-, rfl, -⟩
        exact List.Perm.refl _
  · rw [if_neg set]
    simp only [set, false_iff, false_imp_iff, true_and, not_not]
    by_cases opened : (lines text).any (opensExactly sectionName) = true
    · rw [if_pos opened]
      by_cases first : overwrittenLines sectionName key (throughFirstPart sectionName (lines text)) = []
      · rw [if_pos (List.isEmpty_iff.mpr first), (List.perm_append_singleton _ _).congr_right,
          ← leads_iff longer]
        exact ⟨fun leads => ⟨first, fun _ _ => leads⟩, fun holds => holds.2 opened first⟩
      · refine ⟨fun same => ?_, fun wrong => absurd wrong.1 first⟩
        have counts := sizes (if_neg (mt List.isEmpty_iff.mp first) ▸ same)
        cases counts
    · obtain ⟨rfl, first⟩ := none (Bool.not_eq_true _ ▸ opened)
      rw [if_neg opened]
      exact ⟨fun _ => ⟨first, fun wrong => absurd wrong opened⟩, fun _ => List.Perm.refl _⟩

end Text

-----------------------------------------------------------------------------------------
-- The edit
-----------------------------------------------------------------------------------------

/-- The kept lines are those that are not overwritten. -/
theorem kept_mem_iff {text raw : List Char}
    : .kept raw ∈ writtenLines sectionName key text
      ↔ ∃ here ∈ linesAt (lines text), isOverwritten sectionName key here = false ∧ here.2 = raw := by
  have added : Written.kept raw ∉ addedLine sectionName key (lines text) := by
    unfold addedLine
    split <;> simp
  have each (here : LineAt)
      : writtenAt sectionName key here = .kept raw
        ↔ isOverwritten sectionName key here = false ∧ here.2 = raw := by
    unfold writtenAt
    cases isOverwritten sectionName key here <;> simp
  rw [writtenLines, writtenLines_eq marked, linesAt_parts sectionName (lines text)]
  simp only [List.mem_append, List.mem_map, added, or_false, each, ← exists_or, ← or_and_right]

section Edit

variable {text : List Char} {values : ConfigValues} (accepted : parseTomlSubset text = .ok values)

include accepted

theorem sectionEditHolds_iff
    : WritesKey sectionName key value text
          ∧ (∀ raw, .kept raw ∈ writtenLines sectionName key text → raw.getLast? ≠ some '\r')
        ↔ SectionEditHolds sectionName key value text := by
  have valid := valid_lines accepted
  have written := @written_iff sectionName key value marked text valid
  have overwritten (pair : List Char × List Char)
      : pair ∈ overwrittenEntries sectionName key text
        ↔ ∃ here ∈ overwrittenLines sectionName key (lines text),
            pair ∈ entryOf (sectionBehind here.1) here.2 := by
    rw [(overwrittenEntries_perm marked valid).mem_iff, List.mem_flatMap]
    simp only [Option.mem_toList, Option.mem_def]
  have kept (pair : List Char × List Char)
      : pair ∈ keptEntries sectionName key text
        ↔ ∃ here ∈ linesAt (lines text), isOverwritten sectionName key here = false
            ∧ pair ∈ entryOf (sectionBehind here.1) here.2 := by
    rw [(keptEntries_perm marked valid).mem_iff, List.mem_flatMap]
    simp only [Option.mem_toList, Option.mem_def, List.mem_filter, Bool.not_eq_true', and_assoc]
  constructor
  · rintro ⟨⟨keys, values, same⟩, plain⟩
    obtain ⟨inFirst, spelled, leads⟩ := written.mp keys
    exact {
      inFirst := inFirst
      spelled := spelled
      leads := leads
      overwritten := fun here member pair sets => values pair ((overwritten pair).mpr ⟨here, member, sets⟩)
      kept := fun here member free pair sets => same pair ((kept pair).mpr ⟨here, member, free, sets⟩)
      returns := fun here member free =>
        plain here.2 ((kept_mem_iff marked).mpr ⟨here, member, free, rfl⟩)
    }
  · intro holds
    refine ⟨⟨written.mpr ⟨holds.inFirst, holds.spelled, holds.leads⟩, fun pair member => ?_,
      fun pair member => ?_⟩, fun raw member => ?_⟩
    · obtain ⟨here, inside, sets⟩ := (overwritten pair).mp member
      exact holds.overwritten here inside pair sets
    · obtain ⟨here, inside, free, sets⟩ := (kept pair).mp member
      exact holds.kept here inside free pair sets
    · obtain ⟨here, inside, free, rfl⟩ := (kept_mem_iff marked).mp member
      exact holds.returns here inside free

theorem editAgrees_setTomlSectionValue_iff
    : EditAgrees (setTomlSectionValue · sectionName key value) text values (fullKey sectionName key) value
      ↔ SectionEditHolds sectionName key value text := by
  have reads := reads_setTomlSectionValue_iff marked accepted
  have idempotent := @idempotent_setTomlSectionValue_iff sectionName key value marked text
  rw [← sectionEditHolds_iff marked accepted, ← reads, ← idempotent]
  exact ⟨fun agrees => ⟨agrees.reads, agrees.idempotent⟩, fun ⟨read, again⟩ => ⟨read, again⟩⟩

end Edit

omit marked

-----------------------------------------------------------------------------------------
-- Both editors
-----------------------------------------------------------------------------------------

/-- A text with both keys. -/
def plainConfig : List Char :=
  "[daemon]\nenabled = false\n\n[upgrade] \n auto=\"off\" # by hand\n[search]\nlimit = 3\n".toList

end CtxRemote.Config
