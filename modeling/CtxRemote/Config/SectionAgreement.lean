import CtxRemote.Config.SectionEdits

/-! `set_toml_section_value` next to the parser. The editor goes by headers and keys as they are spelled
most often, and the parser by what they say: the edit sets the key that the parser reads where the lines
that it writes set, in the sections in which the parser finds them, what the lines in their place have set
and that key.
-/

namespace CtxRemote.Config
open CtxRemote.Library
open CtxRemote.Turso (trim splitOnce isWhitespace)

-----------------------------------------------------------------------------------------
-- Lines of the key
-----------------------------------------------------------------------------------------

/-- Neither a quote nor the start of a comment. -/
def isPlain (c : Char) : Prop := c ≠ '#' ∧ c ≠ '"' ∧ c ≠ '\''

/-- What stands outside of quotes is kept, up to a comment. -/
theorem stripCommentFrom_append {word : List Char} (plain : ∀ c ∈ word, isPlain c) (rest : List Char)
    : stripCommentFrom .plain (word ++ rest) = word ++ stripCommentFrom .plain rest := by
  induction word with
  | nil => rfl
  | cons c word ih =>
      obtain ⟨sharp, double, single⟩ := plain c (.head _)
      have next : Quoting.plain.next c = .plain := by
        simp [Quoting.next, double, single]
      rw [List.cons_append, stripCommentFrom, next, ih fun c member => plain c (.tail _ member)]
      · rfl
      · exact fun _ => sharp

theorem isPlain_of_isWhitespace {c : Char} (blank : isWhitespace c = true) : isPlain c := by
  refine ⟨?_, ?_, ?_⟩ <;> rintro rfl <;> cases blank

/-- A line is blanks, what is left of it and blanks. -/
theorem exists_trim (raw : List Char)
    : ∃ lead trail, raw = lead ++ (trim raw ++ trail) ∧ ∀ c ∈ lead, isWhitespace c = true := by
  obtain ⟨trail, whole, -⟩ := strip_append_end isWhitespace raw
  exact ⟨_, trail, whole, fun c member => List.mem_takeWhile_imp member⟩

/-- The first character of a line that is not blank is not in a comment, unless it starts one. -/
theorem head?_trim_stripComment {raw : List Char} {c : Char} (starts : (trim raw).head? = some c)
    (plain : c ≠ '#')
    : (trim (stripComment raw)).head? = some c := by
  have wanted : isWhitespace c = false := wanted_of_head?_strip starts
  obtain ⟨lead, trail, whole, blank⟩ := exists_trim raw
  obtain ⟨tail, left⟩ := List.head?_eq_some_iff.mp starts
  rw [left, List.cons_append] at whole
  have kept : stripComment raw
      = lead ++ c :: stripCommentFrom (Quoting.plain.next c) (tail ++ trail) := by
    conv_lhs => rw [whole]
    rw [stripComment, stripCommentFrom_append fun c member => isPlain_of_isWhitespace (blank c member),
      stripCommentFrom]
    exact fun _ => plain
  rw [kept]
  change (strip isWhitespace _).head? = some c
  rw [strip_unwanted_append blank, strip_cons wanted]
  rfl

/-- A key and a value, and a section, in a spelling in which the editor finds what it writes. -/
structure Marked (sectionName key value : List Char) : Prop extends Spelled sectionName key value where
  first : ∃ c rest, key = c :: rest ∧ c ≠ '#' ∧ c ≠ '['
  word : ∀ c ∈ key, isPlain c ∧ isWhitespace c = false ∧ c ≠ '='
  starts : startsWithKey key (trim (keyLine key value)) = true
  trimmed : trim (headerLine sectionName) = headerLine sectionName

variable {sectionName key value : List Char} (marked : Marked sectionName key value)

theorem head?_of_startsWithKey {c : Char} {rest trimmed : List Char}
    (starts : startsWithKey (c :: rest) trimmed = true)
    : trimmed.head? = some c := by
  rcases (Bool.or_eq_true _ _).mp starts with spaced | equals
  · obtain ⟨tail, rfl⟩ := List.isPrefixOf_iff_prefix.mp spaced
    rfl
  · obtain ⟨tail, rfl⟩ := List.isPrefixOf_iff_prefix.mp equals
    rfl

include marked in
theorem isHeader_of_startsWithKey {trimmed : List Char} (starts : startsWithKey key trimmed = true)
    : isHeader trimmed = false := by
  obtain ⟨c, rest, rfl, -, bracket⟩ := marked.first
  rw [isHeader, head?_of_startsWithKey starts]
  simp [bracket]

include marked in
/-- What the editor takes for a line of the key is an entry for the parser. -/
theorem itemOf_of_startsWithKey {raw : List Char} (valid : itemOf raw ≠ .invalid)
    (starts : startsWithKey key (trim raw) = true)
    : ∃ found text, itemOf raw = .entry found text := by
  obtain ⟨c, rest, rfl, sharp, bracket⟩ := marked.first
  have first := head?_trim_stripComment (head?_of_startsWithKey starts) sharp
  unfold itemOf at valid ⊢
  dsimp only at valid ⊢
  have full : (trim (stripComment raw)).isEmpty = false := by
    rw [Bool.eq_false_iff]
    intro empty
    rw [List.isEmpty_iff.mp empty] at first
    cases first
  have plain : (trim (stripComment raw)).head? ≠ some '[' := by
    rw [first]
    exact fun same => bracket (Option.some.inj same)
  rw [full, if_neg Bool.false_ne_true, if_neg plain] at valid ⊢
  cases cut : splitOnce '=' (trim (stripComment raw)) with
  | none => exact absurd (by rw [cut]) valid
  | some parts =>
      rw [cut] at valid
      by_cases unnamed : (trim parts.1).isEmpty = true
      · exact absurd (if_pos unnamed) valid
      · exact ⟨_, _, if_neg unnamed⟩

-----------------------------------------------------------------------------------------
-- What the lines of the result set
-----------------------------------------------------------------------------------------

/-- The section behind a line of the result. -/
def Written.behind (sectionName : List Char) : Written → List Char
  | .kept raw => Config.behind sectionName raw
  | .replaced _ => sectionName
  | .added => sectionName

/-- What there is to take of the lines of the result, each in the section in which it stands. -/
def gather (take : List Char → Written → List (List Char × List Char))
    : List Char → List Written → List (List Char × List Char)
  | _, [] => []
  | sectionName, line :: rest => take sectionName line ++ gather take (line.behind sectionName) rest

/-- What a kept line sets. -/
def keptEntry (sectionName : List Char) : Written → List (List Char × List Char)
  | .kept raw => (entryOf sectionName raw).toList
  | .replaced _ => []
  | .added => []

/-- What a replaced line has set. -/
def overwrittenEntry (sectionName : List Char) : Written → List (List Char × List Char)
  | .kept _ => []
  | .replaced raw => (entryOf sectionName raw).toList
  | .added => []

/-- What the line of the key sets where it stands. -/
def writtenEntry (key value sectionName : List Char) : Written → List (List Char × List Char)
  | .kept _ => []
  | .replaced _ => [(fullKey sectionName key, value)]
  | .added => [(fullKey sectionName key, value)]

theorem forall_mem_gather {take : List Char → Written → List (List Char × List Char)}
    {holds : List Char × List Char → Prop}
    (each : ∀ sectionName line, ∀ pair ∈ take sectionName line, holds pair) {sectionName : List Char}
    {all : List Written}
    : ∀ pair ∈ gather take sectionName all, holds pair := by
  induction all generalizing sectionName with
  | nil => exact fun pair member => absurd member List.not_mem_nil
  | cons line rest ih =>
      intro pair member
      rcases List.mem_append.mp member with here | later
      · exact each sectionName line pair here
      · exact ih pair later

theorem gather_append (first second : List Char → Written → List (List Char × List Char))
    (sectionName : List Char) (all : List Written)
    : (gather (fun sectionName line => first sectionName line ++ second sectionName line) sectionName all).Perm
      (gather first sectionName all ++ gather second sectionName all) := by
  induction all generalizing sectionName with
  | nil => exact List.Perm.refl _
  | cons line rest ih =>
      have swap (a b c d : List (List Char × List Char)) : (a ++ b ++ (c ++ d)).Perm (a ++ c ++ (b ++ d)) := by
        rw [List.append_assoc, List.append_assoc]
        refine List.Perm.append_left a ?_
        rw [← List.append_assoc, ← List.append_assoc]
        exact List.perm_append_comm.append_right d
      exact ((ih _).append_left _).trans (swap _ _ _ _)

include marked in
/-- What the lines of the result set. -/
theorem entries_result (current : List Char) (all : List Written)
    : (entries current (all.map (Written.line (keyLine key value)))).Perm
      (gather keptEntry current all ++ gather (writtenEntry key value) current all) := by
  refine List.Perm.trans (List.Perm.of_eq ?_) (gather_append keptEntry (writtenEntry key value) current all)
  induction all generalizing current with
  | nil => rfl
  | cons line rest ih =>
      rw [List.map_cons, entries, gather, ih]
      cases line with
      | kept raw => rw [writtenEntry, List.append_nil]; rfl
      | replaced raw =>
          rw [Written.line, entryOf, behind, marked.entry]
          rfl
      | added =>
          rw [Written.line, entryOf, behind, marked.entry]
          rfl

/-- What the lines of the text set. -/
theorem entries_source (current : List Char) {all : List Written}
    (found : ∀ raw, .replaced raw ∈ all → ∃ key value, itemOf raw = .entry key value)
    : (entries current (all.flatMap Written.source)).Perm
      (gather keptEntry current all ++ gather overwrittenEntry current all) := by
  refine List.Perm.trans (List.Perm.of_eq ?_) (gather_append keptEntry overwrittenEntry current all)
  induction all generalizing current with
  | nil => rfl
  | cons line rest ih =>
      have later (current : List Char) := ih current fun raw member => found raw (.tail _ member)
      rw [List.flatMap_cons, gather]
      cases line with
      | kept raw =>
          rw [Written.source, List.singleton_append, entries, later, overwrittenEntry, List.append_nil]
          rfl
      | replaced raw =>
          obtain ⟨key, value, item⟩ := found raw (.head _)
          rw [Written.source, List.singleton_append, entries, later, behind, item]
          rfl
      | added =>
          rw [Written.source, List.nil_append, later]
          rfl

-----------------------------------------------------------------------------------------
-- The edit
-----------------------------------------------------------------------------------------

/-- What becomes of the lines of a text. -/
def writtenLines (sectionName key text : List Char) : List Written :=
  writeLines sectionName key false false (lines text)

/-- What the edit sets. -/
def writtenEntries (sectionName key value text : List Char) : List (List Char × List Char) :=
  gather (writtenEntry key value) [] (writtenLines sectionName key text)
  ++ if (lines text).any (opensExactly sectionName) then [] else [(fullKey sectionName key, value)]

/-- What the edit overwrites. -/
def overwrittenEntries (sectionName key text : List Char) : List (List Char × List Char) :=
  gather overwrittenEntry [] (writtenLines sectionName key text)

/-- What the edit keeps. -/
def keptEntries (sectionName key text : List Char) : List (List Char × List Char) :=
  gather keptEntry [] (writtenLines sectionName key text)

include marked in
/-- A section of its own has the key. -/
theorem entries_ownSection (current : List Char) (all : List (List Char))
    : entries current (ownSection sectionName (keyLine key value) all)
      = if all.any (opensExactly sectionName) then [] else [(fullKey sectionName key, value)] := by
  have own : entries current [headerLine sectionName, keyLine key value]
      = [(fullKey sectionName key, value)] := by
    rw [entries, entryOf, behind, marked.header, entries, entryOf, marked.entry]
    rfl
  unfold ownSection
  split
  next => rfl
  next =>
      split
      next => exact own
      next => exact own

theorem mem_ownSection {all : List (List Char)} {line : List Char}
    (member : line ∈ ownSection sectionName (keyLine key value) all)
    : line = [] ∨ line = headerLine sectionName ∨ line = keyLine key value := by
  unfold ownSection at member
  split at member
  next => cases member
  next => split at member <;> simp at member <;> tauto

section Edit

variable {text : List Char}

/-- The lines of the result are lines of the text, or those that the edit writes. -/
theorem mem_sectionLines {line : List Char} (member : line ∈ sectionLines sectionName key value (lines text))
    : line ∈ lines text ∨ line = [] ∨ line = headerLine sectionName ∨ line = keyLine key value := by
  rw [sectionLines_eq] at member
  rcases List.mem_append.mp member with walked | own
  · obtain ⟨written, inside, rfl⟩ := List.mem_map.mp walked
    cases written with
    | kept raw =>
        left
        rw [← @flatMap_source sectionName key false false (lines text)]
        exact List.mem_flatMap.mpr ⟨_, inside, .head _⟩
    | replaced raw => exact .inr (.inr (.inr rfl))
    | added => exact .inr (.inr (.inr rfl))
  · exact .inr (mem_ownSection own)

include marked

theorem feedless_sectionLines : ∀ line ∈ sectionLines sectionName key value (lines text), '\n' ∉ line := by
  intro line member
  rcases mem_sectionLines member with old | rfl | rfl | rfl
  · exact not_mem_lines old
  · exact List.not_mem_nil
  · exact marked.feedless _ (by simp)
  · exact marked.feedless _ (by simp)

omit marked in
theorem sectionLines_ne_nil (all : List (List Char)) : sectionLines sectionName key value all ≠ [] := by
  rw [sectionLines_eq]
  intro none
  obtain ⟨walked, own⟩ := List.append_eq_nil_iff.mp none
  have source := @flatMap_source sectionName key false false all
  rw [List.map_eq_nil_iff.mp walked] at source
  subst source
  simp [ownSection] at own

omit marked in
theorem setTomlSectionValue_eq
    : setTomlSectionValue text sectionName key value
      = (sectionLines sectionName key value (lines text)).flatMap (· ++ ['\n']) :=
  joinLines_append_feed (sectionLines_ne_nil _)

theorem lines_setTomlSectionValue
    : lines (setTomlSectionValue text sectionName key value)
      = (sectionLines sectionName key value (lines text)).map chomp := by
  have all := lines_flatMap (@feedless_sectionLines sectionName key value marked text) []
  rw [List.append_nil, ← setTomlSectionValue_eq] at all
  rw [all]
  exact List.append_nil _

omit marked in
/-- A line of the result as the second edit leaves it. -/
def Written.settled (rendered : List Char) : Written → List Char
  | .kept raw => chomp raw
  | .replaced _ => rendered
  | .added => rendered

/-- The second edit puts the line of the key in the place of itself. -/
theorem writeLines_keyLine (wroteKey : Bool) (rest : List (List Char))
    : writeLines sectionName key true wroteKey (keyLine key value :: rest)
      = .replaced (keyLine key value) :: writeLines sectionName key true true rest := by
  have plain := isHeader_of_startsWithKey marked marked.starts
  rw [writeLines, plain, if_neg Bool.false_ne_true, Bool.true_and, if_pos marked.starts]

/-- The second edit finds the lines of the key that the first one has written, and adds none, by induction
on the lines.
-/
theorem writeLines_settled (inSection wroteKey : Bool) (all : List (List Char))
    : (writeLines sectionName key inSection wroteKey
        (((writeLines sectionName key inSection wroteKey all).map (Written.line (keyLine key value))).map
          chomp)).map (Written.line (keyLine key value))
      = (writeLines sectionName key inSection wroteKey all).map (Written.settled (keyLine key value)) := by
  have plain : chomp (keyLine key value) = keyLine key value := chomp_eq_self (marked.plain _ (by simp))
  have adds (inSection wroteKey : Bool) (rest : List (List Char))
      : ∃ wrote, writeLines sectionName key inSection wroteKey
          (((addition inSection wroteKey).map (Written.line (keyLine key value))).map chomp ++ rest)
        = (addition inSection wroteKey).map (fun _ => .replaced (keyLine key value))
          ++ writeLines sectionName key inSection wrote rest
        ∧ (wrote || inSection) = (wroteKey || inSection) ∧ addition inSection wrote = [] := by
    cases inSection <;> cases wroteKey
    · exact ⟨false, rfl, rfl, rfl⟩
    · exact ⟨true, rfl, rfl, rfl⟩
    · refine ⟨true, ?_, rfl, rfl⟩
      change writeLines sectionName key true false (chomp (keyLine key value) :: rest) = _
      rw [plain, writeLines_keyLine marked]
      rfl
    · exact ⟨true, rfl, rfl, rfl⟩
  have added (inSection wroteKey : Bool)
      : ((addition inSection wroteKey).map (fun _ => Written.replaced (keyLine key value))).map
          (Written.line (keyLine key value))
        = (addition inSection wroteKey).map (Written.settled (keyLine key value)) := by
    unfold addition
    split <;> rfl
  induction all generalizing inSection wroteKey with
  | nil =>
      obtain ⟨wrote, same, -, none⟩ := adds inSection wroteKey []
      rw [List.append_nil, writeLines, none, List.append_nil] at same
      rw [writeLines, same, added]
  | cons raw rest ih =>
      rw [writeLines]
      by_cases header : isHeader (trim raw) = true
      · rw [if_pos header]
        have later := ih (trim raw = headerLine sectionName) (wroteKey || inSection)
        generalize writeLines sectionName key (trim raw = headerLine sectionName) (wroteKey || inSection) rest
          = walked at later ⊢
        obtain ⟨wrote, same, still, none⟩ := adds inSection wroteKey
          ((walked.map (Written.line (keyLine key value))).map chomp |>.cons (chomp raw))
        have shape : ((addition inSection wroteKey ++ .kept raw :: walked).map
              (Written.line (keyLine key value))).map chomp
            = ((addition inSection wroteKey).map (Written.line (keyLine key value))).map chomp
              ++ chomp raw :: (walked.map (Written.line (keyLine key value))).map chomp := by
          rw [List.map_append, List.map_append]
          rfl
        rw [shape, same, writeLines, trim_chomp, if_pos header, none, List.nil_append, still, List.map_append,
          added, List.map_cons, later, List.map_append]
        rfl
      · rw [if_neg header]
        by_cases sets : (inSection && startsWithKey key (trim raw)) = true
        · have inside := ((Bool.and_eq_true _ _).mp sets).1
          rw [if_pos sets, inside, List.map_cons, List.map_cons]
          change (writeLines sectionName key true wroteKey (chomp (keyLine key value) :: _)).map _ = _
          rw [plain, writeLines_keyLine marked, List.map_cons, ih, List.map_cons]
          rfl
        · rw [if_neg sets, List.map_cons, List.map_cons, writeLines]
          change (if isHeader (trim (chomp raw)) then _
            else if inSection && startsWithKey key (trim (chomp raw)) then _ else _ : List Written).map _ = _
          rw [trim_chomp, if_neg header, if_neg sets, List.map_cons, ih, List.map_cons]
          rfl

omit marked in
/-- Without a line that opens the section, all lines are kept. -/
theorem writeLines_of_closed {all : List (List Char)}
    (closed : all.any (opensExactly sectionName) = false)
    : writeLines sectionName key false false all = all.map Written.kept := by
  have front := @writeLines_front sectionName key all (by simpa using closed) false []
  rw [List.append_nil] at front
  rw [front]
  exact List.append_nil _

/-- The lines of the second edit. -/
theorem sectionLines_settled (all : List (List Char))
    : sectionLines sectionName key value ((sectionLines sectionName key value all).map chomp)
      = (writeLines sectionName key false false all).map (Written.settled (keyLine key value))
        ++ ownSection sectionName (keyLine key value) all := by
  have header : trim (headerLine sectionName) = headerLine sectionName := marked.trimmed
  by_cases opened : all.any (opensExactly sectionName) = true
  · have none : ownSection sectionName (keyLine key value) all = [] := if_pos opened
    obtain ⟨raw, member, opens⟩ := List.any_eq_true.mp opened
    have walked : .kept raw ∈ writeLines sectionName key false false all := by
      rw [← @flatMap_source sectionName key false false all] at member
      obtain ⟨written, inside, from'⟩ := List.mem_flatMap.mp member
      cases written with
      | kept other =>
          obtain rfl := List.mem_singleton.mp from'
          exact inside
      | replaced other =>
          obtain rfl := List.mem_singleton.mp from'
          have plain := isHeader_of_startsWithKey marked (startsWithKey_of_replaced inside)
          rw [isHeader_of_opensExactly opens] at plain
          cases plain
      | added => cases from'
    rw [sectionLines_eq all, none, List.append_nil, List.append_nil]
    have again : (((writeLines sectionName key false false all).map (Written.line (keyLine key value))).map
        chomp).any (opensExactly sectionName) = true := by
      refine List.any_eq_true.mpr ⟨chomp raw, ?_, ?_⟩
      · exact List.mem_map.mpr ⟨raw, List.mem_map.mpr ⟨_, walked, rfl⟩, rfl⟩
      · rw [opensExactly, trim_chomp]
        exact opens
    rw [sectionLines_eq, writeLines_settled marked, ownSection, if_pos again, List.append_nil]
  · rw [Bool.not_eq_true] at opened
    have kept := @writeLines_of_closed sectionName key all opened
    have blank : ∃ blank, ownSection sectionName (keyLine key value) all
          = blank ++ [headerLine sectionName, keyLine key value]
        ∧ ∀ line ∈ blank, line = [] := by
      rw [ownSection, opened, if_neg Bool.false_ne_true]
      refine ⟨_, rfl, fun line member => ?_⟩
      split at member
      next => exact List.mem_singleton.mp member
      next => cases member
    obtain ⟨blank, own, empty⟩ := blank
    have same : blank.map chomp = blank := map_chomp_eq_self_iff.mpr fun line member => by
      rw [empty line member]
      exact Option.some_ne_none _ ∘ Eq.symm
    have joined : (sectionLines sectionName key value all).map chomp
        = (all.map chomp ++ blank) ++ [headerLine sectionName, keyLine key value] := by
      have plain : [headerLine sectionName, keyLine key value].map chomp
          = [headerLine sectionName, keyLine key value] :=
        map_chomp_eq_self_iff.mpr marked.plain
      rw [sectionLines_eq, kept, own, List.map_append, List.map_append, same, plain, List.append_assoc,
        List.map_map, List.map_map]
      rfl
    have closed : ∀ line ∈ all.map chomp ++ blank, opensExactly sectionName line = false := by
      intro line member
      rcases List.mem_append.mp member with old | new
      · obtain ⟨raw, inside, rfl⟩ := List.mem_map.mp old
        rw [opensExactly, trim_chomp]
        exact Bool.eq_false_iff.mpr (List.any_eq_false.mp opened raw inside)
      · rw [empty line new]
        rfl
    have again : ((all.map chomp ++ blank) ++ [headerLine sectionName, keyLine key value]).any
        (opensExactly sectionName) = true :=
      List.any_eq_true.mpr ⟨headerLine sectionName, by simp, decide_eq_true header⟩
    have last : writeLines sectionName key false false [headerLine sectionName, keyLine key value]
        = [.kept (headerLine sectionName), .replaced (keyLine key value)] := by
      rw [writeLines, header, isHeader_headerLine, if_pos rfl, decide_eq_true rfl, writeLines_keyLine marked]
      rfl
    rw [joined, sectionLines_eq, ownSection, if_pos again, List.append_nil, writeLines_front closed, last, own,
      kept, List.map_append, List.map_map, List.map_map]
    have front : (all.map chomp ++ blank).map (Written.line (keyLine key value) ∘ .kept)
        = all.map chomp ++ blank :=
      List.map_id _
    rw [front, List.append_assoc]
    rfl

/-- The edit of an edited text changes nothing, unless it loses a carriage return at the end of a line. -/
theorem idempotent_setTomlSectionValue_iff
    : setTomlSectionValue (setTomlSectionValue text sectionName key value) sectionName key value
        = setTomlSectionValue text sectionName key value
      ↔ ∀ raw, .kept raw ∈ writtenLines sectionName key text → raw.getLast? ≠ some '\r' := by
  have feedless := @feedless_sectionLines sectionName key value marked text
  have feedless' := @feedless_sectionLines sectionName key value marked
    (setTomlSectionValue text sectionName key value)
  have again := @setTomlSectionValue_eq sectionName key value (setTomlSectionValue text sectionName key value)
  rw [lines_setTomlSectionValue marked, sectionLines_settled marked] at feedless' again
  rw [again, setTomlSectionValue_eq, flatMap_feed_inj feedless' feedless, sectionLines_eq, List.append_left_inj,
    List.map_inj_left]
  constructor
  · intro same raw member
    exact chomp_eq_self_iff.mp (same _ member)
  · intro plain written member
    cases written with
    | kept raw => exact chomp_eq_self_iff.mpr (plain raw member)
    | replaced raw => rfl
    | added => rfl

/-- What a text has to be for the parser to read the edit. -/
structure WritesKey (sectionName key value text : List Char) : Prop where
  written : ((writtenEntries sectionName key value text).map Prod.fst).Perm
    ((overwrittenEntries sectionName key text).map Prod.fst
      ++ if fullKey sectionName key ∈ (entries [] (lines text)).map Prod.fst then []
        else [fullKey sectionName key])
  overwritten : ∀ pair ∈ overwrittenEntries sectionName key text,
    pair.1 = fullKey sectionName key ∨ pair.2 = value
  kept : ∀ pair ∈ keptEntries sectionName key text, pair.1 = fullKey sectionName key → pair.2 = value

variable {values : ConfigValues} (accepted : parseTomlSubset text = .ok values)
include accepted

/-- The parser reads the edit where it writes the keys that it overwrites, and the key itself. -/
theorem reads_setTomlSectionValue_iff
    : (∃ after, parseTomlSubset (setTomlSectionValue text sectionName key value) = .ok after
        ∧ ∀ other, rawOf after other
          = if other = fullKey sectionName key then some value else rawOf values other)
      ↔ WritesKey sectionName key value text := by
  have valid := valid_lines accepted
  have found (raw : List Char) (member : .replaced raw ∈ writtenLines sectionName key text)
      : ∃ key value, itemOf raw = .entry key value := by
    refine itemOf_of_startsWithKey marked (valid raw ?_) (startsWithKey_of_replaced member)
    rw [← @flatMap_source sectionName key false false (lines text)]
    exact List.mem_flatMap.mpr ⟨_, member, .head _⟩
  have before := entries_source [] found
  rw [writtenLines, flatMap_source] at before
  have after : (entries [] (lines (setTomlSectionValue text sectionName key value))).Perm
      (keptEntries sectionName key text ++ writtenEntries sectionName key value text) := by
    rw [lines_setTomlSectionValue marked, entries_map_chomp, sectionLines_eq, entries_append,
      entries_ownSection marked, writtenEntries, ← List.append_assoc]
    exact (entries_result marked [] (writtenLines sectionName key text)).append_right _
  have all : ∀ pair ∈ writtenEntries sectionName key value text, pair.2 = value := by
    intro pair member
    rcases List.mem_append.mp member with walked | own
    · refine @forall_mem_gather (writtenEntry key value) (·.2 = value) (fun current line pair inside => ?_) _ _
        pair walked
      cases line with
      | kept raw => cases inside
      | replaced raw => rw [List.mem_singleton.mp inside]
      | added => rw [List.mem_singleton.mp inside]
    · split at own
      next => cases own
      next => rw [List.mem_singleton.mp own]
  have validAfter : ∀ line ∈ lines (setTomlSectionValue text sectionName key value),
      itemOf line ≠ .invalid := by
    rw [lines_setTomlSectionValue marked, valid_map_chomp]
    intro line member
    rcases mem_sectionLines member with old | rfl | rfl | rfl
    · exact valid line old
    · exact Item.noConfusion
    · rw [marked.header]
      exact Item.noConfusion
    · rw [marked.entry]
      exact Item.noConfusion
  rw [reads_iff_change accepted before after all validAfter, if_congr (before.map Prod.fst).mem_iff.symm rfl rfl]
  exact ⟨fun ⟨written, overwritten, kept⟩ => ⟨written, overwritten, kept⟩,
    fun ⟨written, overwritten, kept⟩ => ⟨written, overwritten, kept⟩⟩

end Edit

-----------------------------------------------------------------------------------------
-- The two keys
-----------------------------------------------------------------------------------------

theorem spelled_daemon (enabled : Bool) : Spelled "daemon".toList "enabled".toList (boolText enabled) where
  named := by decide
  entry := by cases enabled <;> rfl
  header := rfl
  feedless := by cases enabled <;> decide
  plain := by cases enabled <;> decide

/-- The value of a mode. -/
def modeValue (mode : String) : List Char := '"' :: mode.toList ++ ['"']

theorem word_auto : ∀ c ∈ "auto".toList, isPlain c ∧ isWhitespace c = false ∧ c ≠ '=' := by
  simp [isPlain]
  decide

theorem marked_upgrade {mode : String} (given : mode = "apply" ∨ mode = "off")
    : Marked "upgrade".toList "auto".toList (modeValue mode) := by
  rcases given with rfl | rfl
  · exact {
      named := by decide
      entry := rfl
      header := rfl
      feedless := by decide
      plain := by decide
      first := ⟨'a', "uto".toList, rfl, by decide, by decide⟩
      word := word_auto
      starts := by decide
      trimmed := rfl
    }
  · exact {
      named := by decide
      entry := rfl
      header := rfl
      feedless := by decide
      plain := by decide
      first := ⟨'a', "uto".toList, rfl, by decide, by decide⟩
      word := word_auto
      starts := by decide
      trimmed := rfl
    }

end CtxRemote.Config
