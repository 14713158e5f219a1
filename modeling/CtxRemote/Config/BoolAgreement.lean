import CtxRemote.Config.BoolEdits

/-! `set_toml_bool` next to the parser: it sets the key that the parser reads, unless the key is set
outside of the first part of its section. A second edit leaves what the first one has made, unless
carriage returns or empty lines at the end get lost again.
-/

namespace CtxRemote.Config
open CtxRemote.Library
open CtxRemote.Turso (trim splitOnce)

-----------------------------------------------------------------------------------------
-- What the lines say
-----------------------------------------------------------------------------------------

/-- What the parser takes a line for, in the words of the editor. -/
theorem itemOf_spec (line : List Char)
    : match itemOf line with
      | .blank => isHeaderLine line = false ∧ ∀ key, isKeyLine key line = false
      | .header name => isHeaderLine line = true ∧ headerName (trim (stripComment line)) = name
      | .entry key _ =>
          isHeaderLine line = false ∧ key ≠ [] ∧ ∀ other, isKeyLine other line = decide (key = other)
      | .invalid => True := by
  unfold itemOf isHeaderLine isKeyLine isHeader setsKey
  simp only
  generalize trim (stripComment line) = line
  by_cases empty : line.isEmpty = true
  · rw [if_pos empty, List.isEmpty_iff.mp empty]
    exact ⟨rfl, fun _ => rfl⟩
  rw [if_neg empty]
  by_cases bracket : line.head? = some '['
  · rw [if_pos bracket]
    by_cases closed : line.getLast? ≠ some ']'
    · rw [if_pos closed]
      exact trivial
    rw [if_neg closed]
    by_cases unnamed : (headerName line).isEmpty = true
    · rw [if_pos unnamed]
      exact trivial
    · rw [if_neg unnamed]
      simp [bracket, not_not.mp closed]
  · rw [if_neg bracket]
    cases cut : splitOnce '=' line with
    | none => exact trivial
    | some parts =>
        simp only
        by_cases unnamed : (trim parts.1).isEmpty = true
        · rw [if_pos unnamed]
          exact trivial
        · rw [if_neg unnamed]
          refine ⟨by simp [bracket], fun none => unnamed (List.isEmpty_iff.mpr none), fun other => rfl⟩

variable {line sectionName : List Char}

theorem isHeaderLine_of_header (item : itemOf line = .header sectionName) : isHeaderLine line = true := by
  have spec := itemOf_spec line
  rw [item] at spec
  exact spec.1

/-- A valid line that opens no section leaves the one in force. -/
theorem behind_of_not_header (valid : itemOf line ≠ .invalid) (plain : isHeaderLine line = false)
    (current : List Char)
    : behind current line = current := by
  unfold behind
  cases item : itemOf line with
  | header name =>
      rw [isHeaderLine_of_header item] at plain
      cases plain
  | blank => rfl
  | entry key value => rfl
  | invalid => exact absurd item valid

/-- A valid line opens a section exactly when the parser takes it for its header. -/
theorem opensSection_iff (valid : itemOf line ≠ .invalid)
    : opensSection sectionName line = true ↔ itemOf line = .header sectionName := by
  have spec := itemOf_spec line
  unfold opensSection
  cases item : itemOf line with
  | header name =>
      rw [item] at spec
      simp [spec.1, spec.2]
  | blank =>
      rw [item] at spec
      simp [spec.1]
  | entry key value =>
      rw [item] at spec
      simp [spec.1]
  | invalid => exact absurd item valid

/-- A valid line in a section sets a key exactly when the parser takes it for an entry of it. -/
theorem isKeyLine_iff (valid : itemOf line ≠ .invalid) (plain : isHeaderLine line = false) {key : List Char}
    : isKeyLine key line = true ↔ ∃ value, itemOf line = .entry key value := by
  have spec := itemOf_spec line
  cases item : itemOf line with
  | header name =>
      rw [isHeaderLine_of_header item] at plain
      cases plain
  | blank =>
      rw [item] at spec
      simp [spec.2 key]
  | entry other value =>
      rw [item] at spec
      simp [spec.2.2 key]
  | invalid => exact absurd item valid

theorem foldl_behind_of_plain {block : List (List Char)} (valid : ∀ line ∈ block, itemOf line ≠ .invalid)
    (plain : ∀ line ∈ block, isHeaderLine line = false) (current : List Char)
    : block.foldl behind current = current := by
  induction block with
  | nil => rfl
  | cons line block ih =>
      rw [List.foldl_cons, behind_of_not_header (valid line (.head _)) (plain line (.head _))]
      exact ih (fun line member => valid line (.tail _ member)) fun line member => plain line (.tail _ member)

/-- A key and a value whose line says so, and a section whose header says so. -/
structure Spelled (sectionName key value : List Char) : Prop where
  named : sectionName ≠ []
  entry : itemOf (keyLine key value) = .entry key value
  header : itemOf (headerLine sectionName) = .header sectionName
  feedless : ∀ line ∈ [headerLine sectionName, keyLine key value], '\n' ∉ line
  plain : ∀ line ∈ [headerLine sectionName, keyLine key value], line.getLast? ≠ some '\r'

section Values

variable {key value : List Char} (spelled : Spelled sectionName key value) {all : List (List Char)}
  (valid : ∀ line ∈ all, itemOf line ≠ .invalid)

/-- The line of the key in the first part of the section. -/
def keyLines (sectionName key : List Char) (all : List (List Char)) : List (List Char) :=
  ((firstBlock (opensSection sectionName) isHeaderLine all).dropWhile (!isKeyLine key ·)).take 1

theorem key_parts (sectionName key : List Char) (all : List (List Char))
    : beforeKey sectionName key all ++ (keyLines sectionName key all ++ behindKey sectionName key all)
      = all := by
  have parts := block_parts (opensSection sectionName) isHeaderLine all
  have block := List.takeWhile_append_dropWhile (p := (!isKeyLine key ·))
    (l := firstBlock (opensSection sectionName) isHeaderLine all)
  conv_rhs => rw [← parts, ← block]
  unfold beforeKey keyLines behindKey
  generalize List.dropWhile _ _ = rest
  cases rest <;> simp

include valid in
/-- The line of the key, if there is one, is an entry of it. -/
theorem keyLines_cases
    : keyLines sectionName key all = [] ∧ setInFirst sectionName key all = false
      ∨ ∃ line value, keyLines sectionName key all = [line] ∧ setInFirst sectionName key all = true
        ∧ itemOf line = .entry key value := by
  unfold keyLines setInFirst
  cases left : (firstBlock (opensSection sectionName) isHeaderLine all).dropWhile (!isKeyLine key ·) with
  | nil =>
      left
      refine ⟨rfl, List.any_eq_false.mpr fun line member => ?_⟩
      simpa using List.dropWhile_eq_nil_iff.mp left line member
  | cons line rest =>
      right
      have first := List.head?_dropWhile_not (!isKeyLine key ·)
        (firstBlock (opensSection sectionName) isHeaderLine all)
      rw [left] at first
      have sets : isKeyLine key line = true := by simpa using first
      have member : line ∈ firstBlock (opensSection sectionName) isHeaderLine all :=
        (List.dropWhile_sublist _).subset (by rw [left]; exact .head _)
      have inside : line ∈ all := by
        rw [← block_parts (opensSection sectionName) isHeaderLine all]
        exact List.mem_append_right _ (List.mem_append_left _ member)
      obtain ⟨value, item⟩ := (isKeyLine_iff (valid line inside) (ends_of_mem_firstBlock member)).mp sets
      exact ⟨line, value, rfl, List.any_eq_true.mpr ⟨line, member, sets⟩, item⟩

/-- The place of the line that is written: behind the header of the section and lines in it that do not set
the key.
-/
def Place (sectionName key : List Char) (front : List (List Char)) : Prop :=
  ∃ before header block, front = before ++ header :: block
    ∧ (∀ line ∈ before, opensSection sectionName line = false)
    ∧ opensSection sectionName header = true
    ∧ ∀ line ∈ block, isHeaderLine line = false ∧ isKeyLine key line = false

/-- Lines with their line of the key at its place. -/
theorem place_spec {front : List (List Char)} (place : Place sectionName key front) {line : List Char}
    (plain : isHeaderLine line = false) (sets : isKeyLine key line = true) (rest : List (List Char))
    : beforeKey sectionName key (front ++ line :: rest) = front
      ∧ openedSection sectionName (front ++ line :: rest) = []
      ∧ behindKey sectionName key (front ++ line :: rest) = rest := by
  obtain ⟨before, header, block, rfl, closed, opening, free⟩ := place
  have shape : before ++ header :: block ++ line :: rest = before ++ header :: (block ++ line :: rest) := by
    simp
  have skips : ∀ line ∈ before, (!opensSection sectionName line) = true := by simpa using closed
  have within : ∀ line ∈ block, (!isHeaderLine line) = true := by simpa using fun line member => (free line member).1
  have keyless : ∀ line ∈ block, (!isKeyLine key line) = true := by
    simpa using fun line member => (free line member).2
  have first : firstBlock (opensSection sectionName) isHeaderLine
      (before ++ header :: (block ++ line :: rest))
      = block ++ line :: rest.takeWhile (!isHeaderLine ·) := by
    rw [firstBlock, List.dropWhile_append_of_pos skips, List.dropWhile_cons_of_neg (by simp [opening]),
      List.tail_cons, List.takeWhile_append_of_pos within, List.takeWhile_cons_of_pos (by simp [plain])]
  have beyond : beyondBlock (opensSection sectionName) isHeaderLine
      (before ++ header :: (block ++ line :: rest))
      = rest.dropWhile (!isHeaderLine ·) := by
    rw [beyondBlock, List.dropWhile_append_of_pos skips, List.dropWhile_cons_of_neg (by simp [opening]),
      List.tail_cons, List.dropWhile_append_of_pos within, List.dropWhile_cons_of_pos (by simp [plain])]
  have upto : uptoBlock (opensSection sectionName) (before ++ header :: (block ++ line :: rest))
      = before ++ [header] := by
    rw [uptoBlock, List.takeWhile_append_of_pos skips, List.takeWhile_cons_of_neg (by simp [opening]),
      List.dropWhile_append_of_pos skips, List.dropWhile_cons_of_neg (by simp [opening]), List.append_nil]
    rfl
  rw [shape]
  refine ⟨?_, ?_, ?_⟩
  · rw [beforeKey, upto, first, List.takeWhile_append_of_pos keyless,
      List.takeWhile_cons_of_neg (by simp [sets])]
    simp
  · exact if_pos (List.any_eq_true.mpr ⟨header, by simp, opening⟩)
  · rw [behindKey, first, beyond, List.dropWhile_append_of_pos keyless,
      List.dropWhile_cons_of_neg (by simp [sets]), List.tail_cons, List.takeWhile_append_dropWhile]

omit spelled in
theorem place_chomp {front : List (List Char)} (place : Place sectionName key front)
    : Place sectionName key (front.map chomp) := by
  obtain ⟨before, header, block, rfl, closed, opening, free⟩ := place
  have opens (line : List Char) : opensSection sectionName (chomp line) = opensSection sectionName line := by
    unfold opensSection isHeaderLine
    rw [trim_stripComment_chomp]
  refine ⟨before.map chomp, chomp header, block.map chomp, by simp, ?_, by rw [opens, opening], ?_⟩
  · simpa [opens] using closed
  · unfold isHeaderLine isKeyLine at free ⊢
    simpa [trim_stripComment_chomp] using free

include spelled in
/-- What stands before the line that is written, and opens the section, is its place. -/
theorem place_front
    : Place sectionName key (frontLines sectionName key all) := by
  unfold frontLines
  by_cases opened : ∃ line ∈ all, opensSection sectionName line = true
  · obtain ⟨before, header, upto, opening, closed⟩ := uptoBlock_of_any opened
    have nothing : openedSection sectionName all = [] := if_pos (List.any_eq_true.mpr opened)
    refine ⟨before, header,
      (firstBlock (opensSection sectionName) isHeaderLine all).takeWhile (!isKeyLine key ·), ?_, closed, opening,
      fun line member => ⟨?_, ?_⟩⟩
    · rw [nothing, List.append_nil, beforeKey, upto, List.append_assoc]
      rfl
    · exact ends_of_mem_firstBlock ((List.takeWhile_sublist _).subset member)
    · simpa using List.mem_takeWhile_imp member
  · have closed (line : List Char) (member : line ∈ all) : opensSection sectionName line = false :=
      Bool.eq_false_iff.mpr fun opening => opened ⟨line, member, opening⟩
    obtain ⟨upto, block, -⟩ := @uptoBlock_of_none _ (opensSection sectionName) isHeaderLine all closed
    have nothing : all.any (opensSection sectionName) = false := List.any_eq_false.mpr (by simpa using closed)
    have valid : itemOf (headerLine sectionName) ≠ .invalid := by
      rw [spelled.header]
      exact Item.noConfusion
    refine ⟨all ++ if all.getLast?.any fun line => !(trim line).isEmpty then [[]] else [],
      headerLine sectionName, [], ?_, fun line member => ?_, (opensSection_iff valid).mpr spelled.header,
      fun line member => absurd member List.not_mem_nil⟩
    · rw [openedSection, nothing, if_neg Bool.false_ne_true, beforeKey, upto, block, List.takeWhile_nil,
        List.append_nil, List.append_assoc]
    · rcases List.mem_append.mp member with inside | blank
      · exact closed line inside
      · split at blank
        next =>
            obtain rfl := List.mem_singleton.mp blank
            rfl
        next => cases blank

/-- At its place the section is in force. -/
theorem foldl_behind_place {front : List (List Char)} (place : Place sectionName key front)
    (valid : ∀ line ∈ front, itemOf line ≠ .invalid)
    : front.foldl behind [] = sectionName := by
  obtain ⟨before, header, block, rfl, -, opening, free⟩ := place
  have item := (opensSection_iff (valid header (by simp))).mp opening
  rw [List.foldl_append, List.foldl_cons, foldl_behind_of_plain (fun line member => valid line (by simp [member]))
    fun line member => (free line member).1]
  rw [behind, item]

include spelled in
/-- What opens the section says nothing else. -/
theorem openedSection_spec (all : List (List Char))
    : (∀ line ∈ openedSection sectionName all,
        (line = [] ∨ line = headerLine sectionName) ∧ itemOf line ≠ .invalid)
      ∧ ∀ current, entries current (openedSection sectionName all) = [] := by
  have header : itemOf (headerLine sectionName) ≠ .invalid := by
    rw [spelled.header]
    exact Item.noConfusion
  have blank : itemOf [] ≠ .invalid := Item.noConfusion
  unfold openedSection
  split
  next => exact ⟨fun line member => absurd member List.not_mem_nil, fun _ => rfl⟩
  next =>
      split
      next =>
          constructor
          · intro line member
            rcases List.mem_cons.mp member with rfl | last
            · exact ⟨.inl rfl, blank⟩
            · obtain rfl := List.mem_singleton.mp last
              exact ⟨.inr rfl, header⟩
          · intro current
            have said : entries current [[], headerLine sectionName]
                = entries current [headerLine sectionName] :=
              rfl
            rw [List.singleton_append, said, entries, entryOf, spelled.header]
            rfl
      next =>
          constructor
          · intro line member
            obtain rfl := List.mem_singleton.mp member
            exact ⟨.inr rfl, header⟩
          · intro current
            rw [List.nil_append, entries, entryOf, spelled.header]
            rfl

include valid

include spelled in
/-- What the lines set, around the line of the key. -/
theorem entries_around
    : entries [] all
      = entries [] (beforeKey sectionName key all)
        ++ (entries sectionName (keyLines sectionName key all)
          ++ entries sectionName (behindKey sectionName key all)) := by
  have parts := key_parts sectionName key all
  have keeps : (keyLines sectionName key all).foldl behind sectionName = sectionName := by
    rcases @keyLines_cases sectionName key all valid with ⟨none, -⟩ | ⟨line, value, one, -, item⟩
    · rw [none]
      rfl
    · rw [one, List.foldl_cons, List.foldl_nil, behind, item]
  conv_lhs => rw [← parts, entries_append]
  congr 1
  by_cases opened : ∃ line ∈ all, opensSection sectionName line = true
  · have nothing : openedSection sectionName all = [] := if_pos (List.any_eq_true.mpr opened)
    have place := @place_front _ _ _ spelled all
    rw [frontLines, nothing, List.append_nil] at place
    have inside : ∀ line ∈ beforeKey sectionName key all, itemOf line ≠ .invalid := fun line member =>
      valid line (by rw [← parts]; exact List.mem_append_left _ member)
    rw [foldl_behind_place place inside, entries_append, keeps]
  · have closed (line : List Char) (member : line ∈ all) : opensSection sectionName line = false :=
      Bool.eq_false_iff.mpr fun opening => opened ⟨line, member, opening⟩
    obtain ⟨-, block, beyond⟩ := @uptoBlock_of_none _ (opensSection sectionName) isHeaderLine all closed
    rw [keyLines, behindKey, block, beyond]
    rfl

include spelled in
/-- What the lines set behind the edit. -/
theorem entries_edited
    : entries [] (editedLines sectionName key value all)
      = entries [] (beforeKey sectionName key all)
        ++ (fullKey sectionName key, value) :: entries sectionName (behindKey sectionName key all) := by
  obtain ⟨opening, silent⟩ := openedSection_spec spelled all
  have parts := key_parts sectionName key all
  have inside : ∀ line ∈ frontLines sectionName key all, itemOf line ≠ .invalid := by
    intro line member
    rcases List.mem_append.mp member with old | new
    · exact valid line (by rw [← parts]; exact List.mem_append_left _ old)
    · exact (opening line new).2
  rw [editedLines, entries_append, foldl_behind_place (place_front spelled) inside, frontLines, entries_append,
    silent, List.append_nil, entries, entries_closing, entryOf, behind, spelled.entry]
  rfl

end Values

-----------------------------------------------------------------------------------------
-- The edit
-----------------------------------------------------------------------------------------

section Edit

variable {sectionName key text : List Char} {enabled : Bool} (spelled : Spelled sectionName key (boolText enabled))
include spelled

theorem feedless_editedLines
    : ∀ line ∈ editedLines sectionName key (boolText enabled) (lines text), '\n' ∉ line := by
  have parts := key_parts sectionName key (lines text)
  intro line member
  rw [editedLines, frontLines, List.mem_append, List.mem_append, List.mem_cons] at member
  rcases member with (old | opened) | rfl | later
  · exact @not_mem_lines text _ (by rw [← parts]; exact List.mem_append_left _ old)
  · rcases ((openedSection_spec spelled _).1 line opened).1 with rfl | rfl
    · exact List.not_mem_nil
    · exact spelled.feedless _ (by simp)
  · exact spelled.feedless _ (by simp)
  · have inside := closing_subset _ later
    exact @not_mem_lines text _ (by rw [← parts]; simp [inside])

/-- The text behind the edit, by its lines. -/
theorem setTomlBool_eq
    : setTomlBool text sectionName key enabled
      = (editedLines sectionName key (boolText enabled) (lines text)).flatMap (· ++ ['\n']) := by
  rw [setTomlBool, boolLines_eq spelled.named]
  apply ensureTrailingNewline_joinLines (spelled.feedless _ (by simp)) (keyLine_ne_nil _ _)
  intro line member
  apply @not_mem_lines text
  rw [← key_parts sectionName key (lines text)]
  simp [member]

theorem lines_setTomlBool
    : lines (setTomlBool text sectionName key enabled)
      = (editedLines sectionName key (boolText enabled) (lines text)).map chomp := by
  have all := lines_flatMap (@feedless_editedLines sectionName key text enabled spelled) []
  rw [List.append_nil, ← setTomlBool_eq spelled] at all
  rw [all]
  exact List.append_nil _

variable {values : ConfigValues} (accepted : parseTomlSubset text = .ok values)
include accepted

omit spelled in
theorem valid_lines : ∀ line ∈ lines text, itemOf line ≠ .invalid := by
  have spec := parseTomlSubset_spec text
  rw [accepted] at spec
  exact spec.1.valid

/-- The parser reads the edit, unless the key is set outside of the first part of the section. -/
theorem reads_setTomlBool_iff
    : (∃ after, parseTomlSubset (setTomlBool text sectionName key enabled) = .ok after
        ∧ ∀ other, rawOf after other
          = if other = fullKey sectionName key then some (boolText enabled) else rawOf values other)
      ↔ (fullKey sectionName key ∈ (entries [] (lines text)).map Prod.fst →
          setInFirst sectionName key (lines text) = true) := by
  have valid := valid_lines accepted
  have parts := key_parts sectionName key (lines text)
  have around := entries_around spelled valid
  have before : (entries [] (lines text)).Perm
      ((entries [] (beforeKey sectionName key (lines text))
          ++ entries sectionName (behindKey sectionName key (lines text)))
        ++ entries sectionName (keyLines sectionName key (lines text))) := by
    rw [around, List.append_assoc]
    exact List.perm_append_comm.append_left _
  have after : (entries [] (lines (setTomlBool text sectionName key enabled))).Perm
      ((entries [] (beforeKey sectionName key (lines text))
          ++ entries sectionName (behindKey sectionName key (lines text)))
        ++ [(fullKey sectionName key, boolText enabled)]) := by
    rw [lines_setTomlBool spelled, entries_map_chomp, entries_edited spelled valid, List.append_assoc]
    exact (@List.perm_append_comm _ [_] _).append_left _
  have validAfter : ∀ line ∈ lines (setTomlBool text sectionName key enabled), itemOf line ≠ .invalid := by
    rw [lines_setTomlBool spelled, valid_map_chomp]
    intro line member
    rw [editedLines, frontLines, List.mem_append, List.mem_append, List.mem_cons] at member
    rcases member with (old | opened) | rfl | later
    · exact valid line (by rw [← parts]; exact List.mem_append_left _ old)
    · exact ((openedSection_spec spelled _).1 line opened).2
    · rw [spelled.entry]
      exact Item.noConfusion
    · have inside := closing_subset _ later
      exact valid line (by rw [← parts]; simp [inside])
  have spec := parseTomlSubset_spec text
  rw [accepted] at spec
  have once : ((entries [] (lines text)).map Prod.fst).Nodup := spec.1.distinct
  rw [(before.map Prod.fst).nodup_iff] at once
  rw [reads_iff_change accepted before after (by simp) validAfter, (before.map Prod.fst).mem_iff]
  generalize entries [] (beforeKey sectionName key (lines text))
    ++ entries sectionName (behindKey sectionName key (lines text)) = kept at once ⊢
  rcases @keyLines_cases sectionName key (lines text) valid with ⟨none, notSet⟩ | ⟨line, old, one, set, item⟩
  · rw [none, notSet, entries, List.append_nil]
    by_cases there : fullKey sectionName key ∈ kept.map Prod.fst
    · refine iff_of_false (fun both => ?_) fun first => Bool.false_ne_true (first there)
      have perm := both.1
      rw [if_pos there] at perm
      cases perm.eq_nil
    · refine iff_of_true ⟨?_, fun pair member => absurd member List.not_mem_nil, ?_⟩ (absurd · there)
      · rw [if_neg there]
        exact List.Perm.refl _
      · intro pair member same
        exact absurd (List.mem_map.mpr ⟨pair, member, same⟩) there
  · have overwritten : entries sectionName [line] = [(fullKey sectionName key, old)] := by
      rw [entries, entryOf, item]
      rfl
    rw [one, set, overwritten]
    rw [one, overwritten, List.map_append, List.nodup_append] at once
    refine iff_of_true ⟨?_, fun pair member => ?_, fun pair member same => ?_⟩ fun _ => rfl
    · rw [if_pos (by simp)]
      exact List.Perm.refl _
    · obtain rfl := List.mem_singleton.mp member
      exact .inl rfl
    · exact absurd same (once.2.2 _ (List.mem_map_of_mem member) _ (.head _))

omit accepted in
/-- The second edit finds the line that the first one has written. -/
theorem editedLines_chomp
    : editedLines sectionName key (boolText enabled)
        ((editedLines sectionName key (boolText enabled) (lines text)).map chomp)
      = (frontLines sectionName key (lines text)).map chomp
        ++ keyLine key (boolText enabled)
          :: closing ((closing (behindKey sectionName key (lines text))).map chomp) := by
  have written := itemOf_spec (keyLine key (boolText enabled))
  rw [spelled.entry] at written
  have sets : isKeyLine key (keyLine key (boolText enabled)) = true :=
    (written.2.2 key).trans (decide_eq_true rfl)
  have plain : chomp (keyLine key (boolText enabled)) = keyLine key (boolText enabled) :=
    chomp_eq_self (spelled.plain _ (by simp))
  obtain ⟨before, opened, behind⟩ := place_spec (place_chomp (@place_front _ _ _ spelled (lines text)))
    written.1 sets ((closing (behindKey sectionName key (lines text))).map chomp)
  have shape : (editedLines sectionName key (boolText enabled) (lines text)).map chomp
      = (frontLines sectionName key (lines text)).map chomp
        ++ keyLine key (boolText enabled) :: (closing (behindKey sectionName key (lines text))).map chomp := by
    rw [editedLines, List.map_append, List.map_cons, plain]
  rw [shape, editedLines, frontLines, before, opened, behind, List.append_nil]

omit accepted in
/-- The edit of an edited text changes nothing, unless it loses a carriage return at the end of a line, or
one more empty line at the end of the text.
-/
theorem idempotent_setTomlBool_iff
    : setTomlBool (setTomlBool text sectionName key enabled) sectionName key enabled
        = setTomlBool text sectionName key enabled
      ↔ (∀ line ∈ beforeKey sectionName key (lines text) ++ behindKey sectionName key (lines text),
          line.getLast? ≠ some '\r')
        ∧ ¬[[], []] <:+ behindKey sectionName key (lines text) := by
  have feedless := @feedless_editedLines sectionName key text enabled spelled
  have feedless' := @feedless_editedLines sectionName key (setTomlBool text sectionName key enabled) enabled
    spelled
  have again := @setTomlBool_eq sectionName key (setTomlBool text sectionName key enabled) enabled spelled
  rw [lines_setTomlBool spelled, editedLines_chomp spelled] at feedless' again
  have front : (frontLines sectionName key (lines text)).map chomp = frontLines sectionName key (lines text)
      ↔ ∀ line ∈ beforeKey sectionName key (lines text), line.getLast? ≠ some '\r' := by
    rw [map_chomp_eq_self_iff]
    refine ⟨fun all line member => all line (List.mem_append_left _ member), fun all line member => ?_⟩
    rcases List.mem_append.mp member with old | opened
    · exact all line old
    · rcases ((openedSection_spec spelled _).1 line opened).1 with rfl | rfl
      · exact Option.some_ne_none _ ∘ Eq.symm
      · exact spelled.plain _ (by simp)
  rw [again, setTomlBool_eq spelled, flatMap_feed_inj feedless' feedless, editedLines]
  have sides (left right : List (List Char))
      : (frontLines sectionName key (lines text)).map chomp ++ keyLine key (boolText enabled) :: left
          = frontLines sectionName key (lines text) ++ keyLine key (boolText enabled) :: right
        ↔ (frontLines sectionName key (lines text)).map chomp = frontLines sectionName key (lines text)
          ∧ left = right := by
    constructor
    · intro same
      obtain ⟨fronts, behinds⟩ := List.append_inj same (List.length_map _)
      exact ⟨fronts, (List.cons_eq_cons.mp behinds).2⟩
    · rintro ⟨fronts, rfl⟩
      rw [fronts]
  rw [sides, front, closing_chomp_iff, List.forall_mem_append, and_assoc]

/-- What a text has to be for the edit of a switch to agree with the parser. -/
structure BoolEditHolds (sectionName key text : List Char) : Prop where
  inFirst : fullKey sectionName key ∈ (entries [] (lines text)).map Prod.fst →
    setInFirst sectionName key (lines text) = true
  returns : ∀ line ∈ beforeKey sectionName key (lines text) ++ behindKey sectionName key (lines text),
    line.getLast? ≠ some '\r'
  blanks : ¬[[], []] <:+ behindKey sectionName key (lines text)

theorem editAgrees_setTomlBool_iff
    : EditAgrees (setTomlBool · sectionName key enabled) text values (fullKey sectionName key)
        (boolText enabled)
      ↔ BoolEditHolds sectionName key text := by
  have reads := reads_setTomlBool_iff spelled accepted
  have idempotent := @idempotent_setTomlBool_iff sectionName key text enabled spelled
  constructor
  · rintro ⟨read, again⟩
    obtain ⟨returns, blanks⟩ := idempotent.mp again
    exact ⟨reads.mp read, returns, blanks⟩
  · rintro ⟨inFirst, returns, blanks⟩
    exact ⟨reads.mpr inFirst, idempotent.mpr ⟨returns, blanks⟩⟩

end Edit

end CtxRemote.Config
