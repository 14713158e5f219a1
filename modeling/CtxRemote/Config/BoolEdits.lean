import CtxRemote.Config.ParsedLines
import CtxRemote.Library.Blocks

/-! Where `set_toml_bool` writes its line: in the place of the line that sets the key in the first part of
the section, or else behind that part.
-/

namespace CtxRemote.Config
open CtxRemote.Library
open CtxRemote.Turso (trim splitOnce)

-----------------------------------------------------------------------------------------
-- The place of the key
-----------------------------------------------------------------------------------------

/-- A line that ends a section. -/
def isHeaderLine (rawLine : List Char) : Bool := isHeader (trim (stripComment rawLine))

/-- A line that opens the section. -/
def opensSection (sectionName rawLine : List Char) : Bool :=
  isHeaderLine rawLine && headerName (trim (stripComment rawLine)) = sectionName

/-- A line that sets the key. -/
def isKeyLine (key rawLine : List Char) : Bool := setsKey key (trim (stripComment rawLine))

section Places

variable (sectionName key : List Char) (all : List (List Char))

/-- The lines before the one that sets the key. -/
def beforeKey : List (List Char) :=
  uptoBlock (opensSection sectionName) all
  ++ (firstBlock (opensSection sectionName) isHeaderLine all).takeWhile (!isKeyLine key ·)

/-- The lines behind it. -/
def behindKey : List (List Char) :=
  ((firstBlock (opensSection sectionName) isHeaderLine all).dropWhile (!isKeyLine key ·)).tail
  ++ beyondBlock (opensSection sectionName) isHeaderLine all

/-- The first part of the section sets the key. -/
def setInFirst : Bool := (firstBlock (opensSection sectionName) isHeaderLine all).any (isKeyLine key)

/-- What opens the section where no line does so. -/
def openedSection : List (List Char) :=
  if all.any (opensSection sectionName) then []
  else (if all.getLast?.any fun line => !(trim line).isEmpty then [[]] else []) ++ [headerLine sectionName]

end Places

section Scan

variable {sectionName key : List Char} {length : Nat}

/-- The loop passes over lines that do not open the section. -/
theorem scanBool_front {front : List (List Char)}
    (closed : ∀ line ∈ front, opensSection sectionName line = false) (rest : List (List Char))
    (index : Nat) {current : List Char} (elsewhere : current ≠ sectionName)
    : ∃ next, next ≠ sectionName
        ∧ scanBool sectionName key length index ⟨current, none, length⟩ (front ++ rest)
          = scanBool sectionName key length (index + front.length) ⟨next, none, length⟩ rest := by
  induction front generalizing index current with
  | nil => exact ⟨current, elsewhere, rfl⟩
  | cons line front ih =>
      have here := closed line (.head _)
      have later (index : Nat) {current : List Char} (elsewhere : current ≠ sectionName) :=
        ih (fun line member => closed line (.tail _ member)) index elsewhere
      rw [List.cons_append, scanBool, List.length_cons, Nat.add_comm front.length, ← Nat.add_assoc]
      simp only [Option.isSome_none, Bool.false_and, Bool.false_eq_true, if_false]
      by_cases header : isHeader (trim (stripComment line)) = true
      · have other : headerName (trim (stripComment line)) ≠ sectionName := by
          rw [opensSection, isHeaderLine, header, Bool.true_and] at here
          exact of_decide_eq_false here
        rw [if_pos header, if_neg other]
        exact later (index + 1) other
      · rw [if_neg header, if_neg (by simp [elsewhere])]
        exact later (index + 1) elsewhere

/-- The loop passes over lines of the section that do not set the key. -/
theorem scanBool_block {block : List (List Char)}
    (plain : ∀ line ∈ block, isHeaderLine line = false ∧ isKeyLine key line = false)
    (rest : List (List Char)) (index : Nat) {scan : BoolScan}
    : scanBool sectionName key length index scan (block ++ rest)
      = scanBool sectionName key length (index + block.length) scan rest := by
  induction block generalizing index with
  | nil => rfl
  | cons line block ih =>
      obtain ⟨noHeader, noKey⟩ := plain line (.head _)
      unfold isHeaderLine at noHeader
      unfold isKeyLine at noKey
      rw [List.cons_append, scanBool, List.length_cons, Nat.add_comm block.length, ← Nat.add_assoc]
      simp only [noHeader, noKey, Bool.and_false, Bool.false_eq_true, if_false]
      exact ih (fun line member => plain line (.tail _ member)) (index + 1)

/-- The loop enters the section. -/
theorem scanBool_open {header : List Char} (opening : opensSection sectionName header = true)
    (rest : List (List Char)) (index : Nat) (current : List Char)
    : scanBool sectionName key length index ⟨current, none, length⟩ (header :: rest)
      = scanBool sectionName key length (index + 1) ⟨sectionName, some index, length⟩ rest := by
  obtain ⟨isHeader', isNamed⟩ := (Bool.and_eq_true _ _).mp opening
  have name := of_decide_eq_true isNamed
  unfold isHeaderLine at isHeader'
  rw [scanBool]
  simp [isHeader', name]

/-- The loop stops at a line that sets the key. -/
theorem scanBool_key {line : List Char} (plain : isHeaderLine line = false)
    (sets : isKeyLine key line = true) (rest : List (List Char)) (index : Nat) (start : Option Nat)
    (insertBefore : Nat)
    : scanBool sectionName key length index ⟨sectionName, start, insertBefore⟩ (line :: rest)
      = (some index, ⟨sectionName, start, insertBefore⟩) := by
  unfold isHeaderLine at plain
  unfold isKeyLine at sets
  rw [scanBool]
  simp [plain, sets]

/-- The loop stops behind the section. -/
theorem scanBool_beyond {beyond : List (List Char)}
    (ending : beyond = [] ∨ ∃ header rest, beyond = header :: rest ∧ isHeaderLine header = true)
    (index start : Nat) (total : index + beyond.length = length)
    : scanBool sectionName key length index ⟨sectionName, some start, length⟩ beyond
      = (none, ⟨sectionName, some start, index⟩) := by
  rcases ending with rfl | ⟨header, rest, rfl, isHeader'⟩
  · rw [scanBool, ← total]
    rfl
  · unfold isHeaderLine at isHeader'
    rw [scanBool]
    simp [isHeader']

end Scan

theorem insertIdx_append {α : Type} (front rest : List α) (x : α)
    : (front ++ rest).insertIdx front.length x = front ++ x :: rest := by
  induction front with
  | nil => rfl
  | cons y front ih => rw [List.cons_append, List.length_cons, List.insertIdx_succ_cons, ih, List.cons_append]

theorem set_append {α : Type} (front rest : List α) (x y : α)
    : (front ++ x :: rest).set front.length y = front ++ y :: rest := by
  rw [List.set_append_right _ _ le_rfl, Nat.sub_self, List.set_cons_zero]

/-- The editor puts the line between the lines before it and behind it. -/
theorem boolLines_eq {sectionName : List Char} (named : sectionName ≠ []) (key : List Char) (enabled : Bool)
    (all : List (List Char))
    : boolLines sectionName key enabled all
      = beforeKey sectionName key all ++ openedSection sectionName all
        ++ keyLine key (boolText enabled) :: behindKey sectionName key all := by
  unfold boolLines
  generalize keyLine key (boolText enabled) = rendered
  simp only
  by_cases opened : ∃ line ∈ all, opensSection sectionName line = true
  · obtain ⟨front, header, upto, opening, closed⟩ := uptoBlock_of_any opened
    have parts := block_parts (opensSection sectionName) isHeaderLine all
    have nothing : openedSection sectionName all = [] := if_pos (List.any_eq_true.mpr opened)
    have plain (line : List Char)
        (inside : line ∈ firstBlock (opensSection sectionName) isHeaderLine all)
        : isHeaderLine line = false :=
      ends_of_mem_firstBlock inside
    have ending := @beyondBlock_cases _ (opensSection sectionName) isHeaderLine all
    rw [nothing, List.append_nil]
    unfold beforeKey behindKey
    generalize firstBlock (opensSection sectionName) isHeaderLine all = block at *
    generalize beyondBlock (opensSection sectionName) isHeaderLine all = beyond at *
    rw [upto, List.append_assoc, List.singleton_append] at parts
    rw [upto, ← parts]
    generalize total : (front ++ header :: (block ++ beyond)).length = length
    obtain ⟨current, -, run⟩ := @scanBool_front sectionName key length front closed
      (header :: (block ++ beyond)) 0 [] (Ne.symm named)
    rw [run, scanBool_open opening]
    have before := List.takeWhile_append_dropWhile (p := (!isKeyLine key ·)) (l := block)
    have free (line : List Char) (inside : line ∈ block.takeWhile (!isKeyLine key ·))
        : isHeaderLine line = false ∧ isKeyLine key line = false := by
      refine ⟨plain line ((List.takeWhile_sublist _).subset inside), ?_⟩
      simpa using List.mem_takeWhile_imp inside
    cases left : block.dropWhile (!isKeyLine key ·) with
    | nil =>
        rw [left, List.append_nil] at before
        rw [before] at free ⊢
        have size : 0 + front.length + 1 + block.length + beyond.length = length := by
          rw [← total]
          simp
          omega
        rw [scanBool_block free, scanBool_beyond ending _ _ size]
        have place
            : max (0 + front.length + 1 + block.length) (0 + front.length + 1)
              = (front ++ [header] ++ block).length := by
          simp
          omega
        have split : front ++ header :: (block ++ beyond) = front ++ [header] ++ block ++ beyond := by simp
        simp only
        rw [place, split, insertIdx_append]
        rfl
    | cons line after =>
        have sets : isKeyLine key line = true := by
          have first := List.head?_dropWhile_not (!isKeyLine key ·) block
          rw [left] at first
          simpa using first
        rw [left] at before
        generalize block.takeWhile (!isKeyLine key ·) = free' at *
        have noHeader : isHeaderLine line = false :=
          plain line (before ▸ List.mem_append_right _ (.head _))
        rw [← before, List.append_assoc, scanBool_block free, List.cons_append, scanBool_key noHeader sets]
        have place : 0 + front.length + 1 + free'.length = (front ++ [header] ++ free').length := by
          simp
          omega
        have split
            : front ++ header :: (free' ++ line :: (after ++ beyond))
              = front ++ [header] ++ free' ++ line :: (after ++ beyond) := by
          simp
        simp only
        rw [place, split, set_append, List.tail_cons]
  · have closed (line : List Char) (member : line ∈ all) : opensSection sectionName line = false :=
      Bool.eq_false_iff.mpr fun opening => opened ⟨line, member, opening⟩
    obtain ⟨upto, block, beyond⟩ := @uptoBlock_of_none _ (opensSection sectionName) isHeaderLine all closed
    obtain ⟨current, -, run⟩ := @scanBool_front sectionName key all.length all closed [] 0 [] (Ne.symm named)
    have nothing : (all.any (opensSection sectionName)) = false := List.any_eq_false.mpr (by simpa using closed)
    rw [List.append_nil] at run
    rw [run, scanBool]
    unfold beforeKey behindKey openedSection
    rw [upto, block, beyond, nothing]
    simp only [Bool.false_eq_true, if_false, List.takeWhile_nil, List.dropWhile_nil, List.tail_nil,
      List.append_nil]
    rw [List.append_assoc, List.append_assoc]
    split
    next => rw [List.append_assoc]; rfl
    next => rfl

-----------------------------------------------------------------------------------------
-- The text
-----------------------------------------------------------------------------------------

/-- The last lines without one empty line at the end. -/
def closing (rest : List (List Char)) : List (List Char) :=
  if rest.getLast? = some [] then rest.dropLast else rest

/-- The text of the lines ends with a line feed, in the place of an empty last line. -/
theorem ensureTrailingNewline_joinLines {front rest : List (List Char)} {line : List Char}
    (feedless : '\n' ∉ line) (more : line ≠ []) (single : ∀ line ∈ rest, '\n' ∉ line)
    : ensureTrailingNewline (joinLines (front ++ line :: rest))
      = (front ++ line :: closing rest).flatMap (· ++ ['\n']) := by
  have ending {last : List Char} (feedless : '\n' ∉ last) (more : last ≠ []) (front : List (List Char))
      : ensureTrailingNewline (joinLines (front ++ [last])) = (front ++ [last]).flatMap (· ++ ['\n']) := by
    have notFeed : (joinLines (front ++ [last])).getLast? ≠ some '\n' := by
      rw [joinLines_append, List.getLast?_append_of_ne_nil _ more]
      exact fun last => feedless (List.mem_of_getLast? last)
    rw [ensureTrailingNewline, if_neg notFeed, joinLines_append_feed (by simp)]
  unfold closing
  rcases List.eq_nil_or_concat rest with rfl | ⟨before, last, rfl⟩
  · exact ending feedless more front
  · rw [List.concat_eq_append] at single ⊢
    rw [List.getLast?_concat, List.dropLast_concat]
    by_cases empty : last = []
    · subst empty
      rw [if_pos rfl, ← List.cons_append, ← List.append_assoc, joinLines_append, List.append_nil]
      have feed : ((front ++ line :: before).flatMap (· ++ ['\n'])).getLast? = some '\n' := by
        obtain ⟨init, last, same⟩ := (List.eq_nil_or_concat (front ++ line :: before)).resolve_left (by simp)
        rw [same, List.concat_eq_append, List.flatMap_append]
        simp
      rw [ensureTrailingNewline, if_pos feed]
    · rw [if_neg (by simpa using empty), ← List.cons_append, ← List.append_assoc]
      exact ending (single last (by simp)) empty _

theorem keyLine_ne_nil (key value : List Char) : keyLine key value ≠ [] := by
  simp [keyLine]

theorem entries_dropLast_blank (current : List Char) (all : List (List Char)) (blank : all.getLast? = some [])
    : entries current all.dropLast = entries current all := by
  obtain ⟨front, rfl⟩ := List.getLast?_eq_some_iff.mp blank
  rw [List.dropLast_concat, entries_append]
  exact (List.append_nil _).symm

theorem entries_closing (current : List Char) (rest : List (List Char))
    : entries current (closing rest) = entries current rest := by
  unfold closing
  split
  next blank => exact entries_dropLast_blank current rest blank
  next => rfl

theorem closing_subset (rest : List (List Char)) : closing rest ⊆ rest := by
  unfold closing
  split
  next => exact List.dropLast_subset rest
  next => exact List.Subset.refl rest

/-- The lines before the one that is written, and what opens the section. -/
def frontLines (sectionName key : List Char) (all : List (List Char)) : List (List Char) :=
  beforeKey sectionName key all ++ openedSection sectionName all

/-- The lines of the text behind the edit, each with a line feed behind it. -/
def editedLines (sectionName key value : List Char) (all : List (List Char)) : List (List Char) :=
  frontLines sectionName key all ++ keyLine key value :: closing (behindKey sectionName key all)

/-- Nothing more gets lost at the end, unless a carriage return or one more empty line does. -/
theorem closing_chomp_iff (rest : List (List Char))
    : closing ((closing rest).map chomp) = closing rest
      ↔ (∀ line ∈ rest, line.getLast? ≠ some '\r') ∧ ¬[[], []] <:+ rest := by
  have again (kept : List (List Char))
      : closing (kept.map chomp) = kept
        ↔ (∀ line ∈ kept, line.getLast? ≠ some '\r') ∧ kept.getLast? ≠ some [] := by
    rw [← map_chomp_eq_self_iff]
    unfold closing
    split
    next blank =>
        refine iff_of_false (fun same => ?_) (fun ⟨same, last⟩ => ?_)
        · have length := congrArg List.length same
          rw [List.length_dropLast, List.length_map] at length
          have some' : 0 < kept.length := by
            rw [← List.length_map chomp]
            exact List.length_pos_of_mem (List.mem_of_getLast? blank)
          omega
        · rw [same] at blank
          exact last blank
    next full =>
        rw [iff_self_and]
        intro same last
        rw [same] at full
        exact full last
  rw [again]
  unfold closing
  split
  next blank =>
      obtain ⟨front, rfl⟩ := List.getLast?_eq_some_iff.mp blank
      have returns : (∀ line ∈ front ++ [[]], line.getLast? ≠ some '\r')
          ↔ ∀ line ∈ front, line.getLast? ≠ some '\r' := by
        rw [List.forall_mem_append]
        exact and_iff_left (by simp)
      have blanks : [[], []] <:+ front ++ [[]] ↔ front.getLast? = some [] := by
        rw [List.getLast?_eq_some_iff]
        refine exists_congr fun init => ?_
        have split : init ++ [[], []] = (init ++ [[]]) ++ [([] : List Char)] := by simp
        rw [split, List.append_left_inj]
        exact eq_comm
      rw [List.dropLast_concat, returns, blanks]
  next full =>
      refine and_congr_right fun _ => iff_of_true full ?_
      rintro ⟨front, rfl⟩
      exact full (by simp)

end CtxRemote.Config
