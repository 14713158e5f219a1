import CtxRemote.Library.Lines
import CtxRemote.Library.Strip
import CtxRemote.Turso.DedupeKey

/-! `matched_snippet`, which cuts a piece with a match out of a text. The match is found in the lowercase
copy of the text, by its byte there, and the piece is cut by the characters of the text itself.
-/

namespace CtxRemote.Search
open CtxRemote.Library
open CtxRemote.Turso (isWhitespace trim)

-----------------------------------------------------------------------------------------
-- Lower case
-----------------------------------------------------------------------------------------

/-- The tables of Unicode that `str::to_lowercase` goes by: the lowercase of a character, and the two
properties that decide about a sigma.
-/
structure CaseTables where
  toLower : Char → List Char
  isCased : Char → Bool
  isCaseIgnorable : Char → Bool

variable (tables : CaseTables)

/-- `case_ignorable_then_cased`. -/
def caseIgnorableThenCased (chars : List Char) : Bool :=
  ((chars.dropWhile tables.isCaseIgnorable).head?.map tables.isCased).getD false

/-- The lowercase of a character between others. A sigma at the end of a word has its own. -/
def lowerAt (before : List Char) (c : Char) (rest : List Char) : List Char :=
  if c = 'Σ' then
    if caseIgnorableThenCased tables before.reverse && !caseIgnorableThenCased tables rest then ['ς']
    else ['σ']
  else tables.toLower c

/-- The lowercase of each character of a text, behind others. -/
def lowerPieces : List Char → List Char → List (List Char)
  | _, [] => []
  | before, c :: rest => lowerAt tables before c rest :: lowerPieces (before ++ [c]) rest

/-- `str::to_lowercase`. -/
def toLowercase (text : List Char) : List Char := (lowerPieces tables [] text).flatten

-----------------------------------------------------------------------------------------
-- Snippets
-----------------------------------------------------------------------------------------

/-- `str::find`, which counts bytes. -/
def find (term : List Char) : List Char → Option Nat
  | [] => if term.isPrefixOf [] then some 0 else none
  | c :: rest =>
      if term.isPrefixOf (c :: rest) then some 0 else (find term rest).map (c.utf8Size + ·)

/-- `take_chars_from`. -/
def takeCharsFrom (input : List Char) (start maxChars : Nat) : List Char :=
  (input.drop start).take maxChars

/-- The loop of `truncate_chars`, with the number of characters still to come. -/
def truncateChars : List Char → Nat → List Char
  | [], _ => []
  | _ :: _, 0 => "...".toList
  | ch :: rest, maxChars + 1 => ch :: truncateChars rest maxChars

/-- `local_snippet`. -/
def localSnippet (input : List Char) (maxChars : Nat) : List Char := truncateChars (trim input) maxChars

/-- Where `matched_snippet` starts to cut. -/
def snippetStart (body : List Char) (terms : List (List Char)) (maxChars : Nat) : Nat :=
  let lower := toLowercase tables body
  let start := (terms.filterMap fun term => find term lower).min?.getD 0
  start - maxChars / 4

/-- `matched_snippet`. -/
def matchedSnippet (input : List Char) (terms : List (List Char)) (maxChars : Nat) : List Char :=
  let body := trim input
  if body.isEmpty then []
  else localSnippet (takeCharsFrom body (snippetStart tables body terms maxChars) maxChars) maxChars

/-- The places of the body that `matched_snippet` shows: what it cuts, without the white space at both
ends.
-/
def snippetRange (body : List Char) (terms : List (List Char)) (maxChars : Nat) : Nat × Nat :=
  let start := snippetStart tables body terms maxChars
  let snippet := takeCharsFrom body start maxChars
  let first := start + (snippet.takeWhile isWhitespace).length
  (first, first + (trim snippet).length)

-----------------------------------------------------------------------------------------
-- Matches
-----------------------------------------------------------------------------------------

/-- A text starts within one of the pieces of another. -/
def StartsIn (pieces : List (List Char)) (text : List Char) (place : Nat) : Prop :=
  ∃ skipped < (pieces[place]?.getD []).length, text <+: (pieces.drop place).flatten.drop skipped

instance (pieces : List (List Char)) (text : List Char) (place : Nat)
    : Decidable (StartsIn pieces text place) :=
  inferInstanceAs (Decidable (∃ skipped < (pieces[place]?.getD []).length,
    text <+: (pieces.drop place).flatten.drop skipped))

/-- A term occurs at a place of a text, whatever the case: its lowercase starts within the lowercase of
the character there.
-/
abbrev OccursAt (body term : List Char) (place : Nat) : Prop :=
  StartsIn (lowerPieces tables [] body) (toLowercase tables term) place

/-- The first place of a text where one of the terms occurs. -/
structure IsFirst (body : List Char) (terms : List (List Char)) (place : Nat) : Prop where
  occurs : ∃ term ∈ terms, OccursAt tables body term place
  first : ∀ earlier < place, ∀ term ∈ terms, ¬OccursAt tables body term earlier

/-- The snippet is a piece of the body with at most so many characters, and shows the place of the first
match if there is one.
-/
structure ShowsFirst (input : List Char) (terms : List (List Char)) (maxChars : Nat) : Prop where
  piece : matchedSnippet tables input terms maxChars
    = ((trim input).drop (snippetRange tables (trim input) terms maxChars).1).take
      ((snippetRange tables (trim input) terms maxChars).2
        - (snippetRange tables (trim input) terms maxChars).1)
  short : (snippetRange tables (trim input) terms maxChars).2
    - (snippetRange tables (trim input) terms maxChars).1 ≤ maxChars
  shows : ∀ place, IsFirst tables (trim input) terms place →
    (snippetRange tables (trim input) terms maxChars).1 ≤ place
      ∧ place < (snippetRange tables (trim input) terms maxChars).2

/-- The part of a text before the first place where one of the terms stands. -/
def beforeMatch (terms : List (List Char)) : List Char → Option (List Char)
  | [] => if terms.any (·.isPrefixOf []) then some [] else none
  | c :: rest =>
      if terms.any (·.isPrefixOf (c :: rest)) then some [] else (beforeMatch terms rest).map (c :: ·)

/-- The bytes of the lowercase copy before a term that stands in it. -/
def bytesBefore (body : List Char) (terms : List (List Char)) : Nat :=
  ((beforeMatch terms (toLowercase tables body)).map utf8Len).getD 0

/-- A character that is not white space. -/
def VisibleAt (body : List Char) (place : Nat) : Prop :=
  ∃ c, body[place]? = some c ∧ isWhitespace c = false

/-- The characters before a place are about as many as the bytes before the match in the lowercase copy:
so many fewer at most that a quarter of the snippet makes up for them, and so many more at most as are in
the rest of it. Where the place is white space, what is not white space stands within these bounds on both
of its sides.
-/
structure Aligned (body : List Char) (bytes maxChars place : Nat) : Prop where
  near : bytes ≤ place + maxChars / 4
  far : place < bytes - maxChars / 4 + maxChars
  seen : VisibleAt body place
    ∨ (∃ left, bytes ≤ left + maxChars / 4 ∧ left ≤ place ∧ VisibleAt body left)
      ∧ ∃ right, place ≤ right ∧ right < bytes - maxChars / 4 + maxChars ∧ VisibleAt body right

-----------------------------------------------------------------------------------------
-- The byte of a match
-----------------------------------------------------------------------------------------

theorem find_of_isPrefixOf {term text : List Char} (here : term.isPrefixOf text = true)
    : find term text = some 0 := by
  cases text with
  | nil => rw [find, if_pos here]
  | cons c rest => rw [find, if_pos here]

theorem find_eq_none_of_not {term : List Char} (missing : ¬term.isPrefixOf [] = true)
    : find term [] = none := by
  rw [find, if_neg missing]

theorem min?_eq_zero {sizes : List Nat} (member : 0 ∈ sizes) : sizes.min? = some 0 :=
  List.min?_eq_some_iff.mpr ⟨member, fun _ _ => Nat.zero_le _⟩

theorem min?_map_add (size : Nat) (sizes : List Nat)
    : (sizes.map (size + ·)).min? = sizes.min?.map (size + ·) := by
  cases least : sizes.min? with
  | none =>
      rw [List.min?_eq_none_iff.mp least]
      rfl
  | some first =>
      obtain ⟨member, smallest⟩ := List.min?_eq_some_iff.mp least
      apply List.min?_eq_some_iff.mpr
      refine ⟨List.mem_map_of_mem member, ?_⟩
      intro other inside
      obtain ⟨later, there, rfl⟩ := List.mem_map.mp inside
      exact Nat.add_le_add_left (smallest later there) size

/-- A term that stands at the front is found there. -/
theorem min?_find_of_any {terms : List (List Char)} {text : List Char}
    (here : terms.any (·.isPrefixOf text) = true)
    : (terms.filterMap fun term => find term text).min? = some 0 := by
  obtain ⟨term, member, front⟩ := List.any_eq_true.mp here
  exact min?_eq_zero (List.mem_filterMap.mpr ⟨term, member, find_of_isPrefixOf front⟩)

/-- The least byte of a match is behind what stands before all matches, by induction on the text. -/
theorem min?_find (terms : List (List Char)) (text : List Char)
    : (terms.filterMap fun term => find term text).min? = (beforeMatch terms text).map utf8Len := by
  induction text with
  | nil =>
      by_cases here : terms.any (·.isPrefixOf []) = true
      · rw [min?_find_of_any here, beforeMatch, if_pos here]
        rfl
      · have missing : (terms.filterMap fun term => find term []) = [] := by
          apply List.filterMap_eq_nil_iff.mpr
          intro term member
          exact find_eq_none_of_not fun front => here (List.any_eq_true.mpr ⟨term, member, front⟩)
        rw [missing, beforeMatch, if_neg here]
        rfl
  | cons c rest ih =>
      by_cases here : terms.any (·.isPrefixOf (c :: rest)) = true
      · rw [min?_find_of_any here, beforeMatch, if_pos here]
        rfl
      · have behind : (terms.filterMap fun term => find term (c :: rest))
            = (terms.filterMap fun term => find term rest).map (c.utf8Size + ·) := by
          rw [List.map_filterMap]
          apply List.filterMap_congr
          intro term member
          rw [find, if_neg fun front => here (List.any_eq_true.mpr ⟨term, member, front⟩)]
        rw [behind, min?_map_add, ih, beforeMatch, if_neg here, Option.map_map, Option.map_map]
        rfl

theorem snippetStart_eq (body : List Char) (terms : List (List Char)) (maxChars : Nat)
    : snippetStart tables body terms maxChars = bytesBefore tables body terms - maxChars / 4 := by
  simp only [snippetStart, bytesBefore, min?_find]

-----------------------------------------------------------------------------------------
-- The piece
-----------------------------------------------------------------------------------------

theorem truncateChars_eq_self {input : List Char} {maxChars : Nat} (short : input.length ≤ maxChars)
    : truncateChars input maxChars = input := by
  induction input generalizing maxChars with
  | nil => rfl
  | cons ch rest ih =>
      cases maxChars with
      | zero => exact absurd short (Nat.not_succ_le_zero _)
      | succ maxChars => rw [truncateChars, ih (Nat.le_of_succ_le_succ short)]

theorem length_trim_le (text : List Char) : (trim text).length ≤ text.length :=
  (strip_isInfix isWhitespace text).length_le

theorem length_takeCharsFrom_le (input : List Char) (start maxChars : Nat)
    : (takeCharsFrom input start maxChars).length ≤ maxChars :=
  List.length_take_le _ _

/-- A snippet is never cut once more, since it is no longer than is asked for. -/
theorem localSnippet_takeCharsFrom (body : List Char) (start maxChars : Nat)
    : localSnippet (takeCharsFrom body start maxChars) maxChars
      = trim (takeCharsFrom body start maxChars) := by
  have short := length_takeCharsFrom_le body start maxChars
  exact truncateChars_eq_self ((length_trim_le _).trans short)

theorem matchedSnippet_eq_trim (input : List Char) (terms : List (List Char)) (maxChars : Nat)
    : matchedSnippet tables input terms maxChars
      = trim (takeCharsFrom (trim input) (snippetStart tables (trim input) terms maxChars) maxChars) := by
  unfold matchedSnippet
  dsimp only
  split
  next empty =>
      rw [List.isEmpty_iff.mp empty, takeCharsFrom, List.drop_nil, List.take_nil]
      rfl
  next => exact localSnippet_takeCharsFrom _ _ _

theorem take_drop_takeCharsFrom (body : List Char) (start : Nat) {maxChars skipped size : Nat}
    (fits : size ≤ maxChars - skipped)
    : ((takeCharsFrom body start maxChars).drop skipped).take size
      = (body.drop (start + skipped)).take size := by
  rw [takeCharsFrom, List.drop_take, List.drop_drop, List.take_take, Nat.min_eq_left fits]

/-- What is left of a cut stands in the text where the range says. -/
theorem trim_takeCharsFrom (body : List Char) (start maxChars : Nat)
    : trim (takeCharsFrom body start maxChars)
      = (body.drop (start + ((takeCharsFrom body start maxChars).takeWhile isWhitespace).length)).take
        (trim (takeCharsFrom body start maxChars)).length := by
  have left := strip_eq_take_drop isWhitespace (takeCharsFrom body start maxChars)
  have room := congrArg List.length left
  rw [List.length_take, List.length_drop] at room
  have short := length_takeCharsFrom_le body start maxChars
  have fits : (strip isWhitespace (takeCharsFrom body start maxChars)).length
      ≤ maxChars - ((takeCharsFrom body start maxChars).takeWhile isWhitespace).length := by
    omega
  exact left.trans (take_drop_takeCharsFrom body start fits)

-----------------------------------------------------------------------------------------
-- The place of a match
-----------------------------------------------------------------------------------------

theorem getElem?_takeCharsFrom (body : List Char) {start maxChars i : Nat} (inside : i < maxChars)
    : (takeCharsFrom body start maxChars)[i]? = body[start + i]? := by
  rw [takeCharsFrom, List.getElem?_take_of_lt inside, List.getElem?_drop]

/-- A cut shows a place, up to the white space at its ends. -/
theorem shows_iff (body : List Char) (start maxChars place : Nat)
    : start + ((takeCharsFrom body start maxChars).takeWhile isWhitespace).length ≤ place
        ∧ place < start + ((takeCharsFrom body start maxChars).takeWhile isWhitespace).length
          + (trim (takeCharsFrom body start maxChars)).length
      ↔ (∃ left, start ≤ left ∧ left ≤ place ∧ VisibleAt body left)
        ∧ ∃ right, place ≤ right ∧ right < start + maxChars ∧ VisibleAt body right := by
  have short := length_takeCharsFrom_le body start maxChars
  have range := @strip_range_iff _ isWhitespace (takeCharsFrom body start maxChars) (place - start)
  constructor
  · intro ⟨behind, within⟩
    obtain ⟨⟨left, before, c, there, visible⟩, right, after, d, here, visible'⟩ :=
      range.mp ⟨by omega, by change _ < _ + (trim _).length; omega⟩
    have leftInside := (List.getElem?_eq_some_iff.mp there).1
    have rightInside := (List.getElem?_eq_some_iff.mp here).1
    rw [getElem?_takeCharsFrom body (by omega)] at there here
    exact ⟨⟨start + left, by omega, by omega, c, there, visible⟩,
      start + right, by omega, by omega, d, here, visible'⟩
  · intro ⟨⟨left, first, before, c, there, visible⟩, right, after, last, d, here, visible'⟩
    have found : (takeCharsFrom body start maxChars)[left - start]? = some c := by
      rw [getElem?_takeCharsFrom body (by omega), Nat.add_sub_cancel' first, there]
    have found' : (takeCharsFrom body start maxChars)[right - start]? = some d := by
      rw [getElem?_takeCharsFrom body (by omega), Nat.add_sub_cancel' (by omega), here]
    obtain ⟨behind, within⟩ := range.mpr
      ⟨⟨left - start, by omega, c, found, visible⟩, right - start, by omega, d, found', visible'⟩
    change _ < _ + (trim _).length at within
    omega

/-- The cut is made where the bytes say, so it shows a place that is about as far. -/
theorem aligned_iff (body : List Char) (bytes maxChars place : Nat)
    : Aligned body bytes maxChars place
      ↔ (∃ left, bytes - maxChars / 4 ≤ left ∧ left ≤ place ∧ VisibleAt body left)
        ∧ ∃ right, place ≤ right ∧ right < bytes - maxChars / 4 + maxChars ∧ VisibleAt body right := by
  constructor
  · intro aligned
    have near := aligned.near
    rcases aligned.seen with visible | ⟨⟨left, first, before, visible⟩, behind⟩
    · exact ⟨⟨place, by omega, Nat.le_refl _, visible⟩, place, Nat.le_refl _, aligned.far, visible⟩
    · exact ⟨⟨left, by omega, before, visible⟩, behind⟩
  · intro ⟨⟨left, first, before, visible⟩, right, after, last, visible'⟩
    exact {
      near := by omega
      far := by omega
      seen := .inr ⟨⟨left, by omega, before, visible⟩, right, after, last, visible'⟩
    }

/-- For every text, list of terms and number of characters, `matched_snippet` returns a piece of the text
of at most so many characters, which shows the start of the first match of a term whatever the case,
exactly when the bytes before the match in the lowercase copy are in line with the characters before it in
the text.
-/
theorem showsFirst_iff (input : List Char) (terms : List (List Char)) (maxChars : Nat)
    : ShowsFirst tables input terms maxChars
      ↔ ∀ place, IsFirst tables (trim input) terms place →
          Aligned (trim input) (bytesBefore tables (trim input) terms) maxChars place := by
  have shown (place : Nat)
      : (snippetRange tables (trim input) terms maxChars).1 ≤ place
          ∧ place < (snippetRange tables (trim input) terms maxChars).2
        ↔ Aligned (trim input) (bytesBefore tables (trim input) terms) maxChars place := by
    rw [aligned_iff, ← snippetStart_eq]
    exact shows_iff _ _ _ _
  have size : (snippetRange tables (trim input) terms maxChars).2
      - (snippetRange tables (trim input) terms maxChars).1
      = (trim (takeCharsFrom (trim input) (snippetStart tables (trim input) terms maxChars)
        maxChars)).length :=
    Nat.add_sub_cancel_left _ _
  constructor
  · intro shows place first
    exact (shown place).mp (shows.shows place first)
  · intro aligned
    exact {
      piece := by
        rw [size, matchedSnippet_eq_trim]
        exact trim_takeCharsFrom _ _ _
      short := by
        rw [size]
        exact (length_trim_le _).trans (length_takeCharsFrom_le _ _ _)
      shows := fun place first => (shown place).mpr (aligned place first)
    }

/-- Eight letters of two bytes before the match: the snippet of eight characters has nothing of it. -/
theorem matchedSnippet_misses
    : ¬ShowsFirst ⟨fun c => [c.toLower], Char.isAlpha, fun _ => false⟩ "éééééééé needle".toList
        ["needle".toList] 8 := by
  intro shows
  have shown := shows.shows 9 ⟨⟨_, .head _, by decide⟩, by decide⟩
  revert shown
  decide

end CtxRemote.Search
