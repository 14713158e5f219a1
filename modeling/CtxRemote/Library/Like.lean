import Mathlib.Data.List.Infix

/-! SQLite's `LIKE` on code points: `%`, `_`, an optional `ESCAPE` character and ASCII case
folding, and the pattern that matches a literal substring.
-/

namespace CtxRemote.Library

/-- One element of a parsed pattern. -/
inductive LikeToken
  | anySequence
  | anyChar
  | literal (c : Char)
deriving DecidableEq, Repr

/-- The meaning of an unescaped pattern character. -/
def likeToken (c : Char) : LikeToken :=
  if c = '%' then .anySequence else if c = '_' then .anyChar else .literal c

/-- Parses a pattern, or the rest of one after an escape character; `none` when the pattern
ends in the escape character.
-/
def parseLike (escape : Option Char) : Bool → List Char → Option (List LikeToken)
  | false, [] => some []
  | true, [] => none
  | true, c :: rest => (parseLike escape false rest).map (.literal c :: ·)
  | false, c :: rest =>
      if escape = some c then parseLike escape true rest
      else (parseLike escape false rest).map (likeToken c :: ·)

/-- Characters that `LIKE` does not distinguish. -/
def LikeEq (left right : Char) : Prop := left.toLower = right.toLower

instance : DecidableRel LikeEq := fun left right =>
  inferInstanceAs (Decidable (left.toLower = right.toLower))

/-- Whether a parsed pattern matches the whole text. -/
def matchTokens : List LikeToken → List Char → Bool
  | [], text => text.isEmpty
  | .anySequence :: tokens, text => text.tails.any (matchTokens tokens)
  | .anyChar :: tokens, _ :: text => matchTokens tokens text
  | .literal c :: tokens, d :: text => LikeEq c d && matchTokens tokens text
  | .anyChar :: _, [] => false
  | .literal _ :: _, [] => false

/-- `text LIKE pattern [ESCAPE escape]`. -/
def like (escape : Option Char) (pattern text : List Char) : Bool :=
  match parseLike escape false pattern with
  | none => false
  | some tokens => matchTokens tokens text

/-- A `%` matches any prefix of the text. -/
theorem matchTokens_anySequence {tokens : List LikeToken} {text : List Char}
    : matchTokens (.anySequence :: tokens) text = true
      ↔ ∃ before after, text = before ++ after ∧ matchTokens tokens after = true := by
  simp only [matchTokens, List.any_eq_true, List.mem_tails]
  constructor
  · rintro ⟨after, ⟨before, rfl⟩, matching⟩
    exact ⟨before, after, rfl, matching⟩
  · rintro ⟨before, after, rfl, matching⟩
    exact ⟨after, ⟨before, rfl⟩, matching⟩

/-- Literal tokens consume an equal piece of text, up to ASCII case, by induction on them. -/
theorem matchTokens_literals {literals : List Char} {tokens : List LikeToken}
    {text : List Char}
    : matchTokens (literals.map .literal ++ tokens) text = true
      ↔ ∃ piece rest, text = piece ++ rest ∧ List.Forall₂ LikeEq literals piece
          ∧ matchTokens tokens rest = true := by
  induction literals generalizing text with
  | nil =>
      constructor
      · exact fun matching => ⟨[], text, rfl, .nil, matching⟩
      · rintro ⟨piece, rest, rfl, same, matching⟩
        cases same
        exact matching
  | cons c literals ih =>
      cases text with
      | nil =>
          refine ⟨fun matching => ?_, ?_⟩
          · simp [matchTokens] at matching
          · rintro ⟨piece, rest, split, same, _⟩
            cases same
            simp at split
      | cons d text =>
          simp only [List.map_cons, List.cons_append, matchTokens, Bool.and_eq_true,
            decide_eq_true_eq, ih]
          constructor
          · rintro ⟨same, piece, rest, rfl, all, matching⟩
            exact ⟨d :: piece, rest, rfl, .cons same all, matching⟩
          · rintro ⟨piece, rest, split, same, matching⟩
            cases same with
            | @cons _ e _ piece first all =>
                obtain ⟨rfl, rfl⟩ : d = e ∧ text = piece ++ rest := by simpa using split
                exact ⟨first, piece, rest, rfl, all, matching⟩

/-- Without an escape character every pattern is parsed, character by character. -/
theorem parseLike_none (pattern : List Char)
    : parseLike none false pattern = some (pattern.map likeToken) := by
  induction pattern with
  | nil => rfl
  | cons c pattern ih => simp [parseLike, ih]

/-- A text, read as a pattern, matches itself. -/
theorem matchTokens_self {text rest : List Char} {tokens : List LikeToken}
    (matching : matchTokens tokens rest = true)
    : matchTokens (text.map likeToken ++ tokens) (text ++ rest) = true := by
  induction text with
  | nil => exact matching
  | cons c text ih =>
      rw [List.map_cons, List.cons_append, List.cons_append]
      by_cases percent : c = '%'
      · have token : likeToken c = .anySequence := if_pos percent
        rw [token]
        exact matchTokens_anySequence.mpr ⟨[c], _, rfl, ih⟩
      · by_cases underscore : c = '_'
        · have token : likeToken c = .anyChar := by simp [likeToken, underscore]
          rw [token]
          exact ih
        · have token : likeToken c = .literal c := by simp [likeToken, percent, underscore]
          rw [token]
          simpa [matchTokens, LikeEq] using ih

/-- A text followed by `%`, as a pattern, matches what starts with the text. -/
theorem like_self_append (text rest : List Char)
    : like none (text ++ ['%']) (text ++ rest) = true := by
  have all : matchTokens [.anySequence] rest = true :=
    matchTokens_anySequence.mpr ⟨rest, [], by simp, rfl⟩
  simpa [like, parseLike_none, likeToken] using matchTokens_self all

/-- Puts the escape character before itself and before both wildcards. -/
def escapeLike (escape : Char) (text : List Char) : List Char :=
  text.flatMap fun c => if c = escape ∨ c = '%' ∨ c = '_' then [escape, c] else [c]

/-- An escaped text parses to its own characters as literals, followed by whatever follows. -/
theorem parseLike_escapeLike (escape : Char) (text rest : List Char)
    : parseLike (some escape) false (escapeLike escape text ++ rest)
      = (parseLike (some escape) false rest).map (text.map .literal ++ ·) := by
  induction text with
  | nil => simp [escapeLike]
  | cons c text ih =>
      have split : escapeLike escape (c :: text) ++ rest
          = (if c = escape ∨ c = '%' ∨ c = '_' then [escape, c] else [c])
            ++ (escapeLike escape text ++ rest) := by
        simp [escapeLike]
      rw [split]
      by_cases special : c = escape ∨ c = '%' ∨ c = '_'
      · simp only [special, ↓reduceIte, List.cons_append, List.nil_append, parseLike, ih]
        cases parseLike (some escape) false rest <;> rfl
      · obtain ⟨notEscape, notPercent, notUnderscore⟩ :
            c ≠ escape ∧ c ≠ '%' ∧ c ≠ '_' := by
          simpa only [not_or] using special
        simp only [if_neg special, List.cons_append, List.nil_append, parseLike,
          Option.some.injEq, Ne.symm notEscape, ↓reduceIte, ih]
        simp only [likeToken, notPercent, notUnderscore, ↓reduceIte]
        cases parseLike (some escape) false rest <;> rfl

/-- The escaped text between two `%` matches exactly the texts that contain it, up to ASCII
case.
-/
theorem like_substring (escape : Char) (notPercent : escape ≠ '%') (query text : List Char)
    : like (some escape) ('%' :: (escapeLike escape query ++ ['%'])) text = true
      ↔ ∃ before piece after,
          text = before ++ piece ++ after ∧ List.Forall₂ LikeEq query piece := by
  have parsed
      : parseLike (some escape) false ('%' :: (escapeLike escape query ++ ['%']))
        = some (.anySequence :: (query.map .literal ++ [.anySequence])) := by
    simp [parseLike, notPercent, parseLike_escapeLike, likeToken]
  simp only [like, parsed, matchTokens_anySequence, matchTokens_literals]
  constructor
  · rintro ⟨before, _, rfl, piece, after, rfl, same, _⟩
    exact ⟨before, piece, after, by simp, same⟩
  · rintro ⟨before, piece, after, rfl, same⟩
    refine ⟨before, piece ++ after, by simp, piece, after, rfl, same, after, [], by simp, rfl⟩

/-- The escaped text behind a `%` matches exactly the texts that end with it, up to ASCII case. -/
theorem like_suffix (escape : Char) (notPercent : escape ≠ '%') (query text : List Char)
    : like (some escape) ('%' :: escapeLike escape query) text = true
      ↔ ∃ before piece, text = before ++ piece ∧ List.Forall₂ LikeEq query piece := by
  have parsed
      : parseLike (some escape) false ('%' :: escapeLike escape query)
        = some (.anySequence :: (query.map .literal ++ [])) := by
    have literal := parseLike_escapeLike escape query []
    rw [List.append_nil] at literal
    simp [parseLike, notPercent, literal, likeToken]
  simp only [like, parsed, matchTokens_anySequence, matchTokens_literals]
  constructor
  · rintro ⟨before, _, rfl, piece, rest, rfl, same, done⟩
    obtain rfl := List.isEmpty_iff.mp done
    exact ⟨before, piece, by simp, same⟩
  · rintro ⟨before, piece, rfl, same⟩
    exact ⟨before, piece, rfl, piece, [], by simp, same, rfl⟩

end CtxRemote.Library
