import CtxRemote.Turso.SearchAgreement
import CtxRemote.Turso.Show

/-! The remote lookups by an id text: `remote_id_match`, and the `LIKE` of a session prefix. They agree
with the ids that start with the text, or are it in another spelling, for exactly the texts that
`IsLiteral` describes.

`uuid::Uuid::parse_str` is a parameter: the id that each text spells, if any.
-/

namespace CtxRemote.Turso
open CtxRemote.Library

-----------------------------------------------------------------------------------------
-- Stored ids
-----------------------------------------------------------------------------------------

/-- The characters that the text of an id has at a place: hyphens between its groups, and lower-case
hexadecimal digits elsewhere.
-/
def isIdChar (place : Nat) (c : Char) : Bool :=
  if [8, 13, 18, 23].contains place then c = '-' else "0123456789abcdef".toList.contains c

/-- Whether a text is that of an id from a place on. -/
def isIdFrom : Nat → List Char → Bool
  | place, [] => place = 36
  | place, c :: rest => isIdChar place c && isIdFrom (place + 1) rest

/-- An id, as `Uuid` prints it and the tables hold it. -/
@[ext] structure StoredId where
  text : String
  printed : isIdFrom 0 text.toList = true
deriving DecidableEq

theorem length_of_isIdFrom {place : Nat} {text : List Char} (printed : isIdFrom place text = true)
    : place + text.length = 36 := by
  induction text generalizing place with
  | nil => simpa [isIdFrom] using printed
  | cons c rest ih =>
      simp only [isIdFrom, Bool.and_eq_true] at printed
      have rest := ih printed.2
      rw [List.length_cons]
      omega

/-- The characters of ids are neither wildcards nor upper-case letters. -/
def isLiteralChar (c : Char) : Bool := c ≠ '%' && c ≠ '_' && c.toLower = c

theorem isLiteralChar_of_isIdChar {place : Nat} {c : Char} (printed : isIdChar place c = true)
    : isLiteralChar c = true := by
  unfold isIdChar at printed
  split at printed
  next =>
      obtain rfl := of_decide_eq_true printed
      decide
  next =>
      have all : "0123456789abcdef".toList.all isLiteralChar = true := by decide
      exact List.all_eq_true.mp all c (List.contains_iff_mem.mp printed)

theorem isLiteralChar_of_mem {place : Nat} {text : List Char} (printed : isIdFrom place text = true)
    {c : Char} (member : c ∈ text)
    : isLiteralChar c = true := by
  induction text generalizing place with
  | nil => cases member
  | cons d rest ih =>
      simp only [isIdFrom, Bool.and_eq_true] at printed
      rcases List.mem_cons.mp member with rfl | later
      · exact isLiteralChar_of_isIdChar printed.1
      · exact ih printed.2 later

/-- Some character stands at every place. -/
theorem exists_isIdChar (place : Nat) : ∃ c, isIdChar place c = true := by
  by_cases hyphen : [8, 13, 18, 23].contains place = true
  · exact ⟨'-', by rw [isIdChar, if_pos hyphen]; rfl⟩
  · exact ⟨'0', by rw [isIdChar, if_neg hyphen]; rfl⟩

/-- From every place on there is the rest of an id, and characters up to every later place, by induction
on the number of them.
-/
theorem exists_isIdFrom {place : Nat} {rest : List Char} (skipped : Nat)
    (printed : isIdFrom (place + skipped) rest = true)
    : ∃ before, before.length = skipped ∧ isIdFrom place (before ++ rest) = true := by
  induction skipped generalizing place with
  | zero => exact ⟨[], rfl, printed⟩
  | succ skipped ih =>
      obtain ⟨c, here⟩ := exists_isIdChar place
      have behind : isIdFrom (place + 1 + skipped) rest = true := by
        rwa [Nat.add_right_comm, Nat.add_assoc]
      obtain ⟨before, size, later⟩ := ih behind
      refine ⟨c :: before, by rw [List.length_cons, size], ?_⟩
      rw [List.cons_append, isIdFrom, here, later]
      rfl

-----------------------------------------------------------------------------------------
-- Patterns that fit an id
-----------------------------------------------------------------------------------------

/-- Whether a text, read as the start of a pattern, fits an id from a place on: `%` stands for any number
of its places, `_` for one of them, and a letter for its lower case.
-/
def fitsFrom : Nat → List Char → Bool
  | place, [] => place ≤ 36
  | place, c :: rest =>
      if c = '%' then (List.range (37 - place)).any fun skipped => fitsFrom (place + skipped) rest
      else place < 36 && (c = '_' || isIdChar place c.toLower) && fitsFrom (place + 1) rest

theorem isIdFrom_append {place : Nat} {before after : List Char}
    (printed : isIdFrom place (before ++ after) = true)
    : isIdFrom (place + before.length) after = true := by
  induction before generalizing place with
  | nil => exact printed
  | cons c before ih =>
      simp only [List.cons_append, isIdFrom, Bool.and_eq_true] at printed
      have later := ih printed.2
      rwa [Nat.add_right_comm] at later

theorem matchTokens_rest (rest : List Char) : matchTokens [.anySequence] rest = true :=
  matchTokens_anySequence.mpr ⟨rest, [], by simp, rfl⟩

/-- A text fits an id where its pattern matches the rest of one, by induction on the text. -/
theorem fitsFrom_iff {place : Nat} {text : List Char}
    : fitsFrom place text = true
      ↔ ∃ rest, isIdFrom place rest = true
        ∧ matchTokens (text.map likeToken ++ [.anySequence]) rest = true := by
  induction text generalizing place with
  | nil =>
      constructor
      · intro fits
        have within : place ≤ 36 := of_decide_eq_true fits
        have ended : isIdFrom (place + (36 - place)) [] = true := by
          rw [isIdFrom, decide_eq_true_eq]
          omega
        obtain ⟨rest, -, printed⟩ := exists_isIdFrom (36 - place) ended
        exact ⟨_, printed, matchTokens_rest _⟩
      · rintro ⟨rest, printed, -⟩
        have length := length_of_isIdFrom printed
        exact decide_eq_true (by omega)
  | cons c text ih =>
      unfold fitsFrom
      by_cases percent : c = '%'
      · have token : likeToken c = .anySequence := if_pos percent
        rw [if_pos percent, List.map_cons, List.cons_append, token, List.any_eq_true]
        constructor
        · rintro ⟨skipped, -, fits⟩
          obtain ⟨rest, printed, matching⟩ := ih.mp fits
          obtain ⟨before, -, whole⟩ := exists_isIdFrom skipped printed
          exact ⟨before ++ rest, whole, matchTokens_anySequence.mpr ⟨before, rest, rfl, matching⟩⟩
        · rintro ⟨rest, printed, matching⟩
          obtain ⟨before, after, rfl, later⟩ := matchTokens_anySequence.mp matching
          have length := length_of_isIdFrom printed
          rw [List.length_append] at length
          refine ⟨before.length, List.mem_range.mpr (by omega), ?_⟩
          exact ih.mpr ⟨after, isIdFrom_append printed, later⟩
      · rw [if_neg percent, List.map_cons, List.cons_append]
        simp only [Bool.and_eq_true, decide_eq_true_eq, Bool.or_eq_true]
        constructor
        · rintro ⟨⟨within, here⟩, fits⟩
          obtain ⟨rest, printed, matching⟩ := ih.mp fits
          by_cases underscore : c = '_'
          · have token : likeToken c = .anyChar := by simp [likeToken, underscore]
            obtain ⟨d, stands⟩ := exists_isIdChar place
            refine ⟨d :: rest, by rw [isIdFrom, stands, printed]; rfl, ?_⟩
            rw [token]
            exact matching
          · have token : likeToken c = .literal c := by simp [likeToken, percent, underscore]
            have stands := here.resolve_left underscore
            refine ⟨c.toLower :: rest, by rw [isIdFrom, stands, printed]; rfl, ?_⟩
            have plain := isLiteralChar_of_isIdChar stands
            simp only [isLiteralChar, Bool.and_eq_true, decide_eq_true_eq] at plain
            rw [token]
            simp [matchTokens, LikeEq, plain.2, matching]
        · rintro ⟨rest, printed, matching⟩
          have length := length_of_isIdFrom printed
          cases rest with
          | nil =>
              by_cases underscore : c = '_' <;>
                simp [likeToken, percent, underscore, matchTokens] at matching
          | cons d rest =>
              simp only [isIdFrom, Bool.and_eq_true] at printed
              rw [List.length_cons] at length
              by_cases underscore : c = '_'
              · have token : likeToken c = .anyChar := by simp [likeToken, underscore]
                rw [token] at matching
                exact ⟨⟨by omega, .inl underscore⟩, ih.mpr ⟨rest, printed.2, matching⟩⟩
              · have token : likeToken c = .literal c := by simp [likeToken, percent, underscore]
                rw [token] at matching
                simp only [matchTokens, Bool.and_eq_true] at matching
                have same : c.toLower = d.toLower := of_decide_eq_true matching.1
                have plain := isLiteralChar_of_isIdChar printed.1
                simp only [isLiteralChar, Bool.and_eq_true, decide_eq_true_eq] at plain
                refine ⟨⟨by omega, .inr ?_⟩, ih.mpr ⟨rest, printed.2, matching.2⟩⟩
                rw [same, plain.2]
                exact printed.1

/-- The pattern of a text, read as the start of one. -/
theorem like_start (text stored : List Char)
    : like none (text ++ ['%']) stored = matchTokens (text.map likeToken ++ [.anySequence]) stored := by
  simp [like, parseLike_none, likeToken]

theorem fitsFrom_zero {text : List Char}
    : fitsFrom 0 text = true
      ↔ ∃ stored : StoredId, like none (text ++ ['%']) stored.text.toList = true := by
  rw [fitsFrom_iff]
  constructor
  · rintro ⟨rest, printed, matching⟩
    refine ⟨⟨String.ofList rest, by rwa [String.toList_ofList]⟩, ?_⟩
    rwa [like_start, String.toList_ofList]
  · rintro ⟨stored, matching⟩
    exact ⟨stored.text.toList, stored.printed, by rwa [like_start] at matching⟩

/-- A text without wildcards and upper-case letters matches exactly the ids that start with it. -/
theorem like_literal {text : List Char} (literal : text.all isLiteralChar = true) (stored : StoredId)
    : like none (text ++ ['%']) stored.text.toList = true ↔ text <+: stored.text.toList := by
  have lower (c : Char) (plain : isLiteralChar c = true) : c.toLower = c := by
    simp only [isLiteralChar, Bool.and_eq_true, decide_eq_true_eq] at plain
    exact plain.2
  have tokens : text.map likeToken = text.map .literal := by
    refine List.map_congr_left fun c member => ?_
    have plain := List.all_eq_true.mp literal c member
    simp only [isLiteralChar, Bool.and_eq_true, decide_eq_true_eq] at plain
    simp [likeToken, plain.1.1, plain.1.2]
  rw [like_start, tokens, matchTokens_literals]
  constructor
  · rintro ⟨piece, rest, split, same, -⟩
    suffices text = piece from ⟨rest, this ▸ split.symm⟩
    have inside : ∀ c ∈ piece, c.toLower = c := fun c member =>
      lower c (isLiteralChar_of_mem stored.printed (split ▸ List.mem_append_left rest member))
    clear split tokens
    induction same with
    | nil => rfl
    | @cons c d text piece here _ ih =>
        simp only [List.all_cons, Bool.and_eq_true] at literal
        have first : c = d := by
          rw [← lower c literal.1, ← inside d (.head _)]
          exact here
        rw [first, ih literal.2 fun e member => inside e (.tail _ member)]
  · rintro ⟨rest, split⟩
    exact ⟨text, rest, split.symm, List.forall₂_same.mpr fun _ _ => rfl, matchTokens_rest rest⟩

theorem literal_of_isPrefix {text : List Char} {stored : StoredId}
    (starts : text <+: stored.text.toList)
    : text.all isLiteralChar = true :=
  List.all_eq_true.mpr fun _ member => isLiteralChar_of_mem stored.printed (starts.subset member)

/-- The pattern of a text matches exactly the ids that start with it if the text is literal, or if it
matches no id at all.
-/
theorem like_exact_iff {text : List Char}
    : (∀ stored : StoredId,
        like none (text ++ ['%']) stored.text.toList = true ↔ text <+: stored.text.toList)
      ↔ text.all isLiteralChar = true ∨ fitsFrom 0 text = false := by
  constructor
  · intro law
    by_contra both
    rw [not_or, Bool.not_eq_false] at both
    obtain ⟨stored, matching⟩ := fitsFrom_zero.mp both.2
    exact both.1 (literal_of_isPrefix ((law stored).mp matching))
  · rintro (literal | unfit) stored
    · exact like_literal literal stored
    · constructor
      · intro matching
        rw [fitsFrom_zero.mpr ⟨stored, matching⟩] at unfit
        cases unfit
      · intro starts
        have matching := (like_literal (literal_of_isPrefix starts) stored).mpr starts
        rw [fitsFrom_zero.mpr ⟨stored, matching⟩] at unfit
        cases unfit

/-- One id starts with another only if it is the same. -/
theorem StoredId.isPrefix_iff {left right : StoredId}
    : left.text.toList <+: right.text.toList ↔ left = right := by
  constructor
  · intro starts
    have one := length_of_isIdFrom left.printed
    have two := length_of_isIdFrom right.printed
    exact StoredId.ext (String.toList_inj.mp (starts.eq_of_length (by omega)))
  · rintro rfl
    exact List.prefix_refl _

-----------------------------------------------------------------------------------------
-- The lookups
-----------------------------------------------------------------------------------------

section Lookups

variable (parseStr : String → Option StoredId) (id : String)

/-- The ids that a text means: those that start with it, and the one that it spells. -/
def Means (stored : StoredId) : Prop :=
  id.toList <+: stored.text.toList ∨ parseStr id = some stored

instance (stored : StoredId) : Decidable (Means parseStr id stored) :=
  inferInstanceAs (Decidable (_ ∨ _))

/-- `remote_id_match` selects the ids that the text means. -/
def RemoteIdLaw : Prop :=
  ∀ stored : StoredId,
    remoteIdMatch (fun text => (parseStr text).isSome) id stored.text = true ↔ Means parseStr id stored

/-- The `LIKE` of a session prefix selects the ids that the text means. -/
def SessionPrefixLaw : Prop :=
  ∀ stored : StoredId, sessionMatches id (some stored.text) = true ↔ Means parseStr id stored

/-- A text that spells an id is the text of it, and another one has neither wildcards nor upper-case
letters, or fits no id as a pattern.
-/
def IsLiteral : Prop :=
  match parseStr id with
  | some spelled => id = spelled.text
  | none => id.toList.all isLiteralChar = true ∨ fitsFrom 0 id.toList = false

end Lookups

/-- The id that a text spells with its hyphens, in letters of any case. -/
def parseHyphenated (text : List Char) : Option StoredId :=
  if printed : isIdFrom 0 (text.map Char.toLower) = true then
    some ⟨String.ofList (text.map Char.toLower), by rw [String.toList_ofList]; exact printed⟩
  else none

/-- The spellings that the UUID parser documents: with hyphens, without them, in braces, and as a URN. -/
def parseDocumented (text : String) : Option StoredId :=
  match text.toList with
  | '{' :: rest => if rest.getLast? = some '}' then parseHyphenated rest.dropLast else none
  | 'u' :: 'r' :: 'n' :: ':' :: 'u' :: 'u' :: 'i' :: 'd' :: ':' :: rest => parseHyphenated rest
  | chars =>
      if chars.length = 32 then
        parseHyphenated
          (chars.take 8 ++ '-' :: (chars.drop 8).take 4 ++ '-' :: (chars.drop 12).take 4
            ++ '-' :: (chars.drop 16).take 4 ++ '-' :: chars.drop 20)
      else parseHyphenated chars

/-- An id in upper-case letters is not found, as it is compared as it stands, and an underscore finds
every id.
-/
theorem remoteIdLookup_misses
    : ¬RemoteIdLaw parseDocumented "0198A5B2-7C41-7E2A-9D3F-5B6C7D8E9F0A"
      ∧ ¬RemoteIdLaw parseDocumented "_" ∧ ¬SessionPrefixLaw parseDocumented "_" := by
  let stored : StoredId := ⟨"0198a5b2-7c41-7e2a-9d3f-5b6c7d8e9f0a", by decide⟩
  refine ⟨fun law => ?_, fun law => ?_, fun law => ?_⟩
  · have found := (law stored).mpr (.inr (by decide))
    revert found
    decide
  · have meant := (law stored).mp (by decide)
    revert meant
    decide
  · have meant := (law stored).mp (by decide)
    revert meant
    decide

/-- The lookups select what a text means exactly for the literal texts, and the pattern of a search text
matches exactly what contains it.
-/
theorem remoteIdLookup_iff (parseStr : String → Option StoredId) (id : String)
    : (RemoteIdLaw parseStr id ∧ SessionPrefixLaw parseStr id ↔ IsLiteral parseStr id)
      ∧ ∀ (query : List Char) (payload : String),
          like (some '\\') (substringPattern query) payload.toList = true
          ↔ ContainsText query payload := by
  refine ⟨?_, like_substringPattern⟩
  unfold IsLiteral RemoteIdLaw SessionPrefixLaw Means remoteIdMatch sessionMatches
  cases spells : parseStr id with
  | none =>
      simp only [spells, Option.isSome_none, Bool.false_eq_true, if_false, reduceCtorEq, or_false,
        Option.any_some, and_self]
      exact like_exact_iff
  | some spelled =>
      simp only [spells, Option.isSome_some, if_true, decide_eq_true_eq, Option.any_some,
        Option.some.injEq]
      constructor
      · rintro ⟨law, -⟩
        exact ((law spelled).mpr (.inr rfl)).symm
      · rintro rfl
        have same (stored : StoredId)
            : (spelled.text.toList <+: stored.text.toList ∨ spelled = stored) ↔ spelled = stored := by
          rw [StoredId.isPrefix_iff, or_self]
        constructor
        · intro stored
          rw [same]
          exact ⟨fun equal => StoredId.ext equal.symm, fun equal => congrArg StoredId.text equal.symm⟩
        · intro stored
          rw [same, like_literal (literal_of_isPrefix (List.prefix_refl _)), StoredId.isPrefix_iff]

end CtxRemote.Turso
