import CtxRemote.Store.ScriptPieces

/-! Whether a phrase that is copied out of a text finds it through the scriptgram table. The table is
a full-text index over the index terms of the text: FTS5 cuts them into tokens, and cuts the terms of
a query into tokens as well. A term without tokens matches no row, and takes its whole clause along.
-/

namespace CtxRemote.Store
open CtxRemote.Library
open CtxRemote.Turso (replaceChar)

-----------------------------------------------------------------------------------------
-- MATCH
-----------------------------------------------------------------------------------------

/-- The strings of an FTS5 expression, behind an opened string. Doubled quotes stand for a quote, and
between the strings stands `AND`: no other expression is read.
-/
def ftsStringsFrom (strings : List (List Char)) (current : List Char)
    : List Char → Option (List (List Char))
  | ['"'] => some (strings ++ [current])
  | '"' :: '"' :: rest => ftsStringsFrom strings (current ++ ['"']) rest
  | '"' :: ' ' :: 'A' :: 'N' :: 'D' :: ' ' :: '"' :: rest =>
      ftsStringsFrom (strings ++ [current]) [] rest
  | ch :: rest => if ch = '"' then none else ftsStringsFrom strings (current ++ [ch]) rest
  | [] => none

/-- The strings of an FTS5 expression. -/
def ftsStrings : List Char → Option (List (List Char))
  | '"' :: rest => ftsStringsFrom [] [] rest
  | _ => none

/-- A string has tokens, which follow each other in the column. A string without tokens matches no
row.
-/
def ftsStringMatches (tokenize : List Char → List (List Char)) (column text : List Char) : Bool :=
  !(tokenize text).isEmpty && decide (tokenize text <:+: tokenize column)

theorem ftsStringMatches_iff {tokenize : List Char → List (List Char)} {column text : List Char}
    : ftsStringMatches tokenize column text = true
      ↔ tokenize text ≠ [] ∧ tokenize text <:+: tokenize column := by
  simp [ftsStringMatches]

/-- `MATCH` on a table with one indexed column. -/
def ftsMatches (tokenize : List Char → List (List Char)) (column expression : List Char) : Bool :=
  (ftsStrings expression).any (·.all (ftsStringMatches tokenize column))

/-- `event_search_scriptgram MATCH` a clause of the query, on the row of a text. -/
def scriptgramFinds (unicode : Unicode) (tokenize : List Char → List (List Char))
    (text query : List Char)
    : Bool :=
  (scriptgramMatchClauses unicode query).any fun (_, clause) =>
    ftsMatches tokenize (scriptgramIndexText unicode text) clause

/-- A quoted term is read as it was, by induction on it. -/
theorem ftsStringsFrom_quoted (strings : List (List Char)) (current term rest : List Char)
    : ftsStringsFrom strings current (replaceChar '"' ['"', '"'] term ++ '"' :: rest)
      = ftsStringsFrom strings (current ++ term) ('"' :: rest) := by
  induction term generalizing current with
  | nil => simp [replaceChar]
  | cons ch term ih =>
      have cons : replaceChar '"' ['"', '"'] (ch :: term)
          = (if ch = '"' then ['"', '"'] else [ch]) ++ replaceChar '"' ['"', '"'] term := rfl
      rw [cons, List.append_cons current, ← ih]
      by_cases quote : ch = '"'
      · subst quote
        rfl
      · simp [quote, ftsStringsFrom]

/-- Behind its first quote a clause is read as its terms, by induction on them. -/
theorem ftsStringsFrom_clause (strings : List (List Char)) (term : List Char)
    (terms : List (List Char))
    : ∃ written,
        List.intercalate " AND ".toList ((term :: terms).map quotedFtsTerm) = '"' :: written
        ∧ ftsStringsFrom strings [] written = some (strings ++ term :: terms) := by
  induction terms generalizing strings term with
  | nil =>
      refine ⟨replaceChar '"' ['"', '"'] term ++ ['"'], by simp [quotedFtsTerm], ?_⟩
      rw [ftsStringsFrom_quoted]
      rfl
  | cons next terms ih =>
      obtain ⟨written, clause, read⟩ := ih (strings ++ [term]) next
      have opened (rest : List Char)
          : ftsStringsFrom strings term ('"' :: (" AND ".toList ++ '"' :: rest))
            = ftsStringsFrom (strings ++ [term]) [] rest := rfl
      refine ⟨replaceChar '"' ['"', '"'] term ++ '"' :: (" AND ".toList ++ '"' :: written), ?_, ?_⟩
      · rw [List.map_cons, List.map_cons, List.intercalate_cons_cons, ← List.map_cons, clause]
        simp [quotedFtsTerm]
      · rw [ftsStringsFrom_quoted, List.nil_append, opened, read, List.append_assoc]
        rfl

/-- FTS5 reads the terms that a clause is written from. -/
theorem ftsStrings_clause {terms : List (List Char)} (some' : terms ≠ [])
    : ftsStrings (List.intercalate " AND ".toList (terms.map quotedFtsTerm)) = some terms := by
  obtain ⟨term, terms, rfl⟩ := List.exists_cons_of_ne_nil some'
  obtain ⟨written, clause, read⟩ := ftsStringsFrom_clause [] term terms
  rw [clause]
  exact read

-----------------------------------------------------------------------------------------
-- Tokens
-----------------------------------------------------------------------------------------

/-- What is known of `unicode61`, the tokenizer of FTS5. Tokens consist of letters and digits, which
are alphanumeric to the analyzer; all other characters separate tokens, or are left out of them.
-/
structure Unicode61 (unicode : Unicode) (tokenize : List Char → List (List Char)) : Prop where
  blank (left right : List Char)
    : tokenize (left ++ ' ' :: right) = tokenize left ++ tokenize right
  leading {ch : Char} (rest : List Char) (separates : tokenize [ch] = [])
    : tokenize (ch :: rest) = tokenize rest
  trailing {ch : Char} (rest : List Char) (separates : tokenize [ch] = [])
    : tokenize (rest ++ [ch]) = tokenize rest
  /-- A letter or digit is in a token. -/
  token {text : List Char} {ch : Char} (none : tokenize text = []) (member : ch ∈ text)
    : tokenize [ch] = []
  mark {ch : Char} (attached : attaching ch = true) : tokenize [ch] = []
  symbol {ch : Char} (script : RunKind.fromChar unicode ch = .gram)
    (other : unicode.isAlphanumeric ch = false)
    : tokenize [ch] = []

section Tokens

variable {unicode : Unicode} {tokenize : List Char → List (List Char)}

theorem Unicode61.nil (sqlite : Unicode61 unicode tokenize) : tokenize [] = [] := by
  have joiner : tokenize ['\u200D'] = [] := sqlite.mark (by decide +kernel)
  exact (sqlite.leading [] joiner).symm.trans joiner

/-- By induction on the characters in front. -/
theorem Unicode61.append_left (sqlite : Unicode61 unicode tokenize) {lead : List Char}
    (separates : ∀ ch ∈ lead, tokenize [ch] = []) (text : List Char)
    : tokenize (lead ++ text) = tokenize text := by
  induction lead with
  | nil => rfl
  | cons ch lead ih =>
      obtain ⟨here, later⟩ := List.forall_mem_cons.mp separates
      exact (sqlite.leading _ here).trans (ih later)

theorem Unicode61.eq_nil_iff (sqlite : Unicode61 unicode tokenize) {text : List Char}
    : tokenize text = [] ↔ ∀ ch ∈ text, tokenize [ch] = [] := by
  constructor
  · exact fun none ch member => sqlite.token none member
  · intro separates
    have all := sqlite.append_left separates []
    rwa [List.append_nil, sqlite.nil] at all

/-- The tokens of a term are among those of the stored terms, by induction on these. -/
theorem Unicode61.isInfix_column (sqlite : Unicode61 unicode tokenize) {term : List Char}
    {terms : List (List Char)} (member : term ∈ terms)
    : tokenize term <:+: tokenize (List.intercalate [' '] terms) := by
  induction terms with
  | nil => cases member
  | cons first rest ih =>
      cases rest with
      | nil =>
          obtain rfl := List.mem_singleton.mp member
          rw [List.intercalate_singleton]
      | cons second rest =>
          rw [List.intercalate_cons_cons, List.append_assoc, List.singleton_append, sqlite.blank]
          rcases List.mem_cons.mp member with rfl | member
          · exact List.infix_append_left
          · exact (ih member).trans List.infix_append_right

end Tokens

-----------------------------------------------------------------------------------------
-- Units of what is left of a phrase
-----------------------------------------------------------------------------------------

/-- Marks join the open unit, by induction on them. -/
theorem segmentsFrom_marks {marks : List Char} (attached : ∀ ch ∈ marks, attaching ch = true)
    (open' rest : List Char)
    : segmentsFrom unitAttaches open' (marks ++ rest)
      = segmentsFrom unitAttaches (open' ++ marks) rest := by
  induction marks generalizing open' with
  | nil => rw [List.nil_append, List.append_nil]
  | cons ch marks ih =>
      obtain ⟨here, later⟩ := List.forall_mem_cons.mp attached
      rw [List.cons_append, segmentsFrom, if_pos (by simp [unitAttaches, here]), ih later,
        List.append_assoc]
      rfl

/-- A character in front of a text is a unit with the marks behind it, or extends the first unit, or
is a mark of none.
-/
theorem graphemeishUnits_cons (ch : Char) (text : List Char)
    : graphemeishUnits (ch :: text) = graphemeishUnits text
      ∨ ∃ lead,
          (∀ other ∈ lead, other = ch ∨ attaching other = true)
          ∧ (graphemeishUnits (ch :: text) = lead :: graphemeishUnits text
            ∨ ∃ first rest,
                graphemeishUnits text = first :: rest
                ∧ graphemeishUnits (ch :: text) = (lead ++ first) :: rest) := by
  rw [graphemeishUnits_eq, graphemeishUnits_eq text]
  by_cases attached : attaching ch = true
  · exact .inl (by rw [List.dropWhile_cons_of_pos attached])
  · have marks : ∀ other ∈ text.takeWhile attaching, attaching other = true := fun _ member =>
      List.mem_takeWhile_imp member
    have opened
        : segments unitAttaches ((ch :: text).dropWhile attaching)
          = segmentsFrom unitAttaches (ch :: text.takeWhile attaching)
              (text.dropWhile attaching) := by
      have split := segmentsFrom_marks marks [ch] (text.dropWhile attaching)
      rw [List.takeWhile_append_dropWhile] at split
      rwa [List.dropWhile_cons_of_neg attached]
    rw [opened]
    refine .inr ⟨ch :: text.takeWhile attaching, ?_, ?_⟩
    · intro other member
      exact (List.mem_cons.mp member).imp_right (marks other)
    · cases behind : text.dropWhile attaching with
      | nil => exact .inl rfl
      | cons next rest =>
          rw [segmentsFrom]
          by_cases joins : unitAttaches (ch :: text.takeWhile attaching) next = true
          · -- Both characters are jamo: the same characters join a unit that starts with either.
            have detached : attaching next = false := by
              simpa [behind] using List.head?_dropWhile_not attaching text
            have absorbed : absorbs (ch :: text.takeWhile attaching) [next] = true := by
              simpa [unitAttaches, detached] using joins
            have jamo : isHangulJamo next = true ∧ isHangulJamo ch = true := by
              simp [absorbs] at absorbed
              exact ⟨absorbed.1.1, absorbed.2⟩
            obtain ⟨more, later, cut, extended⟩ :=
              @segmentsFrom_append_left Char unitAttaches (ch :: text.takeWhile attaching) [next]
                rest (by simp [unitAttaches, absorbs, jamo])
            rw [if_pos joins]
            exact .inr ⟨[next] ++ more, later, cut, extended⟩
          · rw [if_neg joins]
            exact .inl rfl

/-- A character behind a text extends the last unit or is one, or is a mark of none. -/
theorem graphemeishUnits_concat (text : List Char) (ch : Char)
    : graphemeishUnits (text ++ [ch]) = graphemeishUnits text
      ∨ graphemeishUnits (text ++ [ch]) = graphemeishUnits text ++ [[ch]]
      ∨ ∃ front last,
          graphemeishUnits text = front ++ [last]
          ∧ graphemeishUnits (text ++ [ch]) = front ++ [last ++ [ch]] := by
  rw [graphemeishUnits_eq, graphemeishUnits_eq text, List.dropWhile_append]
  cases kept : text.dropWhile attaching with
  | nil =>
      by_cases attached : attaching ch = true
      · exact .inl (by simp [attached])
      · exact .inr (.inl (by simp [attached, segments, segmentsFrom]))
  | cons first rest =>
      obtain ⟨front, last, cut, more⟩ := @segmentsFrom_concat Char unitAttaches [first] rest ch
      have units : segments unitAttaches (first :: rest) = front ++ [last] := cut
      have grown : segments unitAttaches (first :: rest ++ [ch])
          = front ++ if unitAttaches last ch then [last ++ [ch]] else [last, [ch]] := more
      rw [if_neg (by simp), grown, units]
      by_cases joins : unitAttaches last ch = true
      · rw [if_pos joins]
        exact .inr (.inr ⟨front, last, rfl, rfl⟩)
      · rw [if_neg joins]
        exact .inr (.inl (by simp))

-----------------------------------------------------------------------------------------
-- Terms of what is left of a phrase
-----------------------------------------------------------------------------------------

/-- The only unit, or a gram of the units. -/
def UnitTerm (units : List (List Char)) (term : List Char) : Prop :=
  units = [term] ∨ ∃ pair ∈ neighbours units, term = pair.1 ++ pair.2

theorem UnitTerm.cons {units : List (List Char)} {term : List Char} (asked : UnitTerm units term)
    (lead : List Char)
    : UnitTerm (lead :: units) term ∨ UnitTerm (lead :: units) (lead ++ term) := by
  rcases asked with rfl | ⟨pair, member, rfl⟩
  · exact .inr (.inr ⟨(lead, term), by simp, rfl⟩)
  · exact .inl (.inr ⟨pair, neighbours_of_infix (List.suffix_cons lead units).isInfix member, rfl⟩)

theorem UnitTerm.appendFirst {first term : List Char} {rest : List (List Char)}
    (asked : UnitTerm (first :: rest) term) (lead : List Char)
    : UnitTerm ((lead ++ first) :: rest) term ∨ UnitTerm ((lead ++ first) :: rest) (lead ++ term) := by
  rcases asked with alone | ⟨pair, member, rfl⟩
  · obtain ⟨rfl, rfl⟩ := List.cons.inj alone
    exact .inr (.inl rfl)
  · cases rest with
    | nil => cases member
    | cons second rest =>
        rw [neighbours_cons_cons] at member
        rcases List.mem_cons.mp member with rfl | member
        · exact .inr (.inr ⟨(lead ++ first, second), by simp, by simp⟩)
        · exact .inl (.inr ⟨pair, by simp [member], rfl⟩)

theorem UnitTerm.concat {units : List (List Char)} {term : List Char} (asked : UnitTerm units term)
    (trail : List Char)
    : UnitTerm (units ++ [trail]) term ∨ UnitTerm (units ++ [trail]) (term ++ trail) := by
  rcases asked with rfl | ⟨pair, member, rfl⟩
  · exact .inr (.inr ⟨(term, trail), by simp, rfl⟩)
  · exact .inl (.inr ⟨pair, neighbours_of_infix (List.prefix_append units [trail]).isInfix member, rfl⟩)

theorem UnitTerm.appendLast {last term : List Char} {front : List (List Char)}
    (asked : UnitTerm (front ++ [last]) term) (trail : List Char)
    : UnitTerm (front ++ [last ++ trail]) term
      ∨ UnitTerm (front ++ [last ++ trail]) (term ++ trail) := by
  rcases List.eq_nil_or_concat' front with rfl | ⟨front, previous, rfl⟩
  · rcases asked with alone | ⟨pair, member, rfl⟩
    · obtain ⟨rfl, -⟩ := List.cons.inj alone
      exact .inr (.inl rfl)
    · cases member
  · rw [List.append_assoc] at asked ⊢
    rcases asked with alone | ⟨pair, member, rfl⟩
    · exact absurd (congrArg List.length alone) (by simp)
    · rcases mem_neighbours_concat.mp member with member | rfl
      · exact .inl (.inr ⟨pair, mem_neighbours_concat.mpr (.inl member), rfl⟩)
      · exact .inr (.inr ⟨(previous, last ++ trail), mem_neighbours_concat.mpr (.inr rfl), by simp⟩)

section Terms

variable {unicode : Unicode} {tokenize : List Char → List (List Char)}

/-- A term of the units has the tokens of the other. -/
def HasTermLike (tokenize : List Char → List (List Char)) (units : List (List Char))
    (term : List Char)
    : Prop :=
  ∃ other, UnitTerm units other ∧ tokenize other = tokenize term

/-- A separator in front of a text changes the tokens of no term. -/
theorem Unicode61.termLike_cons (sqlite : Unicode61 unicode tokenize) {ch : Char}
    (separates : tokenize [ch] = []) {text term : List Char}
    (asked : UnitTerm (graphemeishUnits text) term)
    : HasTermLike tokenize (graphemeishUnits (ch :: text)) term := by
  rcases graphemeishUnits_cons ch text with same | ⟨lead, marks, more⟩
  · exact ⟨term, by rwa [same], rfl⟩
  · have longer : tokenize (lead ++ term) = tokenize term := by
      refine sqlite.append_left (fun other member => ?_) term
      rcases marks other member with rfl | attached
      · exact separates
      · exact sqlite.mark attached
    have either
        : UnitTerm (graphemeishUnits (ch :: text)) term
          ∨ UnitTerm (graphemeishUnits (ch :: text)) (lead ++ term) := by
      rcases more with more | ⟨first, rest, before, more⟩
      · rw [more]
        exact asked.cons lead
      · rw [before] at asked
        rw [more]
        exact asked.appendFirst lead
    rcases either with either | either
    · exact ⟨term, either, rfl⟩
    · exact ⟨lead ++ term, either, longer⟩

/-- A separator behind a text changes the tokens of no term. -/
theorem Unicode61.termLike_concat (sqlite : Unicode61 unicode tokenize) {ch : Char}
    (separates : tokenize [ch] = []) {text term : List Char}
    (asked : UnitTerm (graphemeishUnits text) term)
    : HasTermLike tokenize (graphemeishUnits (text ++ [ch])) term := by
  have longer : tokenize (term ++ [ch]) = tokenize term := sqlite.trailing term separates
  have either
      : UnitTerm (graphemeishUnits (text ++ [ch])) term
        ∨ UnitTerm (graphemeishUnits (text ++ [ch])) (term ++ [ch]) := by
    rcases graphemeishUnits_concat text ch with same | more | ⟨front, last, before, more⟩
    · exact .inl (by rwa [same])
    · rw [more]
      exact asked.concat [ch]
    · rw [before] at asked
      rw [more]
      exact asked.appendLast [ch]
  rcases either with either | either
  · exact ⟨term, either, rfl⟩
  · exact ⟨term ++ [ch], either, longer⟩

/-- By induction on the separators in front. -/
theorem Unicode61.termLike_append_left (sqlite : Unicode61 unicode tokenize) {lead : List Char}
    (separates : ∀ ch ∈ lead, tokenize [ch] = []) {text term : List Char}
    (asked : UnitTerm (graphemeishUnits text) term)
    : HasTermLike tokenize (graphemeishUnits (lead ++ text)) term := by
  induction lead with
  | nil => exact ⟨term, asked, rfl⟩
  | cons ch lead ih =>
      obtain ⟨here, later⟩ := List.forall_mem_cons.mp separates
      obtain ⟨other, asked, same⟩ := ih later
      obtain ⟨another, asked, again⟩ := sqlite.termLike_cons here asked
      exact ⟨another, asked, again.trans same⟩

/-- By induction on the separators behind. -/
theorem Unicode61.termLike_append_right (sqlite : Unicode61 unicode tokenize) {trail : List Char}
    (separates : ∀ ch ∈ trail, tokenize [ch] = []) {text term : List Char}
    (asked : UnitTerm (graphemeishUnits text) term)
    : HasTermLike tokenize (graphemeishUnits (text ++ trail)) term := by
  induction trail generalizing text term with
  | nil => exact ⟨term, by rwa [List.append_nil], rfl⟩
  | cons ch trail ih =>
      obtain ⟨here, later⟩ := List.forall_mem_cons.mp separates
      obtain ⟨other, asked, same⟩ := sqlite.termLike_concat here asked
      obtain ⟨another, asked, again⟩ := ih later asked
      exact ⟨another, by rwa [List.append_cons], again.trans same⟩

end Terms

-----------------------------------------------------------------------------------------
-- Copied phrases in the table
-----------------------------------------------------------------------------------------

-----------------------------------------------------------------------------------------
-- Copied phrases in the table
-----------------------------------------------------------------------------------------

section Pieces

variable {unicode : Unicode} {tokenize : List Char → List (List Char)} {text phrase : List Char}

/-- A copied phrase has at most one clause: the terms that it asks for, each of which must match. -/
theorem GramText.scriptgramFinds_iff (script : GramText unicode phrase)
    (grammed : containsGrammedScript phrase = true)
    : scriptgramFinds unicode tokenize text phrase = true
      ↔ generatedQueryTerms unicode phrase ≠ []
        ∧ ∀ term ∈ generatedQueryTerms unicode phrase,
            ftsStringMatches tokenize (scriptgramIndexText unicode text) term = true := by
  unfold scriptgramFinds scriptgramMatchClauses generatedQueryTerms
  rw [if_neg (by simp [grammed]), if_neg (by simp [grammed]), script.lexicalQueryTerms]
  by_cases visible : (trimFtsTerm unicode phrase).any unicode.isAlphanumeric = true
  · rw [if_pos visible, List.flatMap_singleton]
    simp only [List.zipIdx_singleton, List.filterMap_cons, List.filterMap_nil, queryTermClause_eq]
    cases asked : clauseTerms unicode (trimFtsTerm unicode phrase) with
    | nil => simp
    | cons term terms =>
        have read := ftsStrings_clause (List.cons_ne_nil term terms)
        simp only [Option.map_some, List.any_cons, List.any_nil, Bool.or_false, ftsMatches]
        rw [read]
        simp
  · rw [if_neg visible]
    simp

/-- The scriptgram row of a text with a run of grams holds its index terms. -/
theorem scriptgramIndexText_of_gramRun {run : List Char} (indexed : run ∈ gramRuns unicode text)
    : scriptgramIndexText unicode text
      = List.intercalate [' '] (generatedIndexTerms unicode text) := by
  have member := mem_gramRuns.mp indexed
  obtain ⟨first, rest, rfl, here, -⟩ := isRun_of_mem_runs member
  have inside : first ∈ text := subset_of_mem_runs member List.mem_cons_self
  have scripted : (SearchScript.fromChar first).any (·.isGrammed) = true := by
    unfold RunKind.fromChar at here
    by_contra unscripted
    rw [if_neg unscripted] at here
    split at here
    next => cases here
    next => split at here <;> cases here
  exact if_pos (List.any_eq_true.mpr ⟨first, inside, scripted⟩)

/-- What trimming leaves of a phrase has a token, and so has every gram of its units. -/
def TrimmedHasTokens (unicode : Unicode) (tokenize : List Char → List (List Char))
    (phrase : List Char)
    : Prop :=
  let trimmed := trimFtsTerm unicode phrase
  (∃ ch ∈ trimmed, tokenize [ch] ≠ [])
  ∧ ∀ pair ∈ neighbours (graphemeishUnits trimmed), ∃ ch ∈ pair.1 ++ pair.2, tokenize [ch] ≠ []

instance : Decidable (TrimmedHasTokens unicode tokenize phrase) :=
  decidable_of_iff
    ((trimFtsTerm unicode phrase).any (fun ch => !(tokenize [ch]).isEmpty) = true
      ∧ ∀ pair ∈ neighbours (graphemeishUnits (trimFtsTerm unicode phrase)),
          (pair.1 ++ pair.2).any (fun ch => !(tokenize [ch]).isEmpty) = true)
    (by simp only [TrimmedHasTokens, List.any_eq_true, Bool.not_eq_true', List.isEmpty_eq_false_iff])

/-- What `trim_fts_term` removes from a text of scripts separates tokens. -/
theorem Unicode61.separates_of_trimmed (sqlite : Unicode61 unicode tokenize) {ch : Char}
    (script : RunKind.fromChar unicode ch = .gram ∨ attaching ch = true)
    (removed : (!unicode.isAlphanumeric ch && ch ≠ '_' && ch ≠ '-') = true)
    : tokenize [ch] = [] := by
  rcases script with script | attached
  · have other : unicode.isAlphanumeric ch = false := by
      simp at removed
      exact removed.1.1
    exact sqlite.symbol script other
  · exact sqlite.mark attached

/-- A term of what is left of a phrase has the tokens of a term of the phrase. -/
theorem Unicode61.termLike_of_trimmed (sqlite : Unicode61 unicode tokenize)
    (script : GramText unicode phrase) {term : List Char}
    (asked : UnitTerm (graphemeishUnits (trimFtsTerm unicode phrase)) term)
    : HasTermLike tokenize (graphemeishUnits phrase) term := by
  obtain ⟨trail, whole, removed⟩ := strip_append_end
    (fun ch => !unicode.isAlphanumeric ch && ch ≠ '_' && ch ≠ '-') phrase
  have behind : ∀ ch ∈ trail, tokenize [ch] = [] := by
    intro ch member
    refine sqlite.separates_of_trimmed (script ch ?_) (removed ch member)
    rw [whole]
    simp [member]
  have before
      : ∀ ch ∈ phrase.takeWhile fun ch => !unicode.isAlphanumeric ch && ch ≠ '_' && ch ≠ '-',
          tokenize [ch] = [] := fun ch member =>
    sqlite.separates_of_trimmed (script ch ((List.takeWhile_sublist _).subset member))
      (@List.mem_takeWhile_imp _ _ phrase ch member)
  obtain ⟨other, asked, same⟩ := sqlite.termLike_append_right behind asked
  obtain ⟨another, asked, again⟩ := sqlite.termLike_append_left before asked
  refine ⟨another, ?_, again.trans same⟩
  rw [whole]
  exact asked

/-- A term of a copied phrase has tokens that follow each other in the scriptgram row. -/
theorem Unicode61.isInfix_row (sqlite : Unicode61 unicode tokenize) {run term : List Char}
    {piece : List (List Char)} (indexed : run ∈ gramRuns unicode text)
    (inside : piece <:+: graphemeishUnits run) (several : 2 ≤ piece.length)
    (asked : UnitTerm (graphemeishUnits (trimFtsTerm unicode piece.flatten)) term)
    : tokenize term <:+: tokenize (scriptgramIndexText unicode text) := by
  have script : GramText unicode piece.flatten :=
    (isRun_of_mem_runs (mem_gramRuns.mp indexed)).gramText.units inside
  obtain ⟨other, asked, same⟩ := sqlite.termLike_of_trimmed script asked
  rw [units_of_isInfix inside] at asked
  rw [scriptgramIndexText_of_gramRun indexed, ← same]
  refine sqlite.isInfix_column (mem_generatedIndexTerms.mpr (.inl ⟨run, indexed, .inr ?_⟩))
  rcases asked with rfl | ⟨pair, member, rfl⟩
  · simp at several
  · exact List.mem_map.mpr ⟨pair, neighbours_of_infix inside member, rfl⟩

theorem Unicode61.ne_nil_iff (sqlite : Unicode61 unicode tokenize) {term : List Char}
    : tokenize term ≠ [] ↔ ∃ ch ∈ term, tokenize [ch] ≠ [] := by
  rw [ne_eq, sqlite.eq_nil_iff]
  simp

/-- The characters of a text's units are those of the text. -/
theorem subset_of_mem_units {unit : List Char} (member : unit ∈ graphemeishUnits text)
    : unit ⊆ text := by
  intro ch inside
  have flat := List.mem_flatten.mpr ⟨unit, member, inside⟩
  rw [flatten_graphemeishUnits] at flat
  exact (List.dropWhile_sublist attaching).subset flat

/-- A token of a copied phrase is alphanumeric and in a unit, as marks are in no token. -/
theorem Unicode61.of_token (sqlite : Unicode61 unicode tokenize) (script : GramText unicode text)
    {ch : Char} (inside : ch ∈ text) (token : tokenize [ch] ≠ [])
    : unicode.isAlphanumeric ch = true ∧ ch ∈ (graphemeishUnits text).flatten := by
  have detached : ¬ attaching ch = true := fun attached => token (sqlite.mark attached)
  constructor
  · by_contra other
    have here := (script ch inside).resolve_right detached
    exact token (sqlite.symbol here (by simpa using other))
  · rw [flatten_graphemeishUnits]
    rw [← @List.takeWhile_append_dropWhile _ attaching text] at inside
    rcases List.mem_append.mp inside with marks | inside
    · exact absurd (List.mem_takeWhile_imp marks) detached
    · exact inside

/-- A copied phrase all of whose terms have tokens. -/
theorem Unicode61.trimmedHasTokens (sqlite : Unicode61 unicode tokenize)
    (script : GramText unicode phrase) (grammed : containsGrammedScript phrase = true)
    (some' : generatedQueryTerms unicode phrase ≠ [])
    (tokens : ∀ term ∈ generatedQueryTerms unicode phrase, tokenize term ≠ [])
    : TrimmedHasTokens unicode tokenize phrase := by
  obtain ⟨first, rest, asked⟩ := List.exists_cons_of_ne_nil some'
  have asked : first ∈ generatedQueryTerms unicode phrase := by simp [asked]
  obtain ⟨visible, which⟩ := (script.mem_generatedQueryTerms grammed).mp asked
  constructor
  · obtain ⟨ch, inside, token⟩ := sqlite.ne_nil_iff.mp (tokens first asked)
    rcases which with ⟨-, rfl⟩ | alone | ⟨pair, member, rfl⟩
    · exact ⟨ch, inside, token⟩
    · exact ⟨ch, subset_of_mem_units (by rw [alone]; exact List.mem_cons_self) inside, token⟩
    · obtain ⟨left, right⟩ := List.of_mem_zip member
      refine ⟨ch, ?_, token⟩
      rcases List.mem_append.mp inside with inside | inside
      · exact subset_of_mem_units left inside
      · exact subset_of_mem_units (List.mem_of_mem_tail right) inside
  · intro pair member
    have gram := (script.mem_generatedQueryTerms grammed).mpr
      ⟨visible, .inr (.inr ⟨pair, member, rfl⟩)⟩
    exact sqlite.ne_nil_iff.mp (tokens _ gram)

/-- Such a phrase has a term, and all its terms have tokens. -/
theorem TrimmedHasTokens.terms (spoken : TrimmedHasTokens unicode tokenize phrase)
    (sqlite : Unicode61 unicode tokenize) (script : GramText unicode phrase)
    (grammed : containsGrammedScript phrase = true)
    : generatedQueryTerms unicode phrase ≠ []
      ∧ ∀ term ∈ generatedQueryTerms unicode phrase, tokenize term ≠ [] := by
  obtain ⟨⟨ch, inside, token⟩, grams⟩ := spoken
  obtain ⟨alphanumeric, inUnit⟩ := sqlite.of_token script.trimmed inside token
  have visible : (trimFtsTerm unicode phrase).any unicode.isAlphanumeric = true :=
    List.any_eq_true.mpr ⟨ch, inside, alphanumeric⟩
  have terms (term : List Char) := @GramText.mem_generatedQueryTerms unicode _ script grammed term
  constructor
  · intro none
    rw [List.eq_nil_iff_forall_not_mem] at none
    cases units : graphemeishUnits (trimFtsTerm unicode phrase) with
    | nil =>
        rw [units] at inUnit
        cases inUnit
    | cons first rest =>
        cases rest with
        | nil => exact none first ((terms first).mpr ⟨visible, .inr (.inl units)⟩)
        | cons second rest =>
            have gram : (first, second) ∈ neighbours (graphemeishUnits (trimFtsTerm unicode phrase)) := by
              simp [units]
            exact none (first ++ second) ((terms _).mpr ⟨visible, .inr (.inr ⟨_, gram, rfl⟩)⟩)
  · intro term asked
    apply sqlite.ne_nil_iff.mpr
    rcases ((terms term).mp asked).2 with ⟨none, -⟩ | alone | ⟨pair, member, rfl⟩
    · rw [none] at inUnit
      cases inUnit
    · rw [alone, List.flatten_singleton] at inUnit
      exact ⟨ch, inUnit, token⟩
    · exact grams pair member

end Pieces

-----------------------------------------------------------------------------------------
-- A tokenizer
-----------------------------------------------------------------------------------------

/-- A character of a token: a letter or digit that is no mark. -/
def isTokenChar (unicode : Unicode) (ch : Char) : Bool :=
  unicode.isAlphanumeric ch && !attaching ch

/-- The longest runs of letters and digits. -/
def tokenRuns (unicode : Unicode) (text : List Char) : List (List Char) :=
  (text.splitOnP fun ch => !isTokenChar unicode ch).filter fun run => !run.isEmpty

section Tokenizer

variable {unicode : Unicode}

theorem tokenRuns_nil : tokenRuns unicode [] = [] := rfl

theorem tokenRuns_append_cons {ch : Char} (separates : isTokenChar unicode ch = false)
    (left right : List Char)
    : tokenRuns unicode (left ++ ch :: right) = tokenRuns unicode left ++ tokenRuns unicode right := by
  unfold tokenRuns
  rw [List.splitOnP_append_cons left right (by simp [separates]), List.filter_append]

theorem tokenRuns_cons {ch : Char} (separates : isTokenChar unicode ch = false) (rest : List Char)
    : tokenRuns unicode (ch :: rest) = tokenRuns unicode rest :=
  tokenRuns_append_cons separates [] rest

/-- A text with a letter or digit has a run of them, by induction on the text. -/
theorem tokenRuns_ne_nil {text : List Char} {ch : Char} (member : ch ∈ text)
    (isToken : isTokenChar unicode ch = true)
    : tokenRuns unicode text ≠ [] := by
  induction text with
  | nil => cases member
  | cons first rest ih =>
      cases starts : isTokenChar unicode first with
      | false =>
          rw [tokenRuns_cons starts]
          rcases List.mem_cons.mp member with rfl | member
          · rw [starts] at isToken
            cases isToken
          · exact ih member
      | true =>
          obtain ⟨run, runs, cut⟩ :=
            List.exists_cons_of_ne_nil (List.splitOnP_ne_nil (fun ch => !isTokenChar unicode ch) rest)
          simp [tokenRuns, List.splitOnP_cons_eq_if_modifyHead, starts, cut]

theorem tokenRuns_singleton_eq_nil_iff {ch : Char}
    : tokenRuns unicode [ch] = [] ↔ isTokenChar unicode ch = false := by
  constructor
  · intro none
    rw [← Bool.not_eq_true]
    exact fun isToken => tokenRuns_ne_nil List.mem_cons_self isToken none
  · intro separates
    rw [tokenRuns_cons separates, tokenRuns_nil]

/-- Tokens as the longest runs of letters and digits are tokens of `unicode61`. -/
theorem unicode61_tokenRuns (blank : unicode.isAlphanumeric ' ' = false)
    : Unicode61 unicode (tokenRuns unicode) where
  blank := tokenRuns_append_cons (by simp [isTokenChar, blank])
  leading rest separates := tokenRuns_cons (tokenRuns_singleton_eq_nil_iff.mp separates) rest
  trailing rest separates := by
    rw [tokenRuns_append_cons (tokenRuns_singleton_eq_nil_iff.mp separates), tokenRuns_nil,
      List.append_nil]
  token none member := by
    rw [tokenRuns_singleton_eq_nil_iff, ← Bool.not_eq_true]
    exact fun isToken => tokenRuns_ne_nil member isToken none
  mark attached := tokenRuns_singleton_eq_nil_iff.mpr (by simp [isTokenChar, attached])
  symbol _ other := tokenRuns_singleton_eq_nil_iff.mpr (by simp [isTokenChar, other])

end Tokenizer

-----------------------------------------------------------------------------------------
-- Middle dots
-----------------------------------------------------------------------------------------

/-- The letters of kana, and the letters and digits of ASCII; a middle dot is none of them. -/
def kanaUnicode : Unicode where
  isAlphanumeric ch :=
    inRanges ch.toNat
      [(0x30, 0x39), (0x41, 0x5A), (0x61, 0x7A), (0x3041, 0x3096), (0x309D, 0x309F),
        (0x30A1, 0x30FA), (0x30FC, 0x30FF)]
  toLowercase text := text

end CtxRemote.Store
