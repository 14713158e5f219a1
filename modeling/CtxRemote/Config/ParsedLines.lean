import CtxRemote.Config.TomlSubset
import CtxRemote.Library.Associations
import CtxRemote.Library.Strip

/-! What a configuration says line by line: a line opens a section or sets a key in the section in
force, and the parser accepts the lines whose full keys are distinct. A carriage return at the end of
a line says nothing.
-/

namespace CtxRemote.Config
open CtxRemote.Library
open CtxRemote.Turso (trim splitOnce isWhitespace)

-----------------------------------------------------------------------------------------
-- Lines
-----------------------------------------------------------------------------------------

/-- What a line says. -/
inductive Item where
  | blank
  | header (sectionName : List Char)
  | entry (key value : List Char)
  | invalid

/-- What the parser takes a line for. -/
def itemOf (rawLine : List Char) : Item :=
  let line := trim (stripComment rawLine)
  if line.isEmpty then .blank
  else if line.head? = some '[' then
    if line.getLast? ≠ some ']' then .invalid
    else if (headerName line).isEmpty then .invalid
    else .header (headerName line)
  else
    match splitOnce '=' line with
    | none => .invalid
    | some (key, value) => if (trim key).isEmpty then .invalid else .entry (trim key) (trim value)

/-- The section behind a line. -/
def behind (sectionName line : List Char) : List Char :=
  match itemOf line with
  | .header next => next
  | _ => sectionName

/-- What a line sets, by its full key. -/
def entryOf (sectionName line : List Char) : Option (List Char × List Char) :=
  match itemOf line with
  | .entry key value => some (fullKey sectionName key, value)
  | _ => none

/-- What the lines set. -/
def entries (sectionName : List Char) : List (List Char) → List (List Char × List Char)
  | [] => []
  | line :: rest => (entryOf sectionName line).toList ++ entries (behind sectionName line) rest

theorem entries_append (sectionName : List Char) (front rest : List (List Char))
    : entries sectionName (front ++ rest)
      = entries sectionName front ++ entries (front.foldl behind sectionName) rest := by
  induction front generalizing sectionName with
  | nil => rfl
  | cons line front ih => rw [List.cons_append, entries, ih, entries, List.append_assoc, List.foldl_cons]

/-- The values of a configuration, as texts. -/
def pairs (values : ConfigValues) : List (List Char × List Char) :=
  values.rows.map fun row => (row.1, row.2.raw)

/-- The text of a value. -/
def rawOf (values : ConfigValues) (key : List Char) : Option (List Char) :=
  (values.find? key).map (·.2.raw)

theorem lookup_pairs (values : ConfigValues) (key : List Char)
    : (pairs values).lookup key = rawOf values key := by
  unfold pairs rawOf Keyed.find?
  induction values.rows with
  | nil => rfl
  | cons row rows ih =>
      rw [List.map_cons, List.lookup_cons, ih, List.find?_cons]
      by_cases here : row.1 = key
      · simp [here]
      · have other : (key == row.1) = false := beq_eq_false_iff_ne.mpr (Ne.symm here)
        simp [here, other]

theorem map_fst_pairs (values : ConfigValues) : (pairs values).map Prod.fst = values.rows.map Prod.fst := by
  unfold pairs
  rw [List.map_map]
  rfl

-----------------------------------------------------------------------------------------
-- Acceptance
-----------------------------------------------------------------------------------------

/-- The parser does what the line says. -/
theorem parseLine_spec (parsing : Parsing) (lineNumber : Nat) (rawLine : List Char)
    : match itemOf rawLine with
      | .blank => parseLine parsing lineNumber rawLine = .ok parsing
      | .header next => parseLine parsing lineNumber rawLine = .ok { parsing with sectionName := next }
      | .entry key value =>
          if parsing.values.holds (fullKey parsing.sectionName key) then
            ∃ error, parseLine parsing lineNumber rawLine = .error error
          else
            parseLine parsing lineNumber rawLine
              = .ok { parsing with
                  values := parsing.values.put (fullKey parsing.sectionName key, ⟨value, lineNumber⟩) }
      | .invalid => ∃ error, parseLine parsing lineNumber rawLine = .error error := by
  unfold itemOf parseLine
  simp only
  generalize trim (stripComment rawLine) = line
  by_cases empty : line.isEmpty = true
  · simp only [empty, if_true]
  rw [if_neg empty, if_neg empty]
  by_cases bracket : line.head? = some '['
  · rw [if_pos bracket, if_pos bracket]
    by_cases closed : line.getLast? ≠ some ']'
    · rw [if_pos closed, if_pos closed]
      exact ⟨_, rfl⟩
    rw [if_neg closed, if_neg closed]
    by_cases unnamed : (headerName line).isEmpty = true
    · rw [if_pos unnamed, if_pos unnamed]
      exact ⟨_, rfl⟩
    · rw [if_neg unnamed, if_neg unnamed]
  · rw [if_neg bracket, if_neg bracket]
    cases cut : splitOnce '=' line with
    | none => exact ⟨_, rfl⟩
    | some parts =>
        simp only
        by_cases unnamed : (trim parts.1).isEmpty = true
        · rw [if_pos unnamed, if_pos unnamed]
          exact ⟨_, rfl⟩
        rw [if_neg unnamed, if_neg unnamed]
        cases held : parsing.values.find? (fullKey parsing.sectionName (trim parts.1)) with
        | none => simp [Keyed.holds, held]
        | some previous => simp [Keyed.holds, held]

/-- The lines are accepted behind some values: each says something, and no full key comes twice. -/
structure Accepted (values : ConfigValues) (sectionName : List Char) (all : List (List Char)) : Prop where
  valid : ∀ line ∈ all, itemOf line ≠ .invalid
  distinct : ((pairs values ++ entries sectionName all).map Prod.fst).Nodup

theorem holds_iff_mem_pairs {values : ConfigValues} {key : List Char}
    : values.holds key = true ↔ key ∈ (pairs values).map Prod.fst := by
  rw [map_fst_pairs, Keyed.holds_iff, List.mem_map]
  rfl

theorem pairs_put {values : ConfigValues} {key : List Char} (fresh : values.holds key = false)
    (value : ConfigValue)
    : pairs (values.put (key, value)) = pairs values ++ [(key, value.raw)] := by
  unfold pairs
  rw [Keyed.rows_put_fresh fresh, List.map_append]
  rfl

/-- A line that sets a key that is not set yet. -/
theorem accepted_entry {values : ConfigValues} {sectionName line key value : List Char}
    {rest : List (List Char)} (item : itemOf line = .entry key value) (lineNumber : Nat)
    : Accepted values sectionName (line :: rest)
      ↔ values.holds (fullKey sectionName key) = false
        ∧ Accepted (values.put (fullKey sectionName key, ⟨value, lineNumber⟩)) sectionName rest := by
  have said : entries sectionName (line :: rest)
      = [(fullKey sectionName key, value)] ++ entries sectionName rest := by
    rw [entries, entryOf, behind, item]
    rfl
  constructor
  · rintro ⟨valid, distinct⟩
    rw [said, ← List.append_assoc] at distinct
    have fresh : values.holds (fullKey sectionName key) = false := by
      rw [Bool.eq_false_iff]
      intro held
      rw [holds_iff_mem_pairs] at held
      rw [List.append_assoc, List.map_append, List.nodup_append] at distinct
      exact distinct.2.2 _ held _ (.head _) rfl
    refine ⟨fresh, fun line member => valid line (.tail _ member), ?_⟩
    rw [pairs_put fresh]
    exact distinct
  · rintro ⟨fresh, valid, distinct⟩
    refine ⟨List.forall_mem_cons.mpr ⟨by rw [item]; exact Item.noConfusion, valid⟩, ?_⟩
    rw [said, ← List.append_assoc]
    rw [pairs_put fresh] at distinct
    exact distinct

/-- A line that sets no key. -/
theorem accepted_other {values : ConfigValues} {sectionName line : List Char} {rest : List (List Char)}
    (valid : itemOf line ≠ .invalid) (silent : entryOf sectionName line = none)
    : Accepted values sectionName (line :: rest) ↔ Accepted values (behind sectionName line) rest := by
  have said : entries sectionName (line :: rest) = entries (behind sectionName line) rest := by
    rw [entries, silent]
    rfl
  constructor
  · rintro ⟨all, distinct⟩
    exact ⟨fun line member => all line (.tail _ member), said ▸ distinct⟩
  · rintro ⟨all, distinct⟩
    exact ⟨List.forall_mem_cons.mpr ⟨valid, all⟩, said ▸ distinct⟩

/-- The parser accepts what is to be accepted, and it has all that the lines set. Witness: by induction
on the lines.
-/
theorem parseLines_spec (all : List (List Char)) (lineNumber : Nat) (parsing : Parsing)
    : match parseLines lineNumber parsing all with
      | .ok final =>
          Accepted parsing.values parsing.sectionName all
          ∧ pairs final.values = pairs parsing.values ++ entries parsing.sectionName all
      | .error _ => ¬Accepted parsing.values parsing.sectionName all := by
  induction all generalizing lineNumber parsing with
  | nil =>
      refine ⟨⟨fun line member => absurd member List.not_mem_nil, ?_⟩, (List.append_nil _).symm⟩
      rw [entries, List.append_nil, map_fst_pairs]
      exact parsing.values.distinct
  | cons line rest ih =>
      have step := parseLine_spec parsing lineNumber line
      have other (next : Parsing) (went : parseLine parsing lineNumber line = .ok next)
          (same : next.values = parsing.values) (moved : next.sectionName = behind parsing.sectionName line)
          (valid : itemOf line ≠ .invalid) (silent : entryOf parsing.sectionName line = none)
          : match parseLines lineNumber parsing (line :: rest) with
            | .ok final =>
                Accepted parsing.values parsing.sectionName (line :: rest)
                ∧ pairs final.values
                  = pairs parsing.values ++ entries parsing.sectionName (line :: rest)
            | .error _ => ¬Accepted parsing.values parsing.sectionName (line :: rest) := by
        have later := ih (lineNumber + 1) next
        rw [accepted_other valid silent, entries, silent]
        rw [same, moved] at later
        rw [parseLines, went]
        exact later
      cases item : itemOf line with
      | blank =>
          rw [item] at step
          exact other _ step rfl (by rw [behind, item]) (by rw [item]; exact Item.noConfusion)
            (by rw [entryOf, item])
      | header next =>
          rw [item] at step
          exact other _ step rfl (by rw [behind, item]) (by rw [item]; exact Item.noConfusion)
            (by rw [entryOf, item])
      | entry key value =>
          rw [item] at step
          simp only at step
          rw [accepted_entry item lineNumber, entries, entryOf, behind, item]
          split at step
          next held =>
              obtain ⟨error, stopped⟩ := step
              rw [parseLines, stopped]
              rintro ⟨fresh, -⟩
              rw [held] at fresh
              cases fresh
          next unheld =>
              have fresh : parsing.values.holds (fullKey parsing.sectionName key) = false :=
                Bool.eq_false_iff.mpr unheld
              have later := ih (lineNumber + 1) { parsing with
                values := parsing.values.put (fullKey parsing.sectionName key, ⟨value, lineNumber⟩) }
              rw [pairs_put fresh, List.append_assoc] at later
              rw [parseLines, step, and_iff_right fresh]
              exact later
      | invalid =>
          rw [item] at step
          obtain ⟨error, stopped⟩ := step
          rw [parseLines, stopped]
          exact fun accepted => accepted.valid line (.head _) item

/-- The configuration with these lines is accepted, and says what they set. -/
theorem parseTomlSubset_spec (text : List Char)
    : match parseTomlSubset text with
      | .ok values => Accepted .empty [] (lines text) ∧ pairs values = entries [] (lines text)
      | .error _ => ¬Accepted .empty [] (lines text) := by
  have spec := parseLines_spec (lines text) 1 {}
  unfold parseTomlSubset
  cases parsed : parseLines 1 {} (lines text) with
  | error error =>
      rw [parsed] at spec
      exact spec
  | ok final =>
      rw [parsed] at spec
      exact spec

-----------------------------------------------------------------------------------------
-- Carriage returns
-----------------------------------------------------------------------------------------

theorem stripCommentFrom_return (quoting : Quoting) (line : List Char)
    : stripCommentFrom quoting (line ++ ['\r']) = stripCommentFrom quoting line ++ ['\r']
      ∨ stripCommentFrom quoting (line ++ ['\r']) = stripCommentFrom quoting line := by
  induction line generalizing quoting with
  | nil => exact .inl (by cases quoting <;> rfl)
  | cons c line ih =>
      by_cases stops : quoting = .plain ∧ c = '#'
      · obtain ⟨rfl, rfl⟩ := stops
        exact .inr rfl
      · have keeps (rest : List Char)
            : stripCommentFrom quoting (c :: rest) = c :: stripCommentFrom (quoting.next c) rest := by
          rw [stripCommentFrom]
          exact fun plain sharp => stops ⟨plain, sharp⟩
        rw [List.cons_append, keeps, keeps]
        rcases ih (quoting.next c) with longer | same
        · exact .inl (by rw [longer]; rfl)
        · exact .inr (by rw [same])

theorem trim_return (line : List Char) : trim (line ++ ['\r']) = trim line :=
  strip_append_unwanted (by decide) line

/-- A line is a line with a carriage return, or stays as it is. -/
theorem chomp_cases (line : List Char) : line = chomp line ++ ['\r'] ∨ chomp line = line := by
  unfold chomp
  split
  next ends =>
      obtain ⟨front, rfl⟩ := List.getLast?_eq_some_iff.mp ends
      exact .inl (by rw [List.dropLast_concat])
  next => exact .inr rfl

theorem trim_chomp (line : List Char) : trim (chomp line) = trim line := by
  rcases chomp_cases line with return' | same
  · conv_rhs => rw [return', trim_return]
  · rw [same]

theorem trim_stripComment_chomp (line : List Char)
    : trim (stripComment (chomp line)) = trim (stripComment line) := by
  rcases chomp_cases line with return' | same
  · conv_rhs => rw [return']
    unfold stripComment
    rcases stripCommentFrom_return .plain (chomp line) with longer | shorter
    · rw [longer, trim_return]
    · rw [shorter]
  · rw [same]

theorem itemOf_chomp (line : List Char) : itemOf (chomp line) = itemOf line := by
  unfold itemOf
  rw [trim_stripComment_chomp]

theorem entries_map_chomp (sectionName : List Char) (all : List (List Char))
    : entries sectionName (all.map chomp) = entries sectionName all := by
  induction all generalizing sectionName with
  | nil => rfl
  | cons line rest ih =>
      rw [List.map_cons, entries, entries, ih, entryOf, entryOf, behind, behind, itemOf_chomp]

theorem valid_map_chomp {all : List (List Char)}
    : (∀ line ∈ all.map chomp, itemOf line ≠ .invalid) ↔ ∀ line ∈ all, itemOf line ≠ .invalid := by
  simp [itemOf_chomp]

-----------------------------------------------------------------------------------------
-- Edits
-----------------------------------------------------------------------------------------

/-- An edit agrees with the parser on a text with some values: the parser accepts what the edit makes of
it, and reads the value under the key and the same values under every other key. The edit of an edited
text changes nothing.
-/
structure EditAgrees (edit : List Char → List Char) (text : List Char) (values : ConfigValues)
    (key value : List Char)
    : Prop where
  reads
    : ∃ after, parseTomlSubset (edit text) = .ok after
        ∧ ∀ other, rawOf after other = if other = key then some value else rawOf values other
  idempotent : edit (edit text) = edit text

/-- The parser reads a change of one key. -/
theorem reads_iff {text edited key value : List Char} {values : ConfigValues}
    (accepted : parseTomlSubset text = .ok values)
    : (∃ after, parseTomlSubset edited = .ok after
        ∧ ∀ other, rawOf after other = if other = key then some value else rawOf values other)
      ↔ (∀ line ∈ lines edited, itemOf line ≠ .invalid)
        ∧ ((entries [] (lines edited)).map Prod.fst).Nodup
        ∧ ∀ other,
            (entries [] (lines edited)).lookup other
              = if other = key then some value else (entries [] (lines text)).lookup other := by
  have before := parseTomlSubset_spec text
  rw [accepted] at before
  have raw (other : List Char) : rawOf values other = (entries [] (lines text)).lookup other := by
    rw [← lookup_pairs, before.2]
  simp only [raw]
  have spec := parseTomlSubset_spec edited
  cases parsed : parseTomlSubset edited with
  | error error =>
      rw [parsed] at spec
      refine ⟨?_, fun ⟨valid, distinct, _⟩ => absurd ⟨valid, distinct⟩ spec⟩
      rintro ⟨after, wrong, -⟩
      cases wrong
  | ok after =>
      rw [parsed] at spec
      obtain ⟨⟨valid, distinct⟩, said⟩ := spec
      constructor
      · rintro ⟨_, same, change⟩
        obtain rfl := Except.ok.inj same
        refine ⟨valid, distinct, fun other => ?_⟩
        rw [← said, lookup_pairs]
        exact change other
      · rintro ⟨-, -, change⟩
        refine ⟨after, rfl, fun other => ?_⟩
        rw [← lookup_pairs, said]
        exact change other

/-- The parser reads a change of one key, where an edit writes a value in the place of some of the entries,
exactly when it sets the keys that it overwrites, and that one where no line does so, and what else it
overwrites, and the key where it keeps it, has the value already.
-/
theorem reads_iff_change {text edited key value : List Char} {values : ConfigValues}
    (accepted : parseTomlSubset text = .ok values) {kept written overwritten : List (List Char × List Char)}
    (before : (entries [] (lines text)).Perm (kept ++ overwritten))
    (after : (entries [] (lines edited)).Perm (kept ++ written))
    (all : ∀ pair ∈ written, pair.2 = value) (valid : ∀ line ∈ lines edited, itemOf line ≠ .invalid)
    : (∃ after, parseTomlSubset edited = .ok after
        ∧ ∀ other, rawOf after other = if other = key then some value else rawOf values other)
      ↔ (written.map Prod.fst).Perm (overwritten.map Prod.fst
          ++ if key ∈ (kept ++ overwritten).map Prod.fst then [] else [key])
        ∧ (∀ pair ∈ overwritten, pair.1 = key ∨ pair.2 = value)
        ∧ ∀ pair ∈ kept, pair.1 = key → pair.2 = value := by
  have spec := parseTomlSubset_spec text
  rw [accepted] at spec
  have once : ((entries [] (lines text)).map Prod.fst).Nodup := spec.1.distinct
  have once' : ((kept ++ overwritten).map Prod.fst).Nodup := (before.map _).nodup_iff.mp once
  rw [reads_iff accepted, ← lookup_change_iff once' all, (after.map _).nodup_iff]
  rw [and_iff_right valid]
  refine and_congr_right fun distinct => forall_congr' fun other => ?_
  rw [lookup_perm after ((after.map _).nodup_iff.mpr distinct), lookup_perm before once]

end CtxRemote.Config
