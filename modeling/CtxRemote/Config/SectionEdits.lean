import CtxRemote.Config.BoolAgreement

/-! What `set_toml_section_value` makes of the lines, one by one: it writes its line in the place of each
line that it takes for one of the key, at the end of the first part of the section if that has none, and
behind all lines in a section of its own if no line opens the section for it.
-/

namespace CtxRemote.Config
open CtxRemote.Library
open CtxRemote.Turso (trim)

-----------------------------------------------------------------------------------------
-- What becomes of the lines
-----------------------------------------------------------------------------------------

/-- A line of the result: one that is kept, or the line of the key, in the place of another or added. -/
inductive Written where
  | kept (raw : List Char)
  | replaced (raw : List Char)
  | added

/-- The line itself. -/
def Written.line (rendered : List Char) : Written → List Char
  | .kept raw => raw
  | .replaced _ => rendered
  | .added => rendered

/-- What stood in its place. -/
def Written.source : Written → List (List Char)
  | .kept raw => [raw]
  | .replaced raw => [raw]
  | .added => []

/-- The line of the key at the end of a part that the editor takes for the section and found no key in. -/
def addition (inSection wroteKey : Bool) : List Written := if inSection && !wroteKey then [.added] else []

section Walk

variable (sectionName key : List Char)

/-- What becomes of the lines, from one with what the editor has in mind there on. -/
def writeLines (inSection wroteKey : Bool) : List (List Char) → List Written
  | [] => addition inSection wroteKey
  | raw :: rest =>
      if isHeader (trim raw) then
        addition inSection wroteKey
          ++ .kept raw :: writeLines (trim raw = headerLine sectionName) (wroteKey || inSection) rest
      else if inSection && startsWithKey key (trim raw) then .replaced raw :: writeLines true true rest
      else .kept raw :: writeLines inSection wroteKey rest

/-- A line that opens the section for the editor. -/
def opensExactly (raw : List Char) : Bool := trim raw = headerLine sectionName

/-- What the editor puts behind all lines, where none opens the section for it. -/
def ownSection (rendered : List Char) (all : List (List Char)) : List (List Char) :=
  if all.any (opensExactly sectionName) then []
  else (if all.getLast?.any fun line => !line.isEmpty then [[]] else []) ++ [headerLine sectionName, rendered]

end Walk

variable {sectionName key value : List Char}

theorem flatMap_source (inSection wroteKey : Bool) (all : List (List Char))
    : (writeLines sectionName key inSection wroteKey all).flatMap Written.source = all := by
  have nothing (inSection wroteKey : Bool) : (addition inSection wroteKey).flatMap Written.source = [] := by
    unfold addition
    split <;> rfl
  induction all generalizing inSection wroteKey with
  | nil => exact nothing inSection wroteKey
  | cons raw rest ih =>
      rw [writeLines]
      split
      next => rw [List.flatMap_append, nothing, List.flatMap_cons, ih]; rfl
      next =>
          split
          next => rw [List.flatMap_cons, ih]; rfl
          next => rw [List.flatMap_cons, ih]; rfl

/-- The lines that are replaced are those that the editor takes for one of the key. -/
theorem startsWithKey_of_replaced {inSection wroteKey : Bool} {all : List (List Char)} {raw : List Char}
    (member : .replaced raw ∈ writeLines sectionName key inSection wroteKey all)
    : startsWithKey key (trim raw) = true := by
  have nothing (inSection wroteKey : Bool) : Written.replaced raw ∉ addition inSection wroteKey := by
    unfold addition
    split <;> simp
  induction all generalizing inSection wroteKey with
  | nil => exact absurd member (nothing inSection wroteKey)
  | cons line rest ih =>
      rw [writeLines] at member
      split at member
      next =>
          rcases List.mem_append.mp member with added | later
          · exact absurd added (nothing inSection wroteKey)
          · rcases List.mem_cons.mp later with same | later
            · cases same
            · exact ih later
      next =>
          split at member
          next here =>
              rcases List.mem_cons.mp member with same | later
              · cases same
                exact ((Bool.and_eq_true _ _).mp here).2
              · exact ih later
          next =>
              rcases List.mem_cons.mp member with same | later
              · cases same
              · exact ih later

/-- Outside of the section, lines that do not open it are kept. -/
theorem writeLines_front {front : List (List Char)}
    (closed : ∀ raw ∈ front, opensExactly sectionName raw = false) (wroteKey : Bool) (rest : List (List Char))
    : writeLines sectionName key false wroteKey (front ++ rest)
      = front.map Written.kept ++ writeLines sectionName key false wroteKey rest := by
  induction front with
  | nil => rfl
  | cons raw front ih =>
      have here := closed raw (.head _)
      have later := ih fun raw member => closed raw (.tail _ member)
      unfold opensExactly at here
      rw [List.cons_append, writeLines, List.map_cons, List.cons_append, ← later, here, Bool.or_false]
      split <;> rfl

theorem isHeader_headerLine (sectionName : List Char) : isHeader (headerLine sectionName) = true := by
  have last : (headerLine sectionName).getLast? = some ']' := List.getLast?_concat
  rw [isHeader, last]
  rfl

theorem isHeader_of_opensExactly {raw : List Char} (opens : opensExactly sectionName raw = true)
    : isHeader (trim raw) = true := by
  rw [of_decide_eq_true opens]
  exact isHeader_headerLine sectionName

theorem step_header (edit : SectionEdit) {raw : List Char} (header : isHeader (trim raw) = true)
    : edit.step sectionName key value raw
      = {
        lines := edit.lines
          ++ (addition edit.inSection edit.wroteKey).map (Written.line (keyLine key value)) ++ [raw]
        inSection := opensExactly sectionName raw
        sawSection := edit.sawSection || opensExactly sectionName raw
        wroteKey := edit.wroteKey || edit.inSection
      } := by
  obtain ⟨all, inSection, sawSection, wroteKey⟩ := edit
  cases inSection <;> cases wroteKey
    <;> simp [SectionEdit.step, header, addition, opensExactly, Written.line]

/-- The loop makes of the lines what becomes of them, by induction on the lines. -/
theorem foldl_step (all : List (List Char)) (edit : SectionEdit) (saw : edit.inSection → edit.sawSection)
    : let final := all.foldl (SectionEdit.step sectionName key value) edit
      final.lines ++ (addition final.inSection final.wroteKey).map (Written.line (keyLine key value))
          = edit.lines ++ (writeLines sectionName key edit.inSection edit.wroteKey all).map
            (Written.line (keyLine key value))
        ∧ final.sawSection = (edit.sawSection || all.any (opensExactly sectionName))
        ∧ (final.inSection → final.sawSection) := by
  induction all generalizing edit with
  | nil => exact ⟨rfl, (Bool.or_false _).symm, saw⟩
  | cons raw rest ih =>
      rw [List.foldl_cons, writeLines, List.any_cons]
      by_cases header : isHeader (trim raw) = true
      · have later := ih (edit.step sectionName key value raw) (by
          rw [step_header edit header]
          exact fun opens => (Bool.or_eq_true _ _).mpr (.inr opens))
        rw [step_header edit header] at later ⊢
        rw [if_pos header, ← Bool.or_assoc]
        refine ⟨later.1.trans ?_, later.2⟩
        rw [List.map_append, List.map_cons, List.append_assoc, List.append_assoc]
        rfl
      · have closed : opensExactly sectionName raw = false :=
          Bool.eq_false_iff.mpr fun opens => header (isHeader_of_opensExactly opens)
        rw [if_neg header, closed, Bool.false_or]
        by_cases sets : (edit.inSection && startsWithKey key (trim raw)) = true
        · have next : edit.step sectionName key value raw
              = { edit with lines := edit.lines ++ [keyLine key value], wroteKey := true } := by
            simp [SectionEdit.step, header, sets]
          have inside := ((Bool.and_eq_true _ _).mp sets).1
          have later := ih (edit.step sectionName key value raw) (by rw [next]; exact saw)
          rw [next] at later ⊢
          rw [if_pos sets]
          refine ⟨later.1.trans ?_, later.2⟩
          rw [inside, List.append_assoc, List.map_cons]
          rfl
        · have next : edit.step sectionName key value raw = { edit with lines := edit.lines ++ [raw] } := by
            simp [SectionEdit.step, header, sets]
          have later := ih (edit.step sectionName key value raw) (by rw [next]; exact saw)
          rw [next] at later ⊢
          rw [if_neg sets]
          refine ⟨later.1.trans ?_, later.2⟩
          rw [List.append_assoc, List.map_cons]
          rfl

/-- The lines that the editor joins. -/
theorem sectionLines_eq (all : List (List Char))
    : sectionLines sectionName key value all
      = (writeLines sectionName key false false all).map (Written.line (keyLine key value))
        ++ ownSection sectionName (keyLine key value) all := by
  have walk := @foldl_step sectionName key value all {} fun inside => inside
  unfold sectionLines ownSection
  dsimp only at walk ⊢
  generalize all.foldl (SectionEdit.step sectionName key value) {} = final at walk ⊢
  obtain ⟨joined, saw, within⟩ := walk
  rw [Bool.false_or] at saw
  rw [saw]
  by_cases opened : all.any (opensExactly sectionName) = true
  · rw [if_pos opened, if_pos opened, List.append_nil]
    rw [List.nil_append] at joined
    rw [← joined]
    unfold addition
    split
    next => rfl
    next => exact (List.append_nil _).symm
  · rw [if_neg opened, if_neg opened]
    have outside : final.inSection = false := by
      rw [Bool.eq_false_iff]
      exact fun inside => opened (saw ▸ within inside)
    have closed : ∀ raw ∈ all, opensExactly sectionName raw = false := by
      simpa using opened
    have front := @writeLines_front sectionName key all closed false []
    rw [List.append_nil] at front
    have kept : (writeLines sectionName key false false all).map (Written.line (keyLine key value)) = all := by
      rw [front, List.map_append, List.map_map]
      exact (List.append_nil _).trans (List.map_id _)
    rw [outside, kept] at joined
    have same : final.lines = all := by simpa [addition] using joined
    rw [same, kept]
    split
    next => rw [List.append_assoc]
    next => rfl

end CtxRemote.Config
