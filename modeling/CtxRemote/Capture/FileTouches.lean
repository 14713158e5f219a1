import CtxRemote.Capture.ImportStore
import CtxRemote.Library.Lines
import CtxRemote.Library.Strip
import CtxRemote.Store.EventKeys

/-! The file touches that `apply_patch` texts name: one for each section of a patch, as far as its paths
pass for paths of files.
-/

namespace CtxRemote.Capture
open CtxRemote.Library
open CtxRemote.Store (Json stripPrefix_append)
open CtxRemote.Turso (trim stripPrefix)

-----------------------------------------------------------------------------------------
-- Paths
-----------------------------------------------------------------------------------------

/-- `char::is_ascii_alphanumeric`. -/
def isAsciiAlphanumeric (c : Char) : Bool := c.isAlphanum

/-- The name of a file: what follows the last separator. -/
def fileName (value : List Char) : List Char :=
  (value.reverse.takeWhile fun c => c ≠ '/' && c ≠ '\\').reverse

/-- `name.rsplit_once('.')`. -/
def rsplitDot (name : List Char) : Option (List Char × List Char) :=
  if '.' ∈ name then
    some
      (((name.reverse.dropWhile (· ≠ '.')).drop 1).reverse, (name.reverse.takeWhile (· ≠ '.')).reverse)
  else none

/-- `looks_like_file_path`. -/
def looksLikeFilePath (value : List Char) : Bool :=
  if value.isEmpty || 512 < utf8Len value || value.contains '\n' || value.contains '\r'
    || decide ("://".toList <:+: value) || value.head? = some '\x7b' || value.head? = some '[' then
    false
  else
    value.contains '/' || value.contains '\\' || value.head? = some '.'
    || (rsplitDot (fileName value)).any fun (stem, extension) =>
      !stem.isEmpty && !extension.isEmpty && utf8Len extension ≤ 12 && extension.all isAsciiAlphanumeric

/-- `normalize_file_path`. -/
def normalizeFilePath (value : List Char) : Option (List Char) :=
  let trimmed := strip (· = '\'') (strip (· = '"') (trim value))
  let trimmed := (stripPrefix "file://".toList trimmed).getD trimmed
  if looksLikeFilePath trimmed then some trimmed else none

-----------------------------------------------------------------------------------------
-- Patches
-----------------------------------------------------------------------------------------

/-- `FileTouchDraft`. -/
structure FileTouchDraft where
  path : List Char
  oldPath : Option (List Char)
  changeKind : Option FileChangeKind
  confidence : Confidence
  metadata : Json

/-- `file_touch_draft`. -/
def fileTouchDraft (path : List Char) (oldPath : Option (List Char)) (changeKind : FileChangeKind)
    (confidence : Confidence) (source : String)
    : FileTouchDraft where
  path := path
  oldPath := oldPath
  changeKind := some changeKind
  confidence := confidence
  metadata := .object [("source", .string source)]

/-- The variables of `parse_apply_patch_file_touches`. -/
structure PatchState where
  out : List FileTouchDraft
  pendingUpdate : Option (List Char)

/-- `flush_pending_patch_update`. -/
def PatchState.flushPendingPatchUpdate (state : PatchState) : PatchState where
  out :=
    state.out
      ++ (state.pendingUpdate.map (fileTouchDraft · none .modified .explicit "apply_patch_update")).toList
  pendingUpdate := none

/-- A touch behind the others, where its path is one. -/
def PatchState.push (state : PatchState) (path : List Char) (oldPath : Option (List Char))
    (changeKind : FileChangeKind) (source : String)
    : PatchState :=
  { state with
    out :=
      state.out
        ++ ((normalizeFilePath path).map (fileTouchDraft · oldPath changeKind .explicit source)).toList }

/-- The body of the loop of `parse_apply_patch_file_touches`. -/
def PatchState.line (state : PatchState) (line : List Char) : PatchState :=
  match stripPrefix "*** Add File: ".toList line with
  | some path => state.flushPendingPatchUpdate.push path none .created "apply_patch_add"
  | none =>
  match stripPrefix "*** Update File: ".toList line with
  | some path => { state.flushPendingPatchUpdate with pendingUpdate := normalizeFilePath path }
  | none =>
  match stripPrefix "*** Delete File: ".toList line with
  | some path => state.flushPendingPatchUpdate.push path none .deleted "apply_patch_delete"
  | none =>
  match stripPrefix "*** Move to: ".toList line with
  | some path =>
      PatchState.push { state with pendingUpdate := none } path state.pendingUpdate .renamed
        "apply_patch_move"
  | none => state

/-- `parse_apply_patch_file_touches`. -/
def parseApplyPatchFileTouches (patch : List Char) : List FileTouchDraft :=
  ((lines patch).foldl PatchState.line ⟨[], none⟩).flushPendingPatchUpdate.out

-----------------------------------------------------------------------------------------
-- Well-formed patches
-----------------------------------------------------------------------------------------

/-- A path in a patch: relative, in one line and of at most 512 bytes. -/
structure PatchPath where
  text : List Char
  present : text ≠ []
  single : ∀ c ∈ text, c ≠ '\n' ∧ c ≠ '\r'
  short : utf8Len text ≤ 512
  relative : text.head? ≠ some '/'

/-- A line of a hunk. -/
structure HunkLine where
  text : List Char
  single : '\n' ∉ text
  starts
    : text.head? = some ' ' ∨ text.head? = some '+' ∨ text.head? = some '-' ∨ "@@".toList <+: text

/-- What a section of a patch does to its file. -/
inductive PatchChange where
  | add (path : PatchPath)
  | update (path : PatchPath) (moveTo : Option PatchPath)
  | delete (path : PatchPath)

/-- A section of a patch. -/
structure PatchSection where
  change : PatchChange
  hunks : List HunkLine

namespace PatchChange

/-- The header of a section. -/
def header : PatchChange → List (List Char)
  | add path => ["*** Add File: ".toList ++ path.text]
  | update path moveTo =>
      ("*** Update File: ".toList ++ path.text)
        :: (moveTo.map fun target => "*** Move to: ".toList ++ target.text).toList
  | delete path => ["*** Delete File: ".toList ++ path.text]

/-- The paths of a section. -/
def paths : PatchChange → List PatchPath
  | add path => [path]
  | update path moveTo => path :: moveTo.toList
  | delete path => [path]

/-- The touch that a section stands for: its path, the old path and the kind. -/
def touch : PatchChange → List Char × Option (List Char) × Option FileChangeKind
  | add path => (path.text, none, some .created)
  | update path none => (path.text, none, some .modified)
  | update path (some target) => (target.text, some path.text, some .renamed)
  | delete path => (path.text, none, some .deleted)

end PatchChange

/-- The lines of a section. -/
def PatchSection.lines (part : PatchSection) : List (List Char) :=
  part.change.header ++ part.hunks.map (·.text)

/-- The lines of a patch. -/
def patchLines (sections : List PatchSection) : List (List Char) :=
  "*** Begin Patch".toList :: sections.flatMap PatchSection.lines ++ ["*** End Patch".toList]

/-- The text of a patch, with or without a line feed at its end. -/
def patchText (sections : List PatchSection) (feed : Bool) : List Char :=
  joinLines (patchLines sections) ++ if feed then ['\n'] else []

/-- What a draft says of its file. -/
def FileTouchDraft.touch (draft : FileTouchDraft)
    : List Char × Option (List Char) × Option FileChangeKind :=
  (draft.path, draft.oldPath, draft.changeKind)

/-- A patch is parsed to the touches of its sections, in order. -/
def PatchParsed (sections : List PatchSection) (feed : Bool) : Prop :=
  (parseApplyPatchFileTouches (patchText sections feed)).map FileTouchDraft.touch
    = sections.map fun part => part.change.touch

-----------------------------------------------------------------------------------------
-- Lines of a patch
-----------------------------------------------------------------------------------------

section Parsed

variable {state : PatchState}

theorem stripPrefix_eq_none {lead text : List Char} {c : Char} (starts : lead.head? = some c)
    (other : text.head? ≠ some c)
    : stripPrefix lead text = none := by
  obtain ⟨rest, rfl⟩ := List.head?_eq_some_iff.mp starts
  cases text with
  | nil => rfl
  | cons d tail =>
      have different : c ≠ d := fun same => other (by rw [same]; rfl)
      simp [stripPrefix, different]

/-- A line without a star at its start is passed over. -/
theorem line_other {line : List Char} (other : line.head? ≠ some '*') : state.line line = state := by
  unfold PatchState.line
  rw [stripPrefix_eq_none (by decide) other, stripPrefix_eq_none (by decide) other,
    stripPrefix_eq_none (by decide) other, stripPrefix_eq_none (by decide) other]

theorem line_add (path : List Char)
    : state.line ("*** Add File: ".toList ++ path)
      = state.flushPendingPatchUpdate.push path none .created "apply_patch_add" := by
  unfold PatchState.line
  rw [stripPrefix_append]

theorem line_update (path : List Char)
    : state.line ("*** Update File: ".toList ++ path)
      = { state.flushPendingPatchUpdate with pendingUpdate := normalizeFilePath path } := by
  unfold PatchState.line
  rw [stripPrefix_append]
  rfl

theorem line_delete (path : List Char)
    : state.line ("*** Delete File: ".toList ++ path)
      = state.flushPendingPatchUpdate.push path none .deleted "apply_patch_delete" := by
  unfold PatchState.line
  rw [stripPrefix_append]
  rfl

theorem line_move (path : List Char)
    : state.line ("*** Move to: ".toList ++ path)
      = PatchState.push { state with pendingUpdate := none } path state.pendingUpdate .renamed
          "apply_patch_move" := by
  unfold PatchState.line
  rw [stripPrefix_append]
  rfl

/-- The lines around the sections are passed over. -/
theorem line_marker : state.line "*** Begin Patch".toList = state
    ∧ state.line "*** End Patch".toList = state :=
  ⟨rfl, rfl⟩

/-- The drafts of a section, as far as its paths pass. -/
def PatchChange.drafts : PatchChange → List FileTouchDraft
  | add path =>
      ((normalizeFilePath path.text).map
        (fileTouchDraft · none .created .explicit "apply_patch_add")).toList
  | update path none =>
      ((normalizeFilePath path.text).map
        (fileTouchDraft · none .modified .explicit "apply_patch_update")).toList
  | update path (some target) =>
      ((normalizeFilePath target.text).map
        (fileTouchDraft · (normalizeFilePath path.text) .renamed .explicit "apply_patch_move")).toList
  | delete path =>
      ((normalizeFilePath path.text).map
        (fileTouchDraft · none .deleted .explicit "apply_patch_delete")).toList

/-- What the header of a section adds to the drafts, with the update that is still to come. -/
theorem out_header (change : PatchChange)
    : (change.header.foldl PatchState.line state).flushPendingPatchUpdate.out
      = state.flushPendingPatchUpdate.out ++ change.drafts := by
  cases change with
  | add path =>
      simp only [PatchChange.header, List.foldl_cons, List.foldl_nil, line_add, PatchChange.drafts]
      simp [PatchState.flushPendingPatchUpdate, PatchState.push]
  | update path moveTo =>
      cases moveTo with
      | none =>
          simp only [PatchChange.header, Option.map_none, Option.toList_none, List.foldl_cons,
            List.foldl_nil, line_update, PatchChange.drafts]
          rfl
      | some target =>
          simp only [PatchChange.header, Option.map_some, Option.toList_some, List.foldl_cons,
            List.foldl_nil, line_update, line_move, PatchChange.drafts]
          simp [PatchState.flushPendingPatchUpdate, PatchState.push]
  | delete path =>
      simp only [PatchChange.header, List.foldl_cons, List.foldl_nil, line_delete, PatchChange.drafts]
      simp [PatchState.flushPendingPatchUpdate, PatchState.push]

/-- The lines of a hunk leave the state. -/
theorem foldl_hunks (hunks : List HunkLine)
    : (hunks.map fun hunk => chomp hunk.text).foldl PatchState.line state = state := by
  induction hunks with
  | nil => rfl
  | cons hunk rest ih =>
      have other : (chomp hunk.text).head? ≠ some '*' := by
        cases shown : hunk.text with
        | nil => simp [chomp]
        | cons c tail =>
            have starts := hunk.starts
            rw [shown] at starts
            have first : c = ' ' ∨ c = '+' ∨ c = '-' ∨ c = '@' := by
              rcases starts with same | same | same | ⟨rest, same⟩
              · exact .inl (Option.some.inj same)
              · exact .inr (.inl (Option.some.inj same))
              · exact .inr (.inr (.inl (Option.some.inj same)))
              · exact .inr (.inr (.inr (List.cons.inj same).1.symm))
            rw [head?_chomp (by rcases first with rfl | rfl | rfl | rfl <;> decide)]
            rcases first with rfl | rfl | rfl | rfl <;> decide
      rw [List.map_cons, List.foldl_cons, line_other other, ih]

/-- A line that ends with a path has no carriage return at its end. -/
theorem chomp_path (lead : List Char) (path : PatchPath)
    : chomp (lead ++ path.text) = lead ++ path.text := by
  refine chomp_eq_self fun last => ?_
  rw [List.getLast?_append_of_ne_nil _ path.present] at last
  exact (path.single '\r' (List.mem_of_getLast? last)).2 rfl

/-- A header is read as it is written. -/
theorem chomp_header (change : PatchChange) : change.header.map chomp = change.header := by
  cases change with
  | add path => simp only [PatchChange.header, List.map_cons, List.map_nil, chomp_path]
  | update path moveTo =>
      cases moveTo with
      | none =>
          simp only [PatchChange.header, Option.map_none, Option.toList_none, List.map_cons,
            List.map_nil, chomp_path]
      | some target =>
          simp only [PatchChange.header, Option.map_some, Option.toList_some, List.map_cons,
            List.map_nil, chomp_path]
  | delete path => simp only [PatchChange.header, List.map_cons, List.map_nil, chomp_path]

/-- What sections add to the drafts. Witness: induction on the sections. -/
theorem out_sections (sections : List PatchSection)
    : (((sections.flatMap PatchSection.lines).map chomp).foldl PatchState.line
          state).flushPendingPatchUpdate.out
      = state.flushPendingPatchUpdate.out ++ sections.flatMap fun part => part.change.drafts := by
  induction sections generalizing state with
  | nil => simp
  | cons part rest ih =>
      have hunks : part.lines.map chomp
          = part.change.header ++ part.hunks.map fun hunk => chomp hunk.text := by
        rw [PatchSection.lines, List.map_append, chomp_header, List.map_map]
        rfl
      rw [List.flatMap_cons, List.map_append, List.foldl_append, hunks, List.foldl_append,
        foldl_hunks, ih, out_header, List.flatMap_cons, List.append_assoc]

/-- A line feed is in no line of a patch. -/
theorem single_header {change : PatchChange} {line : List Char} (member : line ∈ change.header)
    : '\n' ∉ line := by
  have path (lead : List Char) (free : '\n' ∉ lead) (path : PatchPath) : '\n' ∉ lead ++ path.text :=
    fun inside => (List.mem_append.mp inside).elim free fun here => (path.single _ here).1 rfl
  cases change with
  | add added =>
      obtain rfl := List.mem_singleton.mp member
      exact path _ (by decide) added
  | update old moveTo =>
      rcases List.mem_cons.mp member with rfl | moved
      · exact path _ (by decide) old
      · obtain ⟨target, -, rfl⟩ := Option.map_eq_some_iff.mp (Option.mem_toList.mp moved)
        exact path _ (by decide) target
  | delete deleted =>
      obtain rfl := List.mem_singleton.mp member
      exact path _ (by decide) deleted

theorem single_sections {sections : List PatchSection} {line : List Char}
    (member : line ∈ sections.flatMap PatchSection.lines)
    : '\n' ∉ line := by
  obtain ⟨part, -, inside⟩ := List.mem_flatMap.mp member
  rcases List.mem_append.mp inside with header | hunk
  · exact single_header header
  · obtain ⟨written, -, rfl⟩ := List.mem_map.mp hunk
    exact written.single

/-- The lines of a text of a patch. -/
theorem lines_patchText (sections : List PatchSection) (feed : Bool)
    : lines (patchText sections feed)
      = "*** Begin Patch".toList :: (sections.flatMap PatchSection.lines).map chomp
        ++ ["*** End Patch".toList] := by
  have begins : '\n' ∉ "*** Begin Patch".toList := by decide
  have ends : '\n' ∉ "*** End Patch".toList := by decide
  have single
      : ∀ line ∈ "*** Begin Patch".toList :: sections.flatMap PatchSection.lines, '\n' ∉ line := by
    intro line member
    rcases List.mem_cons.mp member with rfl | inside
    · exact begins
    · exact single_sections inside
  have whole
      : patchText sections feed
        = ("*** Begin Patch".toList :: sections.flatMap PatchSection.lines).flatMap (· ++ ['\n'])
          ++ ("*** End Patch".toList ++ if feed then ['\n'] else []) := by
    unfold patchText patchLines
    rw [← List.append_assoc, joinLines_append]
  have last : lines ("*** End Patch".toList ++ if feed then ['\n'] else []) = ["*** End Patch".toList] := by
    cases feed <;> rfl
  rw [whole, lines_flatMap single, last]
  rfl

/-- The drafts of a patch. -/
theorem parseApplyPatchFileTouches_patchText (sections : List PatchSection) (feed : Bool)
    : parseApplyPatchFileTouches (patchText sections feed)
      = sections.flatMap fun part => part.change.drafts := by
  unfold parseApplyPatchFileTouches
  rw [lines_patchText, List.foldl_append, List.foldl_cons, List.foldl_nil, List.foldl_cons,
    line_marker.1, line_marker.2, out_sections]
  rfl

-----------------------------------------------------------------------------------------
-- Touches of sections
-----------------------------------------------------------------------------------------

/-- At most one draft comes from a section. -/
theorem length_drafts (change : PatchChange) : change.drafts.length ≤ 1 := by
  cases change with
  | add path => exact Option.length_toList_le
  | update path moveTo => cases moveTo <;> exact Option.length_toList_le
  | delete path => exact Option.length_toList_le

/-- A section is parsed to its touch where its paths are left as they are. -/
theorem drafts_touch_iff (change : PatchChange)
    : change.drafts.map FileTouchDraft.touch = [change.touch]
      ↔ ∀ path ∈ change.paths, normalizeFilePath path.text = some path.text := by
  cases change with
  | add path =>
      cases passed : normalizeFilePath path.text <;>
        simp [PatchChange.drafts, PatchChange.touch, PatchChange.paths, passed, FileTouchDraft.touch,
          fileTouchDraft]
  | update path moveTo =>
      cases moveTo with
      | none =>
          cases passed : normalizeFilePath path.text <;>
            simp [PatchChange.drafts, PatchChange.touch, PatchChange.paths, passed,
              FileTouchDraft.touch, fileTouchDraft]
      | some target =>
          cases moved : normalizeFilePath target.text <;>
            simp [PatchChange.drafts, PatchChange.touch, PatchChange.paths, moved,
              FileTouchDraft.touch, fileTouchDraft, and_comm]
  | delete path =>
      cases passed : normalizeFilePath path.text <;>
        simp [PatchChange.drafts, PatchChange.touch, PatchChange.paths, passed, FileTouchDraft.touch,
          fileTouchDraft]

/-- Parts of at most one element stand for one value each where they do together. -/
theorem flatMap_eq_map_iff {α β : Type} {parts : α → List β} {value : α → β} {xs : List α}
    (short : ∀ x, (parts x).length ≤ 1)
    : xs.flatMap parts = xs.map value ↔ ∀ x ∈ xs, parts x = [value x] := by
  have bounded (xs : List α) : (xs.flatMap parts).length ≤ xs.length := by
    induction xs with
    | nil => exact Nat.le_refl 0
    | cons x rest ih =>
        have here := short x
        rw [List.flatMap_cons, List.length_append, List.length_cons]
        omega
  induction xs with
  | nil => simp
  | cons x rest ih =>
      rw [List.flatMap_cons, List.map_cons]
      refine Iff.trans ?_ (List.forall_mem_cons.trans (and_congr_right fun _ => ih.symm)).symm
      constructor
      · intro same
        have here := short x
        cases parsed : parts x with
        | nil =>
            rw [parsed, List.nil_append] at same
            have long := bounded rest
            rw [same, List.length_cons, List.length_map] at long
            omega
        | cons first more =>
            rw [parsed] at same here
            obtain rfl : more = [] := List.length_eq_zero_iff.mp (by simpa using here)
            obtain ⟨rfl, later⟩ := List.cons.inj same
            exact ⟨rfl, later⟩
      · rintro ⟨here, later⟩
        rw [here, later]
        rfl

/-- A patch is parsed to one touch for each section exactly where no path is changed or refused. -/
theorem patchParsed_iff (sections : List PatchSection) (feed : Bool)
    : PatchParsed sections feed
      ↔ ∀ part ∈ sections, ∀ path ∈ part.change.paths,
          normalizeFilePath path.text = some path.text := by
  unfold PatchParsed
  rw [parseApplyPatchFileTouches_patchText, List.map_flatMap,
    flatMap_eq_map_iff fun part => by simpa using length_drafts part.change]
  exact forall₂_congr fun part _ => drafts_touch_iff part.change

end Parsed

theorem makefile_single : ∀ c ∈ "Makefile".toList, c ≠ '\n' ∧ c ≠ '\r' := by
  have checked : ("Makefile".toList.all fun c => decide (c ≠ '\n' ∧ c ≠ '\r')) = true := by decide
  exact fun c member => of_decide_eq_true (List.all_eq_true.mp checked c member)

/-- A section that adds a file without a dot in its name. -/
def makefileSection : PatchSection :=
  ⟨.add ⟨"Makefile".toList, by decide, makefile_single, by decide, by decide⟩, []⟩

/-- A file without a dot in its name is lost. -/
theorem makefile_not_patchParsed : ¬PatchParsed [makefileSection] true := by
  unfold PatchParsed
  decide +kernel

end CtxRemote.Capture
