import CtxRemote.Semantic.ArchiveLayout
import Mathlib.Algebra.Order.Ring.Nat

/-! What an extraction leaves: the tree of the archive where it succeeds, and nothing outside the new
directory in any case.
-/

namespace CtxRemote.Semantic
open CtxRemote.Library CtxRemote.Library.Interruptible

-----------------------------------------------------------------------------------------
-- Directories
-----------------------------------------------------------------------------------------

/-- The directories with those that lead to a path below a known one. -/
def WithPath (dirs : List (List FileName)) (known rest : List FileName) (dirs' : List (List FileName))
    : Prop :=
  ∀ names, names ∈ dirs' ↔ names ∈ dirs ∨ ∃ more, more ≠ [] ∧ more <+: rest ∧ names = known ++ more

section Directories

variable {staging known rest names : List FileName} {dirs dirs' : List (List FileName)}
  {files : List (List FileName × List UInt8)} {before tree : FileTree FileName} {name : FileName}

theorem withPath_nil (known : List FileName) : WithPath dirs known [] dirs := by
  intro names
  constructor
  · exact .inl
  · rintro (member | ⟨more, some', part, -⟩)
    · exact member
    · exact absurd (List.prefix_nil.mp part) some'

/-- The path to a name, and then the path behind it. -/
theorem WithPath.cons {middle : List (List FileName)}
    (first : ∀ names, names ∈ middle ↔ names ∈ dirs ∨ names = known ++ [name])
    (later : WithPath middle (known ++ [name]) rest dirs')
    : WithPath dirs known (name :: rest) dirs' := by
  intro names
  rw [later names, first names, or_assoc]
  refine or_congr_right ⟨?_, ?_⟩
  · rintro (rfl | ⟨more, some', part, rfl⟩)
    · exact ⟨[name], List.cons_ne_nil _ _, List.prefix_append [name] rest, rfl⟩
    · exact ⟨name :: more, List.cons_ne_nil _ _, (List.prefix_cons_inj name).mpr part,
        List.append_assoc ..⟩
  · rintro ⟨more, some', part, rfl⟩
    cases more with
    | nil => exact absurd rfl some'
    | cons other more =>
        obtain ⟨rfl, within⟩ := List.cons_prefix_cons.mp part
        by_cases last : more = []
        · exact .inl (by rw [last])
        · exact .inr ⟨more, last, within, (List.append_assoc known [other] more).symm⟩

/-- What the directories of an extraction are after more of them were made. -/
def Extends (staging : List FileName) (dirs : List (List FileName))
    (files : List (List FileName × List UInt8)) (known rest : List FileName)
    (before : FileTree FileName) (directories : List (List Char)) (final : FileTree FileName) : Prop :=
  ∃ dirs', directories = dirs'.map joinSlash
    ∧ Layout staging dirs' files before final
    ∧ WithPath dirs known rest dirs'
    ∧ (dirs.length ≤ maxBundleDirectories → dirs'.length ≤ maxBundleDirectories)

/-- The loop makes the directories on the way, by induction on the way that is left. -/
theorem ensures_parentDirectories (plainKnown : ∀ name ∈ known, Plain name)
    (plainRest : ∀ name ∈ rest, Plain name) (layout : Layout staging dirs files before tree)
    : (parentDirectories (staging ++ known) (joinSlash known) (dirs.map joinSlash)
        (rest.map plainComponent)).Ensures tree
          (Extends staging dirs files known rest before) (fun _ => Beside staging before) := by
  induction rest generalizing known dirs tree with
  | nil =>
      rw [List.map_nil, parentDirectories, ensures_pure]
      exact ⟨dirs, rfl, layout, withPath_nil known, id⟩
  | cons name rest ih =>
      obtain ⟨plainName, plainRest⟩ := List.forall_mem_cons.mp plainRest
      have plain : ∀ other ∈ known ++ [name], Plain other := by
        intro other member
        rcases List.mem_append.mp member with member | member
        · exact plainKnown other member
        · rwa [List.mem_singleton.mp member]
      have place : locate (staging ++ known) name = staging ++ (known ++ [name]) := by
        rw [← List.append_assoc]
        have single := @locate_joinSlash [name] (staging ++ known) (List.cons_ne_nil _ _)
          (List.forall_mem_singleton.mpr plainName)
        rwa [joinSlash_singleton] at single
      have named : known ++ [name] ≠ [] := List.append_ne_nil_of_right_ne_nil _ (List.cons_ne_nil _ _)
      rw [List.map_cons, parentDirectories, componentText_plainComponent]
      dsimp only
      rw [joinSlash_concat plainKnown, place]
      by_cases there : (dirs.map joinSlash).contains (joinSlash (known ++ [name])) = true
      · rw [if_pos there, ensures_bind]
        apply ensures_isDir layout.beside
        · rw [if_neg Bool.false_ne_true, ensures_fail]
          exact layout.beside
        · intro _
          rw [if_pos rfl]
          refine (ih plain plainRest layout).mono ?_ (fun _ _ beside => beside)
          rintro directories final ⟨dirs', same, layout', path, bound⟩
          refine ⟨dirs', same, layout', .cons (fun names => ?_) path, bound⟩
          have member := (layout.contains_joinSlash named plain).mp there
          exact ⟨.inl, Or.rec id fun here => here ▸ member⟩
      · rw [if_neg there]
        by_cases many : maxBundleDirectories
            < (dirs.map joinSlash ++ [joinSlash (known ++ [name])]).length
        · rw [if_pos many, ensures_fail]
          exact layout.beside
        · rw [if_neg many, ensures_bind]
          apply ensures_createDir layout.beside
          · exact ensures_fail.mpr layout.beside
          · exact fun _ => ensures_fail.mpr layout.beside
          · intro final created
            have made := layout.makeDir plain created
            have directories : dirs.map joinSlash ++ [joinSlash (known ++ [name])]
                = (dirs ++ [known ++ [name]]).map joinSlash := by
              rw [List.map_append]
              rfl
            rw [directories]
            refine (ih plain plainRest made).mono ?_ (fun _ _ beside => beside)
            rintro directories final' ⟨dirs', same, layout', path, bound⟩
            refine ⟨dirs', same, layout', .cons (fun names => ?_) path, fun _ => bound ?_⟩
            · rw [List.mem_append, List.mem_singleton]
            · rw [List.length_append, List.length_map] at many
              rw [List.length_append]
              exact Nat.le_of_not_lt many

theorem ensures_createParentDirectories (named : names ≠ []) (plain : ∀ name ∈ names, Plain name)
    (layout : Layout staging dirs files before tree)
    : (createParentDirectories staging (joinSlash names) (dirs.map joinSlash)).Ensures tree
        (Extends staging dirs files [] names.dropLast before) (fun _ => Beside staging before) := by
  rw [createParentDirectories, locate_joinSlash staging named plain,
    List.dropLast_append_of_ne_nil named]
  split
  next here =>
      have single : names.dropLast = [] := List.append_right_eq_self.mp here
      rw [single, ensures_pure]
      exact ⟨dirs, rfl, layout, withPath_nil [], id⟩
  next =>
      rw [components_joinSlash named plain, ← List.map_dropLast]
      have loop := @ensures_parentDirectories staging [] names.dropLast dirs files before tree
        (fun _ none => absurd none List.not_mem_nil)
        (fun name member => plain name (List.dropLast_subset names member)) layout
      rwa [List.append_nil] at loop

/-- A prefix is one of all but the last name, or the whole. -/
theorem prefix_iff_dropLast (named : names ≠ []) (more : List FileName)
    : more <+: names ↔ more <+: names.dropLast ∨ more = names := by
  constructor
  · intro part
    by_cases whole : more = names
    · exact .inr whole
    · refine .inl ?_
      obtain ⟨rest, rfl⟩ := part
      have some' : rest ≠ [] := by
        rintro rfl
        exact whole (List.append_nil more).symm
      rw [List.dropLast_append_of_ne_nil some']
      exact List.prefix_append _ _
  · rintro (part | rfl)
    · exact part.trans (List.dropLast_prefix names)
    · exact List.prefix_refl _

theorem ensures_registerDirectory (named : names ≠ []) (plain : ∀ name ∈ names, Plain name)
    (layout : Layout staging dirs files before tree)
    : (registerDirectory staging (joinSlash names) (dirs.map joinSlash)).Ensures tree
        (Extends staging dirs files [] names before) (fun _ => Beside staging before) := by
  rw [registerDirectory, ensures_bind, locate_joinSlash staging named plain]
  refine (ensures_createParentDirectories named plain layout).mono ?_ (fun _ _ beside => beside)
  rintro _ middle ⟨dirs', rfl, layout', path, bound⟩
  have whole {last : List (List FileName)}
      (added : ∀ others, others ∈ last ↔ others ∈ dirs' ∨ others = names)
      : WithPath dirs [] names last := by
    intro others
    rw [added, path others]
    simp only [prefix_iff_dropLast named, List.nil_append]
    constructor
    · rintro ((member | ⟨more, some', part, same⟩) | rfl)
      · exact .inl member
      · exact .inr ⟨more, some', .inl part, same⟩
      · exact .inr ⟨_, named, .inr rfl, rfl⟩
    · rintro (member | ⟨more, some', part | whole, same⟩)
      · exact .inl (.inl member)
      · exact .inl (.inr ⟨more, some', part, same⟩)
      · exact .inr (same.trans whole)
  by_cases there : (dirs'.map joinSlash).contains (joinSlash names) = true
  · rw [if_pos there, ensures_pure]
    have member := (layout'.contains_joinSlash named plain).mp there
    exact ⟨dirs', rfl, layout', whole fun others => ⟨.inl, Or.rec id fun here => here ▸ member⟩, bound⟩
  · rw [if_neg there]
    have absent : names ∉ dirs' := fun member =>
      there ((layout'.contains_joinSlash named plain).mpr member)
    by_cases many : maxBundleDirectories < (dirs'.map joinSlash ++ [joinSlash names]).length
    · rw [if_pos many, ensures_fail]
      exact layout'.beside
    · rw [if_neg many, ensures_bind]
      apply ensures_createDir layout'.beside
      · exact ensures_fail.mpr layout'.beside
      · intro _
        -- a directory that is there is one that the extraction made
        dsimp only
        rw [ensures_bind]
        apply ensures_isDir layout'.beside
        · exact ensures_fail.mpr layout'.beside
        · intro directory
          exact absurd ((layout'.directory names).mp directory) (not_or.mpr ⟨named, absent⟩)
      · intro final created
        rw [ensures_pure]
        refine ⟨dirs' ++ [names], by rw [List.map_append]; rfl, layout'.makeDir plain created,
          whole fun others => ?_, fun _ => ?_⟩
        · rw [List.mem_append, List.mem_singleton]
        · rw [List.length_append, List.length_map] at many
          rw [List.length_append]
          exact Nat.le_of_not_lt many

end Directories

-----------------------------------------------------------------------------------------
-- Files
-----------------------------------------------------------------------------------------

section Files

variable {staging names place : List FileName} {dirs : List (List FileName)}
  {files : List (List FileName × List UInt8)} {before tree : FileTree FileName} {old : List UInt8}
  {entry : ArchiveEntry} {unpacking : Unpacking} {size : Nat}

theorem ensures_copyExactLimited (there : tree.node place = some (.file old))
    : (copyExactLimited entry place size).Ensures tree
        (fun copied final =>
          copied = (entry.data.take (size + 1)).length
          ∧ final.node = Function.update tree.node place (some (.file (entry.data.take (size + 1)))))
        (fun _ final => ∃ body, final.node = Function.update tree.node place (some (.file body))) := by
  have same : tree.node = Function.update tree.node place (some (.file old)) := by
    rw [← there, Function.update_eq_self]
  have wrote (body : List UInt8) := FileTree.node_write there body
  rw [copyExactLimited, ensures_bind, ensures_lengthy]
  refine ⟨⟨old, same⟩, ⟨_, wrote _⟩, ⟨old, same⟩, ⟨_, wrote _⟩, fun final written => ?_⟩
  cases written
  rw [ensures_ite, ensures_ite, ensures_fail, ensures_fail, ensures_pure]
  exact ⟨fun _ => ⟨_, wrote _⟩, fun _ => ⟨fun _ => ⟨_, wrote _⟩, fun _ => ⟨rfl, wrote _⟩⟩⟩

/-- What a file adds to an extraction. -/
structure AddsFile (staging names : List FileName) (dirs : List (List FileName))
    (files : List (List FileName × List UInt8)) (entry : ArchiveEntry) (unpacking : Unpacking)
    (before : FileTree FileName) (unpacking' : Unpacking) (final : FileTree FileName) : Prop where
  extends' : Extends staging dirs (files ++ [(names, entry.data)]) [] names.dropLast before
    unpacking'.directories final
  seen : unpacking'.seen = unpacking.seen
  files : unpacking'.files = unpacking.files + 1
  payloadBytes : unpacking'.payloadBytes = unpacking.payloadBytes + entry.data.length
  size : entry.size = some entry.data.length
  fits : entry.data.length ≤ maxFileBytes ∧ unpacking'.files ≤ maxBundleFiles
    ∧ unpacking'.payloadBytes ≤ maxBundleBytes

theorem ensures_extractFile (named : names ≠ []) (plain : ∀ name ∈ names, Plain name)
    (layout : Layout staging dirs files before tree)
    (directories : unpacking.directories = dirs.map joinSlash)
    : (extractFile staging (joinSlash names) entry unpacking).Ensures tree
        (AddsFile staging names dirs files entry unpacking before)
        (fun _ => Beside staging before) := by
  unfold extractFile
  by_cases many : maxBundleFiles < unpacking.files + 1
  · rw [if_pos many, ensures_fail]
    exact layout.beside
  rw [if_neg many]
  cases sized : entry.size with
  | none => exact ensures_fail.mpr layout.beside
  | some size =>
      dsimp only
      by_cases large : maxFileBytes < size
      · rw [if_pos large, ensures_fail]
        exact layout.beside
      rw [if_neg large]
      by_cases overflows : 2 ^ 64 ≤ unpacking.payloadBytes + size
      · rw [if_pos overflows, ensures_fail]
        exact layout.beside
      rw [if_neg overflows]
      by_cases payload : maxBundleBytes < unpacking.payloadBytes + size
      · rw [if_pos payload, ensures_fail]
        exact layout.beside
      rw [if_neg payload, ensures_bind, directories]
      refine (ensures_createParentDirectories named plain layout).mono ?_ (fun _ _ beside => beside)
      rintro _ middle ⟨dirs', rfl, layout', path, bound⟩
      rw [locate_joinSlash staging named plain, ensures_bind, ensures_operation]
      refine ⟨layout'.beside, layout'.beside, fun made created => ?_⟩
      obtain ⟨⟨-, free, -⟩, updated⟩ := FileTree.create_eq_some created
      have there : made.node (staging ++ names) = some (.file []) := by
        rw [updated, Function.update_self]
      have again (body : List UInt8)
          : Function.update made.node (staging ++ names) (some (.file body))
            = Function.update middle.node (staging ++ names) (some (.file body)) := by
        rw [updated, Function.update_idem]
      rw [ensures_bind]
      refine (ensures_copyExactLimited there).mono ?_ ?_
      · rintro copied final ⟨rfl, wrote⟩
        rw [again] at wrote
        have beside := layout'.beside.update wrote
        by_cases short : (entry.data.take (size + 1)).length ≠ size
        · rw [if_pos short, ensures_fail]
          exact beside
        · rw [if_neg short, ensures_bind, ensures_operation]
          rw [not_not, List.length_take] at short
          have whole : entry.data.length = size := by omega
          rw [List.take_of_length_le (by omega)] at wrote
          refine ⟨beside, beside, fun _ same => ?_⟩
          cases same
          rw [ensures_pure]
          exact {
            extends' := ⟨dirs', rfl, layout'.makeFile free wrote, path, bound⟩
            seen := rfl
            files := rfl
            payloadBytes := by rw [whole]
            size := by rw [sized, whole]
            fits := by rw [whole]; exact ⟨Nat.le_of_not_lt large, Nat.le_of_not_lt many,
              Nat.le_of_not_lt payload⟩ }
      · rintro ending final ⟨body, wrote⟩
        rw [again] at wrote
        exact layout'.beside.update wrote

end Files

-----------------------------------------------------------------------------------------
-- Entries
-----------------------------------------------------------------------------------------

/-- The path of an entry in the new directory. -/
def ArchiveEntry.relative (expectedRoot : List Char) (entry : ArchiveEntry) : List Char :=
  ((entry.path.bind fun path => (archiveRelativePath path expectedRoot).toOption)).getD []

/-- The names on the path of an entry. -/
def ArchiveEntry.names (expectedRoot : List Char) (entry : ArchiveEntry) : List FileName :=
  if (entry.relative expectedRoot).isEmpty then [] else (entry.relative expectedRoot).splitOn '/'

/-- An entry that is extracted: a directory, or a file of the size in its header, on a path that is
accepted. The one without a path is the directory itself.
-/
structure ArchiveEntry.Accepted (expectedRoot : List Char) (entry : ArchiveEntry) : Prop where
  path : ∃ path relative, entry.path = some path
    ∧ archiveRelativePath path expectedRoot = .ok relative
    ∧ (relative = [] ∧ entry.entryType = .directory ∨ validateRelativePath relative = true)
  entryType : entry.entryType ≠ .other
  size : entry.entryType = .file
    → entry.size = some entry.data.length ∧ entry.data.length ≤ maxFileBytes

/-- The entries that are files. -/
def fileEntries (entries : List ArchiveEntry) : List ArchiveEntry :=
  entries.filter (·.entryType = .file)

/-- What is unpacked of some entries. -/
structure Unpacks (expectedRoot : List Char) (staging : List FileName) (entries : List ArchiveEntry)
    (before : FileTree FileName) (dirs : List (List FileName))
    (files : List (List FileName × List UInt8)) (unpacking : Unpacking) (tree : FileTree FileName)
    : Prop where
  layout : Layout staging dirs files before tree
  directories : unpacking.directories = dirs.map joinSlash
  ways : ∀ names, names ∈ dirs ↔ names ≠ []
    ∧ ∃ entry ∈ entries, names <+: entry.names expectedRoot
      ∧ (entry.entryType = .directory ∨ names ≠ entry.names expectedRoot)
  few : dirs.length ≤ maxBundleDirectories
  contents : ∀ names body, (names, body) ∈ files
    ↔ ∃ entry ∈ entries, entry.entryType = .file ∧ entry.names expectedRoot = names ∧ entry.data = body
  seen : unpacking.seen = entries.map (·.relative expectedRoot)
  unique : (entries.map (·.relative expectedRoot)).Nodup
  accepted : ∀ entry ∈ entries, entry.Accepted expectedRoot
  count : unpacking.files = (fileEntries entries).length ∧ unpacking.files ≤ maxBundleFiles
  payload : unpacking.payloadBytes = ((fileEntries entries).map (·.data.length)).sum
    ∧ unpacking.payloadBytes ≤ maxBundleBytes

section Entries

variable {expectedRoot : List Char} {staging : List FileName} {entries : List ArchiveEntry}
  {before tree final : FileTree FileName} {dirs dirs' : List (List FileName)}
  {files : List (List FileName × List UInt8)} {unpacking unpacking' : Unpacking} {entry : ArchiveEntry}

theorem fileEntries_concat (entries : List ArchiveEntry) (entry : ArchiveEntry)
    : fileEntries (entries ++ [entry])
      = fileEntries entries ++ if entry.entryType = .file then [entry] else [] := by
  unfold fileEntries
  rw [List.filter_append, List.filter_cons]
  split <;> simp_all

theorem exists_mem_concat {p : ArchiveEntry → Prop}
    : (∃ other ∈ entries ++ [entry], p other) ↔ (∃ other ∈ entries, p other) ∨ p entry := by
  simp only [List.mem_append, List.mem_singleton, or_and_right, exists_or, exists_eq_left]

/-- The directories that lead to a path, and the path itself where it is one of a directory. -/
theorem withPath_iff {path : List FileName} (named : path ≠ [])
    (within : if entry.entryType = .directory then WithPath dirs [] path dirs'
      else WithPath dirs [] path.dropLast dirs')
    (names : List FileName)
    : names ∈ dirs' ↔ names ∈ dirs ∨ names ≠ [] ∧ names <+: path
      ∧ (entry.entryType = .directory ∨ names ≠ path) := by
  split at within
  next directory =>
      rw [within names]
      simp [directory]
  next other =>
      rw [within names]
      refine or_congr_right ?_
      simp only [List.nil_append, other, false_or]
      constructor
      · rintro ⟨more, some', part, rfl⟩
        refine ⟨some', part.trans (List.dropLast_prefix path), ?_⟩
        rintro rfl
        have shorter := part.length_le
        rw [List.length_dropLast] at shorter
        have := List.length_pos_iff.mpr named
        omega
      · rintro ⟨some', part, different⟩
        exact ⟨names, some', ((prefix_iff_dropLast named names).mp part).resolve_right different, rfl⟩

/-- One more entry is unpacked. -/
theorem Unpacks.concat {files' : List (List FileName × List UInt8)} {relative : List Char}
    (unpacks : Unpacks expectedRoot staging entries before dirs files unpacking tree)
    (at' : entry.relative expectedRoot = relative) (fresh : unpacking.seen.contains relative = false)
    (accepted : entry.Accepted expectedRoot)
    (layout : Layout staging dirs' files' before final)
    (directories : unpacking'.directories = dirs'.map joinSlash)
    (ways : ∀ names, names ∈ dirs' ↔ names ∈ dirs ∨ names ≠ [] ∧ names <+: entry.names expectedRoot
      ∧ (entry.entryType = .directory ∨ names ≠ entry.names expectedRoot))
    (few : dirs.length ≤ maxBundleDirectories → dirs'.length ≤ maxBundleDirectories)
    (contents : ∀ names body, (names, body) ∈ files' ↔ (names, body) ∈ files
      ∨ entry.entryType = .file ∧ entry.names expectedRoot = names ∧ entry.data = body)
    (seen : unpacking'.seen = unpacking.seen ++ [relative])
    (count : unpacking'.files = unpacking.files + (if entry.entryType = .file then 1 else 0)
      ∧ unpacking'.files ≤ maxBundleFiles)
    (payload : unpacking'.payloadBytes
        = unpacking.payloadBytes + (if entry.entryType = .file then entry.data.length else 0)
      ∧ unpacking'.payloadBytes ≤ maxBundleBytes)
    : Unpacks expectedRoot staging (entries ++ [entry]) before dirs' files' unpacking' final where
  layout := layout
  directories := directories
  ways names := by
    rw [ways, unpacks.ways, exists_mem_concat, ← and_or_left]
  few := few unpacks.few
  contents names body := by rw [contents, unpacks.contents, exists_mem_concat]
  seen := by rw [seen, unpacks.seen, List.map_append, List.map_singleton, at']
  unique := by
    rw [List.map_append, List.map_singleton, at', ← unpacks.seen, List.nodup_append]
    refine ⟨by rw [unpacks.seen]; exact unpacks.unique, List.nodup_singleton _, ?_⟩
    intro other member last here
    rw [List.mem_singleton.mp here]
    rintro rfl
    rw [List.contains_iff_mem.mpr member] at fresh
    cases fresh
  accepted other member := by
    rcases List.mem_append.mp member with member | member
    · exact unpacks.accepted other member
    · rw [List.mem_singleton.mp member]
      exact accepted
  count := by
    refine ⟨?_, count.2⟩
    rw [count.1, unpacks.count.1, fileEntries_concat, List.length_append]
    split <;> rfl
  payload := by
    refine ⟨?_, payload.2⟩
    rw [payload.1, unpacks.payload.1, fileEntries_concat, List.map_append, List.sum_append]
    split <;> simp

/-- The entry of the new directory itself. -/
theorem Unpacks.root (unpacks : Unpacks expectedRoot staging entries before dirs files unpacking tree)
    (at' : entry.relative expectedRoot = []) (fresh : unpacking.seen.contains [] = false)
    (accepted : entry.Accepted expectedRoot) (directory : entry.entryType = .directory)
    : Unpacks expectedRoot staging (entries ++ [entry]) before dirs files
        { unpacking with seen := unpacking.seen ++ [[]] } tree := by
  have names : entry.names expectedRoot = [] := by
    rw [ArchiveEntry.names, at']
    rfl
  have noFile : entry.entryType ≠ .file := by
    rw [directory]
    exact EntryType.noConfusion
  apply unpacks.concat at' fresh accepted unpacks.layout
  · exact unpacks.directories
  · intro others
    rw [names, List.prefix_nil]
    exact ⟨.inl, Or.rec id fun wrong => absurd wrong.2.1 wrong.1⟩
  · exact id
  · intro others body
    exact ⟨.inl, Or.rec id fun wrong => absurd wrong.1 noFile⟩
  · rfl
  · rw [if_neg noFile]
    exact ⟨rfl, unpacks.count.2⟩
  · rw [if_neg noFile]
    exact ⟨rfl, unpacks.payload.2⟩

section Members

variable {relative : List Char}

theorem names_eq_splitOn (at' : entry.relative expectedRoot = relative) (some' : relative ≠ [])
    : entry.names expectedRoot = relative.splitOn '/' ∧ relative.splitOn '/' ≠ [] := by
  constructor
  · rw [ArchiveEntry.names, at', if_neg (by rwa [List.isEmpty_iff])]
  · intro none
    rw [← joinSlash_splitOn relative, none] at some'
    exact some' rfl

theorem ensures_directoryEntry
    (unpacks : Unpacks expectedRoot staging entries before dirs files unpacking tree)
    (at' : entry.relative expectedRoot = relative) (some' : relative ≠ [])
    (valid : validateRelativePath relative = true) (fresh : unpacking.seen.contains relative = false)
    (accepted : entry.Accepted expectedRoot) (directory : entry.entryType = .directory)
    : (do
          let directories ← registerDirectory staging relative unpacking.directories
          pure { unpacking with seen := unpacking.seen ++ [relative], directories }
          : UnpackProgram Unpacking).Ensures tree
        (fun unpacking' final => ∃ dirs' files',
          Unpacks expectedRoot staging (entries ++ [entry]) before dirs' files' unpacking' final)
        (fun _ => Beside staging before) := by
  obtain ⟨names, named⟩ := names_eq_splitOn at' some'
  have registered := ensures_registerDirectory named (plain_of_validate valid) unpacks.layout
  have noFile : entry.entryType ≠ .file := by
    rw [directory]
    exact EntryType.noConfusion
  rw [joinSlash_splitOn] at registered
  rw [ensures_bind, unpacks.directories]
  refine registered.mono ?_ (fun _ _ beside => beside)
  rintro _ final ⟨dirs', rfl, layout, within, bound⟩
  rw [ensures_pure]
  refine ⟨dirs', files, ?_⟩
  apply unpacks.concat at' fresh accepted layout rfl
  · rw [names]
    exact withPath_iff named (by rw [if_pos directory]; exact within)
  · exact bound
  · intro others body
    exact ⟨.inl, Or.rec id fun wrong => absurd wrong.1 noFile⟩
  · rfl
  · rw [if_neg noFile]
    exact ⟨rfl, unpacks.count.2⟩
  · rw [if_neg noFile]
    exact ⟨rfl, unpacks.payload.2⟩

theorem ensures_fileEntry
    (unpacks : Unpacks expectedRoot staging entries before dirs files unpacking tree)
    (at' : entry.relative expectedRoot = relative) (some' : relative ≠ [])
    (valid : validateRelativePath relative = true) (fresh : unpacking.seen.contains relative = false)
    (path : ∃ path relative, entry.path = some path
      ∧ archiveRelativePath path expectedRoot = .ok relative
      ∧ (relative = [] ∧ entry.entryType = .directory ∨ validateRelativePath relative = true))
    (file : entry.entryType = .file)
    : (extractFile staging relative entry
          { unpacking with seen := unpacking.seen ++ [relative] }).Ensures tree
        (fun unpacking' final => ∃ dirs' files',
          Unpacks expectedRoot staging (entries ++ [entry]) before dirs' files' unpacking' final)
        (fun _ => Beside staging before) := by
  obtain ⟨names, named⟩ := names_eq_splitOn at' some'
  have extracted := @ensures_extractFile staging _ dirs files before tree entry
    { unpacking with seen := unpacking.seen ++ [relative] } named (plain_of_validate valid)
    unpacks.layout unpacks.directories
  have noDirectory : entry.entryType ≠ .directory := by
    rw [file]
    exact EntryType.noConfusion
  rw [joinSlash_splitOn] at extracted
  refine extracted.mono ?_ (fun _ _ beside => beside)
  rintro unpacking' final ⟨⟨dirs', directories, layout, within, bound⟩, seen, count, payload, size,
    fits⟩
  refine ⟨dirs', files ++ [(relative.splitOn '/', entry.data)], ?_⟩
  apply unpacks.concat at' fresh
    ⟨path, by rw [file]; exact EntryType.noConfusion, fun _ => ⟨size, fits.1⟩⟩ layout directories
  · rw [names]
    exact withPath_iff named (by rw [if_neg noDirectory]; exact within)
  · exact bound
  · intro others body
    rw [List.mem_append, List.mem_singleton, names, Prod.mk.injEq, eq_comm (a := others),
      eq_comm (a := body)]
    exact or_congr_right ⟨fun here => ⟨file, here⟩, fun here => here.2⟩
  · exact seen
  · rw [if_pos file]
    exact ⟨count, fits.2.1⟩
  · rw [if_pos file]
    exact ⟨payload, fits.2.2⟩

end Members

/-- One round of the loop, by cases on the entry. -/
theorem ensures_extractEntry
    (unpacks : Unpacks expectedRoot staging entries before dirs files unpacking tree)
    : (extractEntry staging expectedRoot entry unpacking).Ensures tree
        (fun unpacking' final => ∃ dirs' files',
          Unpacks expectedRoot staging (entries ++ [entry]) before dirs' files' unpacking' final)
        (fun _ => Beside staging before) := by
  have beside := unpacks.layout.beside
  unfold extractEntry
  cases named : entry.path with
  | none => exact ensures_fail.mpr beside
  | some path =>
      dsimp only
      cases related : archiveRelativePath path expectedRoot with
      | error error => exact ensures_fail.mpr beside
      | ok relative =>
          have at' : entry.relative expectedRoot = relative := by
            rw [ArchiveEntry.relative, named, Option.bind_some, related]
            rfl
          have directoryAccepted (directory : entry.entryType = .directory)
              (valid : relative = [] ∨ validateRelativePath relative = true)
              : entry.Accepted expectedRoot :=
            ⟨⟨path, relative, named, related, valid.imp_left fun root => ⟨root, directory⟩⟩,
              by rw [directory]; exact EntryType.noConfusion,
              fun file => by rw [directory] at file; cases file⟩
          dsimp only
          by_cases root : relative = []
          · subst root
            rw [if_pos List.isEmpty_nil]
            by_cases bad : (entry.entryType ≠ .directory || unpacking.seen.contains []) = true
            · rw [if_pos bad, ensures_fail]
              exact beside
            · rw [if_neg bad, ensures_pure]
              rw [Bool.or_eq_true, decide_eq_true_eq, not_or, not_not, Bool.not_eq_true] at bad
              exact ⟨dirs, files,
                unpacks.root at' bad.2 (directoryAccepted bad.1 (.inl rfl)) bad.1⟩
          · rw [if_neg (by rwa [List.isEmpty_iff])]
            cases valid : validateRelativePath relative with
            | false => exact ensures_fail.mpr beside
            | true =>
                rw [if_neg (by rw [Bool.not_true]; exact Bool.false_ne_true)]
                cases fresh : unpacking.seen.contains relative with
                | true => exact ensures_fail.mpr beside
                | false =>
                    rw [if_neg Bool.false_ne_true]
                    cases type : entry.entryType with
                    | directory =>
                        exact ensures_directoryEntry unpacks at' root valid fresh
                          (directoryAccepted type (.inr valid)) type
                    | file =>
                        exact ensures_fileEntry unpacks at' root valid fresh
                          ⟨path, relative, named, related, .inr valid⟩ type
                    | other => exact ensures_fail.mpr beside

/-- The loop, by induction on the entries that are left. -/
theorem ensures_extractEntries (items : List (Option ArchiveEntry))
    (unpacks : Unpacks expectedRoot staging entries before dirs files unpacking tree)
    : (extractEntries staging expectedRoot unpacking items).Ensures tree
        (fun unpacking' final => ∃ later dirs' files', items = later.map some
          ∧ Unpacks expectedRoot staging (entries ++ later) before dirs' files' unpacking' final)
        (fun _ => Beside staging before) := by
  induction items generalizing entries dirs files unpacking tree with
  | nil =>
      rw [extractEntries, ensures_pure]
      exact ⟨[], dirs, files, rfl, by rwa [List.append_nil]⟩
  | cons item rest ih =>
      cases item with
      | none => exact ensures_fail.mpr unpacks.layout.beside
      | some entry =>
          rw [extractEntries, ensures_bind]
          refine (ensures_extractEntry unpacks).mono ?_ (fun _ _ beside => beside)
          rintro middle tree' ⟨dirs', files', unpacks'⟩
          refine (ih unpacks').mono ?_ (fun _ _ beside => beside)
          rintro last final ⟨later, dirs'', files'', rfl, whole⟩
          rw [List.append_assoc] at whole
          exact ⟨entry :: later, dirs'', files'', rfl, whole⟩

end Entries

-----------------------------------------------------------------------------------------
-- Archives
-----------------------------------------------------------------------------------------

/-- What some entries have at a path: the contents of the file there, or a directory where the path leads
to an entry.
-/
def archived (expectedRoot : List Char) (entries : List ArchiveEntry) (names : List FileName)
    : Option FileNode :=
  match entries.find? fun entry => entry.entryType = .file && entry.names expectedRoot = names with
  | some entry => some (.file entry.data)
  | none =>
      if entries.any fun entry => names.isPrefixOf (entry.names expectedRoot) then some .directory
      else none

/-- A tree in which an archive was unpacked into a new directory: the entries that are there, all within
the limits, and nothing else, beside what was there before.
-/
structure Unpacked (archive : ModelArchive) (staging : List FileName) (before after : FileTree FileName)
    (expectedRoot : List Char) (entries : List ArchiveEntry) : Prop where
  items : archiveRoot archive.artifactName = some expectedRoot ∧ archive.items = entries.map some
  below : ∀ names, after.node (staging ++ names) = archived expectedRoot entries names
  beside : Beside staging before after
  fresh : before.node staging = none
  unique : (entries.map (·.relative expectedRoot)).Nodup
  accepted : ∀ entry ∈ entries, entry.Accepted expectedRoot
  count : 0 < (fileEntries entries).length ∧ (fileEntries entries).length ≤ maxBundleFiles
  payload : ((fileEntries entries).map (·.data.length)).sum ≤ maxBundleBytes
  directories : ∃ dirs : List (List FileName), dirs.length ≤ maxBundleDirectories
    ∧ ∀ names, after.node (staging ++ names) = some .directory → names = [] ∨ names ∈ dirs

section Archives

variable {expectedRoot : List Char} {staging : List FileName} {entries : List ArchiveEntry}
  {before tree : FileTree FileName} {dirs : List (List FileName)}
  {files : List (List FileName × List UInt8)} {unpacking : Unpacking}

/-- What is unpacked is what the entries have. -/
theorem Unpacks.archived_eq
    (unpacks : Unpacks expectedRoot staging entries before dirs files unpacking tree)
    (some' : entries ≠ []) (names : List FileName)
    : tree.node (staging ++ names) = archived expectedRoot entries names := by
  unfold archived
  cases found : entries.find? fun entry =>
      entry.entryType = .file && entry.names expectedRoot = names with
  | some entry =>
      have matched := List.find?_some found
      rw [Bool.and_eq_true, decide_eq_true_eq, decide_eq_true_eq] at matched
      exact (unpacks.layout.file names entry.data).mpr ((unpacks.contents names entry.data).mpr
        ⟨entry, List.mem_of_find?_eq_some found, matched.1, matched.2, rfl⟩)
  | none =>
      have noFile (entry : ArchiveEntry) (member : entry ∈ entries) (file : entry.entryType = .file)
          : entry.names expectedRoot ≠ names := by
        intro same
        have missed := List.find?_eq_none.mp found entry member
        rw [file, same, decide_eq_true rfl, decide_eq_true rfl] at missed
        exact missed rfl
      dsimp only
      split
      next leads =>
          obtain ⟨entry, member, part⟩ := List.any_eq_true.mp leads
          rw [List.isPrefixOf_iff_prefix] at part
          apply (unpacks.layout.directory names).mpr
          by_cases root : names = []
          · exact .inl root
          · refine .inr ((unpacks.ways names).mpr ⟨root, entry, member, part, ?_⟩)
            cases type : entry.entryType with
            | directory => exact .inl rfl
            | file => exact .inr (noFile entry member type).symm
            | other => exact absurd type (unpacks.accepted entry member).entryType
      next nothing =>
          have outside (entry : ArchiveEntry) (member : entry ∈ entries)
              : ¬names <+: entry.names expectedRoot := by
            intro part
            exact nothing (List.any_eq_true.mpr
              ⟨entry, member, List.isPrefixOf_iff_prefix.mpr part⟩)
          cases there : tree.node (staging ++ names) with
          | none => rfl
          | some node =>
              cases node with
              | directory =>
                  rcases (unpacks.layout.directory names).mp there with rfl | member
                  · obtain ⟨entry, member⟩ := List.exists_mem_of_ne_nil entries some'
                    exact absurd List.nil_prefix (outside entry member)
                  · obtain ⟨-, entry, member, part, -⟩ := (unpacks.ways names).mp member
                    exact absurd part (outside entry member)
              | file body =>
                  obtain ⟨entry, member, file, same, -⟩ :=
                    (unpacks.contents names body).mp ((unpacks.layout.file names body).mp there)
                  exact absurd same (noFile entry member file)

/-- An extraction that has not begun. -/
theorem unpacks_nil (tree before : FileTree FileName)
    (created : before.create staging .directory = some tree)
    : Unpacks expectedRoot staging [] before [] [] {} tree := by
  obtain ⟨⟨-, free, -⟩, updated⟩ := FileTree.create_eq_some created
  have below (names : List FileName) (named : names ≠ []) : tree.node (staging ++ names) = none := by
    rw [updated, Function.update_of_ne, FileTree.node_below free]
    exact fun same => named (List.append_right_eq_self.mp same)
  have base : tree.node (staging ++ []) = some .directory := by
    rw [List.append_nil, updated, Function.update_self]
  refine ⟨⟨?_, ?_, ?_, fun _ none => absurd none List.not_mem_nil⟩, rfl, ?_, Nat.zero_le _, ?_, rfl,
    List.nodup_nil, fun _ none => absurd none List.not_mem_nil, ⟨rfl, Nat.zero_le _⟩,
    ⟨rfl, Nat.zero_le _⟩⟩
  · intro path outside
    rw [updated, Function.update_of_ne]
    rintro rfl
    exact outside (List.prefix_refl _)
  · intro names
    by_cases root : names = []
    · subst root
      exact ⟨fun _ => .inl rfl, fun _ => base⟩
    · rw [below names root]
      simp [root]
  · intro names body
    by_cases root : names = []
    · subst root
      rw [base]
      simp
    · rw [below names root]
      simp
  · intro names
    simp
  · intro names body
    simp

/-- A run of the extraction that succeeds has made a new directory with the files and directories of the
archive, and any run, wherever it fails or is cut short, leaves all else as it was.
-/
theorem stageArchive_unpacks (archive : ModelArchive) (staging : List FileName)
    (before : FileTree FileName)
    : (stageArchive archive staging).Ensures before
        (fun _ after => ∃ expectedRoot entries,
          Unpacked archive staging before after expectedRoot entries)
        (fun _ after => ∀ path, after.node path = before.node path
          ∨ staging <+: path ∧ before.node path = none) := by
  have unchanged (path : List FileName)
      : before.node path = before.node path ∨ staging <+: path ∧ before.node path = none := .inl rfl
  rw [stageArchive, ensures_bind, ensures_operation]
  refine ⟨unchanged, unchanged, fun tree created => ?_⟩
  have fresh := (FileTree.create_eq_some created).1.2.1
  have kept {after : FileTree FileName} (beside : Beside staging before after) (path : List FileName)
      : after.node path = before.node path ∨ staging <+: path ∧ before.node path = none := by
    by_cases inside : staging <+: path
    · obtain ⟨rest, rfl⟩ := inside
      exact .inr ⟨List.prefix_append _ _, FileTree.node_below fresh rest⟩
    · exact .inl (beside path inside)
  have begun (expectedRoot : List Char) := @unpacks_nil expectedRoot staging tree before created
  have beside := (begun []).layout.beside
  rw [extractArchive, ensures_bind, ensures_operation]
  refine ⟨kept beside, kept beside, fun _ same => ?_⟩
  cases same
  cases root : archiveRoot archive.artifactName with
  | none => exact ensures_fail.mpr (kept beside)
  | some expectedRoot =>
      dsimp only
      by_cases closed : (!archive.opens) = true
      · rw [if_pos closed, ensures_fail]
        exact kept beside
      · rw [if_neg closed, ensures_bind]
        refine (ensures_extractEntries archive.items (begun expectedRoot)).mono ?_
          (fun _ _ beside => kept beside)
        rintro unpacking after ⟨entries, dirs, files, items, unpacks⟩
        rw [List.nil_append] at unpacks
        rw [ensures_ite]
        refine ⟨fun _ => ensures_fail.mpr (kept unpacks.layout.beside), fun payload => ?_⟩
        rw [ensures_pure]
        have count : 0 < (fileEntries entries).length := by
          rw [← unpacks.count.1]
          exact Nat.pos_of_ne_zero payload
        have some' : entries ≠ [] := by
          rintro rfl
          exact absurd count (Nat.lt_irrefl 0)
        exact ⟨expectedRoot, entries, {
          items := ⟨root, items⟩
          below := unpacks.archived_eq some'
          beside := unpacks.layout.beside
          fresh := fresh
          unique := unpacks.unique
          accepted := unpacks.accepted
          count := ⟨count, by rw [← unpacks.count.1]; exact unpacks.count.2⟩
          payload := by rw [← unpacks.payload.1]; exact unpacks.payload.2
          directories := ⟨dirs, unpacks.few, fun names => (unpacks.layout.directory names).mp⟩ }⟩

end Archives

end CtxRemote.Semantic
