import CtxRemote.Semantic.ModelArchive

/-! What an extraction goes by: paths of plain names, and what each operation on files leaves below the new
directory.
-/

namespace CtxRemote.Semantic
open CtxRemote.Library CtxRemote.Library.Interruptible

-----------------------------------------------------------------------------------------
-- Paths of plain names
-----------------------------------------------------------------------------------------

/-- A name that leads from a directory to what is in it. -/
structure Plain (name : FileName) : Prop where
  named : name ≠ []
  current : name ≠ ['.']
  parent : name ≠ ['.', '.']
  single : '/' ∉ name

/-- The component of a plain name. -/
def plainComponent (name : FileName) : Component := .normal (name.map some)

section Paths

variable {names others : List FileName} {name : FileName} {relative : List Char}

theorem componentText_plainComponent (name : FileName)
    : componentText (plainComponent name) = .ok name := by
  have same : (name.map some).mapM id = some name := by
    induction name with
    | nil => rfl
    | cons c rest ih => simp [List.mapM_cons, ih]
  rw [plainComponent, componentText, same]

theorem not_mem_of_mem_splitOn (member : name ∈ relative.splitOn '/') : '/' ∉ name := by
  induction relative generalizing name with
  | nil =>
      rw [List.splitOn_nil, List.mem_singleton] at member
      rw [member]
      exact List.not_mem_nil
  | cons c rest ih =>
      rw [List.splitOn_cons_eq_if_modifyHead] at member
      split at member
      next =>
          rcases List.mem_cons.mp member with rfl | member
          · exact List.not_mem_nil
          · exact ih member
      next other =>
          have separate : '/' ≠ c := fun same => other (beq_iff_eq.mpr same.symm)
          cases parts : rest.splitOn '/' with
          | nil =>
              rw [parts] at member
              cases member
          | cons head tail =>
              rw [parts, List.modifyHead_cons] at member
              rcases List.mem_cons.mp member with rfl | later
              · rw [List.mem_cons, not_or]
                exact ⟨separate, ih (by rw [parts]; exact List.mem_cons_self)⟩
              · exact ih (by rw [parts]; exact List.mem_cons_of_mem _ later)

theorem splitOn_joinSlash (some' : names ≠ []) (plain : ∀ name ∈ names, Plain name)
    : (joinSlash names).splitOn '/' = names :=
  List.splitOn_intercalate '/' (fun name member => (plain name member).single) some'

theorem joinSlash_splitOn (relative : List Char) : joinSlash (relative.splitOn '/') = relative :=
  List.intercalate_splitOn '/'

/-- Paths of plain names are different for different names. -/
theorem joinSlash_injective (some' : names ≠ []) (plain : ∀ name ∈ names, Plain name)
    (others' : others ≠ []) (plainOthers : ∀ name ∈ others, Plain name)
    (same : joinSlash names = joinSlash others) : names = others := by
  rw [← splitOn_joinSlash some' plain, same, splitOn_joinSlash others' plainOthers]

theorem joinSlash_singleton (name : FileName) : joinSlash [name] = name := List.intercalate_singleton

theorem joinSlash_ne_nil (some' : names ≠ []) (plain : ∀ name ∈ names, Plain name)
    : joinSlash names ≠ [] := by
  intro none
  have parts := splitOn_joinSlash some' plain
  rw [none, List.splitOn_nil] at parts
  exact (plain [] (by rw [← parts]; exact List.mem_singleton_self _)).named rfl

/-- The name that `create_parent_directories` gives to the next directory. -/
theorem joinSlash_concat (plain : ∀ name ∈ names, Plain name) (name : FileName)
    : (if (joinSlash names).isEmpty then [] else joinSlash names ++ ['/']) ++ name
      = joinSlash (names ++ [name]) := by
  cases names with
  | nil => exact (joinSlash_singleton name).symm
  | cons first rest =>
      have named := joinSlash_ne_nil (List.cons_ne_nil first rest) plain
      rw [if_neg (by rw [List.isEmpty_iff]; exact named)]
      clear named plain
      induction rest generalizing first with
      | nil =>
          simp only [joinSlash, List.singleton_append, List.intercalate_cons_cons,
            List.intercalate_singleton]
      | cons second rest ih =>
          have next := ih second
          unfold joinSlash at next ⊢
          rw [List.cons_append, List.cons_append, List.intercalate_cons_cons,
            List.intercalate_cons_cons, ← List.cons_append, ← next]
          simp only [List.append_assoc]

theorem locate_joinSlash (base : List FileName) (some' : names ≠ [])
    (plain : ∀ name ∈ names, Plain name) : locate base (joinSlash names) = base ++ names := by
  have walk (names : List FileName) (plain : ∀ name ∈ names, Plain name) (place : List FileName)
      : names.foldl
          (fun place part =>
            if part = [] || part = ['.'] then place
            else if part = ['.', '.'] then place.dropLast
            else place ++ [part])
          place
        = place ++ names := by
    induction names generalizing place with
    | nil => exact (List.append_nil place).symm
    | cons name rest ih =>
        have here := plain name List.mem_cons_self
        rw [List.foldl_cons, if_neg (by simp [here.named, here.current]), if_neg here.parent,
          ih (fun name member => plain name (List.mem_cons_of_mem _ member)), List.append_assoc]
        rfl
  have relative : (joinSlash names).head? ≠ some '/' := by
    intro rooted
    obtain ⟨rest, same⟩ := List.head?_eq_some_iff.mp rooted
    have parts := splitOn_joinSlash some' plain
    rw [same, List.splitOn_cons_eq_if_modifyHead, if_pos (beq_self_eq_true _)] at parts
    exact (plain [] (by rw [← parts]; exact List.mem_cons_self)).named rfl
  rw [locate, splitOn_joinSlash some' plain, if_neg relative, walk names plain]

theorem map_joinSlash (names : List FileName)
    : (joinSlash names).map some = [some '/'].intercalate (names.map (List.map some)) := by
  unfold joinSlash
  induction names with
  | nil => rfl
  | cons first rest ih =>
      cases rest with
      | nil => simp only [List.map_cons, List.map_nil, List.intercalate_singleton]
      | cons second rest =>
          simp only [List.map_cons, List.intercalate_cons_cons, List.map_append, List.map_nil] at ih ⊢
          rw [ih]

theorem components_joinSlash (some' : names ≠ []) (plain : ∀ name ∈ names, Plain name)
    : components ((joinSlash names).map some) = names.map plainComponent := by
  have parts : ((joinSlash names).map some).splitOn (some '/') = names.map (List.map some) := by
    rw [map_joinSlash]
    apply List.splitOn_intercalate
    · intro part member separator
      obtain ⟨name, there, rfl⟩ := List.mem_map.mp member
      obtain ⟨c, inside, same⟩ := List.mem_map.mp separator
      rw [Option.some.inj same] at inside
      exact (plain name there).single inside
    · exact fun none => some' (List.map_eq_nil_iff.mp none)
  have relative : ((joinSlash names).map some).head? ≠ some (some '/') := by
    intro rooted
    obtain ⟨rest, same⟩ := List.head?_eq_some_iff.mp rooted
    rw [same, List.splitOn_cons_eq_if_modifyHead, if_pos (beq_self_eq_true _)] at parts
    obtain ⟨name, member, none⟩ := List.mem_map.mp (by rw [← parts]; exact List.mem_cons_self)
    exact (plain name member).named (List.map_eq_nil_iff.mp none)
  have first : (names.map (List.map some)).head? ≠ some [some '.'] := by
    intro current
    rw [List.head?_map] at current
    obtain ⟨name, here, dot⟩ := Option.map_eq_some_iff.mp current
    have member := List.mem_of_head? here
    exact (plain name member).current (List.map_injective_iff.mpr (Option.some_injective _) dot)
  unfold components
  rw [parts]
  dsimp only
  rw [if_neg relative, if_neg first, List.nil_append, List.filterMap_map]
  refine (List.filterMap_congr ?_).trans (congrFun List.filterMap_eq_map names)
  intro name member
  have here := plain name member
  have injective := List.map_injective_iff.mpr (Option.some_injective Char)
  have current : name.map some ≠ [some '.'] := fun same => here.current (injective same)
  have parent : name.map some ≠ [some '.', some '.'] := fun same => here.parent (injective same)
  simp [componentOf, plainComponent, here.named, current, parent]

/-- A path that is accepted is one of plain names. -/
theorem plain_of_validate (valid : validateRelativePath relative = true)
    : ∀ name ∈ relative.splitOn '/', Plain name := by
  intro name member
  unfold validateRelativePath at valid
  rw [Bool.and_eq_true, Bool.not_eq_true', List.any_eq_false] at valid
  have accepted := valid.2 name member
  simp only [Bool.or_eq_true, decide_eq_true_eq, not_or] at accepted
  exact ⟨accepted.1.1, accepted.1.2, accepted.2, not_mem_of_mem_splitOn member⟩

end Paths

-----------------------------------------------------------------------------------------
-- Operations
-----------------------------------------------------------------------------------------

section Operations

variable {tree : FileTree FileName} {cut : Option ArchiveError → FileTree FileName → Prop}

theorem ensures_succeeds {f : FileTree FileName → Option (FileTree FileName)}
    {done : Bool → FileTree FileName → Prop}
    : (succeeds f).Ensures tree done cut
      ↔ cut none tree ∧ done false tree ∧ ∀ final, f tree = some final → done true final := by
  simp only [succeeds, ensures_bind, ensures_attempt, ensures_operation, ensures_pure]

theorem ensures_isDir {place : List FileName} {done : Bool → FileTree FileName → Prop}
    (stops : cut none tree) (unsure : done false tree)
    (sure : tree.node place = some .directory → done true tree)
    : (isDir place).Ensures tree done cut := by
  rw [isDir, ensures_bind, ensures_read, ensures_bind, ensures_succeeds]
  refine ⟨stops, ?_, fun _ same => ?_⟩
  · rw [if_neg Bool.false_ne_true, ensures_pure]
    exact unsure
  · cases same
    rw [if_pos rfl, ensures_pure]
    by_cases here : tree.node place = some .directory
    · rw [decide_eq_true here]
      exact sure here
    · rw [decide_eq_false here]
      exact unsure

theorem ensures_createDir {place : List FileName} {done : DirCreation → FileTree FileName → Prop}
    (stops : cut none tree) (fails : done .failed tree)
    (exists' : (tree.node place).isSome = true → done .alreadyExists tree)
    (creates : ∀ final, tree.create place .directory = some final → done .created final)
    : (createDir place).Ensures tree done cut := by
  rw [createDir, ensures_bind, ensures_read, ensures_bind, ensures_succeeds]
  refine ⟨stops, ?_, fun final created => ?_⟩
  · rw [if_neg Bool.false_ne_true]
    by_cases free : (tree.node place).isNone = true
    · rw [if_pos free, ensures_pure]
      exact fails
    · rw [if_neg free, ensures_bind, ensures_succeeds]
      rw [Bool.not_eq_true, Option.isNone_eq_false_iff] at free
      refine ⟨stops, ?_, fun _ same => ?_⟩
      · rw [if_neg Bool.false_ne_true, ensures_pure]
        exact fails
      · cases same
        rw [if_pos rfl, ensures_pure]
        exact exists' free
  · rw [if_pos rfl, ensures_pure]
    exact creates final created

end Operations

-----------------------------------------------------------------------------------------
-- The tree of an archive
-----------------------------------------------------------------------------------------

/-- A tree that differs from another one at most below a path. -/
def Beside (staging : List FileName) (before tree : FileTree FileName) : Prop :=
  ∀ path, ¬staging <+: path → tree.node path = before.node path

/-- What is below a new directory. -/
structure Layout (staging : List FileName) (dirs : List (List FileName))
    (files : List (List FileName × List UInt8)) (before tree : FileTree FileName)
    : Prop where
  beside : Beside staging before tree
  directory : ∀ names, tree.node (staging ++ names) = some .directory ↔ names = [] ∨ names ∈ dirs
  file : ∀ names body, tree.node (staging ++ names) = some (.file body) ↔ (names, body) ∈ files
  plain : ∀ names ∈ dirs, names ≠ [] ∧ ∀ name ∈ names, Plain name

section Layouts

variable {staging names : List FileName} {dirs : List (List FileName)}
  {files : List (List FileName × List UInt8)} {before tree final : FileTree FileName}

theorem Layout.base (layout : Layout staging dirs files before tree)
    : tree.node staging = some .directory := by
  have base := (layout.directory []).mpr (.inl rfl)
  rwa [List.append_nil] at base

/-- Another node below the directory. -/
theorem node_update_append (old : List FileName → Option FileNode) (new : Option FileNode)
    (others : List FileName)
    : Function.update old (staging ++ names) new (staging ++ others)
      = if others = names then new else old (staging ++ others) := by
  split
  next here => rw [here, Function.update_self]
  next other => exact Function.update_of_ne (fun same => other (List.append_cancel_left same)) ..

theorem Beside.update {new : Option FileNode} (beside : Beside staging before tree)
    (updated : final.node = Function.update tree.node (staging ++ names) new)
    : Beside staging before final := by
  intro path outside
  rw [updated, Function.update_of_ne, beside path outside]
  rintro rfl
  exact outside (List.prefix_append staging names)

/-- A new directory. -/
theorem Layout.makeDir (layout : Layout staging dirs files before tree)
    (plain : ∀ name ∈ names, Plain name)
    (created : tree.create (staging ++ names) .directory = some final)
    : Layout staging (dirs ++ [names]) files before final := by
  obtain ⟨⟨-, free, -⟩, updated⟩ := FileTree.create_eq_some created
  have named : names ≠ [] := by
    rintro rfl
    rw [List.append_nil, layout.base] at free
    cases free
  refine ⟨layout.beside.update updated, fun others => ?_, fun others body => ?_, ?_⟩
  · rw [updated, node_update_append, List.mem_append, List.mem_singleton]
    split
    next here => simp [here]
    next other => rw [layout.directory others]; simp [other]
  · rw [updated, node_update_append]
    split
    next here =>
        rw [← layout.file, here, free]
        simp
    next => exact layout.file others body
  · intro others member
    rcases List.mem_append.mp member with member | member
    · exact layout.plain others member
    · rw [List.mem_singleton.mp member]
      exact ⟨named, plain⟩

/-- A new file. -/
theorem Layout.makeFile {body : List UInt8} (layout : Layout staging dirs files before tree)
    (free : tree.node (staging ++ names) = none)
    (updated : final.node = Function.update tree.node (staging ++ names) (some (.file body)))
    : Layout staging dirs (files ++ [(names, body)]) before final := by
  refine ⟨layout.beside.update updated, fun others => ?_, fun others body' => ?_, layout.plain⟩
  · rw [updated, node_update_append]
    split
    next here =>
        rw [← layout.directory, here, free]
        simp
    next => exact layout.directory others
  · rw [updated, node_update_append, List.mem_append, List.mem_singleton]
    split
    next here =>
        have none : (names, body') ∉ files := by
          rw [← layout.file, free]
          exact fun wrong => by cases wrong
        rw [here]
        simp [none, eq_comm]
    next other =>
        rw [layout.file others]
        simp [other]

/-- The names of the directories are found by their paths. -/
theorem Layout.contains_joinSlash (layout : Layout staging dirs files before tree) (named : names ≠ [])
    (plain : ∀ name ∈ names, Plain name)
    : (dirs.map joinSlash).contains (joinSlash names) = true ↔ names ∈ dirs := by
  rw [List.contains_iff_mem, List.mem_map]
  constructor
  · rintro ⟨others, member, same⟩
    obtain ⟨named', plain'⟩ := layout.plain others member
    rwa [← joinSlash_injective named' plain' named plain same]
  · exact fun member => ⟨names, member, rfl⟩

end Layouts

end CtxRemote.Semantic
