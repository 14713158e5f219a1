import Mathlib.Data.List.Induction
import Mathlib.Logic.Function.Basic

/-! Trees of directories and files, by the paths of what is in them. -/

namespace CtxRemote.Library

universe u

/-- What is at a path. -/
inductive FileNode where
  | directory
  | file (body : List UInt8)
deriving DecidableEq

/-- A tree. Whatever is in it, except its root, is in a directory of it. -/
structure FileTree (Name : Type u) where
  node : List Name → Option FileNode
  rooted : ∀ path name, (node (path ++ [name])).isSome = true → node path = some .directory

namespace FileTree

variable {Name : Type u} {tree : FileTree Name} {path rest : List Name}

/-- A path that something is below is that of a directory. -/
theorem directory_of_below (there : (tree.node (path ++ rest)).isSome = true) (below : rest ≠ [])
    : tree.node path = some .directory := by
  induction rest using List.reverseRecOn with
  | nil => exact absurd rfl below
  | append_singleton rest name ih =>
      rw [← List.append_assoc] at there
      have parent := tree.rooted _ _ there
      cases rest with
      | nil => rwa [List.append_nil] at parent
      | cons _ _ => exact ih (by rw [parent]; rfl) (List.cons_ne_nil _ _)

/-- Nothing is below a free path. -/
theorem node_below (free : tree.node path = none) (rest : List Name)
    : tree.node (path ++ rest) = none := by
  by_cases here : rest = []
  · rwa [here, List.append_nil]
  · by_contra there
    rw [directory_of_below (Option.isSome_iff_ne_none.mpr there) here] at free
    cases free

variable [DecidableEq Name]

/-- A path is free for a new node. -/
def Free (tree : FileTree Name) (path : List Name) : Prop :=
  path ≠ [] ∧ tree.node path = none ∧ tree.node path.dropLast = some .directory

instance : Decidable (tree.Free path) := inferInstanceAs (Decidable (_ ∧ _ ∧ _))

theorem rooted_update_of_free (free : tree.Free path) (new : FileNode) (above : List Name) (name : Name)
    (there : (Function.update tree.node path (some new) (above ++ [name])).isSome = true)
    : Function.update tree.node path (some new) above = some .directory := by
  obtain ⟨inside, free, parent⟩ := free
  by_cases here : above ++ [name] = path
  · rw [← here, List.dropLast_concat] at parent
    rw [Function.update_of_ne (fun same => ?_), parent]
    rw [← same, parent] at free
    cases free
  · rw [Function.update_of_ne here] at there
    have directory := tree.rooted _ _ there
    rw [Function.update_of_ne (fun same => ?_), directory]
    rw [← same, directory] at free
    cases free

/-- A new node, at a free path in a directory. -/
def create (tree : FileTree Name) (path : List Name) (new : FileNode) : Option (FileTree Name) :=
  if free : tree.Free path then
    some ⟨Function.update tree.node path (some new), rooted_update_of_free free new⟩
  else none

theorem create_eq_some {new : FileNode} {final : FileTree Name}
    (created : tree.create path new = some final)
    : tree.Free path ∧ final.node = Function.update tree.node path (some new) := by
  unfold create at created
  split at created
  next free =>
      cases created
      exact ⟨free, rfl⟩
  next => cases created

theorem rooted_update_of_file {old : List UInt8} (there : tree.node path = some (.file old))
    (body : List UInt8) (above : List Name) (name : Name)
    (below : (Function.update tree.node path (some (.file body)) (above ++ [name])).isSome = true)
    : Function.update tree.node path (some (.file body)) above = some .directory := by
  have directory : tree.node above = some .directory := by
    by_cases here : above ++ [name] = path
    · exact tree.rooted above name (by rw [here, there]; rfl)
    · rw [Function.update_of_ne here] at below
      exact tree.rooted above name below
  rw [Function.update_of_ne (fun same => ?_), directory]
  rw [← same, directory] at there
  cases there

/-- A file with other contents. -/
def write (tree : FileTree Name) (path : List Name) (body : List UInt8) : FileTree Name :=
  match there : tree.node path with
  | some (.file _) =>
      ⟨Function.update tree.node path (some (.file body)), rooted_update_of_file there body⟩
  | _ => tree

theorem node_write {old : List UInt8} (there : tree.node path = some (.file old)) (body : List UInt8)
    : (tree.write path body).node = Function.update tree.node path (some (.file body)) := by
  unfold write
  split
  next => rfl
  next other => exact absurd there (other old)

end FileTree
end CtxRemote.Library
