import Mathlib.Tactic.ByContra
import SemanticLayer.FileTree
import SemanticLayer.Proofs.Order.Lookup
namespace SemanticLayer

/-! What stands where in a tree of files.

Putting a file or an empty directory into a directory is seen at the new entry and nowhere else
(`FileTree.node?_put`). -/

open SemanticLayer.Order

/-- What a location holds, without what stands below it. -/
inductive FileNode where
  | directory
  | file (content : ByteArray)

namespace FileTree

variable {tree added : FileTree} {entries : List (String × FileTree)} {location rest : List String}
  {name : String}

def node : FileTree → FileNode
  | .file content => .file content
  | .directory _ => .directory

/-- What the tree holds at a location, if anything. -/
def node? (tree : FileTree) (location : List String) : Option FileNode :=
  (tree.at? location).map node

@[simp] theorem node?_nil (tree : FileTree) : tree.node? [] = some tree.node := rfl

@[simp] theorem node?_file_cons (content : ByteArray) (name : String) (location : List String) :
    (FileTree.file content).node? (name :: location) = none := rfl

theorem at?_cons (tree : FileTree) (name : String) (location : List String) :
    tree.at? (name :: location) = (tree.child? name).bind fun below => below.at? location := rfl

theorem at?_append (tree : FileTree) (location rest : List String) :
    tree.at? (location ++ rest) = (tree.at? location).bind fun below => below.at? rest := by
  induction location generalizing tree with
  | nil => rfl
  | cons name location ih =>
      rw [List.cons_append, at?_cons, at?_cons]
      cases tree.child? name with
      | none => rfl
      | some below => exact ih below

theorem node?_directory_cons (entries : List (String × FileTree)) (name : String)
    (location : List String) :
    (directory entries).node? (name :: location) =
      (entries.lookup name).bind fun tree => tree.node? location := by
  unfold node?
  rw [at?_cons, child?]
  cases entries.lookup name <;> rfl

/-- Only directories have something below them. -/
theorem node?_eq_directory_of_below (below : tree.node? (location ++ name :: rest) ≠ none) :
    tree.node? location = some .directory := by
  unfold node? at below ⊢
  rw [at?_append] at below
  cases found : tree.at? location with
  | none => simp [found] at below
  | some middle =>
      cases middle with
      | directory entries => rfl
      | file content => simp [found, at?, child?] at below

theorem node?_dropLast (directory : tree.node? location = some .directory) :
    tree.node? location.dropLast = some .directory := by
  rcases List.eq_nil_or_concat location with rfl | ⟨front, last, rfl⟩
  · exact directory
  · rw [List.concat_eq_append, List.dropLast_concat]
    rw [List.concat_eq_append] at directory
    have below : tree.node? (front ++ [last]) ≠ none := directory ▸ Option.some_ne_none _
    exact node?_eq_directory_of_below below

theorem lookup_putEntry (name other : String) (added : FileTree)
    (entries : List (String × FileTree)) :
    (putEntry name added entries).lookup other =
      if other = name then some added else entries.lookup other := by
  induction entries with
  | nil => exact lookup_cons name other added []
  | cons entry rest ih =>
      rcases entry with ⟨key, tree⟩
      unfold putEntry
      by_cases same : key = name
      · subst same
        rw [if_pos (beq_self_eq_true key), lookup_cons, lookup_cons]
        by_cases equal : other = key <;> simp [equal]
      · rw [if_neg (by simpa using same), lookup_cons, lookup_cons, ih]
        by_cases equal : other = key
        · rw [if_pos equal, if_pos equal, if_neg (equal ▸ same)]
        · rw [if_neg equal, if_neg equal]

theorem lookup_change (edit : List (String × FileTree) → List (String × FileTree))
    (name other : String) (location : List String) (entries : List (String × FileTree)) :
    (entries.map fun (key, tree) => (key, if key == name then change edit location tree else tree)).lookup
        other =
      (entries.lookup other).map fun tree =>
        if other = name then change edit location tree else tree := by
  induction entries with
  | nil => rfl
  | cons entry rest ih =>
      rcases entry with ⟨key, tree⟩
      rw [List.map_cons, lookup_cons, lookup_cons, ih]
      by_cases equal : other = key <;> simp [equal]

theorem node?_change_cons (edit : List (String × FileTree) → List (String × FileTree))
    (name : String) (location : List String) (entries : List (String × FileTree)) (other : String)
    (rest : List String) :
    (change edit (name :: location) (directory entries)).node? (other :: rest) =
      (entries.lookup other).bind fun tree =>
        if other = name then (change edit location tree).node? rest else tree.node? rest := by
  rw [change, node?_directory_cons, lookup_change]
  cases entries.lookup other with
  | none => rfl
  | some tree => by_cases same : other = name <;> simp [same]

/-- At a location that is no directory nothing can be put. -/
theorem node?_put_of_not_directory (other : tree.node? location ≠ some .directory) (name : String)
    (added : FileTree) (seen : List String) :
    (tree.put location name added).node? seen = tree.node? seen := by
  unfold put
  induction location generalizing tree seen with
  | nil =>
      cases tree with
      | file content => rfl
      | directory entries => exact absurd rfl other
  | cons step location ih =>
      cases tree with
      | file content => rfl
      | directory entries =>
          cases seen with
          | nil => rfl
          | cons first seen =>
              rw [node?_change_cons, node?_directory_cons]
              cases found : entries.lookup first with
              | none => rfl
              | some below =>
                  rw [Option.bind_some, Option.bind_some]
                  split
                  · rename_i same
                    subst same
                    rw [node?_directory_cons, found] at other
                    exact ih other seen
                  · rfl

/-- A file or an empty directory that is put into a directory, in place of another file if need be,
is the only thing that changes. -/
theorem node?_put (directory : tree.node? location = some .directory)
    (free : tree.node? (location ++ [name]) ≠ some .directory)
    (bare : ∀ step rest, added.node? (step :: rest) = none) (seen : List String) :
    (tree.put location name added).node? seen =
      if seen = location ++ [name] then some added.node else tree.node? seen := by
  unfold put
  induction location generalizing tree seen with
  | nil =>
      cases tree with
      | file content => cases directory
      | directory entries =>
          cases seen with
          | nil => rfl
          | cons first rest =>
              rw [change, node?_directory_cons, lookup_putEntry]
              by_cases same : first = name
              · subst same
                rw [if_pos rfl, Option.bind_some]
                cases rest with
                | nil => rw [List.nil_append, if_pos rfl, node?_nil]
                | cons second rest =>
                    -- The entry was no directory before, so nothing stood below it.
                    have nothing : (FileTree.directory entries).node? ([first] ++ second :: rest) = none := by
                      by_contra below
                      exact free (node?_eq_directory_of_below below)
                    rw [bare, List.nil_append, if_neg (by simp)]
                    exact nothing.symm
              · rw [if_neg same, List.nil_append, if_neg (by simp [same]), node?_directory_cons]
  | cons step location ih =>
      cases tree with
      | file content => cases directory
      | directory entries =>
          cases seen with
          | nil => rfl
          | cons first rest =>
              rw [node?_change_cons]
              rw [node?_directory_cons] at directory
              rw [List.cons_append, node?_directory_cons] at free
              rw [List.cons_append, node?_directory_cons]
              by_cases same : first = step
              · subst same
                cases found : entries.lookup first with
                | none => simp [found] at directory
                | some below =>
                    rw [found] at directory free
                    simpa using ih directory free rest
              · simp [same]

end FileTree

end SemanticLayer
