namespace SemanticLayer

/-- A file, or a directory with its entries in the order in which they are listed. -/
inductive FileTree where
  | file (content : ByteArray)
  | directory (entries : List (String × FileTree))

namespace FileTree

/-! Trees of files. A location in a tree is the list of names that leads to it. -/

instance : Inhabited FileTree := ⟨.directory []⟩

def child? : FileTree → String → Option FileTree
  | .file _, _ => none
  | .directory entries, name => entries.lookup name

def at? (tree : FileTree) : List String → Option FileTree
  | [] => some tree
  | name :: location => do (← tree.child? name).at? location

/-- Change the entries of the directory at a location; elsewhere nothing changes. -/
def change (edit : List (String × FileTree) → List (String × FileTree)) :
    List String → FileTree → FileTree
  | _, .file content => .file content
  | [], .directory entries => .directory (edit entries)
  | name :: location, .directory entries =>
      .directory (entries.map fun (other, tree) =>
        (other, if other == name then change edit location tree else tree))

/-- Put an entry into a directory, in place of one with the same name. -/
def putEntry (name : String) (tree : FileTree) :
    List (String × FileTree) → List (String × FileTree)
  | [] => [(name, tree)]
  | entry :: rest =>
      if entry.1 == name then (name, tree) :: rest else entry :: putEntry name tree rest

def put (tree : FileTree) (location : List String) (name : String) (added : FileTree) : FileTree :=
  change (putEntry name added) location tree

mutual

/-- All files with their locations, at any depth. -/
def files : FileTree → List (List String × ByteArray)
  | .file content => [([], content)]
  | .directory entries => filesOf entries

def filesOf : List (String × FileTree) → List (List String × ByteArray)
  | [] => []
  | (name, tree) :: rest =>
      ((files tree).map fun (location, content) => (name :: location, content)) ++ filesOf rest

end

end FileTree

end SemanticLayer
