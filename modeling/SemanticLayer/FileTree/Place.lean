import SemanticLayer.FileTree
import SemanticLayer.FileTree.Path
namespace SemanticLayer

/-! Finding, making and writing files by their paths. -/

inductive FileError where
  | notFound
  | notADirectory
  | isADirectory
  | alreadyExists
  | nameTooLong
  | nulInName
  | invalidText
deriving DecidableEq, Repr, Inhabited

def FileError.message : FileError → String
  | .notFound => "No such file or directory (os error 2)"
  | .notADirectory => "Not a directory (os error 20)"
  | .isADirectory => "Is a directory (os error 21)"
  | .alreadyExists => "File exists (os error 17)"
  | .nameTooLong => "File name too long (os error 36)"
  | .nulInName => "file name contained an unexpected NUL byte"
  | .invalidText => "stream did not contain valid UTF-8"

/-- A tree with the location from which relative paths start. -/
structure Place where
  tree : FileTree
  working : List String := []
deriving Inhabited

namespace Place

def start (place : Place) (path : String) : List String :=
  if Path.isAbsolute path then [] else place.working

/-- What every path must satisfy, whatever it leads to. -/
def checkPath (path : String) : Except FileError Unit :=
  if path.toList.contains '\x00' then .error .nulInName
  else if path.isEmpty then .error .notFound
  else if 4096 ≤ path.utf8ByteSize then .error .nameTooLong
  else .ok ()

def requireDirectory (tree : FileTree) (location : List String) : Except FileError Unit :=
  match tree.at? location with
  | some (.directory _) => .ok ()
  | some (.file _) => .error .notADirectory
  | none => .error .notFound

/-- Go on by one piece of a path. -/
def step (tree : FileTree) (location : List String) (piece : String) :
    Except FileError (List String) := do
  requireDirectory tree location
  if Path.isIdle piece then return location
  if piece == ".." then return location.dropLast
  if 255 < piece.utf8ByteSize then throw .nameTooLong
  let next := location ++ [piece]
  if (tree.at? next).isNone then throw .notFound
  return next

def locate (place : Place) (path : String) : Except FileError (List String) := do
  checkPath path
  (Path.pieces path).foldlM (step place.tree) (place.start path)

def find (place : Place) (path : String) : Except FileError FileTree := do
  let location ← place.locate path
  match place.tree.at? location with
  | some tree => return tree
  | none => throw .notFound

def hasPath (place : Place) (path : String) : Bool := (place.find path).isOk

/-- The content of a file as text. -/
def decodeText (content : ByteArray) : Except FileError String :=
  match String.fromUTF8? content with
  | some text => .ok text
  | none => .error .invalidText

def readText (place : Place) (path : String) : Except FileError String := do
  match ← place.find path with
  | .directory _ => throw .isADirectory
  | .file content => decodeText content

/-- Go on by one piece and make a directory if nothing is there. -/
def make (state : FileTree × List String) (piece : String) :
    Except FileError (FileTree × List String) :=
  let (tree, location) := state
  match step tree location piece with
  | .ok next => .ok (tree, next)
  | .error .notFound =>
      .ok (tree.put location piece (.directory []), location ++ [piece])
  | .error error => .error error

/-- Make the directory and all that lead to it. A path that ends in a dot leads through
its last name, which must be there already. -/
def createDirectories (place : Place) (path : String) : Except FileError Place := do
  if path.isEmpty then return place
  checkPath path
  let pieces := ((Path.pieces path).reverse.dropWhile (· == "")).reverse
  let idle := (pieces.reverse.takeWhile Path.isIdle).length
  let (made, walked) :=
    if idle = 0 then (pieces, []) else pieces.splitAt (pieces.length - idle - 1)
  let (tree, location) ← made.foldlM make (place.tree, place.start path)
  let location ← walked.foldlM (step tree) location
  match tree.at? location with
  | some (.directory _) => return { place with tree }
  | _ => throw .alreadyExists

/-- Write a file into a directory that is there. -/
def writeText (place : Place) (path text : String) : Except FileError Place := do
  checkPath path
  let pieces := Path.pieces path
  let location ← pieces.dropLast.foldlM (step place.tree) (place.start path)
  requireDirectory place.tree location
  let name := pieces.getLast?.getD ""
  if Path.isIdle name || name == ".." then throw .isADirectory
  if 255 < name.utf8ByteSize then throw .nameTooLong
  match place.tree.at? (location ++ [name]) with
  | some (.directory _) => throw .isADirectory
  | _ => return { place with tree := place.tree.put location name (.file text.toUTF8) }

end Place

end SemanticLayer
