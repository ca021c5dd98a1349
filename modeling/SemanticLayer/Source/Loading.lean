import SemanticLayer.FileTree.Place
import SemanticLayer.Order.Sorting
import SemanticLayer.Source.Reading
namespace SemanticLayer

/-! Loading a project from a file or from all files below a directory. -/

namespace Source

def isYamlExtension (extension : String) : Bool := extension == "yml" || extension == "yaml"

def isYamlLocation (location : List String) : Bool :=
  ((location.getLast?.bind Path.nameExtension?).any isYamlExtension)

/-- The files below a directory that declare something, in ascending order of their
locations, name by name. -/
def yamlFiles (tree : FileTree) : List (List String × ByteArray) :=
  Order.sorted (fun first second => !second.1.lex first.1 fun a b => decide (a < b))
    (tree.files.filter fun entry => isYamlLocation entry.1)

def readFile (path : String) (content : ByteArray) : Except LoadError Project := do
  let text ← (Place.decodeText content).mapError fun error => LoadError.unreadable error.message
  Project.ofText path text

def readAll (path : String) (files : List (List String × ByteArray)) :
    Except LoadError Project := do
  let projects ← files.mapM fun (location, content) =>
    readFile (location.foldl Path.join path) content
  return projects.foldl (· ++ ·) {}

end Source

/-- Load what `path` leads to. The first file that cannot be read ends the loading. -/
def Project.load (place : Place) (path : String) : Except LoadError Project :=
  match place.find path with
  | .error _ => .error (.fileNotFound path)
  | .ok (.directory entries) => Source.readAll path (Source.yamlFiles (.directory entries))
  | .ok (.file content) =>
      let extension := (Path.extension? path).getD ""
      if Source.isYamlExtension extension then Source.readFile path content
      else .error (.unsupportedExtension extension)

end SemanticLayer
