namespace SemanticLayer.Path

/-! The text of paths. -/

/-- What stands between the slashes; an absolute path starts with an empty piece. -/
def pieces (path : String) : List String := path.splitToList (· == '/')

def isAbsolute (path : String) : Bool := path.startsWith "/"

/-- The path that leads to `name` from `path`; an absolute name stands for itself. -/
def join (path name : String) : String :=
  if isAbsolute name || path.isEmpty then name
  else if path.endsWith "/" then path ++ name
  else path ++ "/" ++ name

/-- Pieces that leave the directory as it is. -/
def isIdle (piece : String) : Bool := piece == "" || piece == "."

/-- The last piece, if it is the name of a file. -/
def fileName? (path : String) : Option String :=
  match (pieces path).reverse.find? fun piece => !isIdle piece with
  | some ".." => none
  | name => name

/-- What follows the last dot of a name, unless nothing stands in front of that dot. -/
def nameExtension? (name : String) : Option String :=
  let reversed := name.toList.reverse
  let ending := reversed.takeWhile (· != '.')
  match reversed.drop ending.length with
  | '.' :: _ :: _ => some (String.ofList ending.reverse)
  | _ => none

def extension? (path : String) : Option String := (fileName? path).bind nameExtension?

end SemanticLayer.Path
