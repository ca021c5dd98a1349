import SemanticLayer.CommandLine.Plan
open SemanticLayer SemanticLayer.CommandLine

/-! The program: it looks at the files that a plan may depend on, and carries the plan out. -/

namespace SemanticLayer.Program

/-- What an entry of a directory holds. Below it only files that may declare something
are read. -/
partial def snapshot (entry : IO.FS.DirEntry) (isRead : Bool) : IO FileTree := do
  if ← entry.path.isDir then
    let entries ← entry.path.readDir
    let children ← entries.toList.mapM fun child => do
      return (child.fileName, ← snapshot child (Source.isYamlLocation [child.fileName]))
    return .directory children
  else if isRead then return .file (← IO.FS.readBinFile entry.path)
  else return .file default

def entryAt (location : List String) (name : String) : IO.FS.DirEntry :=
  { root := "/" ++ "/".intercalate location, fileName := name }

/-- Go on by one piece of a path and add to the tree what is there. -/
def enter (state : FileTree × List String) (piece : String) : IO (FileTree × List String) := do
  let (tree, location) := state
  if Path.isIdle piece then return state
  if piece == ".." then return (tree, location.dropLast)
  let next := location ++ [piece]
  let entry := entryAt location piece
  if (tree.at? next).isSome || !(← entry.path.pathExists) then return (tree, next)
  let found : FileTree := if ← entry.path.isDir then .directory [] else .file default
  return (tree.put location piece found, next)

/-- Add what a path leads to. -/
def look (place : Place) (path : String) : IO Place := do
  let (tree, location) ← (Path.pieces path).foldlM enter (place.tree, place.start path)
  let place := { place with tree }
  match location.getLast?, place.hasPath path with
  | some name, true =>
      let parent := location.dropLast
      let found ← snapshot (entryAt parent name) true
      return { place with tree := tree.put parent name found }
  | _, _ => return place

/-- The working directory with nothing in it. -/
def startingPlace : IO Place := do
  let working := ((Path.pieces (← IO.currentDir).toString).filter fun piece => !Path.isIdle piece)
  let (tree, _) ← working.foldlM enter (.directory [], [])
  return { tree, working }

def readVariables (names : List String) : IO (List (String × String)) := do
  let values ← names.mapM fun name => do
    return (← IO.getEnv name).map fun value => (name, value)
  return values.filterMap id

def lookup (bindings : List (String × String)) : Settings.Environment :=
  fun name => bindings.lookup name

def input : Command → String
  | .generate request => request.input
  | .validate input => input
  | .list input => input

/-- All that a run may depend on. -/
def surroundings (invocation : Invocation) : IO Surroundings := do
  let located ← readVariables Settings.locatingVariables
  let paths := Settings.candidatePaths (lookup located) invocation.config
  let place ← paths.foldlM look (← startingPlace)
  let referenced :=
    match Settings.load place (lookup located) invocation.config with
    | .ok settings => settings.referencedVariables
    | .error _ => []
  let bindings ← readVariables (Settings.locatingVariables ++ referenced)
  return { place := ← look place (input invocation.command), environment := lookup bindings }

def planOf (arguments : List String) : IO Plan := do
  match Request.ofArguments? arguments with
  | some (.invocation invocation) => return .ofInvocation (← surroundings invocation) invocation
  | _ => return .ofArguments ⟨default, fun _ => none⟩ arguments

/-- Why writing failed, in the words that are used for a tree. -/
def reason : IO.Error → String
  | .alreadyExists .. => FileError.alreadyExists.message
  | .noFileOrDirectory .. => FileError.notFound.message
  | error => toString error

def writeAll (directory : String) (files : List (String × String)) : IO Unit := do
  if !directory.isEmpty then IO.FS.createDirAll directory
  for (name, text) in files do
    IO.FS.writeFile (Path.join directory name) text

def carryOut (plan : Plan) : IO Outcome := do
  match plan with
  | .finish outcome => return outcome
  | .write directory files errors =>
      let problem ←
        try
          writeAll directory files
          pure none
        catch error => pure (some (reason error))
      return writeOutcome directory files errors problem

end SemanticLayer.Program

def main (arguments : List String) : IO UInt32 := do
  let outcome ← Program.carryOut (← Program.planOf arguments)
  outcome.output.forM IO.println
  outcome.errors.forM IO.eprintln
  return outcome.code.toUInt32
