import SemanticLayer.CommandLine.Arguments
import SemanticLayer.CommandLine.Listing
import SemanticLayer.Report
import SemanticLayer.Settings.Loading
import SemanticLayer.Source.Loading
namespace SemanticLayer.CommandLine

/-! What a run of the program comes to. All that is read is read first; files are written
only at the end, and only by a plan that says so. -/

/-- What a finished run leaves behind on its two channels. -/
structure Outcome where
  code : Nat
  output : List String := []
  errors : List String := []
deriving DecidableEq, Repr, Inhabited

inductive Plan where
  | finish (outcome : Outcome)
  /-- Write files into a directory; `errors` is reported whatever becomes of it. -/
  | write (directory : String) (files : List (String × String)) (errors : List String)
deriving DecidableEq, Repr, Inhabited

/-- What a run can see. -/
structure Surroundings where
  place : Place
  environment : Settings.Environment

def failed (line : String) : Outcome := { code := 1, errors := [line] }

/-- The code of a run whose arguments are not allowed. -/
def usageCode : Nat := 2

def usage : String := "Usage: lookgen [OPTIONS] <generate|validate|list> <INPUT>"

def version : String := "lookgen 0.1.0"

abbrev Attempt (α : Type) := Except Outcome α

def loadProject (surroundings : Surroundings) (input : String) : Attempt Project :=
  (Project.load surroundings.place input).mapError fun error =>
    failed s!"Error loading '{input}': {error.message}"

def orConfigurationError (result : Except SettingsError α) : Attempt α :=
  result.mapError fun error => failed s!"Configuration error: {error.message}"

def loadSettings (surroundings : Surroundings) (config : Option String) : Attempt Settings :=
  orConfigurationError (Settings.load surroundings.place surroundings.environment config)

def generateOr (heading : String) (project : Project) (options : Options) : Attempt Output :=
  (SemanticLayer.generate project options).mapError fun error =>
    failed s!"{heading}: {error.message}"

/-- The files as they are shown instead of being written. -/
def shownFiles (files : List (String × String)) : List String :=
  files.flatMap fun (name, text) => [s!"# --- {name} ---", text]

def planGenerate (surroundings : Surroundings) (settings : Settings) (verbose : Bool)
    (request : GenerateRequest) : Attempt Plan := do
  let project ← loadProject surroundings request.input
  let options ← orConfigurationError (settings.options surroundings.environment)
  let options := { options with mode := request.mode.getD options.mode }
  let output ← generateOr "Generation error" project options
  let errors :=
    output.diagnostics.map diagnosticLine ++
      if verbose then [s!"Fingerprint: {output.fingerprint}"] else []
  match request.format with
  | .json => return .finish { code := 0, output := [output.json.indentedText], errors }
  | .lookml =>
      let files := output.files {}
      if request.dryRun then
        return .finish { code := 0, output := shownFiles files, errors }
      match request.output with
      | some directory => return .write directory files errors
      | none =>
          match settings.resolvedDirectory surroundings.environment with
          | .ok directory => return .write directory files errors
          | .error error =>
              throw { code := 1, errors := errors ++ [s!"Configuration error: {error.message}"] }

/-- All problems are collected, whatever the settings say. -/
def planValidate (surroundings : Surroundings) (settings : Settings) (input : String) :
    Attempt Outcome := do
  let project ← loadProject surroundings input
  let options ← orConfigurationError (settings.options surroundings.environment)
  let output ← generateOr "Validation error" project { options with mode := .lenient }
  if output.hasErrors then
    throw {
      code := 1
      errors := output.diagnostics.map diagnosticLine ++
        [s!"{output.diagnostics.length} metric(s) failed validation"] }
  return {
    code := 0
    output := [s!"OK: {project.models.length} models, {output.anchors.length} metrics"] }

def planList (surroundings : Surroundings) (settings : Settings) (input : String) :
    Attempt Outcome := do
  let project ← loadProject surroundings input
  let options ← orConfigurationError (settings.options surroundings.environment)
  let output ← generateOr "Error" project { options with mode := .lenient }
  return { code := 0, output := listing input project output }

def attempt (surroundings : Surroundings) (invocation : Invocation) : Attempt Plan := do
  let settings ← loadSettings surroundings invocation.config
  match invocation.command with
  | .generate request => planGenerate surroundings settings invocation.verbose request
  | .validate input => (planValidate surroundings settings input).map .finish
  | .list input => (planList surroundings settings input).map .finish

def Plan.ofInvocation (surroundings : Surroundings) (invocation : Invocation) : Plan :=
  match attempt surroundings invocation with
  | .ok plan => plan
  | .error outcome => .finish outcome

def Plan.ofArguments (surroundings : Surroundings) (arguments : List String) : Plan :=
  match Request.ofArguments? arguments with
  | none => .finish { code := usageCode, errors := [usage] }
  | some .version => .finish { code := 0, output := [version] }
  | some .help => .finish { code := 0, output := [usage] }
  | some (.invocation invocation) => .ofInvocation surroundings invocation

/-- How a run ends that was to write files, with the reason if it could not. -/
def writeOutcome (directory : String) (files : List (String × String)) (errors : List String)
    (problem : Option String) : Outcome :=
  match problem with
  | none => { code := 0, output := [s!"Wrote {files.length} files to {directory}"], errors }
  | some reason => { code := 1, errors := errors ++ [s!"Error writing to '{directory}': {reason}"] }

/-- Write one file after the other until one fails. -/
def writeFiles (place : Place) (directory : String) :
    List (String × String) → Place × Option FileError
  | [] => (place, none)
  | (name, text) :: rest =>
      match place.writeText (Path.join directory name) text with
      | .ok next => writeFiles next directory rest
      | .error error => (place, some error)

/-- Carry a plan out: how the run ends and what the files are then. -/
def Plan.carryOut (place : Place) : Plan → Outcome × Place
  | .finish outcome => (outcome, place)
  | .write directory files errors =>
      let (after, problem) :=
        match place.createDirectories directory with
        | .ok made => writeFiles made directory files
        | .error error => (place, some error)
      (writeOutcome directory files errors (problem.map FileError.message), after)

def run (surroundings : Surroundings) (arguments : List String) : Outcome × Place :=
  (Plan.ofArguments surroundings arguments).carryOut surroundings.place

end SemanticLayer.CommandLine
