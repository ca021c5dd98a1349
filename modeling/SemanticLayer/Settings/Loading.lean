import SemanticLayer.FileTree.Place
import SemanticLayer.Settings.Decoding
namespace SemanticLayer.Settings

/-! Where settings are found. -/

def ofFile (place : Place) (path : String) : Except SettingsError Settings :=
  if place.hasPath path then do
    let text ← (place.readText path).mapError fun error => .unreadable error.message
    ofToml text
  else .error (.fileNotFound path)

/-- The directory in which a user keeps settings. -/
def userDirectory? (environment : Environment) : Option String :=
  match (environment "XDG_CONFIG_HOME").filter Path.isAbsolute with
  | some path => some path
  | none =>
      ((environment "HOME").filter fun home => !home.isEmpty).map fun home =>
        Path.join home ".config"

/-- The files in which settings are looked for when none is named. -/
def standardPaths (environment : Environment) : List String :=
  "lookgen.toml" ::
    (userDirectory? environment).toList.map fun path =>
      Path.join (Path.join path "lookgen") "config.toml"

/-- All files that settings may come from, and the variables that decide about them. -/
def candidatePaths (environment : Environment) (named : Option String) : List String :=
  named.toList ++ (environment "LOOKGEN_CONFIG").toList ++ standardPaths environment

def locatingVariables : List String := ["LOOKGEN_CONFIG", "XDG_CONFIG_HOME", "HOME"]

/-- A file named by the caller, else by the environment, must be there; of the standard
ones the first that is there counts, and without any the defaults hold. -/
def load (place : Place) (environment : Environment) (named : Option String) :
    Except SettingsError Settings :=
  match named <|> environment "LOOKGEN_CONFIG" with
  | some path => ofFile place path
  | none =>
      match (standardPaths environment).find? place.hasPath with
      | some path => ofFile place path
      | none => .ok {}

end SemanticLayer.Settings
