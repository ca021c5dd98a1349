import SemanticLayer.Generation
import SemanticLayer.Settings.Template
import SemanticLayer.Toml.Value
namespace SemanticLayer

/-! Settings of the program: how models and metrics become views and explores, and where
the files go. -/

structure Settings where
  mode : Mode := .lenient
  maxJoinHops : Option Nat := none
  viewPrefix : String := ""
  explorePrefix : String := ""
  /-- Stands in front of every table name; may refer to variables of the environment. -/
  schema : Option String := none
  explores : Option (List String) := none
  /-- Where files are written; may refer to variables of the environment. -/
  directory : String := "lookml"
deriving DecidableEq, Repr, Inhabited

inductive SettingsError where
  | fileNotFound (path : String)
  | unreadable (reason : String)
  | unparsable (problem : Toml.Problem)
  | missingVariable (name : String)
  | noJoinHops
  | blankDirectory
deriving Repr

def SettingsError.message : SettingsError → String
  | .fileNotFound path => s!"Config file not found: {path}"
  | .unreadable reason => s!"Failed to read config file: {reason}"
  | .unparsable problem => s!"Failed to parse config file: {problem.message}"
  | .missingVariable name => s!"Missing environment variable: {name}"
  | .noJoinHops => "Invalid configuration: generation.max_join_hops must be at least 1"
  | .blankDirectory => "Invalid configuration: output.directory must not be empty"

namespace Settings

def validate (settings : Settings) : Except SettingsError Unit := do
  if settings.maxJoinHops = some 0 then throw .noJoinHops
  if settings.directory.toList.all Text.isBlank then throw .blankDirectory

def resolve (environment : Environment) (text : String) : Except SettingsError String :=
  (expand environment text).mapError .missingVariable

def resolvedDirectory (settings : Settings) (environment : Environment) :
    Except SettingsError String :=
  resolve environment settings.directory

def options (settings : Settings) (environment : Environment) : Except SettingsError Options := do
  let schema ← settings.schema.mapM (resolve environment)
  return {
    mode := settings.mode
    maxJoinHops := settings.maxJoinHops
    naming := { viewPrefix := settings.viewPrefix, explorePrefix := settings.explorePrefix }
    schema
    explores := settings.explores }

/-- The variables that the settings refer to. -/
def referencedVariables (settings : Settings) : List String :=
  (settings.schema.toList ++ [settings.directory]).flatMap fun text =>
    (parts text.toList).filterMap Part.variable?

end Settings

end SemanticLayer
