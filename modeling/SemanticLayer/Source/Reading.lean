import SemanticLayer.Source.Conversion
import SemanticLayer.Source.Decoding
namespace SemanticLayer

/-! Reading a project out of one text. -/

/-- Why a project cannot be loaded. -/
inductive LoadError where
  | fileNotFound (path : String)
  | unsupportedExtension (extension : String)
  | unreadable (reason : String)
  | yaml (file : String) (problem : Yaml.Problem)
  | record (error : Source.RecordError)
deriving Repr

def LoadError.message : LoadError → String
  | .fileNotFound path => s!"File not found: {path}"
  | .unsupportedExtension extension =>
      s!"Unsupported file extension: {extension}. Supported: .yml, .yaml"
  | .unreadable reason => s!"IO error: {reason}"
  | .yaml file problem => s!"YAML error in {file}: {problem.message}"
  | .record error => error.message

/-- The project that a text declares; a blank text declares nothing. `file` is the name
under which errors speak of the text. -/
def Project.ofText (file text : String) : Except LoadError Project :=
  if text.toList.all Text.isBlank then .ok {}
  else
    match Source.Declarations.ofYaml text with
    | .error problem => .error (.yaml file problem)
    | .ok declarations => declarations.toProject.mapError .record

end SemanticLayer
