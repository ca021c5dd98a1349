import SemanticLayer.Generation
namespace SemanticLayer.CommandLine

/-! The lines that show what a project declares and where its metrics are anchored. -/

def modelLine (model : SemanticModel) : String :=
  let primary := (model.primaryEntity?.map Entity.name).getD "-"
  s!"  - {model.name} (primary: {primary}, measures: {model.measures.length})"

def modelLines (project : Project) : List String :=
  if project.models.isEmpty then ["No semantic models defined."]
  else "Semantic models:" :: project.models.map modelLine ++ [""]

def anchorText (anchor : MetricAnchor) : String :=
  let inferred := if anchor.inferred then ", inferred" else ""
  s!"{anchor.model} ({anchor.entity}{inferred})"

def metricLine (output : Output) (metric : Metric) : String :=
  let anchored := ((output.anchor? metric.name).map anchorText).getD "unresolved"
  s!"  - {metric.name} [{metric.type.tag}] → {anchored}"

def metricLines (project : Project) (output : Output) : List String :=
  if project.metrics.isEmpty then ["No metrics defined."]
  else "Metrics:" :: project.metrics.map (metricLine output)

def listing (input : String) (project : Project) (output : Output) : List String :=
  [s!"Input: {input}", ""] ++ modelLines project ++ metricLines project output

def diagnosticLine (error : MetricError) : String := s!"[{error.kind}] {error.message}"

end SemanticLayer.CommandLine
