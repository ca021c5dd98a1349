namespace SemanticLayer

/-! What can be wrong with one metric. -/

inductive MetricError where
  | unresolvedPrimaryEntity (metric reason : String)
  | unreachableMeasure (metric measure model anchorModel : String)
  | unknownMeasureReference (metric measure : String)
  | unsupportedMetricType (metric typeTag : String)
  | unknownMetricReference (metric reference : String)
  | circularMetricReference (metric : String) (cycle : List String)
deriving DecidableEq, Repr, Inhabited

namespace MetricError

/-- The name of the kind of error, as reports show it. -/
def kind : MetricError → String
  | .unresolvedPrimaryEntity .. => "unresolved_primary_entity"
  | .unreachableMeasure .. => "unreachable_measure"
  | .unknownMeasureReference .. => "unknown_measure_reference"
  | .unsupportedMetricType .. => "unsupported_metric_type"
  | .unknownMetricReference .. => "unknown_metric_reference"
  | .circularMetricReference .. => "circular_metric_reference"

/-- The metric that the error is about. -/
def metric : MetricError → String
  | .unresolvedPrimaryEntity metric _ => metric
  | .unreachableMeasure metric .. => metric
  | .unknownMeasureReference metric _ => metric
  | .unsupportedMetricType metric _ => metric
  | .unknownMetricReference metric _ => metric
  | .circularMetricReference metric _ => metric

/-- The semantic models that the error names. -/
def models : MetricError → List String
  | .unreachableMeasure _ _ model anchorModel => [model, anchorModel]
  | _ => []

/-- One sentence on what is wrong and one on what to do about it. -/
def message : MetricError → String
  | .unresolvedPrimaryEntity metric reason =>
      "Metric '" ++ metric ++ "' has no resolvable primary entity: " ++ reason ++
        ". Add `meta: \x7bprimary_entity: <entity>\x7d` to the metric definition."
  | .unreachableMeasure metric measure model anchorModel =>
      "Metric '" ++ metric ++ "' requires measure '" ++ measure ++ "' from model '" ++ model ++
        "', which is not reachable from anchor model '" ++ anchorModel ++
        "'. Either change the metric's primary entity to one whose model can reach '" ++ model ++
        "', or add a foreign entity that joins '" ++ anchorModel ++ "' to '" ++ model ++ "'."
  | .unknownMeasureReference metric measure =>
      "Metric '" ++ metric ++ "' references measure '" ++ measure ++
        "', which no semantic model defines. Fix the measure name or add it to a semantic model."
  | .unsupportedMetricType metric typeTag =>
      "Metric '" ++ metric ++ "' has unsupported type '" ++ typeTag ++
        "'. Use one of: simple, ratio, derived, conversion."
  | .unknownMetricReference metric reference =>
      "Metric '" ++ metric ++ "' references metric '" ++ reference ++
        "', which is not defined. Fix the reference or define the metric."
  | .circularMetricReference metric cycle =>
      "Metric '" ++ metric ++ "' is part of a reference cycle: " ++ " -> ".intercalate cycle ++
        ". Break the cycle."

end MetricError

end SemanticLayer
