import SemanticLayer.Generation
namespace SemanticLayer

/-! The whole output of a run as one JSON record. -/

/-- The kind of error first, then what it says. -/
def MetricError.json (error : MetricError) : Json :=
  let details : List (String × Json) :=
    match error with
    | .unresolvedPrimaryEntity metric reason =>
        [("metric", .string metric), ("reason", .string reason)]
    | .unreachableMeasure metric measure model anchorModel =>
        [("metric", .string metric), ("measure", .string measure), ("model", .string model),
          ("anchor_model", .string anchorModel)]
    | .unknownMeasureReference metric measure =>
        [("metric", .string metric), ("measure", .string measure)]
    | .unsupportedMetricType metric typeTag =>
        [("metric", .string metric), ("type_tag", .string typeTag)]
    | .unknownMetricReference metric reference =>
        [("metric", .string metric), ("reference", .string reference)]
    | .circularMetricReference metric cycle =>
        [("metric", .string metric), ("cycle", Json.ofStrings cycle)]
  .object (("kind", .string error.kind) :: details)

def MetricAnchor.json (anchor : MetricAnchor) : Json :=
  .object [
    ("metric", .string anchor.metric),
    ("entity", .string anchor.entity),
    ("model", .string anchor.model),
    ("inferred", .bool anchor.inferred)]

def Output.json (output : Output) : Json :=
  .object [
    ("views", .array (output.views.map LookML.View.json)),
    ("explores", .array (output.explores.map LookML.Explore.json)),
    ("anchors", .array (output.anchors.map MetricAnchor.json)),
    ("diagnostics", .array (output.diagnostics.map MetricError.json))]

end SemanticLayer
