import SemanticLayer.JoinGraph
import SemanticLayer.MetricError
import SemanticLayer.Requirement
namespace SemanticLayer

/-! Whether the measures of a metric can be reached from its anchor, and what has to
be exposed for them. -/

open SemanticLayer.Order

/-- The first measure, in ascending order, that no model declares or that the graph
does not reach is the error. -/
def validateConnectivity (set : ModelSet) (graph : JoinGraph) (metric anchorModel : String) :
    List String → Except MetricError Unit
  | [] => .ok ()
  | measure :: rest =>
      match set.ownerOfMeasure? measure with
      | none => .error (.unknownMeasureReference metric measure)
      | some owner =>
          if graph.reaches owner.name then validateConnectivity set graph metric anchorModel rest
          else .error (.unreachableMeasure metric measure owner.name anchorModel)

/-- The measures by owner, without those of the anchor itself. -/
def requiredMeasures (set : ModelSet) (anchorModel : String) (measures : SortedSet String) :
    Requirement :=
  measures.items.foldl
    (fun requirement measure =>
      match set.ownerOfMeasure? measure with
      | none => requirement
      | some owner => requirement.require owner.name measure)
    (Requirement.empty anchorModel)

end SemanticLayer
