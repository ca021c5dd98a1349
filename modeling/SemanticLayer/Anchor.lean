import SemanticLayer.Metric
import SemanticLayer.MetricError
import SemanticLayer.ModelSet
namespace SemanticLayer

/-! The model on which a metric is anchored: an explicit primary entity decides;
without one a ratio follows its denominator, and no other metric is inferred. -/

inductive AnchorSource where
  | explicit | inferredFromDenominator
deriving DecidableEq, Repr, Inhabited

structure Anchor where
  entity : String
  model : SemanticModel
  source : AnchorSource
deriving DecidableEq, Repr, Inhabited

namespace Anchor

/-- The primary entity of the model that declares the denominator. -/
def denominatorEntity (set : ModelSet) (metric denominator : String) :
    Except MetricError String :=
  match set.ownerOfMeasure? denominator with
  | none => .error (.unknownMeasureReference metric denominator)
  | some owner =>
      match owner.primaryEntity? with
      | some primary => .ok primary.name
      | none =>
          .error (.unresolvedPrimaryEntity metric
            ("denominator measure '" ++ denominator ++ "' belongs to model '" ++ owner.name ++
              "', which declares no primary entity"))

/-- The entity that identifies the rows over which `metric` is computed. -/
def resolveEntity (set : ModelSet) (metric : Metric) : Except MetricError (String × AnchorSource) :=
  match metric.primaryEntity, metric.kind with
  | some entity, _ => .ok (entity, .explicit)
  | none, .ratio _ denominator =>
      (denominatorEntity set metric.name denominator).map fun entity =>
        (entity, .inferredFromDenominator)
  | none, kind =>
      .error (.unresolvedPrimaryEntity metric.name
        (kind.type.tag ++ " metrics are never inferred and need an explicit primary entity"))

def resolve (set : ModelSet) (metric : Metric) : Except MetricError Anchor := do
  let (entity, source) ← resolveEntity set metric
  match set.ownerOfEntity? entity with
  | some model => return ⟨entity, model, source⟩
  | none =>
      throw (.unresolvedPrimaryEntity metric.name
        ("no semantic model declares '" ++ entity ++ "' as its primary entity"))

end Anchor

end SemanticLayer
