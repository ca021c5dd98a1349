import SemanticLayer.MetricCatalog
import SemanticLayer.Order.SortedSet
namespace SemanticLayer.MetricCatalog

/-! The measures that a metric is computed from, directly or through the metrics that
it refers to. -/

open SemanticLayer.Order

/-- Whether a measure exists plays no part here. -/
def measureAlgebra : MetricAlgebra (SortedSet String) where
  simple measure := .ok (SortedSet.ofList [measure])
  ratio numerator denominator := .ok (SortedSet.ofList [numerator, denominator])
  conversion conversion :=
    .ok (SortedSet.ofList [conversion.baseMeasure, conversion.conversionMeasure])
  derived _ operands := (operands.map Operand.value).foldl SortedSet.union SortedSet.empty

def measures (catalog : MetricCatalog) (metric : Metric) : Except MetricError (SortedSet String) :=
  catalog.fold measureAlgebra metric

end SemanticLayer.MetricCatalog
