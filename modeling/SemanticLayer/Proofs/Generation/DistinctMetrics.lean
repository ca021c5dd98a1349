import SemanticLayer.Generation
import SemanticLayer.Proofs.MetricCatalog.Definition
import SemanticLayer.Proofs.Order.Repetition
namespace SemanticLayer.Generation

/-! The metrics that a run goes through.

A run sorts all metrics and keeps the first of each name. These are the metrics of the catalog, which
keeps the first of each name as well, without sorting. -/

open SemanticLayer.Order

variable {metrics : List Metric} {metric : Metric}

/-- The metrics of a catalog, in ascending order of the names. -/
def distinctMetrics (catalog : MetricCatalog) : List Metric := sortedOn Metric.name catalog.metrics

theorem firstOfEachName_ascending (metrics : List Metric) :
    ((firstOfEachName metrics).map Metric.name).Pairwise (· < ·) :=
  eraseRepsBy_ascending (sortedOn_pairwise Metric.name metrics)

theorem find?_firstOfEachName (metrics : List Metric) (name : String) :
    ((firstOfEachName metrics).find? fun metric => metric.name == name) =
      metrics.find? fun metric => metric.name == name := by
  rw [firstOfEachName, find?_eraseRepsBy, find?_sortedOn]

theorem firstOfEachName_eq (metrics : List Metric) :
    firstOfEachName metrics = distinctMetrics (.ofMetrics metrics) := by
  apply eq_of_find?_eq_of_ascending (firstOfEachName_ascending metrics)
  · exact sortedOn_ascending (MetricCatalog.names_nodup metrics)
  · intro name
    rw [find?_firstOfEachName, distinctMetrics, find?_sortedOn]
    exact (MetricCatalog.metric?_ofMetrics metrics name).symm

theorem mem_firstOfEachName_iff :
    metric ∈ firstOfEachName metrics ↔
      (MetricCatalog.ofMetrics metrics).metric? metric.name = some metric := by
  rw [firstOfEachName_eq, distinctMetrics, sortedOn, mem_sorted, MetricCatalog.metric?_eq_some_iff,
    and_iff_left rfl]

end SemanticLayer.Generation
