import SemanticLayer.Proofs.Generation.Outcome
import SemanticLayer.Proofs.MetricCatalog.Walk
import SemanticLayer.Proofs.ModelSet.Ownership
import SemanticLayer.Proofs.Order.Sorting
namespace SemanticLayer

/-! The order in which models and metrics are declared.

Models and metrics are told apart by their names, so a run goes through both in the order of
the names and finds the same conflict, the same errors and the same output however they are
declared. -/

open SemanticLayer.Order

theorem ModelSet.ofModels_eq_of_perm {first second : List SemanticModel} (same : first.Perm second)
    (distinct : (first.map SemanticModel.name).Nodup) : ofModels first = ofModels second := by
  have otherDistinct : (second.map SemanticModel.name).Nodup :=
    (same.map SemanticModel.name).nodup_iff.mp distinct
  have fresh : ∀ {models : List SemanticModel}, (models.map SemanticModel.name).Nodup →
      ModelConflict.repeatedName? [] models = none :=
    fun names => ModelConflict.repeatedName?_eq_none_iff.mpr ⟨by simp, names⟩
  unfold ofModels
  rw [fresh distinct, fresh otherDistinct, sortedOn_eq_of_perm same distinct]

namespace MetricCatalog

variable {first second : List Metric}

theorem metric?_eq_of_perm (same : first.Perm second) (distinct : (first.map Metric.name).Nodup)
    (name : String) : (ofMetrics first).metric? name = (ofMetrics second).metric? name := by
  rw [metric?_ofMetrics, metric?_ofMetrics]
  exact find?_key_eq_of_perm same distinct

theorem distinctMetrics_eq_of_perm (same : first.Perm second)
    (distinct : (first.map Metric.name).Nodup) :
    Generation.distinctMetrics (ofMetrics first) = Generation.distinctMetrics (ofMetrics second) := by
  have otherDistinct := (same.map Metric.name).nodup_iff.mp distinct
  unfold Generation.distinctMetrics
  rw [ofMetrics_eq_self distinct, ofMetrics_eq_self otherDistinct]
  exact sortedOn_eq_of_perm same distinct

end MetricCatalog

/-- To resolve a metric, the catalog is only asked for metrics by name. -/
theorem ResolvedMetric.resolve_congr {first second : MetricCatalog}
    (agree : ∀ name, first.metric? name = second.metric? name) (set : ModelSet) (options : Options) :
    resolve set first options = resolve set second options := by
  have walks : ∀ {α : Type} (algebra : MetricAlgebra α) (metric : Metric),
      first.fold algebra metric = second.fold algebra metric :=
    fun algebra metric => MetricCatalog.foldFrom_congr agree algebra metric.name [metric.name] metric
  funext metric
  simp only [resolve, MetricCatalog.measures, LookML.compose, walks]

/-- When no name repeats, a project gives the same result in whatever order its models and
metrics are declared: the same error, or the same output and with it the same files and the same
fingerprint. -/
theorem generate_eq_of_perm {project : Project} {models : List SemanticModel}
    {metrics : List Metric} (options : Options) (modelNames : (project.models.map SemanticModel.name).Nodup)
    (metricNames : (project.metrics.map Metric.name).Nodup) (sameModels : project.models.Perm models)
    (sameMetrics : project.metrics.Perm metrics) :
    generate { project with models, metrics } options = generate project options := by
  have sets := ModelSet.ofModels_eq_of_perm sameModels modelNames
  have order := MetricCatalog.distinctMetrics_eq_of_perm sameMetrics metricNames
  have resolution := fun set => ResolvedMetric.resolve_congr
    (MetricCatalog.metric?_eq_of_perm sameMetrics metricNames) set options
  simp only [generate, Generation.run, Generation.firstOfEachName_eq, sets, order, resolution]

theorem shop_reversed :
    (Project.shop.models.map SemanticModel.name).Nodup ∧ (Project.shop.metrics.map Metric.name).Nodup ∧
      generate { Project.shop with
        models := Project.shop.models.reverse
        metrics := Project.shop.metrics.reverse } {} = generate Project.shop {} :=
  ⟨by decide, by decide, generate_eq_of_perm {} (by decide) (by decide)
    (List.reverse_perm _).symm (List.reverse_perm _).symm⟩

end SemanticLayer
