import SemanticLayer.Proofs.Generation.Accounting
import SemanticLayer.Proofs.Generation.DeclarationOrder
namespace SemanticLayer

/-! Names that are defined more than once.

The metrics that are processed, the catalog and the project all go by the definition that is declared
first, so a later one may as well not be there. -/

open SemanticLayer.Order Generation

variable {project : Project} {name : String} {metric : Metric}

/-- A run only depends on which definition is found first under each name. -/
theorem generate_eq_of_find?_eq {metrics : List Metric}
    (same : ∀ name, (metrics.find? fun metric => metric.name == name) = project.metric? name)
    (options : Options) : generate { project with metrics } options = generate project options := by
  have catalogs : ∀ name, (MetricCatalog.ofMetrics metrics).metric? name =
      (MetricCatalog.ofMetrics project.metrics).metric? name := by
    intro name
    rw [MetricCatalog.metric?_ofMetrics, same, MetricCatalog.metric?_ofProject]
  have processed : firstOfEachName metrics = firstOfEachName project.metrics := by
    apply eq_of_find?_eq_of_ascending (firstOfEachName_ascending _) (firstOfEachName_ascending _)
    intro name
    rw [find?_firstOfEachName, find?_firstOfEachName]
    exact same name
  have resolution := fun set => ResolvedMetric.resolve_congr catalogs set options
  simp only [generate, Generation.run, processed, resolution]

theorem Project.metric?_eq_some_iff :
    project.metric? name = some metric ↔ metric.name = name ∧ ∃ earlier later,
      project.metrics = earlier ++ metric :: later ∧ ∀ other ∈ earlier, other.name ≠ name := by
  simp [Project.metric?, List.find?_eq_some_iff_append]

/-- The metrics that are processed ascend by their names and cover every name once; each is the
definition that the catalog has under its name. The catalog has what the project finds, and this is
the first definition in the order of declaration. Without all later definitions of repeated names
the result is the same. -/
theorem first_definition_wins (project : Project) (options : Options) :
    ((firstOfEachName project.metrics).map Metric.name).Pairwise (· < ·) ∧
      ((firstOfEachName project.metrics).map Metric.name).Perm (project.metrics.map Metric.name).dedup ∧
      (∀ metric, metric ∈ firstOfEachName project.metrics ↔
        (MetricCatalog.ofMetrics project.metrics).metric? metric.name = some metric) ∧
      (∀ name, (MetricCatalog.ofMetrics project.metrics).metric? name = project.metric? name) ∧
      (∀ name metric, project.metric? name = some metric ↔ metric.name = name ∧ ∃ earlier later,
        project.metrics = earlier ++ metric :: later ∧ ∀ other ∈ earlier, other.name ≠ name) ∧
      generate { project with metrics := project.metrics.eraseDupsBy (sameKey Metric.name) } options =
        generate project options := by
  refine ⟨firstOfEachName_ascending project.metrics, ?_, fun _ => mem_firstOfEachName_iff,
    MetricCatalog.metric?_ofProject project, fun _ _ => Project.metric?_eq_some_iff, ?_⟩
  · rw [firstOfEachName_eq]
    exact distinctMetrics_perm project.metrics
  · apply generate_eq_of_find?_eq
    intro name
    exact find?_eraseDupsBy Metric.name name project.metrics

end SemanticLayer
