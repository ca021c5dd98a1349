import Mathlib.Data.List.Dedup
import SemanticLayer.Proofs.Anchor
import SemanticLayer.Proofs.Generation.Failure
import SemanticLayer.Proofs.Generation.MetricFields
import SemanticLayer.Proofs.MetricError
import SemanticLayer.Proofs.ModelSet.Ownership
import SemanticLayer.Proofs.Order.Sorting
namespace SemanticLayer

/-! Where every metric ends up.

Each name is anchored once or reported once, and each anchored metric is one field of one view. -/

open SemanticLayer.Order LookML

namespace Generation

variable {set : ModelSet} {options : Options}

theorem distinctMetrics_ascending (metrics : List Metric) :
    ((distinctMetrics (.ofMetrics metrics)).map Metric.name).Pairwise (· < ·) :=
  sortedOn_ascending (MetricCatalog.names_nodup metrics)

theorem distinctMetrics_perm (metrics : List Metric) :
    ((distinctMetrics (.ofMetrics metrics)).map Metric.name).Perm (metrics.map Metric.name).dedup := by
  have sorted := (sortedOn_perm Metric.name (MetricCatalog.ofMetrics metrics).metrics).map Metric.name
  refine sorted.trans ((List.perm_ext_iff_of_nodup (MetricCatalog.names_nodup metrics)
    (List.nodup_dedup _)).mpr fun name => ?_)
  rw [MetricCatalog.mem_names_iff, List.mem_dedup]

variable {catalog : MetricCatalog}

theorem name_of_resolve {metric : Metric} {resolved : ResolvedMetric}
    (succeeded : ResolvedMetric.resolve set catalog options metric = .ok resolved) :
    resolved.metric.name = metric.name :=
  congrArg Metric.name (ResolvedMetric.resolve_eq_ok_iff.mp succeeded).1

theorem resolvedMetrics_sublist (set : ModelSet) (catalog : MetricCatalog) (options : Options) :
    ((resolvedMetrics set catalog options).map fun resolved => resolved.metric.name).Sublist
      ((distinctMetrics catalog).map Metric.name) := by
  refine Attempt.picked_sublist (fun metric resolved picked => ?_) _
  cases outcome : ResolvedMetric.resolve set catalog options metric with
  | error reason => simp [outcome, Except.toOption] at picked
  | ok value =>
      rw [outcome] at picked
      cases picked
      exact name_of_resolve outcome

theorem failures_sublist (set : ModelSet) (catalog : MetricCatalog) (options : Options) :
    ((failures set catalog options).map MetricError.metric).Sublist
      ((distinctMetrics catalog).map Metric.name) := by
  rw [failures_eq]
  refine Attempt.picked_sublist (fun metric reason picked => ?_) _
  exact (ResolvedMetric.concerns_of_resolve_error (Attempt.error?_eq_some_iff.mp picked)).metric

theorem resolved_or_failed (set : ModelSet) (catalog : MetricCatalog) (options : Options) :
    ((resolvedMetrics set catalog options).map (fun resolved => resolved.metric.name) ++
        (failures set catalog options).map MetricError.metric).Perm
      ((distinctMetrics catalog).map Metric.name) := by
  rw [failures_eq]
  exact Attempt.outcomes_perm (fun _ _ succeeded => name_of_resolve succeeded)
    (fun _ _ failed => (ResolvedMetric.concerns_of_resolve_error failed).metric) _

theorem concerns_of_mem_failures {reason : MetricError}
    (member : reason ∈ failures set catalog options) :
    ∃ metric ∈ catalog.metrics, reason.Concerns set metric.name := by
  rw [failures_eq] at member
  obtain ⟨_, outcomeMember, failed⟩ := List.mem_filterMap.mp member
  obtain ⟨metric, metricMember, rfl⟩ := List.mem_map.mp outcomeMember
  have own := (sortedOn_perm Metric.name catalog.metrics).mem_iff.mp metricMember
  exact ⟨metric, own, ResolvedMetric.concerns_of_resolve_error (Attempt.error?_eq_some_iff.mp failed)⟩

/-- Every resolved metric is a field in the view of its anchor, and in no other view. -/
theorem fields_perm {models : List SemanticModel} (accepted : ModelSet.ofModels models = .ok set)
    {resolved : List ResolvedMetric}
    (anchored : ∀ metric ∈ resolved, metric.anchor.model ∈ models) :
    ((set.models.map (view options resolved)).flatMap fun view =>
        view.metrics.map fun field => (view.model, field.metric)).Perm
      (resolved.map fun metric => (metric.anchor.model.name, metric.metric.name)) := by
  have covered : ∀ metric ∈ resolved, metric.anchor.model.name ∈ set.models.map SemanticModel.name :=
    fun metric member =>
      List.mem_map_of_mem ((ModelSet.mem_models_iff accepted).mpr (anchored metric member))
  have groups := (groups_perm (ModelSet.names_nodup accepted) covered).map fun metric : ResolvedMetric =>
    (metric.anchor.model.name, metric.metric.name)
  refine List.Perm.trans (List.Perm.of_eq ?_) groups
  rw [List.flatMap_map, List.map_flatMap, List.flatMap_map]
  refine List.flatMap_congr fun model _ => ?_
  have fields : ((view options resolved model).metrics.map MetricField.metric).map (Prod.mk model.name) =
      ((resolved.filter (ResolvedMetric.isAnchoredOn model.name)).map fun metric =>
        metric.metric.name).map (Prod.mk model.name) := by
    rw [metric_names_view]
  rw [List.map_map, List.map_map] at fields
  rw [model_view]
  refine fields.trans (List.map_congr_left fun metric member => ?_)
  rw [← beq_iff_eq.mp (List.mem_filter.mp member).2]
  rfl

end Generation

open Generation

/-- What is reported of metrics that were not rejected concerns the project. -/
theorem diagnostics_concern_project {project : Project} {options : Options} {set : ModelSet}
    (accepted : ModelSet.ofModels project.models = .ok set) {output : Output}
    (generated : generate project options = .ok output) {reason : MetricError}
    (reported : reason ∈ output.diagnostics) :
    reason ∈ project.rejected ∨ ∃ metric ∈ project.metrics, reason.Concerns set metric.name := by
  obtain ⟨mode, maxJoinHops, naming, schema, explores⟩ := options
  let others : Options := { maxJoinHops, naming, schema, explores }
  cases mode with
  | lenient =>
      have made := Except.ok.inj (generated.symm.trans (generate_lenient others accepted))
      rw [made] at reported
      refine (List.mem_append.mp reported).imp_right fun failed => ?_
      obtain ⟨metric, member, concerns⟩ := concerns_of_mem_failures failed
      exact ⟨metric, MetricCatalog.declared_of_mem member, concerns⟩
  | strict =>
      -- A strict run that ends with an output reports nothing.
      have made := generated.symm.trans (generate_strict others accepted)
      split at made
      · rw [Except.ok.inj made] at reported
        cases reported
      · cases made

/-- A lenient run reports the rejected metrics and then one error for every metric that fails,
in ascending order of the names. The other metrics are anchored: every name is on one side and
none is on both. Each anchored metric is one field, in the view of the model on which it is
anchored, and the fields of a view ascend by the names of their metrics. -/
theorem every_metric_anchored_or_reported {project : Project} {options : Options} {output : Output}
    (generated : generate project { options with mode := .lenient } = .ok output) :
    ∃ failed, output.diagnostics = project.rejected ++ failed ∧
      (failed.map MetricError.metric).Pairwise (· < ·) ∧
      (output.anchors.map MetricAnchor.metric).Pairwise (· < ·) ∧
      (output.anchors.map MetricAnchor.metric ++ failed.map MetricError.metric).Perm
        (project.metrics.map Metric.name).dedup ∧
      (output.views.map View.model).Nodup ∧
      (output.views.flatMap fun view =>
          view.metrics.map fun field => (view.model, field.metric)).Perm
        (output.anchors.map fun anchor => (anchor.model, anchor.metric)) ∧
      ∀ view ∈ output.views, (view.metrics.map MetricField.metric).Pairwise (· < ·) := by
  cases accepted : ModelSet.ofModels project.models with
  | error conflict =>
      rw [generate_of_conflict _ accepted] at generated
      cases generated
  | ok set =>
      rw [generate_lenient options accepted, Except.ok.injEq] at generated
      subst generated
      have ascending := distinctMetrics_ascending project.metrics
      have resolvedAscending := ascending.sublist
        (resolvedMetrics_sublist set (.ofMetrics project.metrics) options)
      have anchors : (resolvedMetrics set (.ofMetrics project.metrics) options).map
            (MetricAnchor.metric ∘ ResolvedMetric.metricAnchor) =
          (resolvedMetrics set (.ofMetrics project.metrics) options).map fun resolved =>
            resolved.metric.name := rfl
      refine ⟨failures set (.ofMetrics project.metrics) options, rfl,
        ascending.sublist (failures_sublist set _ options), ?_, ?_, ?_, ?_, ?_⟩
      · rw [assemble, List.map_map, anchors]
        exact resolvedAscending
      · rw [assemble, List.map_map, anchors]
        exact (resolved_or_failed set _ options).trans (distinctMetrics_perm project.metrics)
      · rw [assemble, models_views]
        exact ModelSet.names_nodup accepted
      · rw [assemble, List.map_map]
        refine fields_perm accepted fun resolved member => ?_
        obtain ⟨_, _, passes⟩ := mem_resolvedMetrics_iff.mp member
        exact ((Anchor.exists_resolve_iff accepted).mp ⟨resolved.anchor, passes.anchored, rfl⟩).1
      · intro view viewMember
        obtain ⟨model, _, rfl⟩ := List.mem_map.mp viewMember
        rw [metric_names_view]
        exact resolvedAscending.sublist (List.filter_sublist.map _)

/-- The stock was rejected before the run and the spiral fails in it. -/
theorem shop_accounted :
    ∃ output,
      generate { Project.shop with rejected := [.unsupportedMetricType "stock" "gauge"] }
        { mode := .lenient } = .ok output ∧
      output.diagnostics.map MetricError.metric = ["stock", "spiral"] ∧
      output.anchors.map MetricAnchor.metric = ["density", "score", "spending"] ∧
      (output.views.flatMap fun view =>
        view.metrics.map fun field => (view.model, field.metric)).Perm
          [("customers", "density"), ("orders", "score"), ("customers", "spending")] := by
  obtain ⟨output, generated, made⟩ := Attempt.exists_ok_of_any
    (generate { Project.shop with rejected := [.unsupportedMetricType "stock" "gauge"] }
      { mode := .lenient })
    (fun output => output.diagnostics.map MetricError.metric == ["stock", "spiral"] &&
      output.anchors.map (fun anchor => (anchor.model, anchor.metric)) ==
        [("customers", "density"), ("orders", "score"), ("customers", "spending")])
    (by decide +kernel)
  simp only [Bool.and_eq_true, beq_iff_eq] at made
  obtain ⟨reported, anchored⟩ := made
  have names := congrArg (List.map Prod.snd) anchored
  rw [List.map_map] at names
  obtain ⟨_, _, _, _, _, _, fields, _⟩ :=
    @every_metric_anchored_or_reported _ {} _ generated
  rw [anchored] at fields
  exact ⟨output, generated, reported, names, fields⟩

end SemanticLayer
