import SemanticLayer.Proofs.Generation.Failure
import SemanticLayer.Proofs.Generation.Growth
import SemanticLayer.Proofs.MetricCatalog.Extension
namespace SemanticLayer

/-! Projects to which metrics are added.

New names may stand anywhere and refer to old metrics, and old metrics that failed may refer to
them. A metric that passed has no reference without a definition, so it is resolved as before. -/

open SemanticLayer.Order LookML Generation

variable {project : Project} {options : Options} {output : Output} {set : ModelSet}
  {metrics more : List Metric}

theorem ResolvedMetric.Passes.of_extendedBy {catalog other : MetricCatalog}
    (extended : catalog.ExtendedBy other) {resolved : ResolvedMetric} {measures : SortedSet String}
    (passes : Passes set catalog options resolved measures) :
    Passes set other options resolved measures :=
  ⟨passes.anchored, MetricCatalog.fold_eq_ok_of_extendedBy extended passes.extracted,
    passes.connected, MetricCatalog.fold_eq_ok_of_extendedBy extended passes.composed,
    passes.required⟩

theorem Generation.resolvedMetrics_sublist_of_enlarges
    (enlarges : MetricCatalog.Enlarges metrics more) :
    (resolvedMetrics set (.ofMetrics metrics) options).Sublist
      (resolvedMetrics set (.ofMetrics more) options) := by
  refine sublist_of_subset_of_ascending (fun resolved => resolved.metric.name) ?_
    (resolvedMetrics_ascending set metrics options) (resolvedMetrics_ascending set more options)
  intro resolved member
  obtain ⟨inCatalog, measures, passes⟩ := mem_resolvedMetrics_iff.mp member
  exact mem_resolvedMetrics_iff.mpr
    ⟨enlarges.extendedBy.mem inCatalog, measures, passes.of_extendedBy enlarges.extendedBy⟩

/-- Adding metrics of new names breaks none of the metrics that passed before: each keeps its
anchor and its field, which may be renamed at most, and the explores have the same joins, in which
at least the same fields are exposed. -/
theorem added_metrics_break_nothing (enlarges : MetricCatalog.Enlarges project.metrics metrics)
    (generated : generate project { options with mode := .lenient } = .ok output) :
    ∃ larger, generate { project with metrics } { options with mode := .lenient } = .ok larger ∧
      output.anchors.Sublist larger.anchors ∧
      (∀ anchor ∈ output.anchors, ∃ field name,
        output.fieldsOf anchor = [field] ∧ larger.fieldsOf anchor = [{ field with name }]) ∧
      List.Forall₂ Explore.Restricts output.explores larger.explores := by
  obtain ⟨set, accepted, _⟩ := generate_eq_ok generated
  have otherAccepted : ModelSet.ofModels { project with metrics }.models = .ok set := accepted
  rw [generate_lenient options accepted, Except.ok.injEq] at generated
  subst generated
  have kept : (resolvedMetrics set (.ofMetrics project.metrics) options).Sublist
      (resolvedMetrics set (.ofMetrics metrics) options) :=
    resolvedMetrics_sublist_of_enlarges enlarges
  refine ⟨_, generate_lenient options otherAccepted, kept.map _, ?_, ?_⟩
  · intro anchor member
    obtain ⟨resolved, resolvedMember, rfl⟩ := List.mem_map.mp member
    exact same_field accepted otherAccepted resolvedMember (kept.subset resolvedMember) _ _
  · simp only [assemble, List.forall₂_map_left_iff, List.forall₂_map_right_iff]
    exact List.forall₂_same.mpr fun model _ => explore_restricts kept.subset model

/-- Without the density the score fails. Adding it in front repairs the score and leaves the
spending as it is. -/
theorem shop_density_added :
    MetricCatalog.Enlarges
      (Project.shop.metrics.filter fun metric => metric.name != "density") Project.shop.metrics ∧
    ∃ output,
      generate { Project.shop with
        metrics := Project.shop.metrics.filter fun metric => metric.name != "density" } {} =
          .ok output ∧
      output.anchors.map MetricAnchor.metric = ["spending"] ∧
      ∃ larger, generate Project.shop {} = .ok larger ∧
        larger.anchors.map MetricAnchor.metric = ["density", "score", "spending"] ∧
        output.anchors.Sublist larger.anchors ∧
        (∀ anchor ∈ output.anchors, ∃ field name,
          output.fieldsOf anchor = [field] ∧ larger.fieldsOf anchor = [{ field with name }]) ∧
        List.Forall₂ Explore.Restricts output.explores larger.explores := by
  have enlarges : MetricCatalog.Enlarges
      (Project.shop.metrics.filter fun metric => metric.name != "density")
      Project.shop.metrics := by
    unfold MetricCatalog.Enlarges
    decide
  obtain ⟨output, generated, listed⟩ := Attempt.exists_ok_of_any
    (generate { Project.shop with
      metrics := Project.shop.metrics.filter fun metric => metric.name != "density" } {})
    (fun output => output.anchors.map MetricAnchor.metric == ["spending"])
    (by decide +kernel)
  obtain ⟨larger, whole, largerListed⟩ := Attempt.exists_ok_of_any (generate Project.shop {})
    (fun output => output.anchors.map MetricAnchor.metric == ["density", "score", "spending"])
    (by decide +kernel)
  obtain ⟨other, made, kept⟩ := @added_metrics_break_nothing _ {} _ _ enlarges generated
  have same : other = larger := Except.ok.inj (made.symm.trans whole)
  subst same
  exact ⟨enlarges, output, generated, beq_iff_eq.mp listed, other, whole,
    beq_iff_eq.mp largerListed, kept⟩

end SemanticLayer
