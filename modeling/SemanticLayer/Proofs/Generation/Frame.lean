import SemanticLayer.Proofs.Generation.Failure
import SemanticLayer.Proofs.Generation.Growth
import SemanticLayer.Proofs.MetricCatalog.Extension
namespace SemanticLayer

/-! What one metric changes.

A metric to which no other refers is resolved beside the others. When it fails, it leaves an error
and nothing else; when it passes, it changes the view and the explore of its anchor. -/

open SemanticLayer.Order LookML Generation MetricCatalog

variable {set : ModelSet} {options : Options} {metrics more : List Metric} {metric : Metric}
  {resolved larger : List ResolvedMetric} {added : ResolvedMetric}

namespace Generation

section Inserted

variable (inserted : Inserts metric metrics more) (fresh : metric.name ∉ metrics.map Metric.name)
  (unreferenced : ∀ other ∈ metrics, ∀ input ∈ other.inputs, input.name ≠ metric.name)
include inserted fresh unreferenced

/-- The others have the same outcomes, and the new metric has its outcome between them. -/
theorem outcomes_inserts (set : ModelSet) (options : Options) :
    Inserts (ResolvedMetric.resolve set (.ofMetrics more) options metric)
      ((distinctMetrics (.ofMetrics metrics)).map
        (ResolvedMetric.resolve set (.ofMetrics metrics) options))
      ((distinctMetrics (.ofMetrics more)).map
        (ResolvedMetric.resolve set (.ofMetrics more) options)) := by
  have same : ∀ other ∈ distinctMetrics (.ofMetrics metrics),
      ResolvedMetric.resolve set (.ofMetrics metrics) options other =
        ResolvedMetric.resolve set (.ofMetrics more) options other := by
    intro other member
    have declared := declared_of_mem ((mem_sorted _ _ _).mp member)
    have walks : ∀ {α : Type} (algebra : MetricAlgebra α),
        (ofMetrics more).fold algebra other = (ofMetrics metrics).fold algebra other :=
      fun algebra => fold_eq_of_inserts inserted algebra unreferenced declared
    simp only [ResolvedMetric.resolve, MetricCatalog.measures, compose, walks]
  rw [List.map_congr_left same]
  exact (distinctMetrics_inserts inserted fresh).map _

theorem resolvedMetrics_of_fails {reason : MetricError}
    (failed : ResolvedMetric.resolve set (.ofMetrics more) options metric = .error reason) :
    resolvedMetrics set (.ofMetrics more) options = resolvedMetrics set (.ofMetrics metrics) options ∧
      Inserts reason (failures set (.ofMetrics metrics) options)
        (failures set (.ofMetrics more) options) := by
  have outcomes := outcomes_inserts inserted fresh unreferenced set options
  rw [failures_eq, failures_eq]
  rw [failed] at outcomes
  exact ⟨outcomes.filterMap_none rfl, outcomes.filterMap_some rfl⟩

theorem resolvedMetrics_of_passes
    (passed : ResolvedMetric.resolve set (.ofMetrics more) options metric = .ok added) :
    Inserts added (resolvedMetrics set (.ofMetrics metrics) options)
        (resolvedMetrics set (.ofMetrics more) options) ∧
      failures set (.ofMetrics more) options = failures set (.ofMetrics metrics) options := by
  have outcomes := outcomes_inserts inserted fresh unreferenced set options
  rw [failures_eq, failures_eq]
  rw [passed] at outcomes
  exact ⟨outcomes.filterMap_some rfl, outcomes.filterMap_none rfl⟩

end Inserted

section Elsewhere

variable (inserted : Inserts added resolved larger) {model : SemanticModel}
include inserted

theorem filter_anchored_elsewhere {name : String} (elsewhere : name ≠ added.anchor.model.name) :
    larger.filter (ResolvedMetric.isAnchoredOn name) =
      resolved.filter (ResolvedMetric.isAnchoredOn name) :=
  inserted.filter_eq (beq_eq_false_iff_ne.mpr elsewhere.symm)

theorem view_elsewhere (elsewhere : model.name ≠ added.anchor.model.name) :
    view options larger model = view options resolved model := by
  unfold view
  rw [filter_anchored_elsewhere inserted elsewhere]

theorem explore_elsewhere (elsewhere : model.name ≠ added.anchor.model.name) :
    explore set options larger model = explore set options resolved model := by
  unfold explore requirement
  rw [filter_anchored_elsewhere inserted elsewhere]

end Elsewhere

/-- Anchors are those of declared metrics. -/
theorem anchor_ne_of_fresh {name : String} (fresh : name ∉ metrics.map Metric.name) :
    ∀ anchor ∈ (resolvedMetrics set (.ofMetrics metrics) options).map ResolvedMetric.metricAnchor,
      anchor.metric ≠ name := by
  intro anchor member named
  obtain ⟨resolved, resolvedMember, rfl⟩ := List.mem_map.mp member
  have declared := declared_of_mem (mem_resolvedMetrics_iff.mp resolvedMember).1
  exact fresh (named ▸ List.mem_map_of_mem declared)

theorem view_eq_with_metrics (resolved larger : List ResolvedMetric) (model : SemanticModel) :
    view options resolved model =
      { view options larger model with metrics := (view options resolved model).metrics } := by
  obtain ⟨fields, whole, _⟩ := exists_view_eq options resolved model
  obtain ⟨otherFields, otherWhole, _⟩ := exists_view_eq options larger model
  rw [whole, otherWhole]

end Generation

/-- A metric to which no other refers touches only its anchor. When it fails, it adds its error to
the report. When it passes, it adds its anchor, changes the metrics in the view of the model on
which it is anchored and the fields exposed by the joins of its explore; all other views and
explores stay as they are. -/
theorem metric_touches_only_its_anchor {project : Project} {output : Output}
    (inserted : Inserts metric project.metrics metrics)
    (fresh : metric.name ∉ project.metrics.map Metric.name)
    (unreferenced : ∀ other ∈ project.metrics, ∀ input ∈ other.inputs, input.name ≠ metric.name)
    (generated : generate project { options with mode := .lenient } = .ok output) :
    ∃ larger, generate { project with metrics } { options with mode := .lenient } = .ok larger ∧
      ((∀ anchor ∈ larger.anchors, anchor.metric ≠ metric.name) →
        larger.views = output.views ∧ larger.explores = output.explores ∧
        larger.anchors = output.anchors ∧
        ∃ reason, reason.metric = metric.name ∧
          Inserts reason output.diagnostics larger.diagnostics) ∧
      ∀ anchor ∈ larger.anchors, anchor.metric = metric.name →
        larger.diagnostics = output.diagnostics ∧
        Inserts anchor output.anchors larger.anchors ∧
        List.Forall₂ (fun view other => view = { other with metrics := view.metrics } ∧
          (view.model ≠ anchor.model → view = other)) output.views larger.views ∧
        List.Forall₂ (fun explore other => explore.Restricts other ∧
          (explore.baseView ≠ options.naming.view anchor.model → explore = other))
          output.explores larger.explores := by
  obtain ⟨set, accepted, _⟩ := generate_eq_ok generated
  have otherAccepted : ModelSet.ofModels { project with metrics }.models = .ok set := accepted
  rw [generate_lenient options accepted, Except.ok.injEq] at generated
  subst generated
  refine ⟨_, generate_lenient options otherAccepted, ?_⟩
  cases outcome : ResolvedMetric.resolve set (.ofMetrics metrics) options metric with
  | error reason =>
      obtain ⟨same, reported⟩ := resolvedMetrics_of_fails inserted fresh unreferenced outcome
      simp only [assemble, same]
      refine ⟨fun _ => ⟨trivial, trivial, trivial, reason,
        (ResolvedMetric.concerns_of_resolve_error outcome).metric, reported.append_left project.rejected⟩, ?_⟩
      exact fun anchor member named => absurd named (anchor_ne_of_fresh fresh anchor member)
  | ok added =>
      obtain ⟨inserts, same⟩ := resolvedMetrics_of_passes inserted fresh unreferenced outcome
      have named : added.metricAnchor.metric = metric.name := name_of_resolve outcome
      have anchors := inserts.map ResolvedMetric.metricAnchor
      refine ⟨fun absent => ?_, ?_⟩
      · exact absurd named (absent _ (anchors.perm.mem_iff.mpr (List.mem_cons_self ..)))
      · intro anchor member anchored
        have own : anchor = added.metricAnchor := by
          rcases List.mem_cons.mp (anchors.perm.mem_iff.mp member) with own | other
          · exact own
          · exact absurd anchored (anchor_ne_of_fresh fresh anchor other)
        subst own
        refine ⟨by simp only [assemble, same], anchors, ?_, ?_⟩
        · simp only [assemble, List.forall₂_map_left_iff, List.forall₂_map_right_iff]
          refine List.forall₂_same.mpr fun model _ => ⟨view_eq_with_metrics _ _ model, ?_⟩
          rw [model_view]
          exact fun elsewhere => (view_elsewhere inserts elsewhere).symm
        · simp only [assemble, List.forall₂_map_left_iff, List.forall₂_map_right_iff]
          refine List.forall₂_same.mpr fun model _ =>
            ⟨explore_restricts inserts.sublist.subset model, fun elsewhere => ?_⟩
          have other : model.name ≠ added.anchor.model.name :=
            fun same => elsewhere (congrArg options.naming.view same)
          exact (explore_elsewhere inserts other).symm

/-- The reach touches the orders only, and a metric over a measure that no model has touches
nothing. -/
theorem shop_reach_touches_orders :
    ∃ output, generate Project.shop {} = .ok output ∧
      (∃ larger, generate { Project.shop with
          metrics := { name := "reach", kind := .ratio "area" "revenue" } :: Project.shop.metrics } {} =
            .ok larger ∧
        larger.diagnostics = output.diagnostics ∧
        Inserts ⟨"reach", "order", "orders", true⟩ output.anchors larger.anchors ∧
        List.Forall₂ (fun view other => view = { other with metrics := view.metrics } ∧
          (view.model ≠ "orders" → view = other)) output.views larger.views ∧
        List.Forall₂ (fun explore other => explore.Restricts other ∧
          (explore.baseView ≠ "orders" → explore = other)) output.explores larger.explores) ∧
      ∃ larger, generate { Project.shop with
          metrics := { name := "ghost", kind := .simple "missing", primaryEntity := some "order" } ::
            Project.shop.metrics } {} = .ok larger ∧
        larger.views = output.views ∧ larger.explores = output.explores ∧
        larger.anchors = output.anchors ∧
        ∃ reason, reason.metric = "ghost" ∧
          Inserts reason output.diagnostics larger.diagnostics := by
  obtain ⟨output, generated, _⟩ :=
    Attempt.exists_ok_of_any (generate Project.shop {}) (fun _ => true) (by decide +kernel)
  obtain ⟨withReach, reached, listed⟩ := Attempt.exists_ok_of_any
    (generate { Project.shop with
      metrics := { name := "reach", kind := .ratio "area" "revenue" } :: Project.shop.metrics } {})
    (fun larger => larger.anchors.contains ⟨"reach", "order", "orders", true⟩) (by decide +kernel)
  obtain ⟨withGhost, haunted, unlisted⟩ := Attempt.exists_ok_of_any
    (generate { Project.shop with
      metrics := { name := "ghost", kind := .simple "missing", primaryEntity := some "order" } ::
        Project.shop.metrics } {})
    (fun larger => larger.anchors.all fun anchor => anchor.metric != "ghost") (by decide +kernel)
  obtain ⟨larger, made, _, touched⟩ := @metric_touches_only_its_anchor {} _
    { name := "reach", kind := .ratio "area" "revenue" } Project.shop output
    ⟨[], Project.shop.metrics, rfl, rfl⟩ (by decide) (by decide) generated
  have same : larger = withReach := Except.ok.inj (made.symm.trans reached)
  subst same
  obtain ⟨other, otherMade, untouched, _⟩ := @metric_touches_only_its_anchor {} _
    { name := "ghost", kind := .simple "missing", primaryEntity := some "order" } Project.shop output
    ⟨[], Project.shop.metrics, rfl, rfl⟩ (by decide) (by decide) generated
  have otherSame : other = withGhost := Except.ok.inj (otherMade.symm.trans haunted)
  subst otherSame
  refine ⟨output, generated, ⟨larger, reached, ?_⟩, other, haunted, untouched fun anchor member => ?_⟩
  · exact touched _ (List.contains_iff_mem.mp listed) rfl
  · simpa using List.all_eq_true.mp unlisted anchor member

end SemanticLayer
