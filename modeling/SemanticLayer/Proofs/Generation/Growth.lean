import SemanticLayer.Proofs.Generation.Exposure
import SemanticLayer.Proofs.Generation.FieldName
import SemanticLayer.Proofs.Order.Insertion
namespace SemanticLayer

/-! Runs in which more metrics pass.

A metric is resolved on its own, so the runs compared here differ in the list of the metrics that
pass: one list is part of the other. Joins then expose more fields and nothing else about them
changes, and a metric in both lists has the same field in both runs, except that the name of the
field may be taken in one and free in the other. -/

open SemanticLayer.Order LookML

/-- `join` is `more` with some of its fields left out. -/
structure LookML.Join.Restricts (join more : Join) : Prop where
  same : join = { more with fields := join.fields }
  fields : join.fields.Sublist more.fields

/-- `explore` is `more` with some fields left out of its joins. -/
structure LookML.Explore.Restricts (explore more : Explore) : Prop where
  same : explore = { more with joins := explore.joins }
  joins : List.Forall₂ Join.Restricts explore.joins more.joins

/-- The fields of the metric that `anchor` records, in the views of the model on which the metric
is anchored. -/
def Output.fieldsOf (output : Output) (anchor : MetricAnchor) : List MetricField :=
  (output.views.filter fun view => view.model == anchor.model).flatMap fun view =>
    view.metrics.filter fun field => field.metric == anchor.metric

/-- All that `requirement` needs is needed here too. -/
def Requirement.Covers (wider requirement : Requirement) : Prop :=
  ∀ model, ∀ measure ∈ requirement.measuresFor model, measure ∈ wider.measuresFor model

namespace LookML

variable {naming : Naming} {requirement wider : Requirement}

theorem joinFields_sublist (covers : wider.Covers requirement)
    (model : String) :
    (joinFields naming requirement model).Sublist (joinFields naming wider model) := by
  have inOrder : (requirement.measuresFor model).items.Sublist (wider.measuresFor model).items :=
    sublist_of_subset_of_ascending id (covers model)
      (by simpa using (requirement.measuresFor model).ascending)
      (by simpa using (wider.measuresFor model).ascending)
  exact (inOrder.map _).cons_cons _

theorem Join.restricts_ofEntry (covers : wider.Covers requirement)
    (entry : JoinEntry) :
    (Join.ofEntry naming requirement entry).Restricts (Join.ofEntry naming wider entry) :=
  ⟨rfl, joinFields_sublist covers entry.target⟩

theorem Join.restricts_map (covers : wider.Covers requirement)
    (entries : List JoinEntry) :
    List.Forall₂ Join.Restricts (entries.map (Join.ofEntry naming requirement))
      (entries.map (Join.ofEntry naming wider)) := by
  rw [List.forall₂_map_left_iff, List.forall₂_map_right_iff, List.forall₂_same]
  exact fun entry _ => Join.restricts_ofEntry covers entry

end LookML

namespace Generation

variable {set : ModelSet} {options : Options} {models : List SemanticModel}
  {resolved more : List ResolvedMetric}

theorem covers_of_subset (kept : resolved ⊆ more) (base : String) :
    (requirement more base).Covers (requirement resolved base) := by
  intro model measure member
  obtain ⟨metric, metricMember, anchored, needs, joined⟩ := mem_requirement_iff.mp member
  exact mem_requirement_iff.mpr ⟨metric, kept metricMember, anchored, needs, joined⟩

theorem explore_restricts (kept : resolved ⊆ more) (model : SemanticModel) :
    (explore set options resolved model).Restricts (explore set options more model) :=
  ⟨rfl, Join.restricts_map (covers_of_subset kept model.name) _⟩

/-- An anchored metric has one field, which is made of the metric and of nothing else but for
its name. -/
theorem fieldsOf_assemble (accepted : ModelSet.ofModels models = .ok set)
    (ascending : (resolved.map fun metric => metric.metric.name).Pairwise (· < ·))
    {metric : ResolvedMetric} (member : metric ∈ resolved)
    (anchored : metric.anchor.model ∈ models) (diagnostics : List MetricError) :
    ∃ field, (∃ view, field = metric.field view) ∧
      (assemble set options resolved diagnostics).fieldsOf metric.metricAnchor = [field] := by
  have inSet := (ModelSet.mem_models_iff accepted).mpr anchored
  have selected : metric ∈ resolved.filter
      (ResolvedMetric.isAnchoredOn metric.anchor.model.name) :=
    List.mem_filter.mpr ⟨member, beq_self_eq_true _⟩
  obtain ⟨field, fieldMember, view, rfl⟩ :=
    Attempt.exists_of_forall₂_left (metrics_view options resolved metric.anchor.model) selected
  refine ⟨_, ⟨view, rfl⟩, ?_⟩
  have views : ((set.models.map (Generation.view options resolved)).filter fun view =>
      view.model == metric.anchor.model.name) =
        [Generation.view options resolved metric.anchor.model] := by
    have names : ((set.models.map (Generation.view options resolved)).map View.model).Nodup := by
      rw [models_views]
      exact ModelSet.names_nodup accepted
    have single := filter_key_eq_singleton names (List.mem_map_of_mem inSet)
    rwa [model_view] at single
  have fields : ((Generation.view options resolved metric.anchor.model).metrics.filter fun field =>
      field.metric == metric.metric.name) = [metric.field view] := by
    have ordered : ((Generation.view options resolved metric.anchor.model).metrics.map
        MetricField.metric).Pairwise (· < ·) := by
      rw [metric_names_view]
      exact ascending.sublist (List.filter_sublist.map _)
    exact filter_key_eq_singleton (keys_nodup_of_ascending ordered) fieldMember
  simp only [Output.fieldsOf, assemble, ResolvedMetric.metricAnchor, views, List.flatMap_cons,
    fields]
  rfl

end Generation

/-- The field of an anchored metric is the same in both runs, but for its name. -/
theorem Generation.same_field {project other : Project} {options otherOptions : Options}
    {set otherSet : ModelSet} (accepted : ModelSet.ofModels project.models = .ok set)
    (otherAccepted : ModelSet.ofModels other.models = .ok otherSet) {resolved : ResolvedMetric}
    (member : resolved ∈ resolvedMetrics set (.ofMetrics project.metrics) options)
    (otherMember : resolved ∈ resolvedMetrics otherSet (.ofMetrics other.metrics) otherOptions)
    (diagnostics otherDiagnostics : List MetricError) :
    ∃ field name,
      (assemble set options (resolvedMetrics set (.ofMetrics project.metrics) options)
        diagnostics).fieldsOf resolved.metricAnchor = [field] ∧
      (assemble otherSet otherOptions
        (resolvedMetrics otherSet (.ofMetrics other.metrics) otherOptions)
        otherDiagnostics).fieldsOf resolved.metricAnchor = [{ field with name }] := by
  obtain ⟨_, _, passes⟩ := mem_resolvedMetrics_iff.mp member
  obtain ⟨_, _, otherPasses⟩ := mem_resolvedMetrics_iff.mp otherMember
  obtain ⟨anchored, _⟩ :=
    (Anchor.exists_resolve_iff accepted).mp ⟨resolved.anchor, passes.anchored, rfl⟩
  obtain ⟨otherAnchored, _⟩ :=
    (Anchor.exists_resolve_iff otherAccepted).mp ⟨resolved.anchor, otherPasses.anchored, rfl⟩
  obtain ⟨field, ⟨view, rfl⟩, single⟩ := fieldsOf_assemble accepted
    (resolvedMetrics_ascending set project.metrics options) member anchored diagnostics
  obtain ⟨field, ⟨otherView, rfl⟩, otherSingle⟩ := fieldsOf_assemble
    otherAccepted (resolvedMetrics_ascending otherSet other.metrics otherOptions) otherMember
    otherAnchored otherDiagnostics
  exact ⟨_, (resolved.field otherView).name, single, otherSingle⟩

end SemanticLayer
