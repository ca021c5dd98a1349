import SemanticLayer.Generation
import SemanticLayer.Proofs.Attempt
namespace SemanticLayer.Generation

/-! The fields that metrics add to a view.

Adding metrics appends one field each and leaves the rest of the view as it is. -/

open LookML

variable {options : Options} {resolved : List ResolvedMetric} {model : SemanticModel}

theorem foldl_addMetric (resolved : List ResolvedMetric) (start : View) :
    ∃ fields, resolved.foldl addMetric start = { start with metrics := start.metrics ++ fields } ∧
      List.Forall₂ (fun metric field => ∃ view, field = metric.field view) resolved fields := by
  induction resolved generalizing start with
  | nil => exact ⟨[], by simp, .nil⟩
  | cons metric rest ih =>
      obtain ⟨fields, whole, each⟩ := ih (addMetric start metric)
      refine ⟨metric.field start :: fields, ?_, .cons ⟨start, rfl⟩ each⟩
      rw [List.foldl_cons, whole]
      simp [addMetric]

/-- A view is that of its model but for the fields of the metrics. -/
theorem exists_view_eq (options : Options) (resolved : List ResolvedMetric) (model : SemanticModel) :
    ∃ fields, view options resolved model =
        { View.ofModel options.naming options.schema model with metrics := fields } ∧
      List.Forall₂ (fun metric field => ∃ view, field = metric.field view)
        (resolved.filter (ResolvedMetric.isAnchoredOn model.name)) fields :=
  foldl_addMetric _ (View.ofModel options.naming options.schema model)

theorem name_view : (view options resolved model).name = options.naming.view model.name := by
  obtain ⟨fields, whole, _⟩ := exists_view_eq options resolved model
  rw [whole]
  rfl

theorem model_view : (view options resolved model).model = model.name := by
  obtain ⟨fields, whole, _⟩ := exists_view_eq options resolved model
  rw [whole]
  rfl

theorem dimensions_view : (view options resolved model).dimensions =
    (View.ofModel options.naming options.schema model).dimensions := by
  obtain ⟨fields, whole, _⟩ := exists_view_eq options resolved model
  rw [whole]

theorem measures_view :
    (view options resolved model).measures = model.measures.map MeasureField.ofMeasure := by
  obtain ⟨fields, whole, _⟩ := exists_view_eq options resolved model
  rw [whole]
  rfl

theorem models_views (set : ModelSet) :
    (set.models.map (view options resolved)).map View.model = set.models.map SemanticModel.name := by
  rw [List.map_map]
  exact List.map_congr_left fun model _ => model_view

/-- A view has one field for every metric anchored on its model, in the order of the metrics. -/
theorem metrics_view (options : Options) (resolved : List ResolvedMetric) (model : SemanticModel) :
    List.Forall₂ (fun metric field => ∃ view, field = metric.field view)
      (resolved.filter (ResolvedMetric.isAnchoredOn model.name))
      (view options resolved model).metrics := by
  obtain ⟨fields, whole, each⟩ := exists_view_eq options resolved model
  rw [whole]
  exact each

theorem metric_names_view (options : Options) (resolved : List ResolvedMetric) (model : SemanticModel) :
    (view options resolved model).metrics.map MetricField.metric =
      (resolved.filter (ResolvedMetric.isAnchoredOn model.name)).map fun metric =>
        metric.metric.name := by
  refine Eq.symm ?_
  rw [← List.forall₂_eq_eq_eq, List.forall₂_map_left_iff, List.forall₂_map_right_iff]
  refine (metrics_view options resolved model).imp fun metric field made => ?_
  obtain ⟨view, rfl⟩ := made
  rfl

theorem mem_metrics_view {field : MetricField}
    (member : field ∈ (view options resolved model).metrics) :
    ∃ metric ∈ resolved, metric.anchor.model.name = model.name ∧
      field.sql = metric.composition.sql ∧
      field.requiredFields = metric.composition.requiredFields.items := by
  obtain ⟨metric, selected, view, rfl⟩ :=
    Attempt.exists_of_forall₂_right (metrics_view options resolved model) member
  obtain ⟨metricMember, anchored⟩ := List.mem_filter.mp selected
  exact ⟨metric, metricMember, beq_iff_eq.mp anchored, rfl, rfl⟩

end SemanticLayer.Generation
