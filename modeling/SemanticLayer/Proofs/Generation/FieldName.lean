import SemanticLayer.Proofs.Generation.Accounting
namespace SemanticLayer

/-! The names of the fields that metrics add to a view.

A metric whose name is taken in its view gets a suffix, once. Metrics are added in ascending
order of their names, so this keeps their fields apart from each other. It keeps them apart from
the fields of the model too, unless one of those already has the longer name. -/

open LookML

namespace LookML.View

variable {view : View} {resolved : ResolvedMetric} {name : String}

/-- `name` is a dimension, a dimension group, a field of a group or a measure of the model. -/
def Declares (view : View) (name : String) : Prop :=
  (∃ field ∈ view.dimensions, field.name = name) ∨
    (∃ group ∈ view.groups, group.name = name ∨ name ∈ group.fieldNames) ∨
    ∃ field ∈ view.measures, field.name = name

instance : Decidable (view.Declares name) := inferInstanceAs (Decidable (_ ∨ _ ∨ _))

/-- `name` belongs to a field of the model or to the field of an earlier metric. -/
def Taken (view : View) (name : String) : Prop :=
  view.Declares name ∨ ∃ other ∈ view.metrics, other.metric < name ∧ other.name = name

theorem hasField_iff :
    view.hasField name ↔ view.Declares name ∨ ∃ other ∈ view.metrics, other.name = name := by
  simp [hasField, Declares, or_assoc]

/-- How the fields of metrics are named. -/
structure MetricsNamed (view : View) : Prop where
  distinct : (view.metrics.map MetricField.name).Nodup
  chosen : ∀ field ∈ view.metrics,
    (field.name = field.metric ∧ ¬ view.Declares field.metric) ∨
      (field.name = field.metric ++ "_metric" ∧ view.Taken field.metric)

theorem not_append_lt (name suffix : String) : ¬ name ++ suffix < name := by
  rw [String.lt_iff, String.toList_append, List.not_lt]
  exact List.le_append_left

namespace MetricsNamed

variable (named : view.MetricsNamed)
include named

theorem append {new : MetricField} (fresh : ∀ other ∈ view.metrics, other.name ≠ new.name)
    (chosen : (new.name = new.metric ∧ ¬ view.Declares new.metric) ∨
      (new.name = new.metric ++ "_metric" ∧ view.Taken new.metric)) :
    MetricsNamed { view with metrics := view.metrics ++ [new] } := by
  have kept : ∀ name, view.Taken name →
      Taken { view with metrics := view.metrics ++ [new] } name := by
    intro name taken
    rcases taken with declared | ⟨other, member, before, same⟩
    · exact .inl declared
    · exact .inr ⟨other, List.mem_append_left _ member, before, same⟩
  refine ⟨?_, ?_⟩
  · rw [List.map_append, List.map_singleton, List.nodup_append]
    refine ⟨named.distinct, List.nodup_singleton _, ?_⟩
    intro used usedMember last lastMember
    obtain ⟨other, member, rfl⟩ := List.mem_map.mp usedMember
    rw [List.mem_singleton.mp lastMember]
    exact fresh other member
  · intro field member
    rcases List.mem_append.mp member with before | last
    · exact (named.chosen field before).imp_right fun renamed => ⟨renamed.1, kept _ renamed.2⟩
    · rw [List.mem_singleton.mp last]
      exact chosen.imp_right fun renamed => ⟨renamed.1, kept _ renamed.2⟩

/-- The suffixed name of a metric is not that of the field of an earlier one. -/
theorem name_ne_suffixed (earlier : ∀ field ∈ view.metrics, field.metric < name) :
    ∀ other ∈ view.metrics, other.name ≠ name ++ "_metric" := by
  intro other member same
  have before := earlier other member
  rcases named.chosen other member with ⟨kept, _⟩ | ⟨renamed, _⟩
  · rw [← kept, same] at before
    exact not_append_lt name "_metric" before
  · rw [renamed, String.append_left_inj] at same
    rw [same] at before
    exact String.lt_irrefl _ before

theorem addMetric (earlier : ∀ field ∈ view.metrics, field.metric < resolved.metric.name) :
    (Generation.addMetric view resolved).MetricsNamed := by
  by_cases taken : view.hasField resolved.metric.name
  · have renamed : (resolved.field view).name = resolved.metric.name ++ "_metric" := if_pos taken
    refine named.append ?_ (.inr ⟨renamed, ?_⟩)
    · rw [renamed]
      exact named.name_ne_suffixed earlier
    · rcases hasField_iff.mp taken with declared | ⟨other, member, same⟩
      · exact .inl declared
      · exact .inr ⟨other, member, earlier other member, same⟩
  · have kept : (resolved.field view).name = resolved.metric.name := if_neg taken
    rw [hasField_iff, not_or] at taken
    refine named.append ?_ (.inl ⟨kept, taken.1⟩)
    intro other member same
    exact taken.2 ⟨other, member, same.trans kept⟩

theorem foldl_addMetric {resolved : List ResolvedMetric}
    (ascending : (resolved.map fun metric => metric.metric.name).Pairwise (· < ·))
    (earlier : ∀ field ∈ view.metrics, ∀ metric ∈ resolved, field.metric < metric.metric.name) :
    (resolved.foldl Generation.addMetric view).MetricsNamed := by
  -- The metrics to come have greater names than those whose fields the view has already.
  induction resolved generalizing view with
  | nil => exact named
  | cons first rest ih =>
      rw [List.map_cons, List.pairwise_cons] at ascending
      refine ih (named.addMetric fun field member => earlier field member first (List.mem_cons_self ..))
        ascending.2 ?_
      intro field member metric later
      rcases List.mem_append.mp member with before | last
      · exact earlier field before metric (List.mem_cons_of_mem _ later)
      · rw [List.mem_singleton.mp last]
        exact ascending.1 _ (List.mem_map_of_mem later)

/-- The fields of metrics and of the model meet only in a suffixed name. -/
theorem declares_iff {field : MetricField} (member : field ∈ view.metrics) :
    view.Declares field.name ↔
      view.Taken field.metric ∧ view.Declares (field.metric ++ "_metric") := by
  rcases named.chosen field member with ⟨kept, free⟩ | ⟨renamed, taken⟩
  · rw [kept]
    refine ⟨fun declared => absurd declared free, fun collision => ?_⟩
    rcases collision.1 with declared | ⟨other, otherMember, before, same⟩
    · exact declared
    · -- Two fields of metrics would have the name that this one keeps.
      have equal := List.inj_on_of_nodup_map named.distinct otherMember member (same.trans kept.symm)
      rw [equal] at before
      exact absurd before (String.lt_irrefl _)
  · rw [renamed]
    exact ⟨fun declared => ⟨taken, declared⟩, fun collision => collision.2⟩

end MetricsNamed

end LookML.View

namespace Generation

theorem resolvedMetrics_ascending (set : ModelSet) (metrics : List Metric) (options : Options) :
    ((resolvedMetrics set (.ofMetrics metrics) options).map fun resolved =>
      resolved.metric.name).Pairwise (· < ·) :=
  (distinctMetrics_ascending metrics).sublist (resolvedMetrics_sublist set _ options)

theorem view_metricsNamed (options : Options) {resolved : List ResolvedMetric}
    (ascending : (resolved.map fun metric => metric.metric.name).Pairwise (· < ·))
    (model : SemanticModel) : (view options resolved model).MetricsNamed := by
  have start : (View.ofModel options.naming options.schema model).MetricsNamed :=
    ⟨List.nodup_nil, fun _ member => absurd member List.not_mem_nil⟩
  exact start.foldl_addMetric (ascending.sublist (List.filter_sublist.map _))
    fun _ member => absurd member List.not_mem_nil

end Generation

/-- In a view, the fields of metrics have different names. One of them has the name of a field
of the model exactly when the name of its metric is taken and the model has a field with the
suffixed name as well. -/
theorem metric_field_names_apart {project : Project} {options : Options} {output : Output}
    (generated : generate project options = .ok output) {view : View}
    (viewMember : view ∈ output.views) :
    (view.metrics.map MetricField.name).Nodup ∧
      ∀ field ∈ view.metrics, view.Declares field.name ↔
        view.Taken field.metric ∧ view.Declares (field.metric ++ "_metric") := by
  obtain ⟨set, _, diagnostics, rfl⟩ := generate_eq_ok generated
  obtain ⟨model, _, rfl⟩ := List.mem_map.mp viewMember
  have named := Generation.view_metricsNamed options
    (Generation.resolvedMetrics_ascending set project.metrics options) model
  exact ⟨named.distinct, fun field member => named.declares_iff member⟩

/-- Rentals with a count and with two measures of revenue. Of the metrics, `rental_count` takes the
suffixed name, which `rental_count_metric` then finds taken. -/
def Project.rentals : Project :=
  { models := [
      { name := "rentals"
        entities := [⟨"rental", .primary, "id"⟩]
        measures := [
          { name := "rental_count", aggregation := .count },
          { name := "revenue", aggregation := .sum },
          { name := "revenue_metric", aggregation := .sum }] }]
    metrics := [
      { name := "rental_count", kind := .simple "rental_count", primaryEntity := some "rental" },
      { name := "rental_count_metric", kind := .simple "revenue", primaryEntity := some "rental" },
      { name := "revenue", kind := .simple "revenue", primaryEntity := some "rental" }] }

/-- Both metrics about the count are renamed, to names that are free. -/
theorem rental_count_apart :
    ∃ output, generate Project.rentals {} = .ok output ∧ ∃ view ∈ output.views,
      (view.metrics.map MetricField.name).Nodup ∧
      ∃ first ∈ view.metrics, ∃ second ∈ view.metrics,
        first.metric = "rental_count" ∧ first.name = "rental_count_metric" ∧
        second.metric = "rental_count_metric" ∧ second.name = "rental_count_metric_metric" ∧
        ¬ view.Declares first.name ∧ ¬ view.Declares second.name := by
  obtain ⟨output, generated, made⟩ := Attempt.exists_ok_of_any (generate Project.rentals {})
    (fun output => output.views.any fun view =>
      (view.metrics.any fun field => field.metric == "rental_count" &&
        field.name == "rental_count_metric") &&
      (view.metrics.any fun field => field.metric == "rental_count_metric" &&
        field.name == "rental_count_metric_metric") &&
      !view.Declares "rental_count_metric" && !view.Declares "rental_count_metric_metric")
    (by decide +kernel)
  simp only [List.any_eq_true, Bool.and_eq_true, beq_iff_eq, Bool.not_eq_true', decide_eq_false_iff_not]
    at made
  obtain ⟨view, viewMember, ⟨⟨⟨first, firstMember, firstMetric, firstName⟩,
    second, secondMember, secondMetric, secondName⟩, free⟩, longerFree⟩ := made
  obtain ⟨distinct, collides⟩ := metric_field_names_apart generated viewMember
  refine ⟨output, generated, view, viewMember, distinct, first, firstMember, second, secondMember,
    firstMetric, firstName, secondMetric, secondName, ?_, ?_⟩
  · rw [collides first firstMember, firstMetric]
    exact fun collision => free collision.2
  · rw [collides second secondMember, secondMetric]
    exact fun collision => longerFree collision.2

/-- The suffix is not tried again: the field of the metric `revenue` gets the name of a measure. -/
theorem revenue_collides :
    ∃ output, generate Project.rentals {} = .ok output ∧ ∃ view ∈ output.views,
      ∃ field ∈ view.metrics, field.metric = "revenue" ∧
        ∃ measure ∈ view.measures, measure.name = field.name := by
  obtain ⟨output, generated, made⟩ := Attempt.exists_ok_of_any (generate Project.rentals {})
    (fun output => output.views.any fun view => view.metrics.any fun field =>
      field.metric == "revenue" && view.measures.any fun measure => measure.name == field.name)
    (by decide +kernel)
  simp only [List.any_eq_true, Bool.and_eq_true, beq_iff_eq] at made
  exact ⟨output, generated, made⟩

end SemanticLayer
