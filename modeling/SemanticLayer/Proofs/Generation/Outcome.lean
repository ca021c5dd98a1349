import SemanticLayer.Proofs.Attempt
import SemanticLayer.Proofs.Generation.DistinctMetrics
namespace SemanticLayer

/-! What a run that succeeds has made.

`generate_eq_ok` reduces both modes to one form: the output is assembled from the metrics that
pass every check. -/

open SemanticLayer.Order LookML

namespace ResolvedMetric

variable {set : ModelSet} {catalog : MetricCatalog} {options : Options} {metric : Metric}
  {resolved : ResolvedMetric}

/-- The checks that a metric has to pass, with the `measures` that were found for it. -/
structure Passes (set : ModelSet) (catalog : MetricCatalog) (options : Options)
    (resolved : ResolvedMetric) (measures : SortedSet String) : Prop where
  anchored : Anchor.resolve set resolved.metric = .ok resolved.anchor
  extracted : catalog.measures resolved.metric = .ok measures
  connected :
    validateConnectivity set
      (JoinGraph.build set resolved.anchor.model.name options.maxJoinHops)
      resolved.metric.name resolved.anchor.model.name measures.items = .ok ()
  composed :
    compose set catalog options.naming resolved.anchor.model.name resolved.metric =
      .ok resolved.composition
  required : resolved.requirement = requiredMeasures set resolved.anchor.model.name measures

theorem resolve_eq_ok_iff :
    resolve set catalog options metric = .ok resolved ↔
      resolved.metric = metric ∧ ∃ measures, Passes set catalog options resolved measures := by
  unfold resolve
  simp only [Attempt.bind_eq_ok_iff]
  constructor
  · intro passed
    obtain ⟨anchor, anchored, measures, extracted, _, connected, composition, composed, whole⟩ := passed
    cases whole
    exact ⟨rfl, measures, anchored, extracted, connected, composed, rfl⟩
  · intro passed
    obtain ⟨rfl, measures, passes⟩ := passed
    refine ⟨_, passes.anchored, measures, passes.extracted, (), passes.connected, _,
      passes.composed, ?_⟩
    rw [← passes.required]
    rfl

end ResolvedMetric

namespace Generation

variable {set : ModelSet} {catalog : MetricCatalog} {options : Options}
  {resolved : ResolvedMetric}

/-- The metrics that pass every check, in ascending order of the names. -/
def resolvedMetrics (set : ModelSet) (catalog : MetricCatalog) (options : Options) :
    List ResolvedMetric :=
  (partition ((distinctMetrics catalog).map (ResolvedMetric.resolve set catalog options))).1

theorem mem_resolvedMetrics_iff :
    resolved ∈ resolvedMetrics set catalog options ↔
      resolved.metric ∈ catalog.metrics ∧
        ∃ measures, ResolvedMetric.Passes set catalog options resolved measures := by
  unfold resolvedMetrics partition distinctMetrics sortedOn
  simp only [List.mem_filterMap, List.mem_map, mem_sorted]
  constructor
  · intro found
    obtain ⟨outcome, ⟨metric, member, rfl⟩, succeeded⟩ := found
    cases attempt : ResolvedMetric.resolve set catalog options metric with
    | error reason => simp [attempt, Except.toOption] at succeeded
    | ok value =>
        rw [attempt] at succeeded
        cases succeeded
        obtain ⟨rfl, passes⟩ := ResolvedMetric.resolve_eq_ok_iff.mp attempt
        exact ⟨member, passes⟩
  · intro found
    obtain ⟨member, passes⟩ := found
    have attempt := ResolvedMetric.resolve_eq_ok_iff.mpr ⟨rfl, passes⟩
    exact ⟨_, ⟨resolved.metric, member, rfl⟩, by rw [attempt]; rfl⟩

end Generation

/-- Both modes assemble the metrics that resolve. A strict run succeeds when these are all. -/
theorem generate_eq_ok {project : Project} {options : Options} {output : Output}
    (generated : generate project options = .ok output) :
    ∃ set, ModelSet.ofModels project.models = .ok set ∧ ∃ diagnostics,
      output = Generation.assemble set options
        (Generation.resolvedMetrics set (.ofMetrics project.metrics) options) diagnostics := by
  unfold generate at generated
  cases accepted : ModelSet.ofModels project.models with
  | error conflict => simp [accepted] at generated
  | ok set =>
      refine ⟨set, rfl, ?_⟩
      simp only [accepted] at generated
      cases ran : Generation.run project options set with
      | error reason => simp [ran, Except.mapError] at generated
      | ok made =>
          rw [ran] at generated
          cases generated
          unfold Generation.run at ran
          rw [Generation.firstOfEachName_eq] at ran
          cases mode : options.mode with
          | lenient =>
              simp only [mode, Except.ok.injEq] at ran
              exact ⟨_, ran.symm⟩
          | strict =>
              cases rejected : project.rejected with
              | cons reason _ => simp [mode, rejected] at ran
              | nil =>
                  simp only [mode, rejected, Attempt.bind_eq_ok_iff] at ran
                  obtain ⟨values, mapped, whole⟩ := ran
                  cases whole
                  rw [← Attempt.filterMap_toOption_of_mapM mapped]
                  exact ⟨_, rfl⟩

/-- Orders of customers who live in regions. The score divides two ratios over three models,
and the spiral refers to itself. -/
def Project.shop : Project :=
  { models := [
      { name := "orders"
        entities := [⟨"order", .primary, "id"⟩, ⟨"customer", .foreign, "customer_id"⟩]
        measures := [{ name := "revenue", aggregation := .sum }] },
      { name := "customers"
        entities := [⟨"customer", .primary, "id"⟩, ⟨"region", .foreign, "region_id"⟩]
        measures := [{ name := "headcount", aggregation := .count }] },
      { name := "regions"
        entities := [⟨"region", .primary, "id"⟩]
        measures := [{ name := "area", aggregation := .sum }] }]
    metrics := [
      { name := "spending", kind := .ratio "revenue" "headcount" },
      { name := "density", kind := .ratio "headcount" "area", primaryEntity := some "customer" },
      { name := "score"
        kind := .derived "spending / density" [{ name := "spending" }, { name := "density" }]
        primaryEntity := some "order" },
      { name := "spiral"
        kind := .derived "spiral + 1" [{ name := "spiral" }]
        primaryEntity := some "order" }] }

end SemanticLayer
