import SemanticLayer.Proofs.Anchor
import SemanticLayer.Proofs.Generation.Outcome
import SemanticLayer.Proofs.JoinGraph.Neighbourhood
import SemanticLayer.Proofs.LookML.Composition
import SemanticLayer.Proofs.MetricCatalog.Measures
import SemanticLayer.Proofs.Requirement
namespace SemanticLayer

/-! Which metrics are generated.

`Metric.ValidOn` speaks of the project only: of entities, references and foreign keys. The
metrics in the output are those for which it holds, so no step of a run refuses a metric for a
reason of its own. -/

open SemanticLayer.Order LookML

/-- `metric` can be computed over the rows of `model`. -/
structure Metric.ValidOn (project : Project) (maxHops : Option Nat) (metric : Metric)
    (model : SemanticModel) : Prop where
  anchored : metric.AnchoredOn project.models model
  defined : (MetricCatalog.ofMetrics project.metrics).Defined metric
  acyclic : (MetricCatalog.ofMetrics project.metrics).Acyclic metric
  /-- Every measure on the way is owned by a model within reach of the anchor. -/
  reachable : ∀ path inner, (MetricCatalog.ofMetrics project.metrics).Trail metric path inner →
    ∀ measure ∈ inner.kind.payload, ∃ owner ∈ project.models, owner.declaresMeasure measure ∧
      ∃ hops, (∀ bound ∈ maxHops, hops ≤ bound) ∧
        SemanticModel.Connected project.models model hops owner

variable {project : Project} {options : Options} {output : Output} {set : ModelSet}
  {metric : Metric} {model : SemanticModel}

section Accepted

variable (accepted : ModelSet.ofModels project.models = .ok set)
include accepted

theorem reaches_iff_connected {maxHops : Option Nat} {owner : SemanticModel}
    (member : model ∈ project.models) (ownerMember : owner ∈ project.models) :
    (JoinGraph.build set model.name maxHops).reaches owner.name ↔
      ∃ hops, (∀ bound ∈ maxHops, hops ≤ bound) ∧
        SemanticModel.Connected project.models model hops owner := by
  rw [JoinGraph.reaches_build_iff]
  simp only [ModelSet.chain_iff_connected accepted member ownerMember]

theorem ResolvedMetric.Passes.validOn {resolved : ResolvedMetric} {measures : SortedSet String}
    (passes : Passes set (.ofMetrics project.metrics) options resolved measures) :
    resolved.anchor.model ∈ project.models ∧
      resolved.metric.ValidOn project options.maxJoinHops resolved.anchor.model := by
  obtain ⟨member, anchored⟩ :=
    (Anchor.exists_resolve_iff accepted).mp ⟨resolved.anchor, passes.anchored, rfl⟩
  obtain ⟨defined, acyclic⟩ := MetricCatalog.exists_measures_iff.mp ⟨measures, passes.extracted⟩
  refine ⟨member, anchored, defined, acyclic, ?_⟩
  intro path inner trail measure named
  have among : measure ∈ measures :=
    (MetricCatalog.mem_measures_iff passes.extracted).mpr ⟨path, inner, trail, named⟩
  obtain ⟨owner, owned, reached⟩ := validateConnectivity_eq_ok_iff.mp passes.connected measure among
  obtain ⟨ownerMember, declares⟩ := (ModelSet.ownerOfMeasure?_eq_some_iff accepted).mp owned
  exact ⟨owner, ownerMember, declares, (reaches_iff_connected accepted member ownerMember).mp reached⟩

theorem exists_passes_of_validOn (member : model ∈ project.models)
    (valid : metric.ValidOn project options.maxJoinHops model) :
    ∃ resolved measures, resolved.metric = metric ∧
      ResolvedMetric.Passes set (.ofMetrics project.metrics) options resolved measures := by
  obtain ⟨anchor, anchored, rfl⟩ :=
    (Anchor.exists_resolve_iff accepted).mpr ⟨member, valid.anchored⟩
  obtain ⟨measures, extracted⟩ := MetricCatalog.exists_measures_iff.mpr ⟨valid.defined, valid.acyclic⟩
  have connected : validateConnectivity set
      (JoinGraph.build set anchor.model.name options.maxJoinHops) metric.name anchor.model.name
      measures.items = .ok () := by
    rw [validateConnectivity_eq_ok_iff]
    intro measure among
    obtain ⟨path, inner, trail, named⟩ := (MetricCatalog.mem_measures_iff extracted).mp among
    obtain ⟨owner, ownerMember, declares, reached⟩ := valid.reachable path inner trail measure named
    exact ⟨owner, (ModelSet.ownerOfMeasure?_eq_some_iff accepted).mpr ⟨ownerMember, declares⟩,
      (reaches_iff_connected accepted member ownerMember).mpr reached⟩
  have owned : ∀ path inner, (MetricCatalog.ofMetrics project.metrics).Trail metric path inner →
      ∀ measure ∈ inner.kind.payload, ∃ owner, set.ownerOfMeasure? measure = some owner := by
    intro path inner trail measure named
    obtain ⟨owner, ownerMember, declares, _⟩ := valid.reachable path inner trail measure named
    exact ⟨owner, (ModelSet.ownerOfMeasure?_eq_some_iff accepted).mpr ⟨ownerMember, declares⟩⟩
  obtain ⟨composition, composed⟩ : ∃ composition, compose set (.ofMetrics project.metrics)
      options.naming anchor.model.name metric = .ok composition :=
    exists_compose_of_owned valid.defined valid.acyclic owned
  exact ⟨⟨metric, anchor, composition, requiredMeasures set anchor.model.name measures⟩, measures,
    rfl, anchored, extracted, connected, composed, rfl⟩

end Accepted

/-- The output records a metric exactly when it is valid: it is anchored on a model, its
references are defined and free of cycles, and its measures are within reach of the anchor. -/
theorem recorded_iff_valid (generated : generate project options = .ok output)
    (declared : project.metric? metric.name = some metric) :
    (∃ anchor ∈ output.anchors, anchor.metric = metric.name) ↔
      ∃ model ∈ project.models, metric.ValidOn project options.maxJoinHops model := by
  obtain ⟨set, accepted, diagnostics, rfl⟩ := generate_eq_ok generated
  rw [← MetricCatalog.metric?_ofProject] at declared
  constructor
  · intro recorded
    obtain ⟨anchor, anchorMember, name⟩ := recorded
    obtain ⟨resolved, member, rfl⟩ := List.mem_map.mp anchorMember
    obtain ⟨inCatalog, measures, passes⟩ := Generation.mem_resolvedMetrics_iff.mp member
    have found := MetricCatalog.metric?_eq_some_iff.mpr ⟨inCatalog, name⟩
    rw [declared, Option.some.injEq] at found
    subst found
    exact ⟨resolved.anchor.model, passes.validOn accepted⟩
  · intro valid
    obtain ⟨model, member, validOn⟩ := valid
    obtain ⟨resolved, measures, same, passes⟩ := exists_passes_of_validOn accepted member validOn
    subst same
    have inCatalog := (MetricCatalog.metric?_eq_some_iff.mp declared).1
    exact ⟨resolved.metricAnchor,
      List.mem_map_of_mem (Generation.mem_resolvedMetrics_iff.mpr ⟨inCatalog, measures, passes⟩), rfl⟩

theorem score_valid_and_spiral_not :
    ∃ score spiral, Project.shop.metric? "score" = some score ∧
      Project.shop.metric? "spiral" = some spiral ∧
      (∃ model ∈ Project.shop.models, score.ValidOn Project.shop (some 2) model) ∧
      ¬ ∃ model ∈ Project.shop.models, spiral.ValidOn Project.shop (some 2) model := by
  obtain ⟨output, generated, listed⟩ := Attempt.exists_ok_of_any
    (generate Project.shop { maxJoinHops := some 2 })
    (fun output => output.anchors.map MetricAnchor.metric == ["density", "score", "spending"])
    (by decide +kernel)
  have recorded : ∀ name, (∃ anchor ∈ output.anchors, anchor.metric = name) ↔
      name ∈ ["density", "score", "spending"] := by
    intro name
    rw [← beq_iff_eq.mp listed, List.mem_map]
  refine ⟨_, _, rfl, rfl, ?_, ?_⟩
  · exact (recorded_iff_valid generated rfl).mp ((recorded "score").mpr (by decide))
  · intro valid
    have found := (recorded "spiral").mp ((recorded_iff_valid generated rfl).mpr valid)
    simp at found

end SemanticLayer
