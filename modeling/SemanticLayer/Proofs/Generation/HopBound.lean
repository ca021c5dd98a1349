import SemanticLayer.Proofs.Generation.Failure
import SemanticLayer.Proofs.Generation.Growth
import SemanticLayer.Proofs.JoinGraph.HopBound
namespace SemanticLayer

/-! Runs under a tighter and under a looser bound on the hops.

The looser run has all that the tighter one has: the metrics that pass there pass here with the
same SQL, and the joins within the tighter bound come first, in the same order. -/

open SemanticLayer.Order LookML JoinGraph

/-- `explore` without the joins that are farther away than `bound`. -/
def LookML.Explore.near (bound : Option Nat) (explore : Explore) : Explore :=
  { explore with
    joins := explore.joins.filter fun join => bound.all fun hops => join.hopCount ≤ hops }

variable {set : ModelSet} {catalog : MetricCatalog} {options : Options} {low high : Option Nat}

section Tighter

variable (tighter : Tighter low high)
include tighter

theorem ResolvedMetric.Passes.of_tighter {resolved : ResolvedMetric} {measures : SortedSet String}
    (passes : Passes set catalog { options with maxJoinHops := low } resolved measures) :
    Passes set catalog { options with maxJoinHops := high } resolved measures := by
  have connected : validateConnectivity set
      (JoinGraph.build set resolved.anchor.model.name high) resolved.metric.name
      resolved.anchor.model.name measures.items = .ok () := by
    rw [validateConnectivity_eq_ok_iff]
    intro measure member
    obtain ⟨owner, owned, reached⟩ := validateConnectivity_eq_ok_iff.mp passes.connected measure member
    exact ⟨owner, owned, reaches_build_of_tighter tighter reached⟩
  exact ⟨passes.anchored, passes.extracted, connected, passes.composed, passes.required⟩

namespace Generation

theorem resolvedMetrics_sublist_of_tighter (metrics : List Metric) :
    (resolvedMetrics set (.ofMetrics metrics) { options with maxJoinHops := low }).Sublist
      (resolvedMetrics set (.ofMetrics metrics) { options with maxJoinHops := high }) := by
  refine sublist_of_subset_of_ascending (fun resolved => resolved.metric.name) ?_
    (resolvedMetrics_ascending set metrics _) (resolvedMetrics_ascending set metrics _)
  intro resolved member
  obtain ⟨inCatalog, measures, passes⟩ := mem_resolvedMetrics_iff.mp member
  exact mem_resolvedMetrics_iff.mpr ⟨inCatalog, measures, passes.of_tighter tighter⟩

theorem explore_near {resolved more : List ResolvedMetric} (kept : resolved ⊆ more)
    (model : SemanticModel) :
    (explore set { options with maxJoinHops := low } resolved model).Restricts
        ((explore set { options with maxJoinHops := high } more model).near low) ∧
      ((explore set { options with maxJoinHops := high } more model).near low).joins <+:
        (explore set { options with maxJoinHops := high } more model).joins := by
  obtain ⟨farther, whole, beyond⟩ := joins_build_of_tighter tighter set model.name
  let wider := Join.ofEntry options.naming (requirement more model.name)
  have joined : (explore set { options with maxJoinHops := high } more model).joins =
      (build set model.name low).joins.map wider ++ farther.map wider := by
    rw [← List.map_append, ← whole]
    rfl
  have near : ((explore set { options with maxJoinHops := high } more model).near low).joins =
      (build set model.name low).joins.map wider := by
    have inside : ∀ join ∈ (build set model.name low).joins.map wider,
        (low.all fun hops => join.hopCount ≤ hops) = true := by
      intro join member
      obtain ⟨entry, entryMember, rfl⟩ := List.mem_map.mp member
      rw [Option.all_eq_true]
      intro bound same
      exact decide_eq_true (hopCount_le_bound entryMember bound same)
    have outside : ∀ join ∈ farther.map wider,
        ¬ (low.all fun hops => join.hopCount ≤ hops) = true := by
      intro join member
      obtain ⟨entry, entryMember, rfl⟩ := List.mem_map.mp member
      obtain ⟨bound, same, above⟩ := beyond entry entryMember
      rw [Option.all_eq_true]
      intro within
      exact absurd (of_decide_eq_true (within bound same)) (Nat.not_le.mpr above)
    rw [Explore.near, joined, List.filter_append, List.filter_eq_self.mpr inside,
      List.filter_eq_nil_iff.mpr outside, List.append_nil]
  refine ⟨⟨rfl, ?_⟩, ?_⟩
  · rw [near]
    exact Join.restricts_map (covers_of_subset kept model.name) _
  · rw [near, joined]
    exact List.prefix_append _ _

end Generation

end Tighter

open Generation

/-- A looser bound on the hops only adds. The explores are the same; each has the joins of the
tighter run first, which are its joins within the tighter bound, and exposes at least the same
fields in them. All anchors are kept, and each has the same field but for the name. -/
theorem looser_bound_only_adds {project : Project} {options : Options} {output : Output}
    (tighter : Tighter low high)
    (generated : generate project { options with mode := .lenient, maxJoinHops := low } = .ok output) :
    ∃ more, generate project { options with mode := .lenient, maxJoinHops := high } = .ok more ∧
      List.Forall₂ (fun explore wider => explore.Restricts (wider.near low) ∧
        (wider.near low).joins <+: wider.joins) output.explores more.explores ∧
      output.anchors.Sublist more.anchors ∧
      ∀ anchor ∈ output.anchors, ∃ field name,
        output.fieldsOf anchor = [field] ∧ more.fieldsOf anchor = [{ field with name }] := by
  obtain ⟨set, accepted, _⟩ := generate_eq_ok generated
  have looser := generate_lenient { options with maxJoinHops := high } accepted
  rw [generate_lenient { options with maxJoinHops := low } accepted, Except.ok.injEq] at generated
  subst generated
  have kept : (resolvedMetrics set (.ofMetrics project.metrics)
        { options with maxJoinHops := low }).Sublist
      (resolvedMetrics set (.ofMetrics project.metrics) { options with maxJoinHops := high }) :=
    resolvedMetrics_sublist_of_tighter tighter project.metrics
  refine ⟨_, looser, ?_, kept.map _, ?_⟩
  · simp only [assemble, List.forall₂_map_left_iff, List.forall₂_map_right_iff]
    exact List.forall₂_same.mpr fun model _ => explore_near tighter kept.subset model
  · intro anchor member
    obtain ⟨resolved, resolvedMember, rfl⟩ := List.mem_map.mp member
    exact same_field accepted accepted resolvedMember (kept.subset resolvedMember) _ _

/-- Within one hop the score of orders cannot use the area of regions; without a bound it can,
and the other metrics stay as they are. -/
theorem shop_one_hop :
    Tighter (some 1) none ∧ ∃ output, generate Project.shop { maxJoinHops := some 1 } = .ok output ∧
      output.anchors.map MetricAnchor.metric = ["density", "spending"] ∧
      ∃ more, generate Project.shop {} = .ok more ∧
        more.anchors.map MetricAnchor.metric = ["density", "score", "spending"] ∧
        List.Forall₂ (fun explore wider => explore.Restricts (wider.near (some 1)) ∧
          (wider.near (some 1)).joins <+: wider.joins) output.explores more.explores ∧
        output.anchors.Sublist more.anchors ∧
        ∀ anchor ∈ output.anchors, ∃ field name,
          output.fieldsOf anchor = [field] ∧ more.fieldsOf anchor = [{ field with name }] := by
  have tighter : Tighter (some 1) none := fun _ member => by cases member
  obtain ⟨output, generated, listed⟩ := Attempt.exists_ok_of_any
    (generate Project.shop { maxJoinHops := some 1 })
    (fun output => output.anchors.map MetricAnchor.metric == ["density", "spending"])
    (by decide +kernel)
  obtain ⟨more, unbounded, moreListed⟩ := Attempt.exists_ok_of_any (generate Project.shop {})
    (fun output => output.anchors.map MetricAnchor.metric == ["density", "score", "spending"])
    (by decide +kernel)
  obtain ⟨other, looser, added⟩ :=
    @looser_bound_only_adds (some 1) none Project.shop {} output tighter generated
  have same : other = more := Except.ok.inj (looser.symm.trans unbounded)
  subst same
  exact ⟨tighter, output, generated, beq_iff_eq.mp listed, other, unbounded,
    beq_iff_eq.mp moreListed, added⟩

end SemanticLayer
