import SemanticLayer.Proofs.Generation.Outcome
import SemanticLayer.Proofs.JoinGraph.EmissionOrder
import SemanticLayer.Proofs.LookML.ValidName
import SemanticLayer.Proofs.ModelSet.Ownership
import SemanticLayer.Proofs.Requirement
namespace SemanticLayer

/-! What the joins of an explore expose.

A join exposes the dimensions of its model and, of its measures, those that a metric anchored
on the base model needs: none is missing and none leaks from another metric. -/

open SemanticLayer.Order LookML

variable {project : Project} {options : Options} {output : Output} {set : ModelSet}

/-- A metric anchored on `model` depends on `measure`. -/
def Output.Needs (project : Project) (output : Output) (model measure : String) : Prop :=
  ∃ anchor ∈ output.anchors, anchor.model = model ∧
    ∃ metric, project.metric? anchor.metric = some metric ∧
      ∃ measures, (MetricCatalog.ofMetrics project.metrics).measures metric = .ok measures ∧
        measure ∈ measures

namespace Generation

variable {catalog : MetricCatalog} {base model measure : String}

theorem mem_requirement_iff {resolved : List ResolvedMetric} :
    measure ∈ (requirement resolved base).measuresFor model ↔
      ∃ metric ∈ resolved, metric.anchor.model.name = base ∧
        measure ∈ metric.requirement.measuresFor model ∧ model ≠ base := by
  unfold requirement
  rw [(Requirement.adds_mergeAll _).mem, or_iff_right (Requirement.not_mem_measuresFor_empty base)]
  simp only [List.mem_map, List.mem_filter, ResolvedMetric.isAnchoredOn, beq_iff_eq]
  constructor
  · intro needed
    obtain ⟨⟨_, ⟨metric, ⟨member, anchored⟩, rfl⟩, inside⟩, joined⟩ := needed
    exact ⟨metric, member, anchored, inside, joined⟩
  · intro needed
    obtain ⟨metric, member, anchored, inside, joined⟩ := needed
    exact ⟨⟨_, ⟨metric, ⟨member, anchored⟩, rfl⟩, inside⟩, joined⟩

theorem mem_requirement_resolved_iff :
    measure ∈ (requirement (resolvedMetrics set catalog options) base).measuresFor model ↔
      model ≠ base ∧
      (∃ owner, set.ownerOfMeasure? measure = some owner ∧ owner.name = model) ∧
      ∃ resolved ∈ resolvedMetrics set catalog options, resolved.anchor.model.name = base ∧
        ∃ measures, catalog.measures resolved.metric = .ok measures ∧ measure ∈ measures := by
  rw [mem_requirement_iff]
  constructor
  · intro needed
    obtain ⟨resolved, member, anchored, inside, joined⟩ := needed
    obtain ⟨_, measures, passes⟩ := mem_resolvedMetrics_iff.mp member
    rw [passes.required, mem_requiredMeasures_iff] at inside
    exact ⟨joined, inside.2.2, resolved, member, anchored, measures, passes.extracted, inside.1⟩
  · intro needed
    obtain ⟨joined, owner, resolved, member, anchored, measures, extracted, among⟩ := needed
    refine ⟨resolved, member, anchored, ?_, joined⟩
    obtain ⟨_, found, passes⟩ := mem_resolvedMetrics_iff.mp member
    have same := passes.extracted
    rw [extracted, Except.ok.injEq] at same
    subst same
    rw [passes.required, mem_requiredMeasures_iff, anchored]
    exact ⟨among, joined, owner⟩

theorem needs_assemble_iff {diagnostics : List MetricError} :
    (assemble set options (resolvedMetrics set (.ofMetrics project.metrics) options)
        diagnostics).Needs project base measure ↔
      ∃ resolved ∈ resolvedMetrics set (.ofMetrics project.metrics) options,
        resolved.anchor.model.name = base ∧ ∃ measures,
          (MetricCatalog.ofMetrics project.metrics).measures resolved.metric = .ok measures ∧
            measure ∈ measures := by
  constructor
  · intro needs
    obtain ⟨anchor, anchorMember, model, metric, found, extraction⟩ := needs
    obtain ⟨resolved, member, rfl⟩ := List.mem_map.mp anchorMember
    obtain ⟨declared, _⟩ := mem_resolvedMetrics_iff.mp member
    have same : project.metric? resolved.metric.name = some resolved.metric := by
      rw [← MetricCatalog.metric?_ofProject]
      exact MetricCatalog.metric?_eq_some_iff.mpr ⟨declared, rfl⟩
    rw [show resolved.metricAnchor.metric = resolved.metric.name from rfl, same,
      Option.some.injEq] at found
    rw [← found] at extraction
    exact ⟨resolved, member, model, extraction⟩
  · intro needs
    obtain ⟨resolved, member, model, extraction⟩ := needs
    obtain ⟨declared, _⟩ := mem_resolvedMetrics_iff.mp member
    refine ⟨resolved.metricAnchor, List.mem_map_of_mem member, model, resolved.metric, ?_, extraction⟩
    rw [← MetricCatalog.metric?_ofProject]
    exact MetricCatalog.metric?_eq_some_iff.mpr ⟨declared, rfl⟩

/-- Of the measures of another model, the base needs those that a metric anchored on it reads. -/
theorem mem_measuresFor_iff (options : Options)
    (accepted : ModelSet.ofModels project.models = .ok set) {target : SemanticModel}
    (targetMember : target ∈ project.models) (joined : target.name ≠ base)
    (diagnostics : List MetricError) (measure : String) :
    measure ∈ (requirement (resolvedMetrics set (.ofMetrics project.metrics) options)
        base).measuresFor target.name ↔
      target.declaresMeasure measure ∧
        (assemble set options (resolvedMetrics set (.ofMetrics project.metrics) options)
          diagnostics).Needs project base measure := by
  rw [mem_requirement_resolved_iff, needs_assemble_iff]
  constructor
  · intro needed
    obtain ⟨_, ⟨owner, owns, same⟩, needs⟩ := needed
    obtain ⟨ownerMember, declares⟩ := (ModelSet.ownerOfMeasure?_eq_some_iff accepted).mp owns
    rw [ModelSet.eq_of_name_eq accepted ownerMember targetMember same] at declares
    exact ⟨declares, needs⟩
  · intro needed
    obtain ⟨declares, needs⟩ := needed
    have owns := (ModelSet.ownerOfMeasure?_eq_some_iff accepted).mpr ⟨targetMember, declares⟩
    exact ⟨joined, ⟨target, owns, rfl⟩, needs⟩

end Generation

theorem LookML.append_lt_append_left {first second : String} (start : String)
    (below : first < second) : start ++ first < start ++ second := by
  rw [String.lt_iff] at below ⊢
  simp only [String.toList_append]
  exact List.append_left_lt below

/-- After the dimensions, a join lists the measures of its model that a metric anchored on the
base model needs, in ascending order and nothing else. -/
theorem joins_expose_needed_measures (generated : generate project options = .ok output)
    {explore : Explore} (exploreMember : explore ∈ output.explores) :
    ∃ base ∈ project.models, explore.name = options.naming.explore base.name ∧
      explore.baseView = options.naming.view base.name ∧
      ∀ join ∈ explore.joins, ∃ target ∈ project.models,
        join.view = options.naming.view target.name ∧ ∃ exposed,
          join.fields = (options.naming.view target.name ++ ".dimensions_only*") :: exposed ∧
          exposed.Pairwise (· < ·) ∧
          ∀ field, field ∈ exposed ↔ ∃ measure,
            field = options.naming.view target.name ++ "." ++ measure ∧
            target.declaresMeasure measure ∧ output.Needs project base.name measure := by
  obtain ⟨set, accepted, diagnostics, rfl⟩ := generate_eq_ok generated
  obtain ⟨base, baseSelected, rfl⟩ := List.mem_map.mp exploreMember
  have baseMember := (ModelSet.mem_models_iff accepted).mp (List.mem_of_mem_filter baseSelected)
  refine ⟨base, baseMember, rfl, rfl, ?_⟩
  intro join joinMember
  obtain ⟨entry, entryMember, rfl⟩ := List.mem_map.mp joinMember
  have layered := JoinGraph.build_layered set base.name options.maxJoinHops
  have entered := JoinGraph.mem_joins.mp entryMember
  obtain ⟨link, _⟩ := ModelSet.mem_linksFrom.mp (layered.leaves entry entered)
  obtain ⟨target, targetInSet, name⟩ := List.mem_map.mp (ModelSet.target_mem_names link)
  have targetMember := (ModelSet.mem_models_iff accepted).mp targetInSet
  have joined : target.name ≠ base.name := name ▸ layered.target_ne_base entered
  let required := Generation.requirement
    (Generation.resolvedMetrics set (.ofMetrics project.metrics) options) base.name
  refine ⟨target, targetMember, congrArg options.naming.view name.symm,
    (required.measuresFor target.name).items.map fun measure =>
      options.naming.view target.name ++ "." ++ measure, ?_, ?_, ?_⟩
  · have fields : (Join.ofEntry options.naming required entry).fields =
        joinFields options.naming required target.name :=
      congrArg (joinFields options.naming required) name.symm
    rw [fields]
    simp only [joinFields, dimensionsOnly, String.append_assoc]
    rfl
  · exact (required.measuresFor target.name).ascending.map _
      fun _ _ below => append_lt_append_left _ below
  · intro field
    have exposure := Generation.mem_measuresFor_iff options accepted targetMember joined diagnostics
    simp only [List.mem_map, ← SortedSet.mem_def, required, exposure]
    constructor
    · intro listed
      obtain ⟨measure, needed, rfl⟩ := listed
      exact ⟨measure, rfl, needed⟩
    · intro listed
      obtain ⟨measure, rfl, needed⟩ := listed
      exact ⟨measure, needed, rfl⟩

/-- Orders join the regions, two hops away, with the area that the score needs. -/
theorem shop_orders_need_area :
    ∃ output, generate Project.shop {} = .ok output ∧ ∃ explore ∈ output.explores,
      ∃ base ∈ Project.shop.models, explore.name = base.name ∧ ∃ join ∈ explore.joins,
        join.fields = ["regions.dimensions_only*", "regions.area"] ∧ ∃ measure,
          "regions.area" = join.view ++ "." ++ measure ∧
            output.Needs Project.shop base.name measure := by
  obtain ⟨output, generated, listed⟩ := Attempt.exists_ok_of_any (generate Project.shop {})
    (fun output => output.explores.any fun explore => explore.name == "orders" &&
      explore.joins.any fun join => join.fields == ["regions.dimensions_only*", "regions.area"])
    (by decide +kernel)
  simp only [List.any_eq_true, Bool.and_eq_true, beq_iff_eq] at listed
  obtain ⟨explore, exploreMember, _, join, joinMember, fields⟩ := listed
  obtain ⟨base, baseMember, name, _, joins⟩ := joins_expose_needed_measures generated exploreMember
  obtain ⟨target, _, view, exposed, whole, _, exact⟩ := joins join joinMember
  rw [fields, List.cons.injEq] at whole
  have area : "regions.area" ∈ exposed := by simp [← whole.2]
  obtain ⟨measure, written, _, needs⟩ := (exact "regions.area").mp area
  rw [← view] at written
  have same : explore.name = base.name := by simpa [Naming.explore] using name
  exact ⟨output, generated, explore, exploreMember, base, baseMember, same, join, joinMember, fields,
    measure, written, needs⟩

end SemanticLayer
