import SemanticLayer.Proofs.Generation.Exposure
import SemanticLayer.Proofs.Generation.MetricFields
import SemanticLayer.Proofs.LookML.ComposedText
import SemanticLayer.Proofs.MetricCatalog.Measures
namespace SemanticLayer

/-! References from one view to another.

What the SQL of a metric refers to is found where the metric is emitted: as a required field
of the measure, and in the explore of its view as a field of the one join to the other view. -/

open SemanticLayer.Order LookML

variable {project : Project} {options : Options} {output : Output} {set : ModelSet}

theorem validNames_of_owner (accepted : ModelSet.ofModels project.models = .ok set)
    (names : project.ValidNames) {measure : String} {owner : SemanticModel}
    (owned : set.ownerOfMeasure? measure = some owner) :
    isValidName owner.name ∧ isValidName measure := by
  obtain ⟨member, declares⟩ := (ModelSet.ownerOfMeasure?_eq_some_iff accepted).mp owned
  obtain ⟨declared, declaredMember, rfl⟩ := SemanticModel.declaresMeasure_iff.mp declares
  exact ⟨names.models owner member, names.measures owner member declared declaredMember⟩

namespace ResolvedMetric

variable {resolved : ResolvedMetric} {measures : SortedSet String}

/-- With valid names, the SQL of a metric refers to required fields and to measures of its model. -/
theorem Passes.faithful
    (passes : Passes set (.ofMetrics project.metrics) options resolved measures)
    (accepted : ModelSet.ofModels project.models = .ok set) (names : project.ValidNames)
    (expressions : project.PlainExpressions) (plain : options.naming.PlainPrefix)
    (declared : resolved.metric ∈ project.metrics) :
    resolved.composition.Faithful set resolved.anchor.model.name := by
  refine compose_faithful plain (fun _ _ owned => validNames_of_owner accepted names owned) ?_
    passes.composed
  intro path inner expression inputs trail kind
  exact expressions inner (MetricCatalog.mem_of_trail declared trail) expression inputs kind

/-- With valid names, what the SQL of a metric takes from another view is a required field. -/
theorem Passes.required_of_mentions
    (passes : Passes set (.ofMetrics project.metrics) options resolved measures)
    (accepted : ModelSet.ofModels project.models = .ok set) (names : project.ValidNames)
    (expressions : project.PlainExpressions) (plain : options.naming.PlainPrefix)
    (declared : resolved.metric ∈ project.metrics) {other measure : String}
    (mentions : Mentions resolved.composition.sql (other ++ "." ++ measure)) :
    other ++ "." ++ measure ∈ resolved.composition.requiredFields := by
  have faithful := passes.faithful accepted names expressions plain declared
  rcases faithful.allowed_of_mentions mentions with required | ⟨owner, owned, _⟩
  · exact required
  · -- A bare measure name has no dot.
    have measureValid := (validNames_of_owner accepted names owned).2
    have free := not_mem_of_isValidName (c := '.') measureValid (by decide)
    simp at free

/-- A required field is a measure that the metric depends on, of a model that is joined. -/
theorem Passes.exists_owner_of_required {catalog : MetricCatalog}
    (passes : Passes set catalog options resolved measures) {field : String}
    (required : field ∈ resolved.composition.requiredFields) :
    ∃ measure ∈ measures, ∃ owner, set.ownerOfMeasure? measure = some owner ∧
      field = options.naming.view owner.name ++ "." ++ measure ∧
      ∃ entry, JoinGraph.entry?
        (JoinGraph.build set resolved.anchor.model.name options.maxJoinHops) owner.name =
          some entry := by
  obtain ⟨path, inner, trail, measure, named, owner, owned, joined, written⟩ :=
    exists_trail_of_mem_requiredFields passes.composed field required
  have among : measure ∈ measures :=
    (MetricCatalog.mem_measures_iff passes.extracted).mpr ⟨path, inner, trail, named⟩
  obtain ⟨other, found, reached⟩ :=
    validateConnectivity_eq_ok_iff.mp passes.connected measure among
  rw [owned, Option.some.injEq] at found
  subst found
  exact ⟨measure, among, owner, owned, written,
    JoinGraph.exists_entry_iff.mpr ⟨joined, JoinGraph.reaches_build_iff.mp reached⟩⟩

end ResolvedMetric

theorem view_eq_of_field_eq (accepted : ModelSet.ofModels project.models = .ok set)
    (names : project.ValidNames) (plain : options.naming.PlainPrefix) {measure : String}
    {owner : SemanticModel} (owned : set.ownerOfMeasure? measure = some owner)
    {other otherMeasure : String}
    (same : options.naming.view owner.name ++ "." ++ measure = other ++ "." ++ otherMeasure) :
    options.naming.view owner.name = other := by
  obtain ⟨ownerValid, measureValid⟩ := validNames_of_owner accepted names owned
  have text : (options.naming.view owner.name).toList ++ '.' :: measure.toList =
      other.toList ++ '.' :: otherMeasure.toList := by
    simpa using congrArg String.toList same
  have parts := append_cons_inj_of_not_mem (not_mem_view plain ownerValid (by decide))
    (not_mem_of_isValidName measureValid (by decide)) text
  exact String.toList_inj.mp parts.1

namespace Generation

theorem joins_views_nodup (naming : Naming) (requirement : Requirement) (set : ModelSet)
    (base : String) (maxHops : Option Nat) :
    (naming.view base ::
      (LookML.joins naming requirement (JoinGraph.build set base maxHops)).map Join.view).Nodup := by
  have views : (LookML.joins naming requirement (JoinGraph.build set base maxHops)).map Join.view =
      ((JoinGraph.build set base maxHops).joins.map JoinEntry.target).map naming.view := by
    simp only [LookML.joins, List.map_map]
    rfl
  have distinct := (JoinGraph.joins_build_nodup set base maxHops).map (f := naming.view)
    fun _ _ => Naming.view_inj
  rwa [List.map_cons, ← views] at distinct

theorem joins_filter_view (options : Options) (requirement : Requirement) {base : String}
    {entry : JoinEntry}
    (member : entry ∈ (JoinGraph.build set base options.maxJoinHops).entries) :
    (LookML.joins options.naming requirement (JoinGraph.build set base options.maxJoinHops)).filter
        (fun join => join.view == options.naming.view entry.target) =
      [Join.ofEntry options.naming requirement entry] := by
  have views := joins_views_nodup options.naming requirement set base options.maxJoinHops
  exact filter_key_eq_singleton (List.nodup_cons.mp views).2
    (List.mem_map_of_mem (JoinGraph.mem_joins.mpr member))

/-- The explore of the anchor exposes every required field where its view is joined. -/
theorem exists_join_of_required {resolved : ResolvedMetric} {model : SemanticModel}
    {catalog : MetricCatalog} {field : String}
    (member : resolved ∈ resolvedMetrics set catalog options)
    (anchored : resolved.anchor.model.name = model.name)
    (required : field ∈ resolved.composition.requiredFields) :
    ∃ measure owner, set.ownerOfMeasure? measure = some owner ∧
      field = options.naming.view owner.name ++ "." ++ measure ∧
      ∃ join, (explore set options (resolvedMetrics set catalog options) model).joins.filter
          (fun join => join.view == options.naming.view owner.name) = [join] ∧
        field ∈ join.fields := by
  obtain ⟨_, measures, passes⟩ := mem_resolvedMetrics_iff.mp member
  obtain ⟨measure, among, owner, owned, written, entry, found⟩ :=
    passes.exists_owner_of_required required
  rw [anchored] at found
  obtain ⟨entryMember, target⟩ := JoinGraph.lookup_build_eq_some_iff.mp found
  have joined : owner.name ≠ model.name := by
    rw [← target]
    exact (JoinGraph.build_layered set model.name options.maxJoinHops).target_ne_base entryMember
  have single := joins_filter_view options
    (requirement (resolvedMetrics set catalog options) model.name) entryMember
  rw [target] at single
  refine ⟨measure, owner, owned, written, _, single, ?_⟩
  have exposed : measure ∈ (requirement (resolvedMetrics set catalog options)
      model.name).measuresFor entry.target := by
    rw [mem_requirement_resolved_iff, target]
    exact ⟨joined, ⟨owner, owned, rfl⟩, resolved, member, anchored, measures, passes.extracted, among⟩
  rw [written, ← target]
  exact List.mem_cons_of_mem _ (List.mem_map_of_mem exposed)

end Generation

/-- Every reference from the SQL of a metric to another view is a required field, and every
explore over the view of the metric exposes the required fields in the joins to their views. -/
theorem references_usable_where_emitted (names : project.ValidNames)
    (plain : options.naming.PlainPrefix) (expressions : project.PlainExpressions)
    (generated : generate project options = .ok output) {view : View}
    (viewMember : view ∈ output.views) {field : MetricField} (fieldMember : field ∈ view.metrics) :
    (∀ other measure, Mentions field.sql (other ++ "." ++ measure) →
      other ++ "." ++ measure ∈ field.requiredFields) ∧
    ∀ required ∈ field.requiredFields,
      (∃ other measure, required = other ++ "." ++ measure) ∧
      ∀ other measure, required = other ++ "." ++ measure →
        ∀ explore ∈ output.explores, explore.baseView = view.name →
          ∃ join, explore.joins.filter (fun join => join.view == other) = [join] ∧
            required ∈ join.fields := by
  obtain ⟨set, accepted, diagnostics, rfl⟩ := generate_eq_ok generated
  obtain ⟨model, _, rfl⟩ := List.mem_map.mp viewMember
  obtain ⟨resolved, member, anchored, sql, requiredFields⟩ := Generation.mem_metrics_view fieldMember
  obtain ⟨inCatalog, measures, passes⟩ := Generation.mem_resolvedMetrics_iff.mp member
  have declared := MetricCatalog.declared_of_mem inCatalog
  rw [sql, requiredFields]
  refine ⟨fun other measure mentions => ?_, fun required requiredMember => ?_⟩
  · exact passes.required_of_mentions accepted names expressions plain declared mentions
  · obtain ⟨measure, owner, owned, written, _⟩ :=
      Generation.exists_join_of_required member anchored requiredMember
    refine ⟨⟨_, measure, written⟩, ?_⟩
    intro other otherMeasure split explore exploreMember based
    obtain ⟨base, _, rfl⟩ := List.mem_map.mp exploreMember
    rw [Generation.name_view] at based
    have sameBase : base.name = model.name := Naming.view_inj based
    obtain ⟨measure, owner, owned, written, joined⟩ :=
      Generation.exists_join_of_required member (anchored.trans sameBase.symm) requiredMember
    have view : options.naming.view owner.name = other :=
      view_eq_of_field_eq accepted names plain owned (written.symm.trans split)
    rw [view] at joined
    exact joined

/-- The score of orders refers to the area of regions, which the join to regions exposes. -/
theorem shop_area_usable :
    ∃ output, generate Project.shop { naming := { viewPrefix := "shop_" } } = .ok output ∧
      ∃ view ∈ output.views, ∃ field ∈ view.metrics, Mentions field.sql "shop_regions.area" ∧
        "shop_regions.area" ∈ field.requiredFields ∧
        ∃ explore ∈ output.explores, explore.baseView = view.name ∧
          ∃ join, explore.joins.filter (fun join => join.view == "shop_regions") = [join] ∧
            "shop_regions.area" ∈ join.fields := by
  obtain ⟨output, generated, made⟩ := Attempt.exists_ok_of_any
    (generate Project.shop { naming := { viewPrefix := "shop_" } })
    (fun output => output.views.any fun view =>
      (view.metrics.any fun field => field.sql ==
        "(1.0 * ${revenue} / NULLIF(${shop_customers.headcount}, 0)) / " ++
        "(1.0 * ${shop_customers.headcount} / NULLIF(" ++ reference "shop_regions.area" ++ ", 0))") &&
      output.explores.any fun explore => explore.baseView == view.name)
    (by decide +kernel)
  simp only [List.any_eq_true, Bool.and_eq_true, beq_iff_eq] at made
  obtain ⟨view, viewMember, ⟨field, fieldMember, sql⟩, explore, exploreMember, based⟩ := made
  have names : Project.shop.ValidNames := ⟨by decide, by decide, by decide⟩
  have plain : Naming.PlainPrefix { viewPrefix := "shop_" } :=
    List.all_eq_true.mp (by decide : "shop_".toList.all isNameRest = true)
  have expressions : Project.shop.PlainExpressions := by
    intro metric member expression inputs kind
    simp only [Project.shop, List.mem_cons, List.not_mem_nil, or_false] at member
    rcases member with rfl | rfl | rfl | rfl <;> cases kind <;> decide
  obtain ⟨collected, usable⟩ :=
    references_usable_where_emitted names plain expressions generated viewMember fieldMember
  have mentions : Mentions field.sql "shop_regions.area" := ⟨by decide, _, ", 0))", sql⟩
  have required := collected "shop_regions" "area" mentions
  have joined := (usable _ required).2 "shop_regions" "area" rfl explore exploreMember based
  exact ⟨output, generated, view, viewMember, field, fieldMember, mentions, required, explore,
    exploreMember, based, joined⟩

end SemanticLayer
