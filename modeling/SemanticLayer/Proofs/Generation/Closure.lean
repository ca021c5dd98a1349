import SemanticLayer.Proofs.Generation.CrossReference
import SemanticLayer.Proofs.ModelSet.LinkEnd
import SemanticLayer.Proofs.Order.Sorting
namespace SemanticLayer

/-! The output refers to nothing outside itself.

Every view, join and field that some part of the output names is another part of it. -/

open SemanticLayer.Order LookML

variable {project : Project} {options : Options} {output : Output} {set : ModelSet}
  {model : SemanticModel}

/-- Names in the output are unambiguous, and what they refer to is there. -/
structure Output.Closed (output : Output) : Prop where
  views : (output.views.map View.name).Nodup
  explores : (output.explores.map Explore.name).Nodup
  /-- An explore neither joins a view twice nor its own one. -/
  joins : ∀ explore ∈ output.explores, (explore.baseView :: explore.joins.map Join.view).Nodup
  based : ∀ explore ∈ output.explores, ∃ view ∈ output.views, view.name = explore.baseView
  /-- Behind the set of dimensions, a join lists measures of the joined view. -/
  joined : ∀ explore ∈ output.explores, ∀ join ∈ explore.joins,
    ∃ view ∈ output.views, view.name = join.view ∧
      ∀ field ∈ join.fields.tail, ∃ measure ∈ view.measures,
        field = view.name ++ "." ++ measure.name
  /-- A metric requires measures of other views only. -/
  required : ∀ view ∈ output.views, ∀ field ∈ view.metrics, ∀ required ∈ field.requiredFields,
    ∃ other ∈ output.views, other.name ≠ view.name ∧
      ∃ measure ∈ other.measures, required = other.name ++ "." ++ measure.name

theorem ModelSet.names_ascending (accepted : ofModels project.models = .ok set) :
    (set.models.map SemanticModel.name).Pairwise (· < ·) := by
  obtain ⟨unambiguous, rfl⟩ := ofModels_eq_ok_iff.mp accepted
  exact sortedOn_ascending unambiguous.names

namespace Generation

variable {resolved : List ResolvedMetric} {diagnostics : List MetricError}

theorem isExplored_iff :
    isExplored options model ↔ (∃ primary, model.primaryEntity? = some primary) ∧
      ∀ names, options.explores = some names → model.name ∈ names := by
  unfold isExplored
  cases options.explores with
  | none => simp [Option.isSome_iff_exists]
  | some names => simp [Option.isSome_iff_exists]

theorem exists_measure_view {measure : String} (declares : model.declaresMeasure measure) :
    ∃ field ∈ (view options resolved model).measures, field.name = measure := by
  obtain ⟨declared, member, rfl⟩ := SemanticModel.declaresMeasure_iff.mp declares
  rw [measures_view]
  exact ⟨MeasureField.ofMeasure declared, List.mem_map_of_mem member, rfl⟩

theorem view_names (set : ModelSet) (options : Options) (resolved : List ResolvedMetric) :
    (set.models.map (view options resolved)).map View.name =
      (set.models.map SemanticModel.name).map options.naming.view := by
  rw [List.map_map, List.map_map]
  exact List.map_congr_left fun model _ => name_view

theorem exists_joined_view (accepted : ModelSet.ofModels project.models = .ok set) {join : Join}
    (member : join ∈ (explore set options
      (resolvedMetrics set (.ofMetrics project.metrics) options) model).joins) :
    ∃ view ∈ (assemble set options (resolvedMetrics set (.ofMetrics project.metrics) options)
        diagnostics).views, view.name = join.view ∧
      ∀ field ∈ join.fields.tail, ∃ measure ∈ view.measures,
        field = view.name ++ "." ++ measure.name := by
  obtain ⟨entry, entryMember, rfl⟩ := List.mem_map.mp member
  obtain ⟨target, targetMember, name, _⟩ :=
    ModelSet.exists_target (JoinGraph.link_mem_links entryMember)
  have joined : target.name ≠ model.name := by
    rw [name]
    exact (JoinGraph.build_layered set model.name options.maxJoinHops).target_ne_base
      (JoinGraph.mem_joins.mp entryMember)
  refine ⟨_, List.mem_map_of_mem targetMember, ?_, ?_⟩
  · rw [name_view, name]
    rfl
  · intro field exposed
    obtain ⟨measure, needed, rfl⟩ := List.mem_map.mp exposed
    rw [JoinEntry.target, ← name] at needed
    obtain ⟨declares, _⟩ := (mem_measuresFor_iff options accepted
      ((ModelSet.mem_models_iff accepted).mp targetMember) joined diagnostics measure).mp needed
    obtain ⟨measureField, measureMember, rfl⟩ := exists_measure_view declares
    refine ⟨measureField, measureMember, ?_⟩
    rw [name_view, name]
    rfl

theorem exists_required_view (accepted : ModelSet.ofModels project.models = .ok set)
    {field : MetricField} {required : String}
    (member : field ∈ (view options
      (resolvedMetrics set (.ofMetrics project.metrics) options) model).metrics)
    (requires : required ∈ field.requiredFields) :
    ∃ other ∈ (assemble set options (resolvedMetrics set (.ofMetrics project.metrics) options)
        diagnostics).views, other.name ≠ options.naming.view model.name ∧
      ∃ measure ∈ other.measures, required = other.name ++ "." ++ measure.name := by
  obtain ⟨metric, metricMember, anchored, _, requiredFields⟩ := mem_metrics_view member
  obtain ⟨_, measures, passes⟩ := mem_resolvedMetrics_iff.mp metricMember
  rw [requiredFields] at requires
  obtain ⟨measure, _, owner, owned, written, entry, found⟩ := passes.exists_owner_of_required requires
  obtain ⟨entryMember, target⟩ := JoinGraph.lookup_build_eq_some_iff.mp found
  have joined : owner.name ≠ model.name := by
    rw [← target, ← anchored]
    exact (JoinGraph.build_layered set _ options.maxJoinHops).target_ne_base entryMember
  obtain ⟨ownerMember, declares⟩ := (ModelSet.ownerOfMeasure?_eq_some_iff accepted).mp owned
  refine ⟨_, List.mem_map_of_mem ((ModelSet.mem_models_iff accepted).mpr ownerMember), ?_, ?_⟩
  · rw [name_view]
    exact fun same => joined (Naming.view_inj same)
  · obtain ⟨measureField, measureMember, rfl⟩ := exists_measure_view declares
    refine ⟨measureField, measureMember, ?_⟩
    rw [name_view, written]

theorem assemble_closed (accepted : ModelSet.ofModels project.models = .ok set) :
    (assemble set options (resolvedMetrics set (.ofMetrics project.metrics) options)
      diagnostics).Closed where
  views := by
    rw [assemble, view_names]
    exact (ModelSet.names_nodup accepted).map fun _ _ => Naming.view_inj
  explores := by
    rw [assemble, List.map_map]
    have names := (ModelSet.names_nodup accepted).sublist
      (List.filter_sublist (p := isExplored options) |>.map SemanticModel.name)
    have explored := names.map (f := options.naming.explore) fun _ _ same =>
      (String.append_right_inj options.naming.explorePrefix).mp same
    rwa [List.map_map] at explored
  joins := by
    intro explore member
    obtain ⟨model, _, rfl⟩ := List.mem_map.mp member
    exact joins_views_nodup options.naming _ set model.name options.maxJoinHops
  based := by
    intro explore member
    obtain ⟨model, selected, rfl⟩ := List.mem_map.mp member
    exact ⟨_, List.mem_map_of_mem (List.mem_of_mem_filter selected), name_view⟩
  joined := by
    intro explore member join joinMember
    obtain ⟨model, _, rfl⟩ := List.mem_map.mp member
    exact exists_joined_view accepted joinMember
  required := by
    intro view member field fieldMember required requires
    obtain ⟨model, _, rfl⟩ := List.mem_map.mp member
    rw [name_view]
    exact exists_required_view accepted fieldMember requires

/-- With valid names, a reference without a view is to a measure of the same view. -/
theorem exists_measure_of_bare (accepted : ModelSet.ofModels project.models = .ok set)
    (names : project.ValidNames) (plain : options.naming.PlainPrefix)
    (expressions : project.PlainExpressions) (modelMember : model ∈ project.models)
    {field : MetricField}
    (member : field ∈ (view options
      (resolvedMetrics set (.ofMetrics project.metrics) options) model).metrics)
    {measure : String} (bare : '.' ∉ measure.toList) (mentions : Mentions field.sql measure) :
    ∃ declared ∈ (view options (resolvedMetrics set (.ofMetrics project.metrics) options)
      model).measures, declared.name = measure := by
  obtain ⟨metric, metricMember, anchored, sql, _⟩ := mem_metrics_view member
  obtain ⟨inCatalog, measures, passes⟩ := mem_resolvedMetrics_iff.mp metricMember
  have faithful := passes.faithful accepted names expressions plain
    (MetricCatalog.declared_of_mem inCatalog)
  rw [sql] at mentions
  rcases faithful.allowed_of_mentions mentions with required | ⟨owner, owned, own⟩
  · -- A required field is qualified with its view.
    obtain ⟨_, _, _, _, written, _⟩ := passes.exists_owner_of_required required
    simp [written] at bare
  · obtain ⟨ownerMember, declares⟩ := (ModelSet.ownerOfMeasure?_eq_some_iff accepted).mp owned
    have same := ModelSet.eq_of_name_eq accepted ownerMember modelMember (own.trans anchored)
    rw [same] at declares
    exact exists_measure_view declares

end Generation

/-- There is one view for every model and one explore for every model that is to have one, in
ascending order of the names of the models, and whatever the output refers to is part of it. With
valid names, a bare reference in the SQL of a metric is to a measure of the view of the metric. -/
theorem output_closed_under_reference (generated : generate project options = .ok output) :
    (∃ models : List SemanticModel, models.Perm project.models ∧
      (models.map SemanticModel.name).Pairwise (· < ·) ∧
      output.views.map (fun view => (view.model, view.name)) =
        models.map fun model => (model.name, options.naming.view model.name)) ∧
    (∃ explored : List SemanticModel,
      (∀ model, model ∈ explored ↔ model ∈ project.models ∧
        (∃ primary, model.primaryEntity? = some primary) ∧
        ∀ names, options.explores = some names → model.name ∈ names) ∧
      (explored.map SemanticModel.name).Pairwise (· < ·) ∧
      output.explores.map (fun explore => (explore.name, explore.baseView)) =
        explored.map fun model =>
          (options.naming.explore model.name, options.naming.view model.name)) ∧
    output.Closed ∧
    (project.ValidNames → options.naming.PlainPrefix → project.PlainExpressions →
      ∀ view ∈ output.views, ∀ field ∈ view.metrics, ∀ measure, '.' ∉ measure.toList →
        Mentions field.sql measure → ∃ declared ∈ view.measures, declared.name = measure) := by
  obtain ⟨set, accepted, diagnostics, rfl⟩ := generate_eq_ok generated
  have ascending := ModelSet.names_ascending accepted
  have exploredAscending := ascending.sublist
    ((List.filter_sublist (p := Generation.isExplored options)).map SemanticModel.name)
  refine ⟨⟨set.models, ModelSet.models_perm accepted, ascending, ?_⟩,
    ⟨set.models.filter (Generation.isExplored options), ?_, exploredAscending, ?_⟩,
    Generation.assemble_closed accepted, ?_⟩
  · rw [Generation.assemble, List.map_map]
    refine List.map_congr_left fun model _ => ?_
    rw [Function.comp_apply, Generation.model_view, Generation.name_view]
  · intro model
    rw [List.mem_filter, ModelSet.mem_models_iff accepted, Generation.isExplored_iff]
  · rw [Generation.assemble, List.map_map]
    rfl
  · intro names plain expressions view viewMember field fieldMember measure bare mentions
    obtain ⟨model, member, rfl⟩ := List.mem_map.mp viewMember
    exact Generation.exists_measure_of_bare accepted names plain expressions
      ((ModelSet.mem_models_iff accepted).mp member) fieldMember bare mentions

/-- The score of orders refers to a revenue that the view of orders has. -/
theorem shop_revenue_defined :
    ∃ output, generate Project.shop { naming := { viewPrefix := "shop_" } } = .ok output ∧
      output.Closed ∧ ∃ view ∈ output.views, ∃ field ∈ view.metrics,
        Mentions field.sql "revenue" ∧
          ∃ declared ∈ view.measures, declared.name = "revenue" := by
  obtain ⟨output, generated, made⟩ := Attempt.exists_ok_of_any
    (generate Project.shop { naming := { viewPrefix := "shop_" } })
    (fun output => output.views.any fun view => view.metrics.any fun field => field.sql ==
      "(1.0 * " ++ reference "revenue" ++ (" / NULLIF(${shop_customers.headcount}, 0)) / " ++
        "(1.0 * ${shop_customers.headcount} / NULLIF(${shop_regions.area}, 0))"))
    (by decide +kernel)
  simp only [List.any_eq_true, beq_iff_eq] at made
  obtain ⟨view, viewMember, field, fieldMember, sql⟩ := made
  have names : Project.shop.ValidNames := ⟨by decide, by decide, by decide⟩
  have plain : Naming.PlainPrefix { viewPrefix := "shop_" } :=
    List.all_eq_true.mp (by decide : "shop_".toList.all isNameRest = true)
  have expressions : Project.shop.PlainExpressions := by
    intro metric member expression inputs kind
    simp only [Project.shop, List.mem_cons, List.not_mem_nil, or_false] at member
    rcases member with rfl | rfl | rfl | rfl <;> cases kind <;> decide
  obtain ⟨_, _, closed, bare⟩ := output_closed_under_reference generated
  have mentions : Mentions field.sql "revenue" := ⟨by decide, _, _, sql⟩
  exact ⟨output, generated, closed, view, viewMember, field, fieldMember, mentions,
    bare names plain expressions view viewMember field fieldMember "revenue" (by decide) mentions⟩

end SemanticLayer
