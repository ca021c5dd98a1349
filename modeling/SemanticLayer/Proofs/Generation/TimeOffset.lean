import SemanticLayer.Proofs.Generation.DeclarationOrder
namespace SemanticLayer

/-! Offsets in time.

An input of a derived metric may ask for the value at another time. No field can say so, and the
offset is passed over: every step of a run is the same with it and without it. -/

open SemanticLayer.Order

theorem Order.map_eq_self_iff {change : α → α} {items : List α} :
    items.map change = items ↔ ∀ item ∈ items, change item = item := by
  have kept : items.map change = items.map id ↔ ∀ item ∈ items, change item = item :=
    List.map_inj_left
  rwa [List.map_id] at kept

namespace MetricInput

def withoutOffset (input : MetricInput) : MetricInput :=
  { input with offsetWindow := none, offsetToGrain := none }

theorem withoutOffset_eq_self_iff {input : MetricInput} :
    input.withoutOffset = input ↔ input.hasOffset = false := by
  obtain ⟨name, aliasName, window, grain⟩ := input
  cases window <;> cases grain <;> simp [withoutOffset, hasOffset]

end MetricInput

def MetricKind.withoutOffsets : MetricKind → MetricKind
  | .derived expression inputs => .derived expression (inputs.map MetricInput.withoutOffset)
  | kind => kind

namespace Metric

variable {metric : Metric}

def withoutOffsets (metric : Metric) : Metric := { metric with kind := metric.kind.withoutOffsets }

theorem type_withoutOffsets : metric.withoutOffsets.type = metric.type := by
  unfold Metric.type withoutOffsets
  cases metric.kind <;> rfl

theorem inputs_withoutOffsets :
    metric.withoutOffsets.inputs = metric.inputs.map MetricInput.withoutOffset := by
  unfold Metric.inputs withoutOffsets
  cases metric.kind <;> rfl

/-- A metric is changed when one of its inputs has an offset. -/
theorem withoutOffsets_eq_self_iff :
    metric.withoutOffsets = metric ↔ ∀ input ∈ metric.inputs, input.hasOffset = false := by
  obtain ⟨name, kind, primaryEntity, display⟩ := metric
  cases kind with
  | derived expression inputs =>
      simp [withoutOffsets, MetricKind.withoutOffsets, Metric.inputs, map_eq_self_iff,
        MetricInput.withoutOffset_eq_self_iff]
  | _ => simp [withoutOffsets, MetricKind.withoutOffsets, Metric.inputs]

theorem find?_map_withoutOffsets (metrics : List Metric) (name : String) :
    ((metrics.map withoutOffsets).find? fun metric => metric.name == name) =
      (metrics.find? fun metric => metric.name == name).map withoutOffsets :=
  List.find?_map

end Metric

namespace Project

variable {project : Project}

def withoutOffsets (project : Project) : Project :=
  { project with metrics := project.metrics.map Metric.withoutOffsets }

@[simp] theorem models_withoutOffsets : project.withoutOffsets.models = project.models := rfl

@[simp] theorem metrics_withoutOffsets :
    project.withoutOffsets.metrics = project.metrics.map Metric.withoutOffsets := rfl

@[simp] theorem rejected_withoutOffsets : project.withoutOffsets.rejected = project.rejected := rfl

theorem withoutOffsets_eq_self_iff :
    project.withoutOffsets = project ↔
      ∀ metric ∈ project.metrics, ∀ input ∈ metric.inputs, input.hasOffset = false := by
  obtain ⟨models, metrics, rejected⟩ := project
  simp [withoutOffsets, map_eq_self_iff, Metric.withoutOffsets_eq_self_iff]

end Project

theorem Anchor.resolve_withoutOffsets (set : ModelSet) (metric : Metric) :
    resolve set metric.withoutOffsets = resolve set metric := by
  have entity : resolveEntity set metric.withoutOffsets = resolveEntity set metric := by
    obtain ⟨name, kind, primaryEntity, display⟩ := metric
    unfold resolveEntity Metric.withoutOffsets
    cases primaryEntity <;> cases kind <;> rfl
  unfold resolve
  rw [entity]
  rfl

namespace MetricCatalog

variable {catalog other : MetricCatalog}

/-- `other` has the metrics of `catalog` without their offsets. -/
def DropsOffsets (catalog other : MetricCatalog) : Prop :=
  ∀ name, other.metric? name = (catalog.metric? name).map Metric.withoutOffsets

theorem dropsOffsets_ofMetrics (metrics : List Metric) :
    (ofMetrics metrics).DropsOffsets (ofMetrics (metrics.map Metric.withoutOffsets)) := by
  intro name
  rw [metric?_ofMetrics, metric?_ofMetrics, Metric.find?_map_withoutOffsets]

theorem combine_withoutOffsets (algebra : MetricAlgebra α) (kind : MetricKind)
    (operands : List (Operand α)) :
    algebra.combine kind.withoutOffsets operands = algebra.combine kind operands := by
  cases kind <;> rfl

/-- An offset does not change where a reference leads. -/
theorem DropsOffsets.foldFrom_eq (drops : catalog.DropsOffsets other) (algebra : MetricAlgebra α)
    (root : String) (path : List String) (metric : Metric) :
    other.foldFrom algebra root path metric.withoutOffsets =
      catalog.foldFrom algebra root path metric := by
  generalize size : catalog.unvisited path = bound
  induction bound using Nat.strongRecOn generalizing path metric with
  | ind bound ih =>
      have operands : metric.withoutOffsets.inputs.mapM (other.operand algebra root path) =
          metric.inputs.mapM (catalog.operand algebra root path) := by
        rw [Metric.inputs_withoutOffsets, List.mapM_map]
        refine Attempt.mapM_congr fun input _ => ?_
        have named : input.withoutOffset.name = input.name := rfl
        unfold operand
        rw [Function.comp_apply, named, drops]
        by_cases known : input.name ∈ path
        · rw [if_pos known, if_pos known]
        · rw [if_neg known, if_neg known]
          cases found : catalog.metric? input.name with
          | none => rfl
          | some nested =>
              have inner := ih _ (size ▸ unvisited_lt known found) (path ++ [input.name]) nested rfl
              simp only [Option.map_some, inner, Metric.type_withoutOffsets]
              rfl
      rw [MetricCatalog.foldFrom_eq, MetricCatalog.foldFrom_eq, operands]
      exact congrArg _ (funext fun values => combine_withoutOffsets algebra metric.kind values)

theorem DropsOffsets.fold_eq (drops : catalog.DropsOffsets other) (algebra : MetricAlgebra α)
    (metric : Metric) : other.fold algebra metric.withoutOffsets = catalog.fold algebra metric :=
  drops.foldFrom_eq algebra metric.name [metric.name] metric

end MetricCatalog

namespace ResolvedMetric

def withoutOffsets (resolved : ResolvedMetric) : ResolvedMetric :=
  { resolved with metric := resolved.metric.withoutOffsets }

theorem resolve_withoutOffsets {catalog other : MetricCatalog} (drops : catalog.DropsOffsets other)
    (set : ModelSet) (options : Options) (metric : Metric) :
    resolve set other options metric.withoutOffsets =
      (resolve set catalog options metric).map withoutOffsets := by
  have measures := drops.fold_eq MetricCatalog.measureAlgebra metric
  have compositions : ∀ model, LookML.compose set other options.naming model metric.withoutOffsets =
      LookML.compose set catalog options.naming model metric :=
    fun model => drops.fold_eq _ metric
  have name : metric.withoutOffsets.name = metric.name := rfl
  simp only [resolve, Anchor.resolve_withoutOffsets, MetricCatalog.measures, measures, compositions,
    name]
  -- As a map of the monad it goes past each step, to the end.
  change _ = withoutOffsets <$> _
  simp only [map_bind, map_pure]
  rfl

theorem field_withoutOffsets (view : LookML.View) (resolved : ResolvedMetric) :
    resolved.withoutOffsets.field view = resolved.field view := by
  have format : defaultFormat resolved.metric.kind.withoutOffsets =
      defaultFormat resolved.metric.kind := by
    cases resolved.metric.kind <;> rfl
  unfold field
  simp only [withoutOffsets, Metric.withoutOffsets, format]
  rfl

end ResolvedMetric

namespace Generation

variable {resolved : List ResolvedMetric}

theorem filter_map_withoutOffsets (model : String) :
    (resolved.map ResolvedMetric.withoutOffsets).filter (ResolvedMetric.isAnchoredOn model) =
      (resolved.filter (ResolvedMetric.isAnchoredOn model)).map ResolvedMetric.withoutOffsets :=
  List.filter_map

theorem assemble_withoutOffsets (set : ModelSet) (options : Options)
    (diagnostics : List MetricError) :
    assemble set options (resolved.map ResolvedMetric.withoutOffsets) diagnostics =
      assemble set options resolved diagnostics := by
  have fields : ∀ view metric, addMetric view (ResolvedMetric.withoutOffsets metric) =
      addMetric view metric := by
    intro view metric
    rw [addMetric, ResolvedMetric.field_withoutOffsets]
    rfl
  have views : view options (resolved.map ResolvedMetric.withoutOffsets) = view options resolved := by
    funext model
    simp only [view, filter_map_withoutOffsets, List.foldl_map, fields]
  have requirements : requirement (resolved.map ResolvedMetric.withoutOffsets) =
      requirement resolved := by
    funext model
    simp only [requirement, filter_map_withoutOffsets, List.map_map]
    rfl
  have anchors : (resolved.map ResolvedMetric.withoutOffsets).map ResolvedMetric.metricAnchor =
      resolved.map ResolvedMetric.metricAnchor := by
    rw [List.map_map]
    rfl
  have explores : explore set options (resolved.map ResolvedMetric.withoutOffsets) =
      explore set options resolved := by
    funext model
    simp only [explore, requirements]
  simp only [assemble, views, explores, anchors]

theorem firstOfEachName_withoutOffsets (metrics : List Metric) :
    firstOfEachName (metrics.map Metric.withoutOffsets) =
      (firstOfEachName metrics).map Metric.withoutOffsets := by
  apply eq_of_find?_eq_of_ascending (firstOfEachName_ascending _)
  · rw [List.map_map]
    exact firstOfEachName_ascending metrics
  · intro name
    rw [find?_firstOfEachName, Metric.find?_map_withoutOffsets, Metric.find?_map_withoutOffsets,
      find?_firstOfEachName]

theorem partition_withoutOffsets (outcomes : List (Except MetricError ResolvedMetric)) :
    partition (outcomes.map (Except.map ResolvedMetric.withoutOffsets)) =
      ((partition outcomes).1.map ResolvedMetric.withoutOffsets, (partition outcomes).2) := by
  induction outcomes with
  | nil => rfl
  | cons outcome rest ih =>
      obtain ⟨resolved, failed⟩ := Prod.mk.inj ih
      cases outcome with
      | ok value => exact congrArg₂ _ (congrArg (value.withoutOffsets :: ·) resolved) failed
      | error reason => exact congrArg₂ _ resolved (congrArg (reason :: ·) failed)

theorem run_withoutOffsets (project : Project) (options : Options) (set : ModelSet) :
    run project.withoutOffsets options set = run project options set := by
  have each : ResolvedMetric.resolve set (.ofMetrics (project.metrics.map Metric.withoutOffsets))
        options ∘ Metric.withoutOffsets =
      Except.map ResolvedMetric.withoutOffsets ∘
        ResolvedMetric.resolve set (.ofMetrics project.metrics) options :=
    funext fun metric => ResolvedMetric.resolve_withoutOffsets
      (MetricCatalog.dropsOffsets_ofMetrics project.metrics) set options metric
  unfold run
  simp only [Project.metrics_withoutOffsets, Project.rejected_withoutOffsets,
    firstOfEachName_withoutOffsets, List.map_map, List.mapM_map, each]
  cases options.mode with
  | lenient =>
      simp only [← List.map_map, partition_withoutOffsets, assemble_withoutOffsets]
  | strict =>
      cases project.rejected with
      | cons error rest => rfl
      | nil =>
          simp only [Attempt.mapM_map_comp]
          cases (firstOfEachName project.metrics).mapM
              (ResolvedMetric.resolve set (.ofMetrics project.metrics) options) with
          | error reason => rfl
          | ok resolved => exact congrArg Except.ok (assemble_withoutOffsets set options [])

end Generation

/-- Without its offsets a project gives the same error or the same output, although it is another
project as soon as some input has one. -/
theorem offsets_are_passed_over (project : Project) (options : Options) :
    generate project.withoutOffsets options = generate project options ∧
      (project.withoutOffsets = project ↔
        ∀ metric ∈ project.metrics, ∀ input ∈ metric.inputs, input.hasOffset = false) := by
  refine ⟨?_, Project.withoutOffsets_eq_self_iff⟩
  simp only [generate, Project.models_withoutOffsets, Generation.run_withoutOffsets]

end SemanticLayer
