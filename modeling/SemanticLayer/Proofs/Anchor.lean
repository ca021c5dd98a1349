import SemanticLayer.Anchor
import SemanticLayer.Proofs.Attempt
import SemanticLayer.Proofs.ModelSet.Ownership
namespace SemanticLayer

/-! Where a metric is anchored, read off the models themselves.

`Metric.AnchorOutcome` has one case for each way that anchoring ends, errors included;
`Anchor.resolve_eq_iff` says that these are all, so that what resolving a metric comes to is a case
analysis over them. -/

/-- The rows over which `metric` is computed are those of `model`: it has the primary entity
that the metric names, or else that of the model with the denominator. -/
inductive Metric.AnchoredOn (models : List SemanticModel) (metric : Metric) (model : SemanticModel) :
    Prop
  | explicit {entity} : metric.primaryEntity = some entity → model.identifies entity →
      AnchoredOn models metric model
  | inferred {numerator denominator owner primary} : metric.primaryEntity = none →
      metric.kind = .ratio numerator denominator → owner ∈ models →
      owner.declaresMeasure denominator → owner.primaryEntity? = some primary →
      model.identifies primary.name → AnchoredOn models metric model

/-- What anchoring a metric among `models` ends with. The entity that the metric names comes before
all else; without one only the denominator of a ratio counts. -/
inductive Metric.AnchorOutcome (models : List SemanticModel) (metric : Metric) :
    Except MetricError Anchor → Prop
  | explicit {entity model} : metric.primaryEntity = some entity → model ∈ models →
      model.identifies entity → AnchorOutcome models metric (.ok ⟨entity, model, .explicit⟩)
  | undeclared {entity} : metric.primaryEntity = some entity →
      (∀ model ∈ models, ¬ model.identifies entity) →
      AnchorOutcome models metric (.error (.unresolvedPrimaryEntity metric.name
        ("no semantic model declares '" ++ entity ++ "' as its primary entity")))
  | inferred {numerator denominator owner primary} : metric.primaryEntity = none →
      metric.kind = .ratio numerator denominator → owner ∈ models →
      owner.declaresMeasure denominator → owner.primaryEntity? = some primary →
      AnchorOutcome models metric (.ok ⟨primary.name, owner, .inferredFromDenominator⟩)
  | keyless {numerator denominator owner} : metric.primaryEntity = none →
      metric.kind = .ratio numerator denominator → owner ∈ models →
      owner.declaresMeasure denominator → owner.primaryEntity? = none →
      AnchorOutcome models metric (.error (.unresolvedPrimaryEntity metric.name
        ("denominator measure '" ++ denominator ++ "' belongs to model '" ++ owner.name ++
          "', which declares no primary entity")))
  | unowned {numerator denominator} : metric.primaryEntity = none →
      metric.kind = .ratio numerator denominator →
      (∀ model ∈ models, ¬ model.declaresMeasure denominator) →
      AnchorOutcome models metric (.error (.unknownMeasureReference metric.name denominator))
  | notInferred : metric.primaryEntity = none → metric.type ≠ .ratio →
      AnchorOutcome models metric (.error (.unresolvedPrimaryEntity metric.name
        (metric.type.tag ++ " metrics are never inferred and need an explicit primary entity")))

namespace Anchor

variable {models : List SemanticModel} {set : ModelSet} {metric : Metric} {entity : String}

theorem resolveEntity_explicit (named : metric.primaryEntity = some entity) :
    resolveEntity set metric = .ok (entity, .explicit) := by
  unfold resolveEntity
  rw [named]

theorem resolveEntity_ratio {numerator denominator : String} (unnamed : metric.primaryEntity = none)
    (kind : metric.kind = .ratio numerator denominator) :
    resolveEntity set metric =
      (denominatorEntity set metric.name denominator).map fun entity =>
        (entity, .inferredFromDenominator) := by
  unfold resolveEntity
  rw [unnamed, kind]

theorem resolve_of_resolveEntity {source : AnchorSource}
    (identified : resolveEntity set metric = .ok (entity, source)) :
    resolve set metric =
      match set.ownerOfEntity? entity with
      | some model => .ok ⟨entity, model, source⟩
      | none => .error (.unresolvedPrimaryEntity metric.name
          ("no semantic model declares '" ++ entity ++ "' as its primary entity")) := by
  unfold resolve
  rw [identified]
  rfl

theorem resolve_of_resolveEntity_error {reason : MetricError}
    (failed : resolveEntity set metric = .error reason) : resolve set metric = .error reason := by
  unfold resolve
  rw [failed]
  rfl

/-- A metric has its anchor through its name and its entity alone. -/
theorem resolve_congr {other : Metric} (name : other.name = metric.name)
    (entity : resolveEntity set other = resolveEntity set metric) :
    resolve set other = resolve set metric := by
  unfold resolve
  rw [entity, name]

theorem resolve_of_outcome (accepted : ModelSet.ofModels models = .ok set)
    {outcome : Except MetricError Anchor} (ends : metric.AnchorOutcome models outcome) :
    resolve set metric = outcome := by
  cases ends with
  | explicit named member identifies =>
      have owned := (ModelSet.ownerOfEntity?_eq_some_iff accepted).mpr ⟨member, identifies⟩
      rw [resolve_of_resolveEntity (resolveEntity_explicit named), owned]
  | undeclared named none =>
      have unowned := (ModelSet.ownerOfEntity?_eq_none_iff accepted).mpr none
      rw [resolve_of_resolveEntity (resolveEntity_explicit named), unowned]
  | inferred unnamed kind member declares isPrimary =>
      have declared := (ModelSet.ownerOfMeasure?_eq_some_iff accepted).mpr ⟨member, declares⟩
      have owned := ModelSet.ownerOfEntity?_of_primary accepted member isPrimary
      have identified : resolveEntity set metric = _ := resolveEntity_ratio unnamed kind
      simp only [denominatorEntity, declared, isPrimary, Except.map] at identified
      rw [resolve_of_resolveEntity identified, owned]
  | keyless unnamed kind member declares none =>
      have declared := (ModelSet.ownerOfMeasure?_eq_some_iff accepted).mpr ⟨member, declares⟩
      have failed : resolveEntity set metric = _ := resolveEntity_ratio unnamed kind
      simp only [denominatorEntity, declared, none, Except.map] at failed
      exact resolve_of_resolveEntity_error failed
  | unowned unnamed kind none =>
      have undeclared := (ModelSet.ownerOfMeasure?_eq_none_iff accepted).mpr none
      have failed : resolveEntity set metric = _ := resolveEntity_ratio unnamed kind
      simp only [denominatorEntity, undeclared, Except.map] at failed
      exact resolve_of_resolveEntity_error failed
  | notInferred unnamed other =>
      refine resolve_of_resolveEntity_error ?_
      unfold resolveEntity
      rw [unnamed]
      cases kind : metric.kind with
      | ratio numerator denominator => simp [Metric.type, MetricKind.type, kind] at other
      | simple | derived | conversion => simp only [Metric.type, kind]

/-- Of every metric some outcome is determined. -/
theorem exists_outcome (models : List SemanticModel) (metric : Metric) :
    ∃ outcome, metric.AnchorOutcome models outcome := by
  cases named : metric.primaryEntity with
  | some entity =>
      by_cases declared : ∃ model ∈ models, model.identifies entity
      · obtain ⟨model, member, identifies⟩ := declared
        exact ⟨_, .explicit named member identifies⟩
      · exact ⟨_, .undeclared named (by simpa using declared)⟩
  | none =>
      cases kind : metric.kind with
      | simple | derived | conversion => exact ⟨_, .notInferred named (by simp [Metric.type, MetricKind.type, kind])⟩
      | ratio numerator denominator =>
          by_cases declared : ∃ model ∈ models, model.declaresMeasure denominator
          · obtain ⟨owner, member, declares⟩ := declared
            cases primary : owner.primaryEntity? with
            | some entity => exact ⟨_, .inferred named kind member declares primary⟩
            | none => exact ⟨_, .keyless named kind member declares primary⟩
          · exact ⟨_, .unowned named kind (by simpa using declared)⟩

theorem resolve_eq_iff (accepted : ModelSet.ofModels models = .ok set)
    {outcome : Except MetricError Anchor} :
    resolve set metric = outcome ↔ metric.AnchorOutcome models outcome := by
  refine ⟨fun resolved => ?_, resolve_of_outcome accepted⟩
  obtain ⟨other, ends⟩ := exists_outcome models metric
  rwa [← resolved, resolve_of_outcome accepted ends]

/-- A metric resolves to `model` exactly when it is anchored there. -/
theorem exists_resolve_iff (accepted : ModelSet.ofModels models = .ok set) {model : SemanticModel} :
    (∃ anchor, resolve set metric = .ok anchor ∧ anchor.model = model) ↔
      model ∈ models ∧ metric.AnchoredOn models model := by
  simp only [resolve_eq_iff accepted]
  constructor
  · intro resolved
    obtain ⟨anchor, ends, rfl⟩ := resolved
    cases ends with
    | explicit named member identifies => exact ⟨member, .explicit named identifies⟩
    | inferred unnamed kind member declares isPrimary =>
        have identifies := SemanticModel.identifies_iff.mpr ⟨_, isPrimary, rfl⟩
        exact ⟨member, .inferred unnamed kind member declares isPrimary identifies⟩
  · intro anchored
    obtain ⟨member, anchored⟩ := anchored
    cases anchored with
    | explicit named identifies => exact ⟨_, .explicit named member identifies, rfl⟩
    | inferred unnamed kind ownerMember declares isPrimary identifies =>
        -- No other model than the owner has its primary entity.
        have owned := (ModelSet.ownerOfEntity?_eq_some_iff accepted).mpr ⟨member, identifies⟩
        rw [ModelSet.ownerOfEntity?_of_primary accepted ownerMember isPrimary, Option.some.injEq] at owned
        exact ⟨_, .inferred unnamed kind ownerMember declares isPrimary, owned⟩

end Anchor

end SemanticLayer
