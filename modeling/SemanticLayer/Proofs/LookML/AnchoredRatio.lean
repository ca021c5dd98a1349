import SemanticLayer.Proofs.Anchor
import SemanticLayer.Proofs.LookML.Composition
namespace SemanticLayer.LookML

/-! The anchor of a metric and the SQL that it has there.

A ratio without an entity of its own is anchored where its denominator is, so that the denominator
needs no other view. -/

open SemanticLayer.Order

variable {models : List SemanticModel} {set : ModelSet} {catalog : MetricCatalog} {naming : Naming}
  {metric : Metric} {owner : SemanticModel} {numerator denominator : String}

/-- In the view of the model with the denominator only the numerator can fail or require a field. -/
theorem compose_ratio_of_owner (kind : metric.kind = .ratio numerator denominator)
    (owned : set.ownerOfMeasure? denominator = some owner) :
    compose set catalog naming owner.name metric =
      (Composition.ofMeasure set naming metric.name owner.name numerator).map fun above =>
        { sql := "1.0 * " ++ above.sql ++ " / NULLIF(" ++ reference denominator ++ ", 0)"
          requiredFields := above.requiredFields } := by
  have inputs : metric.inputs = [] := by simp [Metric.inputs, kind]
  have bare : Composition.ofMeasure set naming metric.name owner.name denominator =
      .ok ⟨reference denominator, SortedSet.empty⟩ := by
    simp [Composition.ofMeasure, owned]
  unfold compose MetricCatalog.fold
  rw [MetricCatalog.foldFrom_of_inputs inputs, kind]
  simp only [MetricAlgebra.combine, Composition.algebra, bare]
  cases Composition.ofMeasure set naming metric.name owner.name numerator <;> rfl

/-- Anchoring ends as the declarations say, and every error names the metric. An explicit entity
makes the kind of the metric irrelevant, and the numerator of a ratio always is. An inferred ratio
lies on the model of its denominator, where the denominator is a bare reference and only the
numerator may require a field. -/
theorem anchored_by_entity_or_denominator (accepted : ModelSet.ofModels models = .ok set)
    (metric : Metric) :
    (∀ outcome, Anchor.resolve set metric = outcome ↔ metric.AnchorOutcome models outcome) ∧
    (∀ reason, Anchor.resolve set metric = .error reason → reason.metric = metric.name) ∧
    (∀ measure, Anchor.resolve set metric = .error (.unknownMeasureReference metric.name measure) ↔
      metric.primaryEntity = none ∧ (∃ numerator, metric.kind = .ratio numerator measure) ∧
        ∀ model ∈ models, ¬ model.declaresMeasure measure) ∧
    (∀ entity kind, metric.primaryEntity = some entity →
      Anchor.resolve set { metric with kind } = Anchor.resolve set metric) ∧
    (∀ numerator denominator other, metric.kind = .ratio numerator denominator →
      Anchor.resolve set { metric with kind := .ratio other denominator } =
        Anchor.resolve set metric) ∧
    ∀ anchor, Anchor.resolve set metric = .ok anchor → metric.primaryEntity = none →
      ∃ numerator denominator, metric.kind = .ratio numerator denominator ∧
        anchor.model.declaresMeasure denominator ∧
        set.ownerOfEntity? anchor.entity = some anchor.model ∧
        ∀ catalog naming, compose set catalog naming anchor.model.name metric =
          (Composition.ofMeasure set naming metric.name anchor.model.name numerator).map fun above =>
            { sql := "1.0 * " ++ above.sql ++ " / NULLIF(" ++ reference denominator ++ ", 0)"
              requiredFields := above.requiredFields } := by
  have ends : ∀ outcome, Anchor.resolve set metric = outcome ↔ metric.AnchorOutcome models outcome :=
    fun _ => Anchor.resolve_eq_iff accepted
  refine ⟨ends, ?_, ?_, ?_, ?_, ?_⟩
  · intro reason failed
    cases (ends _).mp failed <;> rfl
  · intro measure
    rw [ends]
    constructor
    · intro missing
      cases missing with
      | unowned unnamed kind none => exact ⟨unnamed, ⟨_, kind⟩, none⟩
    · intro missing
      obtain ⟨unnamed, ⟨_, kind⟩, none⟩ := missing
      exact .unowned unnamed kind none
  · intro entity kind named
    refine Anchor.resolve_congr rfl ?_
    rw [Anchor.resolveEntity_explicit named]
    exact Anchor.resolveEntity_explicit named
  · intro numerator denominator other kind
    refine Anchor.resolve_congr rfl ?_
    cases named : metric.primaryEntity with
    | some entity =>
        rw [Anchor.resolveEntity_explicit named]
        exact Anchor.resolveEntity_explicit rfl
    | none =>
        rw [Anchor.resolveEntity_ratio named kind]
        exact Anchor.resolveEntity_ratio rfl rfl
  · intro anchor resolved unnamed
    cases (ends _).mp resolved with
    | explicit named =>
        rw [unnamed] at named
        cases named
    | inferred _ kind member declares isPrimary =>
        have owned := (ModelSet.ownerOfMeasure?_eq_some_iff accepted).mpr ⟨member, declares⟩
        exact ⟨_, _, kind, declares, ModelSet.ownerOfEntity?_of_primary accepted member isPrimary,
          fun _ _ => compose_ratio_of_owner kind owned⟩

def searchModel : SemanticModel :=
  { name := "searches", entities := [⟨"search", .primary, "id"⟩]
    measures := [{ name := "search_count", aggregation := .count }] }

def rentalModel : SemanticModel :=
  { name := "rentals", entities := [⟨"rental", .primary, "id"⟩, ⟨"search", .foreign, "search_id"⟩]
    measures := [{ name := "rental_count", aggregation := .count }] }

/-- The share of searches that lead to a rental. -/
def searchConversion : Metric :=
  { name := "search_conversion", kind := .ratio "rental_count" "search_count" }

/-- The conversion lies on the searches that it is a share of, unless it names the rental. -/
theorem search_conversion_on_searches :
    ∃ set, ModelSet.ofModels [searchModel, rentalModel] = .ok set ∧
      Anchor.resolve set searchConversion = .ok ⟨"search", searchModel, .inferredFromDenominator⟩ ∧
      Anchor.resolve set { searchConversion with primaryEntity := some "rental" } =
        .ok ⟨"rental", rentalModel, .explicit⟩ ∧
      compose set (.ofMetrics [searchConversion]) {} "searches" searchConversion =
        .ok ⟨"1.0 * ${rentals.rental_count} / NULLIF(${search_count}, 0)",
          SortedSet.ofList ["rentals.rental_count"]⟩ := by
  have accepted : ModelSet.ofModels [searchModel, rentalModel] = .ok ⟨[rentalModel, searchModel]⟩ := by
    decide +kernel
  obtain ⟨ends, _, _, _, _, inferred⟩ := anchored_by_entity_or_denominator accepted searchConversion
  have searchKey : searchModel.primaryEntity? = some ⟨"search", .primary, "id"⟩ := rfl
  have resolved := (ends _).mpr
    (.inferred rfl rfl (List.mem_cons_self ..) (by decide) searchKey)
  have overridden := ((anchored_by_entity_or_denominator accepted
    { searchConversion with primaryEntity := some "rental" }).1 _).mpr
      (.explicit rfl (List.mem_cons_of_mem _ (List.mem_cons_self ..)) (by decide))
  obtain ⟨above, below, kind, _, _, composed⟩ := inferred _ resolved rfl
  cases kind
  refine ⟨_, accepted, resolved, overridden, (composed _ _).trans ?_⟩
  decide +kernel

end SemanticLayer.LookML
