import SemanticLayer.MetricCatalog.Measures
import SemanticLayer.Proofs.MetricCatalog.Walk
import SemanticLayer.Proofs.Order.Union
namespace SemanticLayer.MetricCatalog

/-! The measures of a metric are those that the metrics on its trails name themselves. -/

open SemanticLayer.Order

variable {catalog : MetricCatalog} {root metric : Metric} {measure : String}
  {measures : SortedSet String}

theorem mem_combine_measures {operands : List (Operand (SortedSet String))}
    (length : operands.length = metric.inputs.length)
    (combined : measureAlgebra.combine metric.kind operands = .ok measures) :
    measure ∈ measures ↔
      measure ∈ metric.kind.payload ∨ ∃ operand ∈ operands, measure ∈ operand.value := by
  cases kind : metric.kind with
  | derived expression inputs =>
      simp only [kind, MetricAlgebra.combine, measureAlgebra, Except.ok.injEq] at combined
      subst combined
      simp [SortedSet.mem_foldl_union, MetricKind.payload]
  | simple named =>
      have none : operands = [] := by simpa [Metric.inputs, kind] using length
      simp only [kind, MetricAlgebra.combine, measureAlgebra, Except.ok.injEq] at combined
      simp [← combined, none, MetricKind.payload]
  | ratio numerator denominator =>
      have none : operands = [] := by simpa [Metric.inputs, kind] using length
      simp only [kind, MetricAlgebra.combine, measureAlgebra, Except.ok.injEq] at combined
      simp [← combined, none, MetricKind.payload]
  | conversion parameters =>
      have none : operands = [] := by simpa [Metric.inputs, kind] using length
      simp only [kind, MetricAlgebra.combine, measureAlgebra, Except.ok.injEq] at combined
      simp [← combined, none, MetricKind.payload]

theorem exists_trail_of_mem_measures (extracted : catalog.measures root = .ok measures)
    (member : measure ∈ measures) :
    ∃ path metric, catalog.Trail root path metric ∧ measure ∈ metric.kind.payload := by
  refine foldFrom_induction
    (motive := fun path metric measures => catalog.Trail root path metric → ∀ measure ∈ measures,
      ∃ path metric, catalog.Trail root path metric ∧ measure ∈ metric.kind.payload)
    ?_ extracted .start measure member
  intro path metric operands measures entered combined trail measure member
  rcases (mem_combine_measures entered.length_eq.symm combined).mp member with own | ⟨operand, among, inner⟩
  · exact ⟨path, metric, trail, own⟩
  · obtain ⟨input, inputMember, nested, enters, _, _, below⟩ :=
      Attempt.exists_of_forall₂_right entered among
    exact below (trail.extend inputMember enters.found) measure inner

theorem mem_measures_iff (extracted : catalog.measures root = .ok measures) :
    measure ∈ measures ↔
      ∃ path metric, catalog.Trail root path metric ∧ measure ∈ metric.kind.payload := by
  refine ⟨exists_trail_of_mem_measures extracted, fun named => ?_⟩
  obtain ⟨path, metric, trail, own⟩ := named
  obtain ⟨inner, passed, subset⟩ := foldFrom_of_trail
    (fun inner outer : SortedSet String => ∀ measure, measure ∈ inner → measure ∈ outer)
    (fun _ _ member => member) (fun first second measure member => second measure (first measure member))
    (fun metric operands value length combined operand among measure member =>
      (mem_combine_measures length combined).mpr (.inr ⟨operand, among, member⟩))
    extracted trail
  obtain ⟨operands, entered, combined⟩ := foldFrom_eq_ok_iff.mp passed
  exact subset measure ((mem_combine_measures entered.length_eq.symm combined).mpr (.inl own))

theorem exists_combine_measures (kind : MetricKind) :
    ∃ value, measureAlgebra.combine kind [] = .ok value := by
  cases kind <;> exact ⟨_, rfl⟩

/-- Whether measures exist plays no part: only references can fail. -/
theorem exists_measures_iff :
    (∃ measures, catalog.measures root = .ok measures) ↔
      catalog.Defined root ∧ catalog.Acyclic root := by
  rw [defined_and_acyclic_iff]
  unfold measures
  rw [exists_fold_eq_ok_iff]
  simp only [exists_combine_measures, and_true]

end SemanticLayer.MetricCatalog
