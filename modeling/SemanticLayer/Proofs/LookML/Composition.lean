import SemanticLayer.LookML.Composition
import SemanticLayer.Proofs.LookML.Reference
import SemanticLayer.Proofs.MetricCatalog.Walk
import SemanticLayer.Proofs.Order.Lookup
import SemanticLayer.Proofs.Order.Union
namespace SemanticLayer.LookML

/-! What is in a composition.

`combine_eq_ok_iff` is the one case analysis over kinds of metrics: a measure, a quotient of two, or
inputs in an expression. From it `mem_requiredFields_iff` reads off which fields are required. -/

open SemanticLayer.Order

/-- The measures that stand in the SQL of a metric before its inputs do. -/
def Composition.shown : MetricKind → List String
  | .simple measure => [measure]
  | .ratio numerator denominator => [numerator, denominator]
  | .conversion parameters =>
      match parameters.calculation with
      | .conversions => [parameters.conversionMeasure]
      | .conversionRate => [parameters.conversionMeasure, parameters.baseMeasure]
  | .derived _ _ => []

/-- The field is a measure of another model that the metric names itself. -/
def Shows (set : ModelSet) (naming : Naming) (anchorModel field : String) (metric : Metric) : Prop :=
  ∃ measure ∈ Composition.shown metric.kind, ∃ owner, set.ownerOfMeasure? measure = some owner ∧
    owner.name ≠ anchorModel ∧ field = naming.view owner.name ++ "." ++ measure

namespace Composition

variable {set : ModelSet} {naming : Naming} {root anchorModel measure field : String}
  {composition : Composition} {metric : Metric} {operands : List (Operand Composition)}

theorem ofMeasure_eq_ok_iff :
    ofMeasure set naming root anchorModel measure = .ok composition ↔
      ∃ owner, set.ownerOfMeasure? measure = some owner ∧
        composition =
          if owner.name = anchorModel then ⟨reference measure, SortedSet.empty⟩
          else
            ⟨reference (naming.view owner.name ++ "." ++ measure),
              SortedSet.ofList [naming.view owner.name ++ "." ++ measure]⟩ := by
  unfold ofMeasure
  cases owned : set.ownerOfMeasure? measure with
  | none => simp
  | some owner =>
      simp only [Option.some.injEq, exists_eq_left']
      split
      · rw [Except.ok.injEq, eq_comm]
      · rw [Except.ok.injEq, eq_comm]

theorem ofMeasure_eq_error_iff {reason : MetricError} :
    ofMeasure set naming root anchorModel measure = .error reason ↔
      set.ownerOfMeasure? measure = none ∧ reason = .unknownMeasureReference root measure := by
  unfold ofMeasure
  cases owned : set.ownerOfMeasure? measure with
  | none => simp [eq_comm]
  | some owner =>
      simp only [reduceCtorEq, false_and, iff_false]
      split <;> simp

theorem unowned_of_quotient_error {first second : String} {reason : MetricError}
    (failed : (do
      let numerator ← ofMeasure set naming root anchorModel first
      let denominator ← ofMeasure set naming root anchorModel second
      return quotient numerator denominator) = .error reason) :
    ∃ measure ∈ [first, second],
      set.ownerOfMeasure? measure = none ∧ reason = .unknownMeasureReference root measure := by
  rcases Attempt.bind_eq_error_iff.mp failed with above | ⟨_, _, rest⟩
  · exact ⟨first, by simp, ofMeasure_eq_error_iff.mp above⟩
  · rcases Attempt.bind_eq_error_iff.mp rest with below | ⟨_, _, impossible⟩
    · exact ⟨second, by simp, ofMeasure_eq_error_iff.mp below⟩
    · cases impossible

/-- A metric is refused by itself only for a measure that no model owns. -/
theorem unowned_of_combine_error {kind : MetricKind} {reason : MetricError}
    (failed : (algebra set naming root anchorModel).combine kind operands = .error reason) :
    ∃ measure ∈ kind.payload,
      set.ownerOfMeasure? measure = none ∧ reason = .unknownMeasureReference root measure := by
  cases kind with
  | derived expression inputs => cases failed
  | simple measure => exact ⟨measure, by simp [MetricKind.payload], ofMeasure_eq_error_iff.mp failed⟩
  | ratio numerator denominator => exact unowned_of_quotient_error failed
  | conversion parameters =>
      simp only [MetricAlgebra.combine, algebra] at failed
      cases calculation : parameters.calculation with
      | conversions =>
          rw [calculation] at failed
          rcases Attempt.bind_eq_error_iff.mp failed with conversions | ⟨_, _, impossible⟩
          · exact ⟨parameters.conversionMeasure, by simp [MetricKind.payload],
              ofMeasure_eq_error_iff.mp conversions⟩
          · cases impossible
      | conversionRate =>
          rw [calculation] at failed
          obtain ⟨measure, named, unowned⟩ := unowned_of_quotient_error failed
          exact ⟨measure, by simpa [MetricKind.payload, or_comm] using named, unowned⟩

theorem payload_of_shown {kind : MetricKind} (among : measure ∈ shown kind) :
    measure ∈ kind.payload := by
  cases kind with
  | simple | ratio | derived => exact among
  | conversion parameters =>
      simp only [shown] at among
      simp only [MetricKind.payload, List.mem_cons, List.not_mem_nil, or_false]
      split at among
      · exact .inr (List.mem_singleton.mp among)
      · exact (List.mem_pair.mp among).symm

theorem quotient_eq_ok_iff {first second : String} :
    (do
      let numerator ← ofMeasure set naming root anchorModel first
      let denominator ← ofMeasure set naming root anchorModel second
      return quotient numerator denominator) = .ok composition ↔
      ∃ above below, ofMeasure set naming root anchorModel first = .ok above ∧
        ofMeasure set naming root anchorModel second = .ok below ∧
        composition = quotient above below := by
  simp only [Attempt.bind_eq_ok_iff, pure, Except.pure, Except.ok.injEq]
  constructor
  · intro evaluated
    obtain ⟨above, upper, below, lower, whole⟩ := evaluated
    exact ⟨above, below, upper, lower, whole.symm⟩
  · intro parts
    obtain ⟨above, below, upper, lower, whole⟩ := parts
    exact ⟨above, upper, below, lower, whole.symm⟩

/-- A metric is composed as one measure, as a quotient of two, or out of its inputs. -/
theorem combine_eq_ok_iff {kind : MetricKind} :
    (algebra set naming root anchorModel).combine kind operands = .ok composition ↔
      (∃ measure, shown kind = [measure] ∧
        ofMeasure set naming root anchorModel measure = .ok composition) ∨
      (∃ numerator denominator above below, shown kind = [numerator, denominator] ∧
        ofMeasure set naming root anchorModel numerator = .ok above ∧
        ofMeasure set naming root anchorModel denominator = .ok below ∧
        composition = quotient above below) ∨
      ∃ expression inputs, kind = .derived expression inputs ∧
        composition = ofOperands expression operands := by
  cases kind with
  | simple measure => simp [MetricAlgebra.combine, algebra, shown]
  | ratio numerator denominator =>
      rw [MetricAlgebra.combine, algebra, quotient_eq_ok_iff]
      simp [shown]
  | conversion parameters =>
      cases calculation : parameters.calculation with
      | conversions =>
          simp only [MetricAlgebra.combine, algebra, calculation, bind_pure]
          simp [shown, calculation]
      | conversionRate =>
          simp only [MetricAlgebra.combine, algebra, calculation]
          rw [quotient_eq_ok_iff]
          simp [shown, calculation]
  | derived expression inputs =>
      simp only [MetricAlgebra.combine, algebra, Except.ok.injEq]
      simp [shown, eq_comm (b := composition)]

theorem exists_combine_of_owned {kind : MetricKind}
    (owned : ∀ measure ∈ kind.payload, ∃ owner, set.ownerOfMeasure? measure = some owner) :
    ∃ composition, (algebra set naming root anchorModel).combine kind [] = .ok composition := by
  cases combined : (algebra set naming root anchorModel).combine kind [] with
  | ok composition => exact ⟨composition, rfl⟩
  | error reason =>
      obtain ⟨measure, named, unowned, _⟩ := unowned_of_combine_error combined
      obtain ⟨owner, isOwned⟩ := owned measure named
      rw [unowned] at isOwned
      cases isOwned

/-- A metric that shows measures has no inputs. -/
theorem operands_of_shown (length : operands.length = metric.inputs.length)
    (some : shown metric.kind ≠ []) : operands = [] := by
  rw [← List.length_eq_zero_iff, length, List.length_eq_zero_iff]
  cases kind : metric.kind with
  | derived expression inputs => simp [shown, kind] at some
  | simple | ratio | conversion => simp only [Metric.inputs, kind]

theorem mem_requiredFields_of_measure
    (single : ofMeasure set naming root anchorModel measure = .ok composition) :
    field ∈ composition.requiredFields ↔ ∃ owner, set.ownerOfMeasure? measure = some owner ∧
      owner.name ≠ anchorModel ∧ field = naming.view owner.name ++ "." ++ measure := by
  obtain ⟨owner, owned, rfl⟩ := ofMeasure_eq_ok_iff.mp single
  by_cases own : owner.name = anchorModel
  · simp [own, owned]
  · simp [own, owned]

/-- What is required beside the inputs is what the metric shows. -/
theorem mem_requiredFields_of_combine (length : operands.length = metric.inputs.length)
    (combined : (algebra set naming root anchorModel).combine metric.kind operands = .ok composition) :
    field ∈ composition.requiredFields ↔ Shows set naming anchorModel field metric ∨
      ∃ operand ∈ operands, field ∈ operand.value.requiredFields := by
  rcases combine_eq_ok_iff.mp combined with
    ⟨measure, shows, single⟩ | ⟨first, second, above, below, shows, upper, lower, rfl⟩ |
    ⟨expression, inputs, kind, rfl⟩
  · have none := operands_of_shown length (by simp [shows])
    simp [Shows, shows, none, mem_requiredFields_of_measure single]
  · have none := operands_of_shown length (by simp [shows])
    simp [Shows, shows, none, quotient, mem_requiredFields_of_measure upper,
      mem_requiredFields_of_measure lower]
  · simp [Shows, shown, kind, ofOperands, SortedSet.mem_foldl_union]

section Meaning

variable {name inserted : List Char}

theorem reference_beq_iff {operand : Operand Composition} :
    (operand.reference == String.ofList name) = true ↔ operand.reference.toList = name := by
  rw [beq_iff_eq, ← String.toList_inj, String.toList_ofList]

theorem meaning_eq_some_iff :
    meaning operands name = some inserted ↔
      ∃ before operand after, operands = before ++ operand :: after ∧
        operand.reference.toList = name ∧ (∀ later ∈ after, later.reference.toList ≠ name) ∧
        inserted = (inputSql operand).toList := by
  unfold meaning
  simp only [Option.map_eq_some_iff, find?_reverse_eq_some_iff, reference_beq_iff]
  constructor
  · intro last
    obtain ⟨operand, ⟨named, before, after, split, others⟩, rfl⟩ := last
    exact ⟨before, operand, after, split, named, others, rfl⟩
  · intro last
    obtain ⟨before, operand, after, split, named, others, rfl⟩ := last
    exact ⟨operand, ⟨named, before, after, split, others⟩, rfl⟩

theorem meaning_eq_none_iff :
    meaning operands name = none ↔ ∀ operand ∈ operands, operand.reference.toList ≠ name := by
  unfold meaning
  simp only [Option.map_eq_none_iff, List.find?_eq_none, List.mem_reverse, reference_beq_iff, ne_eq]

end Meaning

end Composition

variable {set : ModelSet} {catalog : MetricCatalog} {naming : Naming} {anchorModel : String}
  {metric : Metric} {composition : Composition} {field : String}

/-- Composing fails for no other reason than a reference or a measure that does not exist. -/
theorem exists_compose_of_owned (defined : catalog.Defined metric) (acyclic : catalog.Acyclic metric)
    (owned : ∀ path inner, catalog.Trail metric path inner → ∀ measure ∈ inner.kind.payload,
      ∃ owner, set.ownerOfMeasure? measure = some owner) :
    ∃ composition, compose set catalog naming anchorModel metric = .ok composition := by
  unfold compose
  rw [MetricCatalog.exists_fold_eq_ok_iff]
  intro path inner trail
  exact ⟨MetricCatalog.defined_and_acyclic_iff.mp ⟨defined, acyclic⟩ path inner trail,
    Composition.exists_combine_of_owned (owned path inner trail)⟩

/-- A field is required when the inputs lead to a metric that shows it. -/
theorem mem_requiredFields_iff (composed : compose set catalog naming anchorModel metric = .ok composition) :
    field ∈ composition.requiredFields ↔
      catalog.Leads Metric.Lists (Shows set naming anchorModel field) metric := by
  refine MetricCatalog.foldFrom_induction
    (motive := fun _ metric composition => field ∈ composition.requiredFields ↔
      catalog.Leads Metric.Lists (Shows set naming anchorModel field) metric) ?_ composed
  intro path metric operands composition entered combined
  rw [Composition.mem_requiredFields_of_combine entered.length_eq.symm combined]
  constructor
  · rintro (shows | ⟨operand, among, required⟩)
    · exact .here shows
    · obtain ⟨input, listed, nested, enters, _, _, below⟩ :=
        Attempt.exists_of_forall₂_right entered among
      exact .through listed enters.found (below.mp required)
  · intro leads
    cases leads with
    | here shows => exact .inl shows
    | through listed found inner =>
        obtain ⟨operand, among, nested, enters, _, _, below⟩ :=
          Attempt.exists_of_forall₂_left entered listed
        cases enters.eq_of_found found
        exact .inr ⟨operand, among, below.mpr inner⟩

/-- A required field is a measure of another model that a metric on a trail names. -/
theorem exists_trail_of_mem_requiredFields
    (composed : compose set catalog naming anchorModel metric = .ok composition) :
    ∀ field ∈ composition.requiredFields,
      ∃ path inner, catalog.Trail metric path inner ∧ ∃ measure ∈ inner.kind.payload,
        ∃ owner, set.ownerOfMeasure? measure = some owner ∧ owner.name ≠ anchorModel ∧
          field = naming.view owner.name ++ "." ++ measure := by
  intro field required
  obtain ⟨path, inner, trail, measure, among, owner, owned, joined, qualified⟩ :=
    ((mem_requiredFields_iff composed).mp required).exists_trail .start
  exact ⟨path, inner, trail, measure, Composition.payload_of_shown among, owner, owned, joined, qualified⟩

end SemanticLayer.LookML
