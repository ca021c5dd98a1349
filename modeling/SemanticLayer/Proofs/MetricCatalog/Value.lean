import SemanticLayer.MetricCatalog
import SemanticLayer.Proofs.Sql.Parse
namespace SemanticLayer

/-! What metrics are worth when measures have values. -/

open Sql

/-- Values of measures, and of the identifiers that are no inputs of the metric whose expression
they stand in. -/
structure Assignment where
  measures : String → Value
  identifiers : String → Value

/-- The numerator over the denominator, or NULL over zero. -/
def Sql.quotient (numerator denominator : Value) : Outcome :=
  Operator.divide.combine numerator (nullIf denominator (some 0))

/-- An expression has no fields of its own. -/
def Sql.Expression.value (outcomes : String → Outcome) (expression : Expression) : Outcome :=
  expression.evaluate ⟨outcomes, fun field => .error (.unknownField field)⟩

namespace MetricCatalog

/-- The outcome of a metric of the given kind. An input of a derived metric counts where its
reference stands in the expression, and only there. -/
inductive HasValue (catalog : MetricCatalog) (assignment : Assignment) : MetricKind → Outcome → Prop
  | simple {measure} : HasValue catalog assignment (.simple measure) (.ok (assignment.measures measure))
  | ratio {numerator denominator} : HasValue catalog assignment (.ratio numerator denominator)
      (quotient (assignment.measures numerator) (assignment.measures denominator))
  | conversions {conversion} : conversion.calculation = .conversions →
      HasValue catalog assignment (.conversion conversion)
        (.ok (assignment.measures conversion.conversionMeasure))
  | conversionRate {conversion} : conversion.calculation = .conversionRate →
      HasValue catalog assignment (.conversion conversion)
        (quotient (assignment.measures conversion.conversionMeasure)
          (assignment.measures conversion.baseMeasure))
  | derived {expression inputs parsed} {nested : MetricInput → Metric} {outcomes : String → Outcome} :
      parse expression = some parsed →
      (∀ input ∈ inputs, catalog.metric? input.name = some (nested input)) →
      (∀ input ∈ inputs, HasValue catalog assignment (nested input).kind (outcomes input.reference)) →
      (∀ name, (∀ input ∈ inputs, input.reference ≠ name) →
        outcomes name = .ok (assignment.identifiers name)) →
      HasValue catalog assignment (.derived expression inputs) (parsed.value outcomes)

variable {catalog : MetricCatalog} {assignment : Assignment} {outcome : Outcome}

theorem hasValue_simple_iff {measure : String} :
    catalog.HasValue assignment (.simple measure) outcome ↔
      .ok (assignment.measures measure) = outcome := by
  constructor
  · intro value
    cases value
    rfl
  · rintro rfl
    exact .simple

theorem hasValue_ratio_iff {numerator denominator : String} :
    catalog.HasValue assignment (.ratio numerator denominator) outcome ↔
      quotient (assignment.measures numerator) (assignment.measures denominator) = outcome := by
  constructor
  · intro value
    cases value
    rfl
  · rintro rfl
    exact .ratio

theorem hasValue_conversions_iff {conversion : Conversion}
    (calculation : conversion.calculation = .conversions) :
    catalog.HasValue assignment (.conversion conversion) outcome ↔
      .ok (assignment.measures conversion.conversionMeasure) = outcome := by
  constructor
  · intro value
    cases value with
    | conversions _ => rfl
    | conversionRate other =>
        rw [calculation] at other
        cases other
  · rintro rfl
    exact .conversions calculation

theorem hasValue_conversionRate_iff {conversion : Conversion}
    (calculation : conversion.calculation = .conversionRate) :
    catalog.HasValue assignment (.conversion conversion) outcome ↔
      quotient (assignment.measures conversion.conversionMeasure)
        (assignment.measures conversion.baseMeasure) = outcome := by
  constructor
  · intro value
    cases value with
    | conversions other =>
        rw [calculation] at other
        cases other
    | conversionRate _ => rfl
  · rintro rfl
    exact .conversionRate calculation

end MetricCatalog

end SemanticLayer
