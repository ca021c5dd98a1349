import SemanticLayer.LookML.View
import SemanticLayer.MetricCatalog
import SemanticLayer.ModelSet
import SemanticLayer.Text.Identifier
namespace SemanticLayer.LookML

/-! The SQL of a metric as seen from its anchor.

A measure of the anchor is referred to by its bare name; a measure of another model by
its view as well, and such fields are collected as required. -/

open SemanticLayer.Order

structure Composition where
  sql : String
  requiredFields : SortedSet String
deriving DecidableEq, Repr, Inhabited

namespace Composition

/-- `root` is the metric that errors are about. -/
def ofMeasure (set : ModelSet) (naming : Naming) (root anchorModel measure : String) :
    Except MetricError Composition :=
  match set.ownerOfMeasure? measure with
  | none => .error (.unknownMeasureReference root measure)
  | some owner =>
      if owner.name = anchorModel then .ok ⟨reference measure, SortedSet.empty⟩
      else
        let field := naming.view owner.name ++ "." ++ measure
        .ok ⟨reference field, SortedSet.ofList [field]⟩

/-- A quotient that is null where the denominator is zero. -/
def quotient (numerator denominator : Composition) : Composition :=
  { sql := "1.0 * " ++ numerator.sql ++ " / NULLIF(" ++ denominator.sql ++ ", 0)"
    requiredFields := numerator.requiredFields.union denominator.requiredFields }

/-- What an input contributes to the expression of a derived metric. All but a single
measure reference is put in parentheses. -/
def inputSql (operand : Operand Composition) : String :=
  if operand.type = .simple then operand.value.sql else "(" ++ operand.value.sql ++ ")"

/-- The SQL that an identifier stands for: that of the last input so named. -/
def meaning (operands : List (Operand Composition)) (name : List Char) : Option (List Char) :=
  (operands.reverse.find? fun operand => operand.reference == String.ofList name).map
    fun operand => (inputSql operand).toList

def ofOperands (expression : String) (operands : List (Operand Composition)) : Composition :=
  { sql := String.ofList (Text.substitute (meaning operands) expression.toList)
    requiredFields :=
      (operands.map fun operand => operand.value.requiredFields).foldl SortedSet.union
        SortedSet.empty }

def algebra (set : ModelSet) (naming : Naming) (root anchorModel : String) :
    MetricAlgebra Composition where
  simple measure := ofMeasure set naming root anchorModel measure
  ratio numerator denominator := do
    let numerator ← ofMeasure set naming root anchorModel numerator
    let denominator ← ofMeasure set naming root anchorModel denominator
    return quotient numerator denominator
  conversion conversion := do
    let conversions ← ofMeasure set naming root anchorModel conversion.conversionMeasure
    match conversion.calculation with
    | .conversions => return conversions
    | .conversionRate =>
        let base ← ofMeasure set naming root anchorModel conversion.baseMeasure
        return quotient conversions base
  derived := ofOperands

end Composition

def compose (set : ModelSet) (catalog : MetricCatalog) (naming : Naming) (anchorModel : String)
    (metric : Metric) : Except MetricError Composition :=
  catalog.fold (Composition.algebra set naming metric.name anchorModel) metric

end SemanticLayer.LookML
