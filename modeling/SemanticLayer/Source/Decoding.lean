import SemanticLayer.Source.Record
import SemanticLayer.Yaml.Decode
namespace SemanticLayer.Source

/-! The records of a YAML text.

A reference to a measure or a metric is a name, or a mapping with a name in it. Its
values are typed before they are read, so a name must be a text and not just a scalar. -/

open Yaml Yaml.Decode

/-- An expression may be any scalar; anything else counts as none. -/
def expressionField (fields : Fields) : Decode (Option String) := do
  let value ← fields.optional "expr" (value .refused)
  return value.bind Value.scalarText?

def entityRecord : Node → Decode EntityRecord :=
  record ["name", "type", "expr"] fun fields => do
    return {
      name := ← fields.text "name"
      type := ← fields.optionalText "type"
      expression := ← expressionField fields }

def granularityField : Node → Decode (Option String) :=
  record ["time_granularity"] fun fields => fields.optionalText "time_granularity"

def dimensionRecord : Node → Decode DimensionRecord :=
  record ["name", "type", "expr", "label", "description", "type_params"] fun fields => do
    let granularity ← fields.optional "type_params" granularityField
    return {
      name := ← fields.text "name"
      type := ← fields.optionalText "type"
      expression := ← expressionField fields
      label := ← fields.optionalText "label"
      description := ← fields.optionalText "description"
      granularity := granularity.join }

def measureRecord : Node → Decode MeasureRecord :=
  record ["name", "agg", "expr", "label", "description"] fun fields => do
    return {
      name := ← fields.text "name"
      aggregation := ← fields.optionalText "agg"
      expression := ← expressionField fields
      label := ← fields.optionalText "label"
      description := ← fields.optionalText "description" }

def modelRecord : Node → Decode ModelRecord :=
  record ["name", "model", "description", "entities", "dimensions", "measures"] fun fields => do
    return {
      name := ← fields.text "name"
      relation := ← fields.optionalText "model"
      description := ← fields.optionalText "description"
      entities := ← fields.list "entities" entityRecord
      dimensions := ← fields.list "dimensions" dimensionRecord
      measures := ← fields.list "measures" measureRecord }

/-- The field that a key names, by its text or by its number. -/
def fieldOf? (known : List String) : Value → Option (Option String)
  | .text name => some (if known.contains name then some name else none)
  | .integer number => if 0 ≤ number then some known[number.toNat]? else none
  | _ => none

def referenceFields (known : List String) :
    List (Value × Value) → Decode (List (String × Value))
  | [] => return []
  | (key, value) :: rest => do
      let fields ← referenceFields known rest
      match fieldOf? known key with
      | none => fail "expected a field"
      | some none => return fields
      | some (some name) =>
          if (fields.lookup name).isSome then fail s!"duplicate field {name}"
          return (name, value) :: fields

def optionalTextOf (value : Option Value) : Decode (Option String) :=
  match value with
  | none | some .null => return none
  | some (.text text) => return some text
  | some _ => fail "expected a string"

def inputOf (known : List String) (value : Value) : Decode MetricInput := do
  if value.holdsTag then fail "unexpected tag"
  match value with
  | .text name => return { name }
  | .mapping entries =>
      let fields ← referenceFields known entries
      match fields.lookup "name" with
      | some (.text name) =>
          return {
            name
            aliasName := ← optionalTextOf (fields.lookup "alias")
            offsetWindow := ← optionalTextOf (fields.lookup "offset_window")
            offsetToGrain := ← optionalTextOf (fields.lookup "offset_to_grain") }
      | _ => fail "expected a name"
  | _ => fail "expected a name or a mapping with a name"

def metricInput (node : Node) : Decode MetricInput := do
  inputOf ["name", "alias", "offset_window", "offset_to_grain"] (← value .allowed node)

def measureReference (node : Node) : Decode String := do
  return (← inputOf ["name"] (← value .allowed node)).name

def conversionRecord : Node → Decode ConversionRecord :=
  record ["entity", "base_measure", "conversion_measure", "calculation", "window"] fun fields => do
    return {
      entity := ← fields.optionalText "entity"
      baseMeasure := ← fields.optional "base_measure" measureReference
      conversionMeasure := ← fields.optional "conversion_measure" measureReference
      calculation := ← fields.optionalText "calculation"
      window := ← fields.optionalText "window" }

def metricParameters : Node → Decode MetricParameters :=
  record ["measure", "numerator", "denominator", "expr", "metrics", "conversion_type_params"]
    fun fields => do
      return {
        measure := ← fields.optional "measure" measureReference
        numerator := ← fields.optional "numerator" measureReference
        denominator := ← fields.optional "denominator" measureReference
        expression := ← expressionField fields
        inputs := ← fields.list "metrics" metricInput
        conversion := ← fields.optional "conversion_type_params" conversionRecord }

def annotations : Node → Decode Annotations :=
  record ["primary_entity", "value_format_name"] fun fields => do
    return {
      primaryEntity := ← fields.optionalText "primary_entity"
      valueFormat := ← fields.optionalText "value_format_name" }

def configuredAnnotations : Node → Decode Annotations :=
  record ["meta"] fun fields => fields.orElse "meta" {} annotations

def metricRecord : Node → Decode MetricRecord :=
  record ["name", "type", "label", "description", "type_params", "meta", "config"] fun fields => do
    return {
      name := ← fields.text "name"
      type := ← fields.optionalText "type"
      label := ← fields.optionalText "label"
      description := ← fields.optionalText "description"
      parameters := ← fields.orElse "type_params" {} metricParameters
      annotations := ← fields.orElse "meta" {} annotations
      configured := ← fields.orElse "config" {} configuredAnnotations }

def declarations : Node → Decode Declarations :=
  record ["semantic_models", "metrics"] fun fields => do
    return {
      models := ← fields.list "semantic_models" modelRecord
      metrics := ← fields.list "metrics" metricRecord }

namespace Declarations

/-- A text without a document declares nothing. -/
def ofYaml (text : String) : Except Problem Declarations :=
  decode
    (fun root =>
      match root with
      | some node => declarations node
      | none => return {})
    text

end Declarations

end SemanticLayer.Source
