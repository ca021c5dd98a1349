import SemanticLayer.Project
import SemanticLayer.Source.Record
import SemanticLayer.Source.Relation
namespace SemanticLayer.Source

/-! From records to the project that they declare. One bad record refuses all of them,
except that a metric whose type is not supported is only left out. -/

/-- The declaration that a faulty field belongs to. -/
inductive Owner where
  | model (name : String)
  | metric (name : String)
deriving DecidableEq, Repr, Inhabited

def Owner.text : Owner → String
  | .model name => s!"semantic model '{name}'"
  | .metric name => s!"metric '{name}'"

inductive RecordError where
  | missingField (owner : Owner) (field : String)
  | invalidValue (owner : Owner) (field reason : String)
deriving DecidableEq, Repr, Inhabited

def RecordError.message : RecordError → String
  | .missingField owner field => s!"Missing required field '{field}' in {owner.text}"
  | .invalidValue owner field reason =>
      s!"Invalid value for '{field}' in {owner.text}: {reason}"

def require (owner : Owner) (field : String) (value : Option α) : Except RecordError α :=
  match value with
  | some value => .ok value
  | none => .error (.missingField owner field)

/-- Entities that identify rows without being primary form no joins and are skipped. -/
def EntityRecord.convert (owner : Owner) (record : EntityRecord) :
    Except RecordError (Option Entity) := do
  let field := s!"entities.{record.name}.type"
  let type := lowerAscii (← require owner field record.type)
  let entity (role : EntityRole) : Entity :=
    { name := record.name, role, expression := record.expression.getD record.name }
  if type == "primary" then return some (entity .primary)
  else if type == "foreign" then return some (entity .foreign)
  else if type == "unique" || type == "natural" then return none
  else .error (.invalidValue owner field s!"unknown entity type '{type}'")

namespace DimensionRecord

/-- Without a granularity a time dimension is read by day. -/
def convertGranularity (owner : Owner) (record : DimensionRecord) :
    Except RecordError Granularity :=
  match record.granularity with
  | none => .ok .day
  | some tag =>
      match Granularity.ofTag? tag with
      | some granularity => .ok granularity
      | none =>
          .error (.invalidValue owner s!"dimensions.{record.name}.type_params.time_granularity"
            s!"unknown granularity '{tag}'")

def convertKind (owner : Owner) (record : DimensionRecord) : Except RecordError DimensionKind :=
  match record.type.map lowerAscii with
  | none => .ok .categorical
  | some type =>
      if type == "categorical" then .ok .categorical
      else if type == "time" then (convertGranularity owner record).map .time
      else
        .error (.invalidValue owner s!"dimensions.{record.name}.type"
          s!"unknown dimension type '{type}'")

def convert (owner : Owner) (record : DimensionRecord) : Except RecordError Dimension := do
  let kind ← record.convertKind owner
  return {
    name := record.name
    kind
    expression := record.expression
    label := record.label
    description := record.description }

end DimensionRecord

def MeasureRecord.convert (owner : Owner) (record : MeasureRecord) :
    Except RecordError Measure := do
  let field := s!"measures.{record.name}.agg"
  let tag ← require owner field record.aggregation
  match Aggregation.ofTag? tag with
  | none => .error (.invalidValue owner field s!"unsupported aggregation '{tag}'")
  | some aggregation =>
      return {
        name := record.name
        aggregation
        expression := record.expression
        label := record.label
        description := record.description }

def ModelRecord.convert (record : ModelRecord) : Except RecordError SemanticModel := do
  let owner := Owner.model record.name
  let entities ← record.entities.mapM (EntityRecord.convert owner)
  let dimensions ← record.dimensions.mapM (DimensionRecord.convert owner)
  let measures ← record.measures.mapM (MeasureRecord.convert owner)
  return {
    name := record.name
    relation := record.relation.map relationName
    description := record.description
    entities := entities.filterMap id
    dimensions
    measures }

/-- The calculation is checked first; it is a rate unless said otherwise. -/
def ConversionRecord.convert (owner : Owner) (record : ConversionRecord) :
    Except RecordError Conversion := do
  let field (name : String) : String := "type_params.conversion_type_params." ++ name
  let calculation ←
    match record.calculation with
    | none | some "conversion_rate" => pure Calculation.conversionRate
    | some "conversions" => pure Calculation.conversions
    | some other =>
        .error (.invalidValue owner (field "calculation") s!"unknown calculation '{other}'")
  let entity ← require owner (field "entity") record.entity
  let baseMeasure ← require owner (field "base_measure") record.baseMeasure
  let conversionMeasure ← require owner (field "conversion_measure") record.conversionMeasure
  return { entity, baseMeasure, conversionMeasure, calculation, window := record.window }

def MetricParameters.convert (owner : Owner) (parameters : MetricParameters) :
    MetricType → Except RecordError MetricKind
  | .simple => do
      return .simple (← require owner "type_params.measure" parameters.measure)
  | .ratio => do
      let numerator ← require owner "type_params.numerator" parameters.numerator
      let denominator ← require owner "type_params.denominator" parameters.denominator
      return .ratio numerator denominator
  | .derived => do
      let expression ← require owner "type_params.expr" parameters.expression
      return .derived expression parameters.inputs
  | .conversion => do
      let record ← require owner "type_params.conversion_type_params" parameters.conversion
      return .conversion (← record.convert owner)

/-- What becomes of a metric record that refuses nothing else. -/
inductive MetricOutcome where
  | accepted (metric : Metric)
  | rejected (error : MetricError)
deriving DecidableEq, Repr

namespace MetricOutcome

def metric? : MetricOutcome → Option Metric
  | .accepted metric => some metric
  | .rejected _ => none

def error? : MetricOutcome → Option MetricError
  | .accepted _ => none
  | .rejected error => some error

end MetricOutcome

def MetricRecord.convert (record : MetricRecord) : Except RecordError MetricOutcome := do
  let owner := Owner.metric record.name
  let tag ← require owner "type" record.type
  match MetricType.ofTag? tag with
  | none => return .rejected (.unsupportedMetricType record.name tag)
  | some type =>
      let kind ← record.parameters.convert owner type
      return .accepted {
        name := record.name
        kind
        primaryEntity :=
          firstPresent [record.annotations.primaryEntity, record.configured.primaryEntity]
        display :=
          { label := record.label
            description := record.description
            valueFormat :=
              firstPresent [record.annotations.valueFormat, record.configured.valueFormat] } }

/-- Models come before metrics. -/
def Declarations.toProject (declarations : Declarations) : Except RecordError Project := do
  let models ← declarations.models.mapM ModelRecord.convert
  let outcomes ← declarations.metrics.mapM MetricRecord.convert
  return {
    models
    metrics := outcomes.filterMap MetricOutcome.metric?
    rejected := outcomes.filterMap MetricOutcome.error? }

end SemanticLayer.Source
