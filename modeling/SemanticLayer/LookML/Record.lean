import SemanticLayer.Json
import SemanticLayer.LookML.Explore
namespace SemanticLayer.LookML

/-! Views and explores as JSON records. Every part is written, in a fixed order, and an
absent part as `null`. -/

def DimensionField.json (field : DimensionField) : Json :=
  .object [
    ("name", .string field.name),
    ("dimension_type", Json.optional .string field.type),
    ("sql", .string field.sql),
    ("primary_key", .bool field.isPrimaryKey),
    ("hidden", .bool field.isHidden),
    ("label", Json.optional .string field.label),
    ("description", Json.optional .string field.description)]

def DimensionGroup.json (group : DimensionGroup) : Json :=
  .object [
    ("name", .string group.name),
    ("timeframes", Json.ofStrings group.timeframes),
    ("sql", .string group.sql),
    ("label", Json.optional .string group.label),
    ("description", Json.optional .string group.description)]

def MeasureField.json (field : MeasureField) : Json :=
  .object [
    ("name", .string field.name),
    ("measure_type", .string field.type),
    ("sql", Json.optional .string field.sql),
    ("label", Json.optional .string field.label),
    ("description", Json.optional .string field.description)]

def MetricField.json (field : MetricField) : Json :=
  .object [
    ("name", .string field.name),
    ("metric", .string field.metric),
    ("measure_type", .string field.type),
    ("sql", .string field.sql),
    ("required_fields", Json.ofStrings field.requiredFields),
    ("label", .string field.label),
    ("description", Json.optional .string field.description),
    ("value_format_name", Json.optional .string field.valueFormat)]

def View.json (view : View) : Json :=
  .object [
    ("name", .string view.name),
    ("model", .string view.model),
    ("sql_table_name", Json.optional .string view.tableName),
    ("description", Json.optional .string view.description),
    ("dimensions", .array (view.dimensions.map DimensionField.json)),
    ("dimension_groups", .array (view.groups.map DimensionGroup.json)),
    ("measures", .array (view.measures.map MeasureField.json)),
    ("metric_measures", .array (view.metrics.map MetricField.json))]

def Join.json (join : Join) : Json :=
  .object [
    ("view", .string join.view),
    ("sql_on", .string join.condition),
    ("relationship", .string join.relationship.tag),
    ("join_type", .string join.type),
    ("hop_count", .number join.hopCount),
    ("fields", Json.ofStrings join.fields)]

def Explore.json (explore : Explore) : Json :=
  .object [
    ("name", .string explore.name),
    ("base_view", .string explore.baseView),
    ("label", Json.optional .string explore.label),
    ("joins", .array (explore.joins.map Join.json))]

/-- The record on which the fingerprint of the output rests. -/
def record (views : List View) (explores : List Explore) : Json :=
  .array [.array (views.map View.json), .array (explores.map Explore.json)]

end SemanticLayer.LookML
