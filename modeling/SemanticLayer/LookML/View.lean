import SemanticLayer.LookML.Literal
import SemanticLayer.Model
import SemanticLayer.Order.SortedSet
namespace SemanticLayer.LookML

/-! Views: one per semantic model, with its dimensions, its measures and the measures
generated from metrics. -/

open SemanticLayer.Order

/-- How models are named in the output. -/
structure Naming where
  viewPrefix : String := ""
  explorePrefix : String := ""
deriving DecidableEq, Repr, Inhabited

namespace Naming

def view (naming : Naming) (model : String) : String := naming.viewPrefix ++ model

def explore (naming : Naming) (model : String) : String := naming.explorePrefix ++ model

end Naming

structure DimensionField where
  name : String
  type : Option String := none
  sql : String
  isPrimaryKey : Bool := false
  isHidden : Bool := false
  label : Option String := none
  description : Option String := none
deriving DecidableEq, Repr, Inhabited

/-- A time dimension, which stands for one field per timeframe. -/
structure DimensionGroup where
  name : String
  timeframes : List String
  sql : String
  label : Option String := none
  description : Option String := none
deriving DecidableEq, Repr, Inhabited

namespace DimensionGroup

def fieldNames (group : DimensionGroup) : List String :=
  group.timeframes.map fun timeframe => group.name ++ "_" ++ timeframe

end DimensionGroup

structure MeasureField where
  name : String
  type : String
  sql : Option String := none
  label : Option String := none
  description : Option String := none
deriving DecidableEq, Repr, Inhabited

/-- A measure generated from a metric. -/
structure MetricField where
  name : String
  metric : String
  type : String
  sql : String
  /-- The measures of other views that the SQL refers to. -/
  requiredFields : List String := []
  label : String
  description : Option String := none
  valueFormat : Option String := none
deriving DecidableEq, Repr, Inhabited

structure View where
  name : String
  model : String
  tableName : Option String := none
  description : Option String := none
  dimensions : List DimensionField := []
  groups : List DimensionGroup := []
  measures : List MeasureField := []
  metrics : List MetricField := []
deriving DecidableEq, Repr, Inhabited

namespace View

/-- Every field that is not a measure. -/
def dimensionFields (view : View) : SortedSet String :=
  SortedSet.ofList
    (view.dimensions.map DimensionField.name ++ view.groups.flatMap DimensionGroup.fieldNames)

/-- Is there a field of this name, or a dimension group? -/
def hasField (view : View) (name : String) : Bool :=
  view.dimensions.any (fun field => field.name == name) ||
    view.groups.any (fun group => group.name == name || group.fieldNames.contains name) ||
    view.measures.any (fun field => field.name == name) ||
    view.metrics.any fun field => field.name == name

end View

def isColumn (text : List Char) : Bool :=
  match text with
  | [] => false
  | c :: _ => !c.isDigit && text.all fun c => c.isAlphanum || c == '_'

/-- A bare column is qualified with the table; any other expression stays as it is. -/
def columnSql (expression : String) : String :=
  if isColumn expression.toList then reference "TABLE" ++ "." ++ expression else expression

/-- Every timeframe with the granularity from which on it can be read. -/
def timeframeSteps : List (String × Granularity) :=
  [("time", .hour), ("hour", .hour), ("date", .day), ("week", .week), ("month", .month),
    ("quarter", .quarter), ("year", .year)]

/-- The timeframes at least as coarse as `granularity`. -/
def timeframesFrom (granularity : Granularity) : List String :=
  (timeframeSteps.filter fun (_, step) => granularity.rank ≤ step.rank).map Prod.fst

namespace DimensionField

/-- Keys are hidden: they serve joins, not readers. -/
def ofEntity (entity : Entity) : DimensionField :=
  { name := entity.name
    sql := columnSql entity.expression
    isPrimaryKey := entity.isPrimary
    isHidden := true }

def ofDimension? (dimension : Dimension) : Option DimensionField :=
  match dimension.kind with
  | .time _ => none
  | .categorical =>
      some {
        name := dimension.name
        type := some "string"
        sql := columnSql (dimension.expression.getD dimension.name)
        label := dimension.label
        description := dimension.description }

end DimensionField

def DimensionGroup.ofDimension? (dimension : Dimension) : Option DimensionGroup :=
  match dimension.kind with
  | .categorical => none
  | .time granularity =>
      some {
        name := dimension.name
        timeframes := timeframesFrom granularity
        sql := columnSql (dimension.expression.getD dimension.name)
        label := dimension.label
        description := dimension.description }

namespace MeasureField

/-- `1` and `*` count rows; any other expression counts the rows where it is not null. -/
def countsRows (measure : Measure) : Bool :=
  match measure.expression with
  | none => false
  | some expression =>
      let trimmed := Text.trim expression.toList
      trimmed == ['1'] || trimmed == ['*']

def typeAndSql (measure : Measure) : String × Option String :=
  let column := columnSql (measure.expression.getD measure.name)
  match measure.aggregation with
  | .sum => ("sum", some column)
  | .sumBoolean => ("sum", some ("CASE WHEN " ++ column ++ " THEN 1 ELSE 0 END"))
  | .count =>
      if countsRows measure then ("count", none)
      else ("sum", some ("CASE WHEN " ++ column ++ " IS NOT NULL THEN 1 ELSE 0 END"))
  | .countDistinct => ("count_distinct", some column)
  | .average => ("average", some column)
  | .min => ("min", some column)
  | .max => ("max", some column)
  | .median => ("median", some column)

def ofMeasure (measure : Measure) : MeasureField :=
  { name := measure.name
    type := (typeAndSql measure).1
    sql := (typeAndSql measure).2
    label := measure.label
    description := measure.description }

end MeasureField

/-- The relation inside the schema, when there is one. -/
def qualifiedTable (schema : Option String) (relation : String) : String :=
  match schema with
  | some schema => schema ++ "." ++ relation
  | none => relation

/-- The view of a model, without any metrics: keys first, then categorical dimensions. -/
def View.ofModel (naming : Naming) (schema : Option String) (model : SemanticModel) : View :=
  { name := naming.view model.name
    model := model.name
    tableName := model.relation.map (qualifiedTable schema)
    description := model.description
    dimensions :=
      model.entities.map DimensionField.ofEntity ++
        model.dimensions.filterMap DimensionField.ofDimension?
    groups := model.dimensions.filterMap DimensionGroup.ofDimension?
    measures := model.measures.map MeasureField.ofMeasure }

end SemanticLayer.LookML
