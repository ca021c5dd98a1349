import SemanticLayer.Metric
namespace SemanticLayer.Source

/-! Declarations as they are written: nothing is checked but their shape, and whatever
may be left out is optional. -/

structure EntityRecord where
  name : String
  type : Option String := none
  expression : Option String := none
deriving DecidableEq, Repr, Inhabited

structure DimensionRecord where
  name : String
  type : Option String := none
  expression : Option String := none
  label : Option String := none
  description : Option String := none
  granularity : Option String := none
deriving DecidableEq, Repr, Inhabited

structure MeasureRecord where
  name : String
  aggregation : Option String := none
  expression : Option String := none
  label : Option String := none
  description : Option String := none
deriving DecidableEq, Repr, Inhabited

structure ModelRecord where
  name : String
  relation : Option String := none
  description : Option String := none
  entities : List EntityRecord := []
  dimensions : List DimensionRecord := []
  measures : List MeasureRecord := []
deriving DecidableEq, Repr, Inhabited

structure ConversionRecord where
  entity : Option String := none
  baseMeasure : Option String := none
  conversionMeasure : Option String := none
  calculation : Option String := none
  window : Option String := none
deriving DecidableEq, Repr, Inhabited

/-- The parameters of all types of metrics; a metric uses those of its own type. -/
structure MetricParameters where
  measure : Option String := none
  numerator : Option String := none
  denominator : Option String := none
  expression : Option String := none
  inputs : List MetricInput := []
  conversion : Option ConversionRecord := none
deriving DecidableEq, Repr, Inhabited

structure Annotations where
  primaryEntity : Option String := none
  valueFormat : Option String := none
deriving DecidableEq, Repr, Inhabited

structure MetricRecord where
  name : String
  type : Option String := none
  label : Option String := none
  description : Option String := none
  parameters : MetricParameters := {}
  annotations : Annotations := {}
  /-- Where an annotation is looked up that the metric itself does not have. -/
  configured : Annotations := {}
deriving DecidableEq, Repr, Inhabited

/-- What one text declares. -/
structure Declarations where
  models : List ModelRecord := []
  metrics : List MetricRecord := []
deriving DecidableEq, Repr, Inhabited

end SemanticLayer.Source
