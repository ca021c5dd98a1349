import SemanticLayer.Model
namespace SemanticLayer

/-! Metrics: named computations over the measures of one or several models. -/

inductive MetricType where
  | simple | ratio | derived | conversion
deriving DecidableEq, Repr, Inhabited

namespace MetricType

def tag : MetricType → String
  | .simple => "simple"
  | .ratio => "ratio"
  | .derived => "derived"
  | .conversion => "conversion"

def all : List MetricType := [.simple, .ratio, .derived, .conversion]

/-- Tags are read without regard to ASCII case. -/
def ofTag? (text : String) : Option MetricType :=
  all.find? fun metricType => metricType.tag == lowerAscii text

end MetricType

/-- What a conversion metric reports: the share of base events that convert, or
the number of conversions. -/
inductive Calculation where
  | conversionRate | conversions
deriving DecidableEq, Repr, Inhabited

namespace Calculation

def tag : Calculation → String
  | .conversionRate => "conversion_rate"
  | .conversions => "conversions"

end Calculation

structure Conversion where
  entity : String
  baseMeasure : String
  conversionMeasure : String
  calculation : Calculation := .conversionRate
  window : Option String := none
deriving DecidableEq, Repr, Inhabited

/-- One metric that a derived metric computes with. -/
structure MetricInput where
  name : String
  /-- The name under which the expression refers to the metric. -/
  aliasName : Option String := none
  offsetWindow : Option String := none
  offsetToGrain : Option String := none
deriving DecidableEq, Repr, Inhabited

namespace MetricInput

def reference (input : MetricInput) : String := input.aliasName.getD input.name

def hasOffset (input : MetricInput) : Bool :=
  input.offsetWindow.isSome || input.offsetToGrain.isSome

end MetricInput

inductive MetricKind where
  | simple (measure : String)
  | ratio (numerator denominator : String)
  | derived (expression : String) (inputs : List MetricInput)
  | conversion (conversion : Conversion)
deriving DecidableEq, Repr, Inhabited

namespace MetricKind

def type : MetricKind → MetricType
  | .simple _ => .simple
  | .ratio _ _ => .ratio
  | .derived _ _ => .derived
  | .conversion _ => .conversion

end MetricKind

structure Display where
  label : Option String := none
  description : Option String := none
  valueFormat : Option String := none
deriving DecidableEq, Repr, Inhabited

structure Metric where
  name : String
  kind : MetricKind
  /-- An explicit choice of the entity on whose model the metric is anchored. -/
  primaryEntity : Option String := none
  display : Display := {}
deriving DecidableEq, Repr, Inhabited

namespace Metric

def type (metric : Metric) : MetricType := metric.kind.type

/-- The inputs of a derived metric; other metrics have none. -/
def inputs (metric : Metric) : List MetricInput :=
  match metric.kind with
  | .derived _ inputs => inputs
  | _ => []

end Metric

/-- The first value that is there. -/
def firstPresent (values : List (Option α)) : Option α := values.findSome? id

end SemanticLayer
