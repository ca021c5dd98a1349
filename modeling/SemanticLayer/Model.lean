namespace SemanticLayer

/-! Semantic models: the tables of a warehouse with the entities that join them,
the dimensions that group them and the measures that aggregate them. -/

/-- The text in ASCII lower case; all other characters stay. -/
def lowerAscii (text : String) : String := String.ofList (text.toList.map Char.toLower)

/-- The finest step at which a time dimension may be read. -/
inductive Granularity where
  | hour | day | week | month | quarter | year
deriving DecidableEq, Repr, Inhabited

namespace Granularity

def tag : Granularity → String
  | .hour => "hour"
  | .day => "day"
  | .week => "week"
  | .month => "month"
  | .quarter => "quarter"
  | .year => "year"

/-- From finest to coarsest. -/
def all : List Granularity := [.hour, .day, .week, .month, .quarter, .year]

/-- The coarser, the greater. -/
def rank : Granularity → Nat
  | .hour => 0
  | .day => 1
  | .week => 2
  | .month => 3
  | .quarter => 4
  | .year => 5

/-- Tags are read without regard to ASCII case. -/
def ofTag? (text : String) : Option Granularity :=
  all.find? fun granularity => granularity.tag == lowerAscii text

end Granularity

inductive Aggregation where
  | sum | sumBoolean | count | countDistinct | average | min | max | median
deriving DecidableEq, Repr, Inhabited

namespace Aggregation

def tag : Aggregation → String
  | .sum => "sum"
  | .sumBoolean => "sum_boolean"
  | .count => "count"
  | .countDistinct => "count_distinct"
  | .average => "average"
  | .min => "min"
  | .max => "max"
  | .median => "median"

def all : List Aggregation :=
  [.sum, .sumBoolean, .count, .countDistinct, .average, .min, .max, .median]

/-- Tags are read without regard to ASCII case; `avg` is short for `average`. -/
def ofTag? (text : String) : Option Aggregation :=
  let lowered := lowerAscii text
  if lowered == "avg" then some .average
  else all.find? fun aggregation => aggregation.tag == lowered

end Aggregation

/-- Only these two roles form joins: a primary entity identifies the rows of its
model, a foreign entity refers to the rows of another one. -/
inductive EntityRole where
  | primary | foreign
deriving DecidableEq, Repr, Inhabited

namespace EntityRole

def tag : EntityRole → String
  | .primary => "primary"
  | .foreign => "foreign"

end EntityRole

structure Entity where
  name : String
  role : EntityRole
  /-- The column or expression that holds the key. -/
  expression : String
deriving DecidableEq, Repr, Inhabited

namespace Entity

def isPrimary (entity : Entity) : Bool := entity.role == .primary

def isForeign (entity : Entity) : Bool := entity.role == .foreign

end Entity

inductive DimensionKind where
  | categorical
  | time (granularity : Granularity)
deriving DecidableEq, Repr, Inhabited

structure Dimension where
  name : String
  kind : DimensionKind := .categorical
  expression : Option String := none
  label : Option String := none
  description : Option String := none
deriving DecidableEq, Repr, Inhabited

structure Measure where
  name : String
  aggregation : Aggregation
  expression : Option String := none
  label : Option String := none
  description : Option String := none
deriving DecidableEq, Repr, Inhabited

structure SemanticModel where
  name : String
  /-- The relation in the warehouse that holds the rows. -/
  relation : Option String := none
  description : Option String := none
  entities : List Entity := []
  dimensions : List Dimension := []
  measures : List Measure := []
deriving DecidableEq, Repr, Inhabited

namespace SemanticModel

def primaryEntities (model : SemanticModel) : List Entity := model.entities.filter Entity.isPrimary

/-- The first entity declared as primary. -/
def primaryEntity? (model : SemanticModel) : Option Entity := model.entities.find? Entity.isPrimary

def foreignEntities (model : SemanticModel) : List Entity := model.entities.filter Entity.isForeign

def entity? (model : SemanticModel) (name : String) : Option Entity :=
  model.entities.find? fun entity => entity.name == name

def measure? (model : SemanticModel) (name : String) : Option Measure :=
  model.measures.find? fun measure => measure.name == name

/-- Does the model declare `entity` as its primary entity? -/
def identifies (model : SemanticModel) (entity : String) : Bool :=
  model.primaryEntity?.any fun primary => primary.name == entity

def declaresMeasure (model : SemanticModel) (measure : String) : Bool :=
  model.measures.any fun declared => declared.name == measure

end SemanticModel

end SemanticLayer
