import SemanticLayer.Metric
import SemanticLayer.MetricError
namespace SemanticLayer

/-! Metrics by name, and the walk over the metrics that a derived one refers to.

`MetricCatalog.fold` follows references from a metric down to the measures and
combines what an algebra says about each metric. The names on the way down are
pairwise different, so the walk is no deeper than the catalog has names.

`MetricCatalog.visit` is the same walk as calls that push and pop names on one stack. Nothing that
it looks at tells how deep it goes. -/

/-- The first definition of every metric name, in order of declaration. -/
structure MetricCatalog where
  metrics : List Metric
deriving DecidableEq, Repr, Inhabited

namespace MetricCatalog

/-- Leave out every metric whose name is among `seen` or belongs to an earlier one. -/
def firstDefinitions (seen : List String) : List Metric → List Metric
  | [] => []
  | metric :: rest =>
      if metric.name ∈ seen then firstDefinitions seen rest
      else metric :: firstDefinitions (metric.name :: seen) rest

def ofMetrics (metrics : List Metric) : MetricCatalog := ⟨firstDefinitions [] metrics⟩

def metric? (catalog : MetricCatalog) (name : String) : Option Metric :=
  catalog.metrics.find? fun metric => metric.name == name

/-- How many names a walk that came along `path` may still enter. -/
def unvisited (catalog : MetricCatalog) (path : List String) : Nat :=
  catalog.metrics.countP fun metric => metric.name ∉ path

theorem unvisited_lt {catalog : MetricCatalog} {path : List String} {name : String}
    {metric : Metric} (fresh : name ∉ path) (found : catalog.metric? name = some metric) :
    catalog.unvisited (path ++ [name]) < catalog.unvisited path := by
  obtain ⟨metrics⟩ := catalog
  simp only [metric?, unvisited] at *
  have smaller : ∀ metrics : List Metric,
      metrics.countP (fun metric => metric.name ∉ path ++ [name]) ≤
        metrics.countP (fun metric => metric.name ∉ path) := by
    intro metrics
    refine List.countP_mono_left fun metric _ outside => ?_
    simp_all
  induction metrics with
  | nil => simp at found
  | cons head rest ih =>
      by_cases same : head.name = name
      · simp only [List.countP_cons, same]
        have tail := smaller rest
        simp [fresh] at tail ⊢
        omega
      · have inRest : rest.find? (fun metric => metric.name == name) = some metric := by
          simpa [List.find?_cons, same] using found
        have tail := ih inRest
        simp only [List.countP_cons]
        simp [same] at tail ⊢
        omega

end MetricCatalog

/-- An input of a derived metric after the walk. -/
structure Operand (α : Type u) where
  reference : String
  type : MetricType
  value : α
deriving Repr

/-- What is made of each kind of metric. Only references to measures can fail. -/
structure MetricAlgebra (α : Type u) where
  simple : String → Except MetricError α
  ratio : String → String → Except MetricError α
  conversion : Conversion → Except MetricError α
  derived : String → List (Operand α) → α

namespace MetricCatalog

/-- The part of `path` from `name` on, closed by `name`. -/
def cycleAt (path : List String) (name : String) : List String :=
  path.dropWhile (· != name) ++ [name]

/-- Walk from `metric`, which was reached along `path`. References are followed in
order, and the first one that leads back into the path or to no metric ends the walk
with an error about `root`. -/
def foldFrom (catalog : MetricCatalog) (algebra : MetricAlgebra α) (root : String)
    (path : List String) (metric : Metric) : Except MetricError α :=
  match metric.kind with
  | .simple measure => algebra.simple measure
  | .ratio numerator denominator => algebra.ratio numerator denominator
  | .conversion conversion => algebra.conversion conversion
  | .derived expression inputs => do
      let operands ← inputs.mapM fun input =>
        if _onPath : input.name ∈ path then
          throw (.circularMetricReference root (cycleAt path input.name))
        else
          match found : catalog.metric? input.name with
          | none => throw (.unknownMetricReference root input.name)
          | some nested => do
              let value ← foldFrom catalog algebra root (path ++ [input.name]) nested
              return { reference := input.reference, type := nested.type, value }
      return algebra.derived expression operands
termination_by catalog.unvisited path
decreasing_by exact unvisited_lt _onPath found

/-- Walk from `metric` as the root. -/
def fold (catalog : MetricCatalog) (algebra : MetricAlgebra α) (metric : Metric) :
    Except MetricError α :=
  catalog.foldFrom algebra metric.name [metric.name] metric

/-- Why a call ends without a value. -/
inductive Stop where
  | tooDeep
  | failed (reason : MetricError)

/-- What all calls of a walk share. -/
structure Calls where
  /-- The names of the metrics whose calls have not ended, outermost first. -/
  stack : List String
  /-- The stack at every call so far. -/
  log : List (List String) := []

namespace Calls

def start (root : Metric) : Calls := { stack := [root.name] }

def push (name : String) (calls : Calls) : Calls := { calls with stack := calls.stack ++ [name] }

def pop (calls : Calls) : Calls := { calls with stack := calls.stack.dropLast }

def record (calls : Calls) : Calls := { calls with log := calls.log ++ [calls.stack] }

end Calls

abbrev Call (α : Type) := EStateM Stop Calls α

namespace Call

variable {α : Type}

/-- Run `call` with `name` on the stack. -/
def nested (name : String) (call : Call α) : Call α := do
  modify (Calls.push name)
  let value ← call
  modify Calls.pop
  return value

def settle (outcome : Except MetricError α) : Call α :=
  match outcome with
  | .ok value => pure value
  | .error reason => throw (.failed reason)

end Call

/-- Follow the reference of an input with `call`, unless it leads back to the stack or nowhere. -/
def follow (catalog : MetricCatalog) (root : String) (call : Metric → Call α) (input : MetricInput)
    (stack : List String) : Call (Operand α) :=
  if input.name ∈ stack then
    throw (.failed (.circularMetricReference root (cycleAt stack input.name)))
  else
    match catalog.metric? input.name with
    | none => throw (.failed (.unknownMetricReference root input.name))
    | some metric => do
        let value ← (call metric).nested input.name
        return { reference := input.reference, type := metric.type, value }

def visitInput (catalog : MetricCatalog) (root : String) (call : Metric → Call α)
    (input : MetricInput) : Call (Operand α) := do
  let calls ← get
  catalog.follow root call input calls.stack

/-- The walk as calls that nest no deeper than `depth`. -/
def visit (catalog : MetricCatalog) (algebra : MetricAlgebra α) (root : String) :
    (depth : Nat) → Metric → Call α
  | 0, _ => throw .tooDeep
  | depth + 1, metric => do
      modify Calls.record
      match metric.kind with
      | .simple measure => Call.settle (algebra.simple measure)
      | .ratio numerator denominator => Call.settle (algebra.ratio numerator denominator)
      | .conversion conversion => Call.settle (algebra.conversion conversion)
      | .derived expression inputs =>
          let operands ← inputs.mapM (catalog.visitInput root (catalog.visit algebra root depth))
          return algebra.derived expression operands

end MetricCatalog

end SemanticLayer
