import SemanticLayer.Anchor
import SemanticLayer.Connectivity
import SemanticLayer.LookML.Composition
import SemanticLayer.LookML.Document
import SemanticLayer.LookML.Record
import SemanticLayer.MetricCatalog.Measures
import SemanticLayer.Project
import SemanticLayer.Sha256
import SemanticLayer.Text.TitleCase
namespace SemanticLayer

/-! From a project to views and explores.

Every metric is resolved on its own: anchored, followed down to its measures, checked
against the join graph of its anchor and composed. What the resolved metrics need is
then gathered per model. -/

open LookML

/-- What happens when a metric cannot be resolved. -/
inductive Mode where
  /-- The first error ends the run. -/
  | strict
  /-- The metric is left out and its error is reported. -/
  | lenient
deriving DecidableEq, Repr, Inhabited

def Mode.tag : Mode → String
  | .strict => "strict"
  | .lenient => "lenient"

structure Options where
  mode : Mode := .lenient
  maxJoinHops : Option Nat := none
  naming : Naming := {}
  schema : Option String := none
  /-- The models that get an explore; without a list, all with a primary entity. -/
  explores : Option (List String) := none
deriving DecidableEq, Repr, Inhabited

/-- Where a metric is anchored. -/
structure MetricAnchor where
  metric : String
  entity : String
  model : String
  inferred : Bool
deriving DecidableEq, Repr, Inhabited

structure Output where
  views : List View
  explores : List Explore
  anchors : List MetricAnchor
  /-- Why metrics were left out. -/
  diagnostics : List MetricError
deriving DecidableEq, Repr, Inhabited

inductive GenerationError where
  | models (conflict : ModelConflict)
  | metric (error : MetricError)
deriving DecidableEq, Repr, Inhabited

def GenerationError.message : GenerationError → String
  | .models conflict => "Invalid model set: " ++ conflict.message
  | .metric error => error.message

/-- A metric that passed every check. -/
structure ResolvedMetric where
  metric : Metric
  anchor : Anchor
  composition : Composition
  requirement : Requirement
deriving DecidableEq, Repr, Inhabited

namespace ResolvedMetric

def resolve (set : ModelSet) (catalog : MetricCatalog) (options : Options) (metric : Metric) :
    Except MetricError ResolvedMetric := do
  let anchor ← Anchor.resolve set metric
  let measures ← catalog.measures metric
  let graph := JoinGraph.build set anchor.model.name options.maxJoinHops
  validateConnectivity set graph metric.name anchor.model.name measures.items
  let composition ← compose set catalog options.naming anchor.model.name metric
  return {
    metric, anchor, composition
    requirement := requiredMeasures set anchor.model.name measures }

def metricAnchor (resolved : ResolvedMetric) : MetricAnchor :=
  { metric := resolved.metric.name
    entity := resolved.anchor.entity
    model := resolved.anchor.model.name
    inferred := resolved.anchor.source == .inferredFromDenominator }

def isAnchoredOn (model : String) (resolved : ResolvedMetric) : Bool :=
  resolved.anchor.model.name == model

/-- Shares are shown as percentages. -/
def defaultFormat (kind : MetricKind) : Option String :=
  match kind with
  | .ratio _ _ => some "percent_2"
  | .conversion conversion =>
      if conversion.calculation = .conversionRate then some "percent_2" else none
  | _ => none

/-- The field for the metric in `view`, renamed when the name is taken there. -/
def field (view : View) (resolved : ResolvedMetric) : MetricField :=
  let metric := resolved.metric
  { name := if view.hasField metric.name then metric.name ++ "_metric" else metric.name
    metric := metric.name
    type := "number"
    sql := resolved.composition.sql
    requiredFields := resolved.composition.requiredFields.items
    label := metric.display.label.getD (Text.titleCase metric.name)
    description := metric.display.description
    valueFormat := firstPresent [metric.display.valueFormat, defaultFormat metric.kind] }

end ResolvedMetric

namespace Generation

/-- One metric of every name, in ascending order of the names. Sorting keeps metrics of one name
in the order of declaration, so the first of them stays. -/
def firstOfEachName (metrics : List Metric) : List Metric :=
  (Order.sortedOn Metric.name metrics).eraseRepsBy (Order.sameKey Metric.name)

/-- The metrics that resolve and the errors of those that do not, each in order. -/
def partition (outcomes : List (Except MetricError ResolvedMetric)) :
    List ResolvedMetric × List MetricError :=
  (outcomes.filterMap Except.toOption,
    outcomes.filterMap fun outcome =>
      match outcome with
      | .ok _ => none
      | .error error => some error)

def addMetric (view : View) (resolved : ResolvedMetric) : View :=
  { view with metrics := view.metrics ++ [resolved.field view] }

/-- The view of a model with the metrics anchored on it. -/
def view (options : Options) (resolved : List ResolvedMetric) (model : SemanticModel) : View :=
  (resolved.filter (ResolvedMetric.isAnchoredOn model.name)).foldl addMetric
    (View.ofModel options.naming options.schema model)

/-- All that the metrics anchored on `model` need. -/
def requirement (resolved : List ResolvedMetric) (model : String) : Requirement :=
  ((resolved.filter (ResolvedMetric.isAnchoredOn model)).map ResolvedMetric.requirement).foldl
    Requirement.merge (Requirement.empty model)

/-- Does `model` get an explore? -/
def isExplored (options : Options) (model : SemanticModel) : Bool :=
  model.primaryEntity?.isSome &&
    match options.explores with
    | none => true
    | some names => names.contains model.name

def explore (set : ModelSet) (options : Options) (resolved : List ResolvedMetric)
    (model : SemanticModel) : Explore :=
  { name := options.naming.explore model.name
    baseView := options.naming.view model.name
    label := some (Text.titleCase model.name)
    joins :=
      LookML.joins options.naming (requirement resolved model.name)
        (JoinGraph.build set model.name options.maxJoinHops) }

def assemble (set : ModelSet) (options : Options) (resolved : List ResolvedMetric)
    (diagnostics : List MetricError) : Output :=
  { views := set.models.map (view options resolved)
    explores := (set.models.filter (isExplored options)).map (explore set options resolved)
    anchors := resolved.map ResolvedMetric.metricAnchor
    diagnostics }

/-- A strict run stops at the first error and has no diagnostics; rejected metrics come
before all others. -/
def run (project : Project) (options : Options) (set : ModelSet) : Except MetricError Output :=
  let catalog := MetricCatalog.ofMetrics project.metrics
  let resolve := ResolvedMetric.resolve set catalog options
  match options.mode with
  | .strict =>
      match project.rejected with
      | error :: _ => .error error
      | [] => do
          let resolved ← (firstOfEachName project.metrics).mapM resolve
          return assemble set options resolved []
  | .lenient =>
      let (resolved, failed) := partition ((firstOfEachName project.metrics).map resolve)
      .ok (assemble set options resolved (project.rejected ++ failed))

end Generation

def generate (project : Project) (options : Options) : Except GenerationError Output :=
  match ModelSet.ofModels project.models with
  | .error conflict => .error (.models conflict)
  | .ok set => (Generation.run project options set).mapError .metric

namespace Output

def hasErrors (output : Output) : Bool := !output.diagnostics.isEmpty

def view? (output : Output) (name : String) : Option View :=
  output.views.find? fun view => view.name == name

def explore? (output : Output) (name : String) : Option Explore :=
  output.explores.find? fun explore => explore.name == name

def anchor? (output : Output) (metric : String) : Option MetricAnchor :=
  output.anchors.find? fun anchor => anchor.metric == metric

def files (output : Output) (options : EmitOptions) : List (String × String) :=
  LookML.files options output.views output.explores

/-- A digest of all views and explores. -/
def fingerprint (output : Output) : String :=
  Sha256.hexDigest (record output.views output.explores).compactText.toUTF8.toList

end Output

end SemanticLayer
