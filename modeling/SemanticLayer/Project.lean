import SemanticLayer.Metric
import SemanticLayer.MetricError
namespace SemanticLayer

/-- What the files of a semantic layer declare. -/
structure Project where
  models : List SemanticModel := []
  metrics : List Metric := []
  /-- One error per metric whose type tag is not supported. -/
  rejected : List MetricError := []
deriving DecidableEq, Repr, Inhabited

namespace Project

/-- The declarations of `first` and after them those of `second`. -/
def append (first second : Project) : Project :=
  { models := first.models ++ second.models
    metrics := first.metrics ++ second.metrics
    rejected := first.rejected ++ second.rejected }

instance : Append Project := ⟨append⟩

/-- The first metric declared under `name`. -/
def metric? (project : Project) (name : String) : Option Metric :=
  project.metrics.find? fun metric => metric.name == name

@[simp] theorem append_models (first second : Project) :
    (first ++ second).models = first.models ++ second.models := rfl

@[simp] theorem append_metrics (first second : Project) :
    (first ++ second).metrics = first.metrics ++ second.metrics := rfl

@[simp] theorem append_rejected (first second : Project) :
    (first ++ second).rejected = first.rejected ++ second.rejected := rfl

end Project

end SemanticLayer
