import SemanticLayer.Model
import SemanticLayer.Order.Sorting
namespace SemanticLayer

/-! Sets of models that can be told apart.

`ModelSet.ofModels` accepts a list of models when names, primary entities and
measures are unambiguous, and answers afterwards which model owns an entity or a
measure. -/

/-- Why a list of models is refused. -/
inductive ModelConflict where
  | duplicateModel (name : String)
  | multiplePrimaryEntities (model : String)
  | duplicatePrimaryEntity (entity first second : String)
  | duplicateMeasure (measure first second : String)
deriving DecidableEq, Repr, Inhabited

namespace ModelConflict

def message : ModelConflict → String
  | .duplicateModel name => "Duplicate semantic model name: '" ++ name ++ "'"
  | .multiplePrimaryEntities model =>
      "Semantic model '" ++ model ++ "' declares more than one primary entity"
  | .duplicatePrimaryEntity entity first second =>
      "Primary entity '" ++ entity ++ "' is declared by both '" ++ first ++ "' and '" ++ second ++ "'"
  | .duplicateMeasure measure first second =>
      "Measure '" ++ measure ++ "' is defined in both '" ++ first ++ "' and '" ++ second ++
        "'. Measure names must be unique across models."

/-- The first model whose name an earlier one has. -/
def repeatedName? (earlier : List String) : List SemanticModel → Option ModelConflict
  | [] => none
  | model :: rest =>
      if model.name ∈ earlier then some (.duplicateModel model.name)
      else repeatedName? (model.name :: earlier) rest

/-- The first of `measures` that an earlier model declares, or that stands earlier
in the model called `owner` itself. -/
def repeatedMeasure? (earlier : List SemanticModel) (owner : String) (before : List String) :
    List Measure → Option ModelConflict
  | [] => none
  | measure :: rest =>
      match earlier.find? fun model => model.declaresMeasure measure.name with
      | some first => some (.duplicateMeasure measure.name first.name owner)
      | none =>
          if measure.name ∈ before then some (.duplicateMeasure measure.name owner owner)
          else repeatedMeasure? earlier owner (measure.name :: before) rest

/-- What one model gets wrong, by itself or against the `earlier` ones: entities
before measures. -/
def ofModel? (earlier : List SemanticModel) (model : SemanticModel) : Option ModelConflict :=
  if 1 < model.primaryEntities.length then some (.multiplePrimaryEntities model.name)
  else
    let sharedEntity := model.primaryEntity?.bind fun primary =>
      (earlier.find? fun first => first.identifies primary.name).map fun first =>
        .duplicatePrimaryEntity primary.name first.name model.name
    sharedEntity.orElse fun _ => repeatedMeasure? earlier model.name [] model.measures

/-- The conflict at the first model that has one. -/
def first? (earlier : List SemanticModel) : List SemanticModel → Option ModelConflict
  | [] => none
  | model :: rest => (ofModel? earlier model).orElse fun _ => first? (earlier ++ [model]) rest

end ModelConflict

/-- Models in ascending order of their names, without conflicts. -/
structure ModelSet where
  models : List SemanticModel
deriving DecidableEq, Repr, Inhabited

namespace ModelSet

/-- Names are compared over the whole list first; the other checks go through the
models in ascending order of their names. -/
def ofModels (models : List SemanticModel) : Except ModelConflict ModelSet :=
  match ModelConflict.repeatedName? [] models with
  | some conflict => .error conflict
  | none =>
      let ascending := Order.sortedOn SemanticModel.name models
      match ModelConflict.first? [] ascending with
      | some conflict => .error conflict
      | none => .ok ⟨ascending⟩

def model? (set : ModelSet) (name : String) : Option SemanticModel :=
  set.models.find? fun model => model.name == name

/-- The model that declares `entity` as its primary entity. -/
def ownerOfEntity? (set : ModelSet) (entity : String) : Option SemanticModel :=
  set.models.find? fun model => model.identifies entity

/-- The model that declares `measure`. -/
def ownerOfMeasure? (set : ModelSet) (measure : String) : Option SemanticModel :=
  set.models.find? fun model => model.declaresMeasure measure

end ModelSet

end SemanticLayer
