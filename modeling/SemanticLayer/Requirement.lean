import SemanticLayer.Order.SortedMap
namespace SemanticLayer

/-! The measures of other models that metrics anchored on a base model need. -/

open SemanticLayer.Order

/-- The base itself never has an entry. -/
structure Requirement where
  base : String
  /-- What is needed from each model. -/
  measures : SortedMap String (SortedSet String)
deriving DecidableEq, Repr, Inhabited

namespace Requirement

def empty (base : String) : Requirement := ⟨base, SortedMap.empty⟩

def isEmpty (requirement : Requirement) : Bool := requirement.measures.entries.isEmpty

/-- Need `measure` of `model`; nothing is recorded when `model` is the base. -/
def require (requirement : Requirement) (model measure : String) : Requirement :=
  if model = requirement.base then requirement
  else
    { requirement with
      measures := requirement.measures.change model fun known =>
        (known.getD SortedSet.empty).insert measure }

/-- Does `require` record a measure of `model`? -/
def accepts (requirement : Requirement) (model : String) : Bool := model != requirement.base

def requireAll (requirement : Requirement) (model : String) (measures : SortedSet String) :
    Requirement :=
  measures.items.foldl (fun grown measure => grown.require model measure) requirement

/-- Need all that `other` needs, except from the own base. -/
def merge (requirement other : Requirement) : Requirement :=
  other.measures.entries.foldl (fun merged entry => merged.requireAll entry.1 entry.2) requirement

def contains (requirement : Requirement) (model : String) : Bool :=
  (requirement.measures.get? model).isSome

/-- The models from which something is needed, ascending. -/
def models (requirement : Requirement) : SortedSet String := requirement.measures.keys

/-- What is needed from `model`, ascending. -/
def measuresFor (requirement : Requirement) (model : String) : SortedSet String :=
  (requirement.measures.get? model).getD SortedSet.empty

end Requirement

end SemanticLayer
