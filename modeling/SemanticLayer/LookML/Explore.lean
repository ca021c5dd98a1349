import SemanticLayer.JoinGraph
import SemanticLayer.LookML.View
import SemanticLayer.Requirement
namespace SemanticLayer.LookML

/-! Explores: a base view with the views joined to it.

A joined view exposes its dimensions. A measure is exposed only when a metric of the
base model needs it. -/

structure Join where
  view : String
  condition : String
  relationship : Cardinality
  type : String
  hopCount : Nat
  /-- The set of all dimensions first, then measures. -/
  fields : List String
deriving DecidableEq, Repr, Inhabited

structure Explore where
  name : String
  baseView : String
  label : Option String := none
  joins : List Join := []
deriving DecidableEq, Repr, Inhabited

/-- The set that every view defines over the fields that are not measures. -/
def dimensionsOnly : String := "dimensions_only"

/-- What the join to `model` exposes. -/
def joinFields (naming : Naming) (requirement : Requirement) (model : String) : List String :=
  let view := naming.view model
  (view ++ "." ++ dimensionsOnly ++ "*") ::
    (requirement.measuresFor model).items.map fun measure => view ++ "." ++ measure

namespace Join

def ofEntry (naming : Naming) (requirement : Requirement) (entry : JoinEntry) : Join :=
  { view := naming.view entry.target
    condition :=
      reference (naming.view entry.link.source ++ "." ++ entry.link.fromEntity) ++ " = " ++
        reference (naming.view entry.link.target ++ "." ++ entry.link.toEntity)
    relationship := entry.cardinality
    type := "left_outer"
    hopCount := entry.hopCount
    fields := joinFields naming requirement entry.target }

end Join

/-- One join per entry of the graph, nearest models first. -/
def joins (naming : Naming) (requirement : Requirement) (graph : JoinGraph) : List Join :=
  graph.joins.map (Join.ofEntry naming requirement)

end SemanticLayer.LookML
