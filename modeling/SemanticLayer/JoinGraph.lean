import SemanticLayer.ModelSet.Link
namespace SemanticLayer

/-! The models that can be joined to a base model.

`JoinGraph.within` goes out from the base hop by hop. Each round follows the links
of the models found in the round before and keeps the first link to every model
not reached yet, so a model is joined over a shortest chain of links. -/

/-- A joined model with the last link of the chain that leads to it. -/
structure JoinEntry where
  link : Link
  /-- The number of links from the base. -/
  hopCount : Nat
deriving DecidableEq, Repr, Inhabited

namespace JoinEntry

def target (entry : JoinEntry) : String := entry.link.target

/-- The model to which `target` is joined: the base, or a model one hop nearer. -/
def via (entry : JoinEntry) : String := entry.link.source

def cardinality (entry : JoinEntry) : Cardinality := entry.link.cardinality

/-- By distance, then by name. -/
def le (first second : JoinEntry) : Bool :=
  first.hopCount < second.hopCount ||
    (first.hopCount == second.hopCount && decide (first.target ≤ second.target))

end JoinEntry

structure JoinGraph where
  base : String
  /-- In order of discovery. -/
  entries : List JoinEntry
deriving DecidableEq, Repr, Inhabited

namespace JoinGraph

/-- Of the links in `candidates`, the first to each model outside `reached`. -/
def newLinks (reached : List String) : List Link → List Link
  | [] => []
  | link :: rest =>
      if link.target ∈ reached then newLinks reached rest
      else link :: newLinks (link.target :: reached) rest

/-- The models at which the next round starts. -/
def frontier (base : String) (hops : Nat) (entries : List JoinEntry) : List String :=
  if hops = 0 then [base]
  else (entries.filter fun entry => entry.hopCount == hops).map JoinEntry.target

/-- Every model within `hops` links of `base`. -/
def within (set : ModelSet) (base : String) : Nat → List JoinEntry
  | 0 => []
  | hops + 1 =>
      let entries := within set base hops
      let candidates := (frontier base hops entries).flatMap set.linksFrom
      let found := newLinks (base :: entries.map JoinEntry.target) candidates
      entries ++ found.map fun link => ⟨link, hops + 1⟩

/-- No shortest chain is longer than the number of models, so that many rounds stand
for a graph without a bound. -/
def rounds (set : ModelSet) (maxHops : Option Nat) : Nat :=
  match maxHops with
  | none => set.models.length
  | some bound => min bound set.models.length

def build (set : ModelSet) (base : String) (maxHops : Option Nat) : JoinGraph :=
  ⟨base, within set base (rounds set maxHops)⟩

def entry? (graph : JoinGraph) (model : String) : Option JoinEntry :=
  graph.entries.find? fun entry => entry.target == model

/-- Is `model` joined? The base itself is not. -/
def contains (graph : JoinGraph) (model : String) : Bool :=
  graph.entries.any fun entry => entry.target == model

/-- Can a metric anchored on the base use fields of `model`? -/
def reaches (graph : JoinGraph) (model : String) : Bool :=
  model == graph.base || graph.contains model

/-- The entries by distance and name; the model that an entry is joined to is the
base or comes earlier. -/
def joins (graph : JoinGraph) : List JoinEntry := Order.sorted JoinEntry.le graph.entries

end JoinGraph

end SemanticLayer
