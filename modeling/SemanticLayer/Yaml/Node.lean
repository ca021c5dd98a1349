import SemanticLayer.Yaml.Cursor
namespace SemanticLayer.Yaml

/-! The tree of a YAML document. -/

inductive Node where
  | scalar (isPlain : Bool) (tag : Option String) (text : String)
  | sequence (tag : Option String) (items : List Node)
  | mapping (tag : Option String) (entries : List (Node × Node))
  /-- Stands for the node that was anchored under `number`. -/
  | reference (number : Nat)
deriving Repr, Inhabited

/-- What stands where nothing is written. -/
def Node.empty : Node := .scalar true none ""

structure AnchoredNode where
  number : Nat
  /-- How much of the document comes before the node. -/
  start : Nat
  node : Node
deriving Repr

structure Document where
  /-- Missing if the text has no document. -/
  root : Option Node
  anchored : List AnchoredNode
  /-- A measure of length: a collection counts twice, for its start and its end. -/
  events : Nat
deriving Repr

/-- The node that a reference stands for: of several with its number, the last to start. -/
def Document.target? (document : Document) (number : Nat) : Option Node :=
  let candidates := document.anchored.filter fun anchored => anchored.number == number
  let later (best : Option AnchoredNode) (anchored : AnchoredNode) : Option AnchoredNode :=
    match best with
    | some found => if found.start < anchored.start then some anchored else best
    | none => some anchored
  (candidates.foldl later none).map AnchoredNode.node

/-- Why a text is not what its reader expects. -/
inductive Problem where
  | lexical (error : SyntaxError)
  | grammar (expectation : String)
  | shape (expectation : String)
deriving Repr

def Problem.message : Problem → String
  | .lexical error => s!"{error.problem} at line {error.line + 1} column {error.column + 1}"
  | .grammar expectation => expectation
  | .shape expectation => expectation

end SemanticLayer.Yaml
