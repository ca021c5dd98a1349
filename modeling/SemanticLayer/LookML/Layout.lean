import SemanticLayer.LookML.Literal
namespace SemanticLayer.LookML

/-! Indented lines, and the blocks and properties written with them. -/

inductive Indent where
  | tabs
  | spaces (count : Nat)
deriving DecidableEq, Repr, Inhabited

namespace Indent

def text : Indent → String
  | .tabs => "\t"
  | .spaces count => String.ofList (List.replicate count ' ')

end Indent

def propertyLine (key value : String) : String := key ++ ": " ++ value

def stringLine (key value : String) : String := propertyLine key (quote value)

def sqlLine (key sql : String) : String := propertyLine key (oneLineSql sql ++ " ;;")

def listLine (key : String) (items : List String) : String :=
  propertyLine key ("[" ++ ", ".intercalate items ++ "]")

def commentLine (comment : String) : String := "# " ++ comment

def openLine (keyword name : String) : String := propertyLine keyword (name ++ " \x7b")

def closeLine : String := "\x7d"

/-- A text that grows line by line at a depth of indentation. -/
structure Writer where
  /-- What one level of indentation looks like. -/
  unit : String
  depth : Nat := 0
  text : String := ""
deriving DecidableEq, Repr, Inhabited

namespace Writer

def ofIndent (indent : Indent) : Writer := { unit := indent.text }

def indent (writer : Writer) : Writer := { writer with depth := writer.depth + 1 }

/-- At the margin there is nothing to take back. -/
def dedent (writer : Writer) : Writer := { writer with depth := writer.depth - 1 }

def line (writer : Writer) (content : String) : Writer :=
  { writer with
    text := writer.text ++ String.join (List.replicate writer.depth writer.unit) ++ content ++ "\n" }

/-- An empty line has no indentation. -/
def blank (writer : Writer) : Writer := { writer with text := writer.text ++ "\n" }

def openBlock (writer : Writer) (keyword name : String) : Writer :=
  (writer.line (openLine keyword name)).indent

def closeBlock (writer : Writer) : Writer := writer.dedent.line closeLine

end Writer

/-- A file, as nested blocks. -/
inductive Item where
  | blank
  | line (content : String)
  | block (keyword name : String) (items : List Item)
deriving Repr, Inhabited

namespace Writer

mutual

def item (writer : Writer) : Item → Writer
  | .blank => writer.blank
  | .line content => writer.line content
  | .block keyword name content => (items (writer.openBlock keyword name) content).closeBlock

def items (writer : Writer) : List Item → Writer
  | [] => writer
  | first :: rest => items (item writer first) rest

end

end Writer

end SemanticLayer.LookML
