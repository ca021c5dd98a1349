import SemanticLayer.Text.Blank
namespace SemanticLayer.Source

/-! The relation of a model: a name as it stands, or a reference `ref('name')`. -/

open Text

def isQuote (c : Char) : Bool := c == '\'' || c == '"'

/-- What follows `expected`, if the text starts with it. -/
def afterLiteral? : (expected text : List Char) → Option (List Char)
  | [], text => some text
  | _ :: _, [] => none
  | c :: expected, d :: text => if c == d then afterLiteral? expected text else none

def afterQuote? : List Char → Option (List Char)
  | [] => none
  | c :: rest => if isQuote c then some rest else none

/-- The name between the quotes of a reference. White space may stand around all of it
and inside its parentheses, and the two quotes need not be of one kind. -/
def referenced? (text : List Char) : Option (List Char) := do
  let inner ← afterLiteral? "ref(".toList (trimStart text)
  let quoted ← afterQuote? (trimStart inner)
  let name := quoted.takeWhile fun c => !isQuote c
  if name.isEmpty then none
  let close ← afterQuote? (quoted.drop name.length)
  let rest ← afterLiteral? [')'] (trimStart close)
  if rest.all isBlank then some name else none

def relationName (text : String) : String :=
  let characters := text.toList
  String.ofList ((referenced? characters).getD (trim characters))

end SemanticLayer.Source
