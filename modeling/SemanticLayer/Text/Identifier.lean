namespace SemanticLayer.Text

/-! Identifiers inside a text.

An identifier is a letter `A`-`Z`, `a`-`z` or an underscore with the longest run
of such characters and digits after it. `pieces` cuts a text into identifiers and
the characters between them; `flatten_pieces` states that nothing is lost. -/

def isIdentifierStart (c : Char) : Bool := c.isAlpha || c == '_'

def isIdentifierRest (c : Char) : Bool := c.isAlphanum || c == '_'

inductive Piece where
  | identifier (name : List Char)
  | other (c : Char)
deriving DecidableEq, Repr

namespace Piece

def text : Piece → List Char
  | .identifier name => name
  | .other c => [c]

end Piece

/-- `name` holds the identifier being read, last character first. -/
def piecesFrom (name : List Char) : List Char → List Piece
  | [] => if name.isEmpty then [] else [.identifier name.reverse]
  | c :: rest =>
      if name.isEmpty then
        if isIdentifierStart c then piecesFrom [c] rest else .other c :: piecesFrom [] rest
      else if isIdentifierRest c then piecesFrom (c :: name) rest
      else .identifier name.reverse :: .other c :: piecesFrom [] rest

def pieces (text : List Char) : List Piece := piecesFrom [] text

/-- Replace every identifier for which `meaning` has a text, in one pass from left
to right; what is inserted is not looked at again. -/
def substitute (meaning : List Char → Option (List Char)) (text : List Char) : List Char :=
  (pieces text).flatMap fun
    | .identifier name => (meaning name).getD name
    | .other c => [c]

theorem flatten_piecesFrom (name text : List Char) :
    (piecesFrom name text).flatMap Piece.text = name.reverse ++ text := by
  induction text generalizing name with
  | nil => cases name <;> simp [piecesFrom, Piece.text]
  | cons c rest ih =>
      cases name with
      | nil =>
          by_cases start : isIdentifierStart c <;> simp [piecesFrom, start, ih, Piece.text]
      | cons last before =>
          by_cases more : isIdentifierRest c <;> simp [piecesFrom, more, ih, Piece.text]

theorem flatten_pieces (text : List Char) : (pieces text).flatMap Piece.text = text :=
  flatten_piecesFrom [] text

end SemanticLayer.Text
