namespace SemanticLayer.Yaml

/-! A place in a YAML text, and the character classes that the rules of YAML speak of. -/

def isBreak (c : Char) : Bool :=
  c == '\n' || c == '\r' || c == '\u0085' || c == '\u2028' || c == '\u2029'

def isSpaceOrTab (c : Char) : Bool := c == ' ' || c == '\t'

/-- Letters, digits, the hyphen and the underscore: the characters of names. -/
def isNameChar (c : Char) : Bool := c.isAlphanum || c == '-' || c == '_'

/-- Characters that may stand in a YAML text at all. -/
def isAllowed (c : Char) : Bool :=
  let code := c.toNat
  code == 0x09 || code == 0x0A || code == 0x0D || (0x20 ≤ code && code ≤ 0x7E) || code == 0x85 ||
    (0xA0 ≤ code && code ≤ 0xD7FF) || (0xE000 ≤ code && code ≤ 0xFFFD) || 0x10000 ≤ code

structure SyntaxError where
  line : Nat
  column : Nat
  problem : String
deriving Repr, Inhabited

structure Cursor where
  /-- The characters from here on. -/
  rest : List Char
  /-- The number of characters before. -/
  offset : Nat := 0
  line : Nat := 0
  column : Nat := 0
deriving Repr, Inhabited

namespace Cursor

def peek? (cursor : Cursor) : Option Char := cursor.rest.head?

def peekAt? (cursor : Cursor) (distance : Nat) : Option Char := cursor.rest[distance]?

def atEnd (cursor : Cursor) : Bool := cursor.rest.isEmpty

def isAt (cursor : Cursor) (c : Char) : Bool := cursor.peek? == some c

/-- Is there a break, or the end of the text, at this distance? -/
def breakOrEndAt (cursor : Cursor) (distance : Nat) : Bool :=
  (cursor.peekAt? distance).all isBreak

/-- Is there a space, a tab, a break or the end of the text at this distance? -/
def blankOrEndAt (cursor : Cursor) (distance : Nat) : Bool :=
  (cursor.peekAt? distance).all fun c => isSpaceOrTab c || isBreak c

/-- Go on by `count` characters of the same line. -/
def advance (cursor : Cursor) (count : Nat) : Cursor :=
  { cursor with
    rest := cursor.rest.drop count
    offset := cursor.offset + count
    column := cursor.column + count }

def skip (cursor : Cursor) : Cursor := cursor.advance 1

/-- Take characters of the same line while `test` holds. -/
def takeWhile (cursor : Cursor) (test : Char → Bool) : List Char × Cursor :=
  let taken := cursor.rest.takeWhile test
  (taken, cursor.advance taken.length)

def skipWhile (cursor : Cursor) (test : Char → Bool) : Cursor := (cursor.takeWhile test).2

/-- Go past a line break; a carriage return and the line feed after it are one. The text
read for it is a line feed, except that the two Unicode separators stand for themselves. -/
def takeBreak (cursor : Cursor) : List Char × Cursor :=
  let next (count : Nat) : Cursor :=
    { rest := cursor.rest.drop count
      offset := cursor.offset + count
      line := cursor.line + 1
      column := 0 }
  match cursor.rest with
  | '\r' :: '\n' :: _ => (['\n'], next 2)
  | c :: _ =>
      if c == '\u2028' || c == '\u2029' then ([c], next 1)
      else if isBreak c then (['\n'], next 1)
      else ([], cursor)
  | [] => ([], cursor)

/-- Does a line start here with `---` or `...`, followed by a blank or the end? -/
def atDocumentMarker (cursor : Cursor) (marker : Char) : Bool :=
  cursor.column == 0 && cursor.rest.take 3 == [marker, marker, marker] && cursor.blankOrEndAt 3

def atAnyDocumentMarker (cursor : Cursor) : Bool :=
  cursor.atDocumentMarker '-' || cursor.atDocumentMarker '.'

def error (cursor : Cursor) (problem : String) : SyntaxError :=
  ⟨cursor.line, cursor.column, problem⟩

/-- Go over a comment, if there is one, up to the end of its line. -/
def skipComment (cursor : Cursor) : Cursor :=
  if cursor.isAt '#' then cursor.skipWhile (fun c => !isBreak c) else cursor

/-- After something that must be last on its line: blanks, a comment and the break. -/
def finishLine (cursor : Cursor) : Except SyntaxError Cursor :=
  let cursor := (cursor.skipWhile isSpaceOrTab).skipComment
  if cursor.breakOrEndAt 0 then .ok cursor.takeBreak.2
  else .error (cursor.error "did not find expected comment or line break")

end Cursor

end SemanticLayer.Yaml
