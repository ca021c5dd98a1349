import SemanticLayer.Number.Numeral
import SemanticLayer.Yaml.Folding
namespace SemanticLayer.Yaml

/-! Scalars in single or double quotes. -/

/-- The number that the next `count` characters write in hexadecimal digits. -/
def hexNumber? (count : Nat) (text : List Char) : Option Nat :=
  let digits := text.take count
  if digits.length = count then Number.natural? 16 digits else none

/-- The character that a letter stands for after a backslash. -/
def simpleEscape? (c : Char) : Option Char :=
  match c with
  | '0' => some '\x00'
  | 'a' => some '\x07'
  | 'b' => some '\x08'
  | 't' | '\t' => some '\t'
  | 'n' => some '\n'
  | 'v' => some '\x0b'
  | 'f' => some '\x0c'
  | 'r' => some '\r'
  | 'e' => some '\x1b'
  | ' ' => some ' '
  | '"' => some '"'
  | '/' => some '/'
  | '\\' => some '\\'
  | 'N' => some '\u0085'
  | '_' => some '\u00a0'
  | 'L' => some '\u2028'
  | 'P' => some '\u2029'
  | _ => none

/-- How many hexadecimal digits follow a letter after a backslash. -/
def codeLength? (c : Char) : Option Nat :=
  match c with
  | 'x' => some 2
  | 'u' => some 4
  | 'U' => some 8
  | _ => none

/-- The character of an escape whose backslash is at the cursor. -/
def scanEscape (cursor : Cursor) : Except SyntaxError (Char × Cursor) :=
  match cursor.peekAt? 1 with
  | none => .error (cursor.error "found unknown escape character")
  | some letter =>
      match simpleEscape? letter, codeLength? letter with
      | some c, _ => .ok (c, cursor.advance 2)
      | none, some length =>
          match hexNumber? length (cursor.rest.drop 2) with
          | none => .error (cursor.error "did not find expected hexadecimal number")
          | some code =>
              if code.isValidChar then .ok (Char.ofNat code, cursor.advance (2 + length))
              else .error (cursor.error "found invalid Unicode character escape code")
      | none, none => .error (cursor.error "found unknown escape character")

/-- Read the characters up to a blank, a break or the closing quote, in front of those in
`reversed`. The flag tells whether an escaped line break ended the run. -/
def quotedRun (single : Bool) (reversed : List Char) (cursor : Cursor) :
    Nat → Except SyntaxError (List Char × Bool × Cursor)
  | 0 => .ok (reversed, false, cursor)
  | fuel + 1 =>
      match cursor.peek? with
      | none => .ok (reversed, false, cursor)
      | some c =>
          if isSpaceOrTab c || isBreak c then .ok (reversed, false, cursor)
          else if single && c == '\'' then
            if cursor.peekAt? 1 == some '\'' then
              quotedRun single ('\'' :: reversed) (cursor.advance 2) fuel
            else .ok (reversed, false, cursor)
          else if !single && c == '"' then .ok (reversed, false, cursor)
          else if !single && c == '\\' then
            if (cursor.peekAt? 1).any isBreak then .ok (reversed, true, cursor.skip.takeBreak.2)
            else do
              let (escaped, next) ← scanEscape cursor
              quotedRun single (escaped :: reversed) next fuel
          else quotedRun single (c :: reversed) cursor.skip fuel

/-- Read on to the closing quote and past it. -/
def scanQuoted (single : Bool) (reversed : List Char) (cursor : Cursor) :
    Nat → Except SyntaxError (List Char × Cursor)
  | 0 => .error (cursor.error "found unexpected end of stream")
  | fuel + 1 => do
      if cursor.atAnyDocumentMarker then throw (cursor.error "found unexpected document indicator")
      if cursor.atEnd then throw (cursor.error "found unexpected end of stream")
      let (reversed, escapedBreak, cursor) ← quotedRun single reversed cursor (fuel + 1)
      if cursor.isAt (if single then '\'' else '"') then return (reversed.reverse, cursor.skip)
      let (gap, next) ← Gap.scan 0 { crossesLines := escapedBreak } cursor (fuel + 1)
      scanQuoted single (gap.folded.reverse ++ reversed) next fuel

end SemanticLayer.Yaml
