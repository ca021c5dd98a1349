import SemanticLayer.Number.Numeral
import SemanticLayer.Toml.Value
namespace SemanticLayer.Toml

/-! Strings in quotes: basic ones with escapes and literal ones without, each on one line
or, between three quotes, on several. -/

/-- May the character stand in a comment or a string? Of the control characters only the
tab may. -/
def isPrintable (c : Char) : Bool := c == '\t' || (0x20 ≤ c.toNat && c.toNat ≠ 0x7F)

def isBlank (c : Char) : Bool := c == ' ' || c == '\t'

/-- A line break at the head of the text, and what follows it. -/
def splitBreak : List Char → Option (List Char × List Char)
  | '\n' :: rest => some (['\n'], rest)
  | '\r' :: '\n' :: rest => some (['\r', '\n'], rest)
  | _ => none

def hexEscape? (width : Nat) (text : List Char) : Option (Char × List Char) := do
  let digits := text.take width
  if digits.length ≠ width then none
  let code ← Number.natural? 16 digits
  if code.isValidChar then some (Char.ofNat code, text.drop width) else none

/-- The character of an escape, after its backslash. -/
def escape? : List Char → Option (Char × List Char)
  | [] => none
  | c :: rest =>
      match c with
      | 'b' => some ('\x08', rest)
      | 't' => some ('\t', rest)
      | 'n' => some ('\n', rest)
      | 'f' => some ('\x0c', rest)
      | 'r' => some ('\r', rest)
      | 'e' => some ('\x1b', rest)
      | '"' => some ('"', rest)
      | '\\' => some ('\\', rest)
      | 'x' => hexEscape? 2 rest
      | 'u' => hexEscape? 4 rest
      | 'U' => hexEscape? 8 rest
      | _ => none

/-- The text of a string on one line, after its opening quote, and what follows it. What
has been read of it is in `reversed`, last character first. -/
def quotedLine (quote : Char) (reversed text : List Char) :
    Nat → Except Problem (String × List Char)
  | 0 => .error (.unexpected "closing quote")
  | fuel + 1 =>
      match text with
      | [] => .error (.unexpected "closing quote")
      | c :: rest =>
          if c == quote then .ok (String.ofList reversed.reverse, rest)
          else if c == '\\' && quote == '"' then
            match escape? rest with
            | some (escaped, rest) => quotedLine quote (escaped :: reversed) rest fuel
            | none => .error (.unexpected "escape sequence")
          else if isPrintable c then quotedLine quote (c :: reversed) rest fuel
          else .error (.unexpected "closing quote")

/-- Drop blanks and breaks. -/
def dropBlankLines : List Char → List Char
  | '\r' :: '\n' :: rest => dropBlankLines rest
  | c :: rest => if isBlank c || c == '\n' then dropBlankLines rest else c :: rest
  | [] => []

/-- After a backslash at the end of a line: the text from the next character that is not
white space. -/
def continuedLine? (text : List Char) : Option (List Char) := do
  let (_, rest) ← splitBreak (text.dropWhile isBlank)
  return dropBlankLines rest

/-- The text of a string on several lines, after its opening quotes. Up to two quotes may
stand in front of the three that close it. -/
def quotedBlock (quote : Char) (reversed text : List Char) :
    Nat → Except Problem (String × List Char)
  | 0 => .error (.unexpected "closing quotes")
  | fuel + 1 =>
      match text with
      | [] => .error (.unexpected "closing quotes")
      | c :: rest =>
          if c == quote then
            let run := (text.takeWhile (· == quote)).length
            if run < 3 then
              quotedBlock quote (List.replicate run quote ++ reversed) (text.drop run) fuel
            else
              let closing := min run 5
              .ok (String.ofList (List.replicate (closing - 3) quote ++ reversed).reverse,
                text.drop closing)
          else if c == '\\' && quote == '"' then
            match escape? rest, continuedLine? rest with
            | some (escaped, rest), _ => quotedBlock quote (escaped :: reversed) rest fuel
            | none, some rest => quotedBlock quote reversed rest fuel
            | none, none => .error (.unexpected "escape sequence")
          else
            match splitBreak text with
            | some (taken, rest) => quotedBlock quote (taken.reverse ++ reversed) rest fuel
            | none =>
                if isPrintable c then quotedBlock quote (c :: reversed) rest fuel
                else .error (.unexpected "closing quotes")

/-- A string that starts with `quote`. A break right after three quotes is dropped. -/
def quotedString (quote : Char) (text : List Char) : Except Problem (String × List Char) :=
  if text.take 3 == [quote, quote, quote] then
    let body := text.drop 3
    let body := ((splitBreak body).map Prod.snd).getD body
    quotedBlock quote [] body (body.length + 1)
  else quotedLine quote [] (text.drop 1) (text.length + 1)

end SemanticLayer.Toml
