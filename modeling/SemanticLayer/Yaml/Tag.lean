import SemanticLayer.Yaml.Quoted
namespace SemanticLayer.Yaml

/-! Tags and directives: a tag is a handle with a suffix, and a directive says what a
handle stands for. -/

/-- The characters of a tag; inside angle brackets also the comma and square brackets. -/
def isTagChar (verbatim : Bool) (c : Char) : Bool :=
  isNameChar c || ";/?:@&=+$.%!~*'()".toList.contains c || (verbatim && ",[]".toList.contains c)

/-- The number of bytes that a UTF-8 sequence has after this first byte, and the bits of
the byte itself. -/
def leadByte? (byte : Nat) : Option (Nat × Nat) :=
  if byte < 0x80 then some (0, byte)
  else if byte / 32 = 6 then some (1, byte % 32)
  else if byte / 16 = 14 then some (2, byte % 16)
  else if byte / 8 = 30 then some (3, byte % 8)
  else none

def escapedByte? (text : List Char) : Option (Nat × List Char) :=
  match text with
  | '%' :: rest => (hexNumber? 2 rest).map fun byte => (byte, rest.drop 2)
  | _ => none

def trailingBytes? (code : Nat) (text : List Char) : Nat → Option (Nat × List Char)
  | 0 => some (code, text)
  | count + 1 => do
      let (byte, rest) ← escapedByte? text
      if byte / 64 = 2 then trailingBytes? (64 * code + byte % 64) rest count else none

/-- One character written as escaped bytes. -/
def escapedChar? (text : List Char) : Option (Char × List Char) := do
  let (byte, rest) ← escapedByte? text
  let (count, bits) ← leadByte? byte
  let (code, rest) ← trailingBytes? bits rest count
  return (Char.ofNat code, rest)

/-- The text of a tag from the cursor on, as long as its characters go. -/
def scanTagText (verbatim : Bool) (text : List Char) (cursor : Cursor) :
    Nat → Except SyntaxError (List Char × Cursor)
  | 0 => .ok (text, cursor)
  | fuel + 1 =>
      match cursor.peek? with
      | none => .ok (text, cursor)
      | some c =>
          if c == '%' then
            match escapedChar? cursor.rest with
            | none => .error (cursor.error "found an incorrect escape while parsing a tag")
            | some (escaped, rest) =>
                scanTagText verbatim (text ++ [escaped])
                  (cursor.advance (cursor.rest.length - rest.length)) fuel
          else if isTagChar verbatim c then
            scanTagText verbatim (text ++ [c]) cursor.skip fuel
          else .ok (text, cursor)

/-- The text of a tag, which must not be empty unless something stands in front of it. -/
def scanTagSuffix (verbatim mayBeEmpty : Bool) (front : List Char) (cursor : Cursor) :
    Except SyntaxError (List Char × Cursor) := do
  let (text, next) ← scanTagText verbatim [] cursor (cursor.rest.length + 1)
  if text.isEmpty && !mayBeEmpty then throw (cursor.error "did not find expected tag URI")
  return (front ++ text, next)

/-- An exclamation mark, name characters, and another exclamation mark if there is one. -/
def scanTagHandle (cursor : Cursor) : Except SyntaxError (List Char × Cursor) :=
  if cursor.isAt '!' then
    let (name, next) := cursor.skip.takeWhile isNameChar
    if next.isAt '!' then .ok ('!' :: name ++ ['!'], next.skip) else .ok ('!' :: name, next)
  else .error (cursor.error "did not find expected '!'")

structure Tag where
  handle : String
  suffix : String
deriving DecidableEq, Repr

/-- `!<...>` is a tag as it stands, `!name!suffix` uses a handle, and any other tag has
the handle `!`. A lone `!` is the suffix of the empty handle. -/
def scanTag (inFlow : Bool) (cursor : Cursor) : Except SyntaxError (Tag × Cursor) := do
  let (handle, suffix, next) ←
    if cursor.peekAt? 1 == some '<' then do
      let (suffix, next) ← scanTagSuffix true false [] (cursor.advance 2)
      if !next.isAt '>' then throw (next.error "did not find the expected '>'")
      pure ([], suffix, next.skip)
    else do
      let (handle, next) ← scanTagHandle cursor
      if 1 < handle.length && handle.getLast? == some '!' then
        let (suffix, next) ← scanTagSuffix false false [] next
        pure (handle, suffix, next)
      else
        let (suffix, next) ← scanTagSuffix false true (handle.drop 1) next
        pure (if suffix.isEmpty then ([], ['!'], next) else (['!'], suffix, next))
  if next.blankOrEndAt 0 || (inFlow && next.isAt ',') then
    return (⟨String.ofList handle, String.ofList suffix⟩, next)
  throw (next.error "did not find expected whitespace or line break")

inductive Directive where
  | version (major minor : Nat)
  | tag (handle meaning : String)
deriving DecidableEq, Repr

/-- A number of at most nine digits. -/
def scanVersionNumber (cursor : Cursor) : Except SyntaxError (Nat × Cursor) :=
  let (digits, next) := cursor.takeWhile Char.isDigit
  if digits.isEmpty then .error (cursor.error "did not find expected version number")
  else if 9 < digits.length then .error (cursor.error "found extremely long version number")
  else .ok (digits.foldl (fun value digit => 10 * value + (digit.toNat - '0'.toNat)) 0, next)

/-- A directive with its line; the cursor stands at the percent sign. -/
def scanDirective (cursor : Cursor) : Except SyntaxError (Directive × Cursor) := do
  let (name, next) := cursor.skip.takeWhile isNameChar
  if name.isEmpty then throw (next.error "could not find expected directive name")
  if !next.blankOrEndAt 0 then throw (next.error "found unexpected non-alphabetical character")
  let next := next.skipWhile isSpaceOrTab
  if name == "YAML".toList then
    let (major, next) ← scanVersionNumber next
    if !next.isAt '.' then throw (next.error "did not find expected digit or '.' character")
    let (minor, next) ← scanVersionNumber next.skip
    return (.version major minor, ← next.finishLine)
  else if name == "TAG".toList then
    let (handle, next) ← scanTagHandle next
    if handle != ['!'] && !(1 < handle.length && handle.getLast? == some '!') then
      throw (next.error "did not find expected '!'")
    if !next.peek?.any isSpaceOrTab then throw (next.error "did not find expected whitespace")
    let (meaning, next) ← scanTagSuffix true false [] (next.skipWhile isSpaceOrTab)
    if !next.blankOrEndAt 0 then
      throw (next.error "did not find expected whitespace or line break")
    return (.tag (String.ofList handle) (String.ofList meaning), ← next.finishLine)
  else throw (cursor.error "found unknown directive name")

end SemanticLayer.Yaml
