namespace SemanticLayer

/-! JSON values and their two written forms: compact, and indented by two spaces. -/

inductive Json where
  | null
  | bool (value : Bool)
  | number (value : Int)
  | string (value : String)
  | array (items : List Json)
  | object (fields : List (String × Json))
deriving Repr, Inhabited

namespace Json

def optional (encode : α → Json) : Option α → Json
  | none => .null
  | some value => encode value

def ofStrings (items : List String) : Json := .array (items.map .string)

def hexDigit (value : Nat) : Char :=
  if value < 10 then Char.ofNat ('0'.toNat + value) else Char.ofNat ('a'.toNat + (value - 10))

/-- Control characters, the double quote and the backslash are escaped; all else is
written as it is. -/
def escapeChar (c : Char) : List Char :=
  match c with
  | '"' => ['\\', '"']
  | '\\' => ['\\', '\\']
  | '\n' => ['\\', 'n']
  | '\r' => ['\\', 'r']
  | '\t' => ['\\', 't']
  | '\x08' => ['\\', 'b']
  | '\x0c' => ['\\', 'f']
  | c =>
      if c.toNat < 0x20 then ['\\', 'u', '0', '0', hexDigit (c.toNat / 16), hexDigit (c.toNat % 16)]
      else [c]

def quoted (text : String) : List Char := '"' :: text.toList.flatMap escapeChar ++ ['"']

def integer (value : Int) : List Char :=
  match value with
  | .ofNat magnitude => Nat.toDigits 10 magnitude
  | .negSucc below => '-' :: Nat.toDigits 10 (below + 1)

mutual

/-- Without any space. -/
def compact : Json → List Char
  | .null => ['n', 'u', 'l', 'l']
  | .bool true => ['t', 'r', 'u', 'e']
  | .bool false => ['f', 'a', 'l', 's', 'e']
  | .number value => integer value
  | .string value => quoted value
  | .array items => '[' :: compactItems items ++ [']']
  | .object fields => '{' :: compactFields fields ++ ['}']

def compactItems : List Json → List Char
  | [] => []
  | [item] => compact item
  | item :: rest => compact item ++ ',' :: compactItems rest

def compactFields : List (String × Json) → List Char
  | [] => []
  | [(name, value)] => quoted name ++ ':' :: compact value
  | (name, value) :: rest => quoted name ++ ':' :: compact value ++ ',' :: compactFields rest

end

def compactText (json : Json) : String := String.ofList json.compact

def lineAt (depth : Nat) : List Char := '\n' :: List.replicate (2 * depth) ' '

mutual

/-- One item on a line; an empty array or object stays on its line. -/
def indented (depth : Nat) : Json → List Char
  | .null => ['n', 'u', 'l', 'l']
  | .bool true => ['t', 'r', 'u', 'e']
  | .bool false => ['f', 'a', 'l', 's', 'e']
  | .number value => integer value
  | .string value => quoted value
  | .array [] => ['[', ']']
  | .array (first :: rest) =>
      '[' :: indentedItems (depth + 1) (first :: rest) ++ lineAt depth ++ [']']
  | .object [] => ['{', '}']
  | .object (first :: rest) =>
      '{' :: indentedFields (depth + 1) (first :: rest) ++ lineAt depth ++ ['}']

def indentedItems (depth : Nat) : List Json → List Char
  | [] => []
  | [item] => lineAt depth ++ indented depth item
  | item :: rest => lineAt depth ++ indented depth item ++ ',' :: indentedItems depth rest

def indentedFields (depth : Nat) : List (String × Json) → List Char
  | [] => []
  | [(name, value)] => lineAt depth ++ quoted name ++ ':' :: ' ' :: indented depth value
  | (name, value) :: rest =>
      lineAt depth ++ quoted name ++ ':' :: ' ' :: indented depth value ++
        ',' :: indentedFields depth rest

end

def indentedText (json : Json) : String := String.ofList (json.indented 0)

end Json

end SemanticLayer
