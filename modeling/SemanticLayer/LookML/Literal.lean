import SemanticLayer.Text.Blank
namespace SemanticLayer.LookML

/-! The written forms of names, quoted text and SQL. -/

/-- A backslash and a double quote are preceded by a backslash; a line break becomes a
space. -/
def escape : List Char → List Char
  | [] => []
  | '\\' :: rest => '\\' :: '\\' :: escape rest
  | '"' :: rest => '\\' :: '"' :: escape rest
  | '\n' :: rest => ' ' :: escape rest
  | '\r' :: rest => ' ' :: escape rest
  | c :: rest => c :: escape rest

def escapeText (text : String) : String := String.ofList (escape text.toList)

def quote (text : String) : String := "\"" ++ escapeText text ++ "\""

def isNameStart (c : Char) : Bool := c.isLower || c == '_'

def isNameRest (c : Char) : Bool := c.isLower || c.isDigit || c == '_'

/-- Names of fields, views and explores: lower-case ASCII letters, digits and
underscores, without a digit at the start. -/
def isName (text : List Char) : Bool :=
  match text with
  | [] => false
  | c :: rest => isNameStart c && rest.all isNameRest

def isValidName (text : String) : Bool := isName text.toList

/-- SQL on one line, so that it fits in front of the `;;` that ends it. -/
def oneLineSql (sql : String) : String := String.ofList (Text.oneLine sql.toList)

/-- A reference to a field inside SQL. -/
def reference (field : String) : String := "$\x7b" ++ field ++ "\x7d"

end SemanticLayer.LookML
