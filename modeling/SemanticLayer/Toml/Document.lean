import SemanticLayer.Toml.Quoted
import SemanticLayer.Toml.Scalar
namespace SemanticLayer.Toml

/-! The grammar of a whole text: entries under headers. -/

abbrev Parse (α : Type) := StateT (List Char) (Except Problem) α

namespace Parse

def fail (expectation : String) : Parse α := throw (.unexpected expectation)

def peek : Parse (Option Char) := return (← get).head?

def drop (count : Nat) : Parse Unit := modify (List.drop count)

def expect (c : Char) : Parse Unit := do
  if (← peek) != some c then fail (String.singleton c)
  drop 1

def skipBlanks : Parse Unit := modify (List.dropWhile isBlank)

/-- A comment, if there is one, up to the end of its line. -/
def skipComment : Parse Unit := do
  if (← peek) == some '#' then modify (List.dropWhile isPrintable)

/-- The end of the line or of the text. -/
def lineEnd : Parse Unit := do
  skipBlanks
  skipComment
  let text ← get
  match splitBreak text with
  | some (_, rest) => set rest
  | none => if !text.isEmpty then fail "newline"

/-- Blanks, comments and breaks. -/
def skipLines : Nat → Parse Unit
  | 0 => pure ()
  | fuel + 1 => do
      skipBlanks
      skipComment
      match splitBreak (← get) with
      | some (_, rest) =>
          set rest
          skipLines fuel
      | none => pure ()

def skipAllLines : Parse Unit := do skipLines ((← get).length + 1)

def isBareKeyChar (c : Char) : Bool := c.isAlphanum || c == '_' || c == '-'

def quoted (quote : Char) : Parse String := do
  let (text, rest) ← quotedString quote (← get)
  set rest
  return text

/-- One part of a key: bare, or a string on one line. -/
def simpleKey : Parse String := do
  let text ← get
  match text with
  | c :: _ =>
      if c == '"' || c == '\'' then
        if text.take 3 == [c, c, c] then fail "key"
        quoted c
      else
        let key := text.takeWhile isBareKeyChar
        if key.isEmpty then fail "key"
        drop key.length
        return String.ofList key
  | [] => fail "key"

/-- Parts with dots between them: those on the way, and the last one. -/
def dottedKey (way : List String) : Nat → Parse (List String × String)
  | 0 => fail "key"
  | fuel + 1 => do
      skipBlanks
      let key ← simpleKey
      skipBlanks
      if (← peek) == some '.' then
        drop 1
        dottedKey (way ++ [key]) fuel
      else return (way, key)

def key : Parse (List String × String) := do dottedKey [] ((← get).length + 1)

def isScalarChar (c : Char) : Bool := c.isAlphanum || "+-_.:".toList.contains c

/-- A date and a time may have a space between them. -/
def scalar : Parse Value := do
  let text ← get
  let run := text.takeWhile isScalarChar
  let time :=
    match text.drop run.length with
    | ' ' :: c :: rest =>
        if afterDate? run == some [] && c.isDigit then ' ' :: (c :: rest).takeWhile isScalarChar
        else []
    | _ => []
  let written := run ++ time
  match scalar? written with
  | some value =>
      drop written.length
      return value
  | none => fail "value"

mutual

/-- A value in which collections are nested at most `depth` deep. -/
def value (depth : Nat) : Nat → Parse Value
  | 0 => fail "value"
  | fuel + 1 => do
      match ← peek with
      | none => fail "value"
      | some c =>
          if c == '"' || c == '\'' then return .text (← quoted c)
          else if c == '[' || c == '{' then
            if depth = 0 then fail "less nesting"
            drop 1
            if c == '[' then return .array false (← items (depth - 1) fuel)
            else return .table .inline (← entries (depth - 1) [] fuel)
          else scalar

/-- The items up to the closing bracket; a comma may stand after the last one. -/
def items (depth : Nat) : Nat → Parse (List Value)
  | 0 => fail "]"
  | fuel + 1 => do
      skipAllLines
      if (← peek) == some ']' then
        drop 1
        return []
      let item ← value depth fuel
      skipAllLines
      if (← peek) == some ',' then
        drop 1
        return item :: (← items depth fuel)
      expect ']'
      return [item]

/-- The entries up to the closing brace, added to those before them. -/
def entries (depth : Nat) (sofar : Entries) : Nat → Parse Entries
  | 0 => fail "\x7d"
  | fuel + 1 => do
      skipAllLines
      if (← peek) == some '}' then
        drop 1
        return sofar
      let (way, key) ← key
      expect '='
      skipBlanks
      let value ← value depth fuel
      let sofar ← Entries.insert key value way sofar
      skipAllLines
      if (← peek) == some ',' then
        drop 1
        entries depth sofar fuel
      else
        expect '}'
        return sofar

end

/-- How deep collections may be nested. -/
def depthLimit : Nat := 80

structure Entry where
  way : List String
  key : String
  value : Value

def entry : Parse Entry := do
  let (way, key) ← key
  expect '='
  skipBlanks
  let value ← value depthLimit ((← get).length + 1)
  lineEnd
  return { way, key, value }

inductive Header where
  | table (way : List String) (key : String)
  | appended (way : List String) (key : String)

def header : Parse Header := do
  expect '['
  let isAppended := (← peek) == some '['
  if isAppended then drop 1
  let (way, key) ← key
  expect ']'
  if isAppended then expect ']'
  lineEnd
  return if isAppended then .appended way key else .table way key

/-- A header, which the first section lacks, and the entries under it. -/
structure Section where
  header : Option Header
  entries : List Entry

/-- The sections of the text. `entries` holds those of the current one, last one first. -/
def sections (current : Option Header) (entries : List Entry) : Nat → Parse (List Section)
  | 0 => fail "end of text"
  | fuel + 1 => do
      skipAllLines
      match ← peek with
      | none => return [{ header := current, entries := entries.reverse }]
      | some '[' =>
          let next ← header
          let rest ← sections (some next) [] fuel
          return { header := current, entries := entries.reverse } :: rest
      | some _ => sections current ((← entry) :: entries) fuel

end Parse

def Parse.Section.fill (written : Parse.Section) (entries : Entries) : Except Problem Entries :=
  written.entries.foldlM (fun entries entry => entries.insert entry.key entry.value entry.way)
    entries

/-- Add a section to the table of the whole text. -/
def addSection (root : Entries) (written : Parse.Section) : Except Problem Entries :=
  match written.header with
  | none => written.fill root
  | some (.table way key) => Entries.changeAt (Entries.openTable key written.fill) way root
  | some (.appended way key) => Entries.changeAt (Entries.appendTable key written.fill) way root

/-- The table that a text stands for. A mark for the order of bytes is skipped at its
start. -/
def table (text : String) : Except Problem Entries := do
  let characters := text.toList
  let characters := if characters.head? == some '\uFEFF' then characters.drop 1 else characters
  let (sections, _) ← (Parse.sections none [] (characters.length + 1)).run characters
  sections.foldlM addSection []

end SemanticLayer.Toml
