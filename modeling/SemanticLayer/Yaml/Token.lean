import SemanticLayer.Yaml.Block
import SemanticLayer.Yaml.Plain
import SemanticLayer.Yaml.Tag
namespace SemanticLayer.Yaml

/-! The tokens of a YAML text.

Indentation becomes tokens that open and close blocks. A key of a mapping is recognised
only by the colon after it, so the place of everything that may be such a key is kept,
and the token of the key is put in there when the colon is found.

There is one function for every kind of token; each starts at the first character of it. -/

inductive Token where
  | directive (directive : Directive)
  | documentStart
  | documentEnd
  | blockSequenceStart
  | blockMappingStart
  | blockEnd
  | flowSequenceStart
  | flowSequenceEnd
  | flowMappingStart
  | flowMappingEnd
  | blockEntry
  | flowEntry
  | key
  | value
  | anchorName (name : String)
  | aliasName (name : String)
  | tag (tag : Tag)
  | scalar (isPlain : Bool) (text : String)
deriving DecidableEq, Repr

/-- Something that is a key if a colon follows it. -/
structure PossibleKey where
  /-- Must a colon follow? -/
  isRequired : Bool
  /-- The number of tokens in front of it. -/
  position : Nat
  offset : Nat
  line : Nat
  column : Nat
deriving Repr

structure Lexer where
  cursor : Cursor
  /-- More than the number of characters of the text; no loop takes more steps. -/
  limit : Nat
  tokens : Array Token := #[]
  /-- The columns of the open blocks, innermost first. -/
  blocks : List Nat := []
  /-- The possible key of every open flow collection, innermost first, and last that of
  the surrounding block. -/
  keys : List (Option PossibleKey) := [none]
  mayStartKey : Bool := true
deriving Repr

abbrev Lex (α : Type) := StateT Lexer (Except SyntaxError) α

namespace Lexer

def inFlow (lexer : Lexer) : Bool := 1 < lexer.keys.length

/-- The first column inside the innermost block. -/
def margin (lexer : Lexer) : Nat :=
  match lexer.blocks with
  | [] => 0
  | column :: _ => column + 1

def fail (problem : String) : Lex α := do throw ((← get).cursor.error problem)

def emit (token : Token) : Lex Unit :=
  modify fun lexer => { lexer with tokens := lexer.tokens.push token }

def moveTo (cursor : Cursor) : Lex Unit := modify fun lexer => { lexer with cursor }

def allowKey (allowed : Bool) : Lex Unit :=
  modify fun lexer => { lexer with mayStartKey := allowed }

/-- Close every block that lies further right than `column`; without a column, all. -/
def closeBlocks (column : Option Nat) : Lex Unit :=
  modify fun lexer =>
    if lexer.inFlow then lexer
    else
      let closed := lexer.blocks.takeWhile fun block => column.all fun column => column < block
      { lexer with
        blocks := lexer.blocks.drop closed.length
        tokens := lexer.tokens ++ closed.toArray.map fun _ => Token.blockEnd }

/-- Open a block at `column` unless one is open there or further right; its token goes to
`position`. -/
def openBlock (column position : Nat) (token : Token) : Lex Unit :=
  modify fun lexer =>
    if lexer.inFlow || lexer.blocks.head?.any fun current => column ≤ current then lexer
    else
      { lexer with
        blocks := column :: lexer.blocks
        tokens := lexer.tokens.insertIdxIfInBounds position token }

/-- What may have been a key is none any more. -/
def dropKey : Lex Unit := do
  let lexer ← get
  match lexer.keys with
  | some key :: rest =>
      if key.isRequired then fail "could not find expected ':'"
      set { lexer with keys := none :: rest }
  | _ => pure ()

/-- Remember that a key may start here. In a block it has to, when the place is that of
the keys before it. -/
def rememberKey : Lex Unit := do
  if (← get).mayStartKey then
    dropKey
    modify fun lexer =>
      let key : PossibleKey :=
        { isRequired := !lexer.inFlow && lexer.blocks.head? == some lexer.cursor.column
          position := lexer.tokens.size
          offset := lexer.cursor.offset
          line := lexer.cursor.line
          column := lexer.cursor.column }
      { lexer with keys := some key :: lexer.keys.drop 1 }

/-- A key ends on its line and within 1024 characters. -/
def isStale (cursor : Cursor) (key : PossibleKey) : Bool :=
  key.line < cursor.line || key.offset + 1024 < cursor.offset

def dropStaleKeys : Lex Unit := do
  let lexer ← get
  let stale := (lexer.keys.filterMap id).filter (isStale lexer.cursor)
  if stale.any PossibleKey.isRequired then fail "could not find expected ':'"
  set { lexer with
    keys := lexer.keys.map fun (key : Option PossibleKey) =>
      key.filter fun key => !isStale lexer.cursor key }

/-- Go over blanks, comments and breaks. A break in a block lets a key start; a tab is no
indentation, so it is skipped only where no key may start. -/
def skipToToken : Nat → Lex Unit
  | 0 => pure ()
  | fuel + 1 => do
      let lexer ← get
      let tabs := lexer.inFlow || !lexer.mayStartKey
      let cursor := lexer.cursor
      let cursor := if cursor.offset == 0 && cursor.isAt '\uFEFF' then cursor.skip else cursor
      let cursor := (cursor.skipWhile fun c => c == ' ' || (tabs && c == '\t')).skipComment
      if cursor.peek?.any isBreak then
        moveTo cursor.takeBreak.2
        if !lexer.inFlow then allowKey true
        skipToToken fuel
      else moveTo cursor

def lexDirective : Lex Unit := do
  closeBlocks none
  dropKey
  allowKey false
  let (directive, next) ← scanDirective (← get).cursor
  emit (.directive directive)
  moveTo next

def lexDocumentMarker (token : Token) : Lex Unit := do
  closeBlocks none
  dropKey
  allowKey false
  emit token
  moveTo ((← get).cursor.advance 3)

def lexFlowStart (token : Token) : Lex Unit := do
  rememberKey
  modify fun lexer => { lexer with keys := none :: lexer.keys }
  allowKey true
  emit token
  moveTo (← get).cursor.skip

def lexFlowEnd (token : Token) : Lex Unit := do
  dropKey
  modify fun lexer =>
    { lexer with keys := if lexer.inFlow then lexer.keys.drop 1 else lexer.keys }
  allowKey false
  emit token
  moveTo (← get).cursor.skip

def lexFlowEntry : Lex Unit := do
  dropKey
  allowKey true
  emit .flowEntry
  moveTo (← get).cursor.skip

/-- Indicators that open a block where they stand. -/
def openBlockHere (problem : String) (token : Token) : Lex Unit := do
  let lexer ← get
  if !lexer.inFlow then
    if !lexer.mayStartKey then fail problem
    openBlock lexer.cursor.column lexer.tokens.size token

def lexBlockEntry : Lex Unit := do
  openBlockHere "block sequence entries are not allowed in this context" .blockSequenceStart
  dropKey
  allowKey true
  emit .blockEntry
  moveTo (← get).cursor.skip

def lexKey : Lex Unit := do
  openBlockHere "mapping keys are not allowed in this context" .blockMappingStart
  dropKey
  allowKey !(← get).inFlow
  emit .key
  moveTo (← get).cursor.skip

def lexValue : Lex Unit := do
  let lexer ← get
  match lexer.keys with
  | some key :: rest =>
      set { lexer with
        keys := none :: rest
        tokens := lexer.tokens.insertIdxIfInBounds key.position .key }
      openBlock key.column key.position .blockMappingStart
      allowKey false
  | _ =>
      openBlockHere "mapping values are not allowed in this context" .blockMappingStart
      allowKey !lexer.inFlow
  emit .value
  moveTo (← get).cursor.skip

/-- An anchor or alias: a name that a blank or an indicator ends. -/
def lexAnchor (token : String → Token) : Lex Unit := do
  rememberKey
  allowKey false
  let (name, next) := (← get).cursor.skip.takeWhile isNameChar
  if name.isEmpty || !(next.blankOrEndAt 0 || next.peek?.any ("?:,]\x7d%@`".toList.contains ·)) then
    fail "did not find expected alphabetic or numeric character"
  emit (token (String.ofList name))
  moveTo next

def lexTag : Lex Unit := do
  rememberKey
  allowKey false
  let lexer ← get
  let (tag, next) ← scanTag lexer.inFlow lexer.cursor
  emit (.tag tag)
  moveTo next

def lexBlockScalar (literal : Bool) : Lex Unit := do
  dropKey
  allowKey true
  let lexer ← get
  let (text, next) ← scanBlock literal lexer.blocks.head? lexer.cursor
  emit (.scalar false (String.ofList text))
  moveTo next

def lexQuoted (single : Bool) : Lex Unit := do
  rememberKey
  allowKey false
  let lexer ← get
  let (text, next) ← scanQuoted single [] lexer.cursor.skip lexer.limit
  emit (.scalar false (String.ofList text))
  moveTo next

def lexPlain : Lex Unit := do
  rememberKey
  allowKey false
  let lexer ← get
  let scalar ← scanPlain lexer.inFlow lexer.margin [] {} lexer.cursor lexer.limit
  emit (.scalar true (String.ofList scalar.text))
  moveTo scalar.cursor
  if scalar.reachedNextLine then allowKey true

/-- May a plain scalar start here? -/
def startsPlain (inFlow : Bool) (cursor : Cursor) : Bool :=
  match cursor.peek? with
  | none => false
  | some c =>
      !(isSpaceOrTab c || isBreak c || "-?:,[]\x7b\x7d#&*!|>'\"%@`".toList.contains c) ||
        (c == '-' && !(cursor.peekAt? 1).any isSpaceOrTab) ||
        (!inFlow && (c == '?' || c == ':') && !cursor.blankOrEndAt 1)

/-- The token at the cursor. -/
def lexToken (c : Char) : Lex Unit := do
  let lexer ← get
  let cursor := lexer.cursor
  let inFlow := lexer.inFlow
  if cursor.column == 0 && c == '%' then lexDirective
  else if cursor.atDocumentMarker '-' then lexDocumentMarker .documentStart
  else if cursor.atDocumentMarker '.' then lexDocumentMarker .documentEnd
  else if c == '[' then lexFlowStart .flowSequenceStart
  else if c == '{' then lexFlowStart .flowMappingStart
  else if c == ']' then lexFlowEnd .flowSequenceEnd
  else if c == '}' then lexFlowEnd .flowMappingEnd
  else if c == ',' then lexFlowEntry
  else if c == '-' && cursor.blankOrEndAt 1 then lexBlockEntry
  else if c == '?' && (inFlow || cursor.blankOrEndAt 1) then lexKey
  else if c == ':' && (inFlow || cursor.blankOrEndAt 1) then lexValue
  else if c == '*' then lexAnchor .aliasName
  else if c == '&' then lexAnchor .anchorName
  else if c == '!' then lexTag
  else if c == '|' && !inFlow then lexBlockScalar true
  else if c == '>' && !inFlow then lexBlockScalar false
  else if c == '\'' then lexQuoted true
  else if c == '"' then lexQuoted false
  else if startsPlain inFlow cursor then lexPlain
  else fail "found character that cannot start any token"

/-- Lex to the end of the text, where all blocks are closed. -/
def lexAll : Nat → Lex Unit
  | 0 => pure ()
  | fuel + 1 => do
      skipToToken (← get).limit
      dropStaleKeys
      let cursor := (← get).cursor
      match cursor.peek? with
      | none =>
          closeBlocks none
          dropKey
      | some c =>
          closeBlocks (some cursor.column)
          lexToken c
          lexAll fuel

end Lexer

/-- Every token of a text, in which only allowed characters may stand. -/
def tokens (text : String) : Except SyntaxError (List Token) :=
  let characters := text.toList
  match characters.find? fun c => !isAllowed c with
  | some _ => .error ⟨0, 0, "control characters are not allowed"⟩
  | none => do
      let limit := characters.length + 1
      let (_, lexer) ← (Lexer.lexAll limit).run { cursor := { rest := characters }, limit }
      return lexer.tokens.toList

end SemanticLayer.Yaml
