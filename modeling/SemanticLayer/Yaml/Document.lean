import SemanticLayer.Yaml.Node
import SemanticLayer.Yaml.Token
namespace SemanticLayer.Yaml

/-! From tokens to the tree: the text must hold one document at most. -/

structure Reader where
  tokens : List Token
  /-- What the handles of tags stand for. -/
  handles : List (String × String) := []
  /-- The number that every anchor name has at present. -/
  names : List (String × Nat) := []
  anchored : List AnchoredNode := []
  events : Nat := 0

abbrev Read (α : Type) := StateT Reader (Except Problem) α

namespace Reader

def fail (expectation : String) : Read α := throw (.grammar expectation)

def peek : Read (Option Token) := return (← get).tokens.head?

def advance : Read Unit :=
  modify fun reader => { reader with tokens := reader.tokens.drop 1 }

def count (events : Nat) : Read Unit :=
  modify fun reader => { reader with events := reader.events + events }

def isAmong (token : Option Token) (tokens : List Token) : Bool := token.any tokens.contains

def emptyNode : Read Node := do
  count 1
  return .empty

/-- What may stand in front of a node. -/
structure Properties where
  anchor : Option String := none
  tag : Option String := none

def resolveTag (tag : Tag) : Read String := do
  if tag.handle.isEmpty then return tag.suffix
  match (← get).handles.lookup tag.handle with
  | some meaning => return meaning ++ tag.suffix
  | none => fail "found undefined tag handle"

/-- An anchor and a tag, in either order, at most one of each. -/
def properties : Read Properties := do
  match ← peek with
  | some (.anchorName anchor) =>
      advance
      match ← peek with
      | some (.tag tag) =>
          advance
          return { anchor, tag := some (← resolveTag tag) }
      | _ => return { anchor }
  | some (.tag tag) =>
      advance
      match ← peek with
      | some (.anchorName anchor) =>
          advance
          return { anchor, tag := some (← resolveTag tag) }
      | _ => return { tag := some (← resolveTag tag) }
  | _ => return {}

/-- An anchor takes the number of distinct names seen so far, and keeps it until its
name is used again. -/
def enter (anchor : Option String) : Read (Option (Nat × Nat)) := do
  match anchor with
  | none => return none
  | some name =>
      let reader ← get
      let number := reader.names.length
      let others := reader.names.filter fun entry => entry.1 != name
      set { reader with names := (name, number) :: others }
      return some (number, reader.events)

def leave (place : Option (Nat × Nat)) (node : Node) : Read Node := do
  match place with
  | none => pure ()
  | some (number, start) =>
      modify fun reader =>
        { reader with anchored := ⟨number, start, node⟩ :: reader.anchored }
  return node

/-- A scalar with the tag `!` is as good as one without. -/
def scalarNode (properties : Properties) (isPlain : Bool) (text : String) : Read Node := do
  let place ← enter properties.anchor
  count 1
  leave place (.scalar isPlain (properties.tag.filter (· != "!")) text)

def sequenceNode (properties : Properties) (items : Read (List Node)) : Read Node := do
  let place ← enter properties.anchor
  count 1
  let items ← items
  count 1
  leave place (.sequence properties.tag items)

def mappingNode (properties : Properties) (entries : Read (List (Node × Node))) :
    Read Node := do
  let place ← enter properties.anchor
  count 1
  let entries ← entries
  count 1
  leave place (.mapping properties.tag entries)

def outOfFuel : Read α := fail "did not find expected end of document"

/-- The value after a key, which may be left out. -/
def valueAfter (mapped : Read Node) : Read Node := do
  if (← peek) == some .value then
    advance
    mapped
  else emptyNode

mutual

/-- A node, where `block` allows block collections and `indentless` also a sequence whose
entries stand as far left as the key they belong to. -/
def node (block indentless : Bool) : Nat → Read Node
  | 0 => outOfFuel
  | fuel + 1 => do
      match ← peek with
      | some (.aliasName name) =>
          match (← get).names.lookup name with
          | some number =>
              advance
              count 1
              return .reference number
          | none => fail "unknown anchor"
      | _ =>
          let properties ← properties
          match ← peek with
          | some (.scalar isPlain text) =>
              advance
              scalarNode properties isPlain text
          | some .flowSequenceStart =>
              advance
              sequenceNode properties (flowItems true fuel)
          | some .flowMappingStart =>
              advance
              mappingNode properties (flowEntries true fuel)
          | token =>
              if indentless && token == some .blockEntry then
                sequenceNode properties (indentlessItems fuel)
              else if block && token == some .blockSequenceStart then
                advance
                sequenceNode properties (blockItems fuel)
              else if block && token == some .blockMappingStart then
                advance
                mappingNode properties (blockEntries fuel)
              else if properties.anchor.isSome || properties.tag.isSome then
                let place ← enter properties.anchor
                count 1
                leave place (.scalar true properties.tag "")
              else fail "did not find expected node content"

/-- A node, or nothing in front of one of `stops`. -/
def nodeBefore (stops : List Token) (block indentless : Bool) : Nat → Read Node
  | 0 => outOfFuel
  | fuel + 1 => do
      if isAmong (← peek) stops then emptyNode else node block indentless fuel

def blockItems : Nat → Read (List Node)
  | 0 => outOfFuel
  | fuel + 1 => do
      match ← peek with
      | some .blockEntry =>
          advance
          let item ← nodeBefore [.blockEntry, .blockEnd] true false fuel
          return item :: (← blockItems fuel)
      | some .blockEnd =>
          advance
          return []
      | _ => fail "did not find expected '-' indicator"

/-- These end without a token of their own. -/
def indentlessItems : Nat → Read (List Node)
  | 0 => outOfFuel
  | fuel + 1 => do
      match ← peek with
      | some .blockEntry =>
          advance
          let item ← nodeBefore [.blockEntry, .key, .value, .blockEnd] true false fuel
          return item :: (← indentlessItems fuel)
      | _ => return []

def blockEntries : Nat → Read (List (Node × Node))
  | 0 => outOfFuel
  | fuel + 1 => do
      match ← peek with
      | some .key =>
          advance
          let key ← nodeBefore [.key, .value, .blockEnd] true true fuel
          let mapped ← valueAfter (nodeBefore [.key, .value, .blockEnd] true true fuel)
          return (key, mapped) :: (← blockEntries fuel)
      | some .blockEnd =>
          advance
          return []
      | _ => fail "did not find expected key"

def flowItems (first : Bool) : Nat → Read (List Node)
  | 0 => outOfFuel
  | fuel + 1 => do
      if (← peek) == some .flowSequenceEnd then
        advance
        return []
      if !first then
        if (← peek) != some .flowEntry then fail "did not find expected ',' or ']'"
        advance
      match ← peek with
      | some .flowSequenceEnd =>
          advance
          return []
      | some .key =>
          advance
          let pair ← mappingNode {} (singlePair fuel)
          return pair :: (← flowItems false fuel)
      | _ =>
          let item ← node false false fuel
          return item :: (← flowItems false fuel)

/-- A mapping of one entry inside a flow sequence. Where its key is missing, the token
that shows this counts as part of the key. -/
def singlePair : Nat → Read (List (Node × Node))
  | 0 => outOfFuel
  | fuel + 1 => do
      let key ←
        if isAmong (← peek) [.value, .flowEntry, .flowSequenceEnd] then
          advance
          emptyNode
        else node false false fuel
      let mapped ← valueAfter (nodeBefore [.flowEntry, .flowSequenceEnd] false false fuel)
      return [(key, mapped)]

def flowEntries (first : Bool) : Nat → Read (List (Node × Node))
  | 0 => outOfFuel
  | fuel + 1 => do
      if (← peek) == some .flowMappingEnd then
        advance
        return []
      if !first then
        if (← peek) != some .flowEntry then fail "did not find expected ',' or '\x7d'"
        advance
      match ← peek with
      | some .flowMappingEnd =>
          advance
          return []
      | some .key =>
          advance
          let key ← nodeBefore [.value, .flowEntry, .flowMappingEnd] false false fuel
          let mapped ← valueAfter (nodeBefore [.flowEntry, .flowMappingEnd] false false fuel)
          return (key, mapped) :: (← flowEntries false fuel)
      | _ =>
          let key ← node false false fuel
          let mapped ← emptyNode
          return (key, mapped) :: (← flowEntries false fuel)

end

/-- The version must be 1.1 or 1.2, said once at most, and no handle is given twice. -/
def readDirectives (versionSeen : Bool) (handles : List (String × String)) :
    Nat → Read (List (String × String))
  | 0 => outOfFuel
  | fuel + 1 => do
      match ← peek with
      | some (.directive (.version major minor)) =>
          if versionSeen then fail "found duplicate %YAML directive"
          if major != 1 || !(minor == 1 || minor == 2) then fail "found incompatible YAML document"
          advance
          readDirectives true handles fuel
      | some (.directive (.tag handle meaning)) =>
          if (handles.lookup handle).isSome then fail "found duplicate %TAG directive"
          advance
          readDirectives versionSeen ((handle, meaning) :: handles) fuel
      | _ => return handles

/-- Handles that need no directive; a directive comes before them. -/
def standardHandles : List (String × String) := [("!", "!"), ("!!", "tag:yaml.org,2002:")]

def isDirective : Option Token → Bool
  | some (.directive _) => true
  | _ => false

def skipDocumentEnds : Read Unit :=
  modify fun reader =>
    { reader with tokens := reader.tokens.dropWhile (· == .documentEnd) }

/-- The only document. It starts with `---` if there are directives, and may start so
otherwise; without tokens there is none. -/
def document (fuel : Nat) : Read (Option Node) := do
  let first ← peek
  if first.isNone then return none
  let isExplicit := isDirective first || first == some .documentStart
  let handles ← if isExplicit then readDirectives false [] fuel else pure []
  modify fun reader => { reader with handles := handles ++ standardHandles }
  let root ←
    if isExplicit then do
      if (← peek) != some .documentStart then fail "did not find expected <document start>"
      advance
      let content ← peek
      if content.isNone || isDirective content ||
          isAmong content [.documentStart, .documentEnd] then emptyNode
      else node true false fuel
    else node true false fuel
  skipDocumentEnds
  if (← peek).isSome then fail "did not find the end of the document"
  return some root

end Reader

def Document.ofText (text : String) : Except Problem Document := do
  let tokens ← (tokens text).mapError Problem.lexical
  let start : Reader := { tokens }
  let (root, reader) ← (Reader.document (4 * tokens.length + 8)).run start
  return { root, anchored := reader.anchored, events := reader.events }

end SemanticLayer.Yaml
