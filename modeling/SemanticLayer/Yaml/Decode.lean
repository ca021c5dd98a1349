import SemanticLayer.Yaml.Document
import SemanticLayer.Yaml.Value
namespace SemanticLayer.Yaml

/-! Reading records out of a document.

A record is a mapping with known keys; other keys are ignored together with what they
map to. References are followed where they are read, and both their number and the depth
of nesting are bounded.

A value whose type is not known in advance is read as the core schema says. -/

structure Scope where
  document : Document
  /-- How many collections may still be entered. -/
  depth : Nat := 128

/-- The state counts the references followed so far. -/
abbrev Decode (α : Type) := ReaderT Scope (StateT Nat (Except Problem)) α

namespace Decode

def fail (expectation : String) : Decode α := throw (.shape expectation)

/-- The node itself, or the one it refers to. -/
def follow (node : Node) : Decode Node := do
  match node with
  | .reference number =>
      let document := (← read).document
      let followed := (← get) + 1
      set followed
      if document.events * 100 < followed then fail "repetition limit exceeded"
      match document.target? number with
      | some target => return target
      | none => fail "unresolved alias"
  | node => return node

/-- Enter a collection. -/
def inside (content : Decode α) : Decode α := do
  match (← read).depth with
  | 0 => fail "recursion limit exceeded"
  | depth + 1 => withReader (fun scope => { scope with depth }) content

/-- The text of a scalar as it is written. -/
def text (node : Node) : Decode String := do
  match ← follow node with
  | .scalar _ _ text => return text
  | _ => fail "expected a string"

/-- The tag of a scalar that names one of the types of the core schema. -/
def coreTag (name : String) : String := "tag:yaml.org,2002:" ++ name

/-- Is nothing there, or a word for null? The tag for null allows nothing else. -/
def isAbsent (node : Node) : Decode Bool := do
  match node with
  | .scalar true none text => return text.isEmpty || isNullWord text
  | .scalar true (some tag) text =>
      if tag != coreTag "null" then return false
      if isNullWord text then return true
      fail "expected null"
  | _ => return false

def optional (decode : Node → Decode α) (node : Node) : Decode (Option α) := do
  let node ← follow node
  if ← isAbsent node then return none
  return some (← decode node)

/-- A sequence, or nothing for the empty one. -/
def list (decode : Node → Decode α) (node : Node) : Decode (List α) := do
  match ← follow node with
  | .sequence _ items => inside (items.mapM decode)
  | .scalar true _ "" => return []
  | _ => fail "expected a sequence"

/-- The known entries of a record, each key at most once. -/
abbrev Fields := List (String × Node)

def knownFields (known : List String) : List (Node × Node) → Decode Fields
  | [] => return []
  | (key, value) :: rest => do
      let name ← text key
      let fields ← knownFields known rest
      if !known.contains name then return fields
      if (fields.lookup name).isSome then fail s!"duplicate field {name}"
      return (name, value) :: fields

/-- A mapping, or nothing for the one without entries. -/
def record (known : List String) (decode : Fields → Decode α) (node : Node) : Decode α := do
  match ← follow node with
  | .mapping _ entries => inside (do decode (← knownFields known entries))
  | .scalar true _ "" => decode []
  | _ => fail "expected a mapping"

namespace Fields

def required (fields : Fields) (name : String) (decode : Node → Decode α) : Decode α := do
  match fields.lookup name with
  | some node => decode node
  | none => fail s!"missing field {name}"

def optional (fields : Fields) (name : String) (decode : Node → Decode α) :
    Decode (Option α) := do
  match fields.lookup name with
  | some node => Decode.optional decode node
  | none => return none

def orElse (fields : Fields) (name : String) (default : α) (decode : Node → Decode α) :
    Decode α := do
  match fields.lookup name with
  | some node => decode node
  | none => return default

def text (fields : Fields) (name : String) : Decode String := fields.required name Decode.text

def optionalText (fields : Fields) (name : String) : Decode (Option String) :=
  fields.optional name Decode.text

def list (fields : Fields) (name : String) (decode : Node → Decode α) : Decode (List α) :=
  fields.orElse name [] (Decode.list decode)

end Fields

/-- A plain scalar as the core schema reads it. -/
def plainValue (text : String) : Decode Value := do
  if text.isEmpty || isNullWord text then return .null
  if let some value := bool? text then return .bool value
  if let some value := integer? text then
    if fitsWord value then return .integer value
    fail "integer out of range"
  if hasNeedlessZero text.toList then return .text text
  match float? text with
  | some value => return .float value
  | none => return .text text

/-- A scalar that a tag of the core schema assigns to a type, or else a text. -/
def taggedScalar (tag text : String) : Decode Value := do
  if tag == coreTag "bool" then
    match bool? text with
    | some value => return .bool value
    | none => fail "expected a boolean"
  else if tag == coreTag "int" then
    match integer? text with
    | some value => if fitsWord value then return .integer value else fail "integer out of range"
    | none => fail "expected an integer"
  else if tag == coreTag "float" then
    match float? text with
    | some value => return .float value
    | none => fail "expected a float"
  else if tag == coreTag "null" then
    if isNullWord text then return .null else fail "expected null"
  else return .text text

/-- The name of a tag that is local to the document: what follows its exclamation mark. -/
def localTag? (tag : Option String) : Option String := do
  match (← tag).toList with
  | '!' :: name => some (String.ofList name)
  | _ => none

def scalarValue (isPlain : Bool) (tag : Option String) (text : String) : Decode Value :=
  match localTag? tag, tag with
  | some _, _ | none, none => if isPlain then plainValue text else return .text text
  | none, some tag => taggedScalar tag text

/-- Two exclamation marks are as good as one. -/
def underTag (tag : Option String) (value : Value) : Decode Value := do
  match localTag? tag with
  | none => return value
  | some name =>
      if name.isEmpty then fail "empty tag"
      match name.toList with
      | '!' :: c :: rest => return .tagged (String.ofList (c :: rest)) value
      | _ => return .tagged name value

/-- What is done about two equal keys of a mapping. -/
inductive Repetition where
  | allowed | refused
deriving DecidableEq

/-- The value of a node that may hold `depth` nested collections. -/
def valueWithin (repetition : Repetition) : Nat → Node → Decode Value
  | 0, node => do
      match ← follow node with
      | .scalar isPlain tag text => underTag tag (← scalarValue isPlain tag text)
      | _ => fail "recursion limit exceeded"
  | depth + 1, node => do
      match ← follow node with
      | .scalar isPlain tag text => underTag tag (← scalarValue isPlain tag text)
      | .sequence tag items =>
          underTag tag (.sequence (← items.mapM (valueWithin repetition depth)))
      | .mapping tag entries =>
          let entries ← entries.mapM fun (key, value) =>
            return (← valueWithin repetition depth key, ← valueWithin repetition depth value)
          if repetition = .refused && Value.repeatsKey entries then fail "duplicate entry"
          underTag tag (.mapping entries)
      | .reference _ => fail "unresolved alias"

def value (repetition : Repetition) (node : Node) : Decode Value := do
  valueWithin repetition (← read).depth node

end Decode

/-- Decode the root of a text. -/
def decode (root : Option Node → Decode α) (text : String) : Except Problem α := do
  let document ← Document.ofText text
  return (← ((root document.root).run { document }).run 0).1

end SemanticLayer.Yaml
