import SemanticLayer.Number.Numeral
namespace SemanticLayer.Yaml

/-! Values of the core schema: what a scalar is when its text decides. -/

inductive Value where
  | null
  | bool (value : Bool)
  | integer (value : Int)
  | float (value : Binary64)
  | text (value : String)
  | sequence (items : List Value)
  | mapping (entries : List (Value × Value))
  | tagged (tag : String) (value : Value)
deriving Repr, Inhabited

namespace Value

/-- Scalars other than null as text. -/
def scalarText? : Value → Option String
  | .bool true => some "true"
  | .bool false => some "false"
  | .integer value => some (toString value)
  | .float value => some value.text
  | .text value => some value
  | _ => none

mutual

/-- Equality of keys: the order of entries does not count, and numbers count by value. -/
def same : Value → Value → Bool
  | .null, .null => true
  | .bool first, .bool second => first == second
  | .integer first, .integer second => first == second
  | .float first, .float second => first.sameValue second
  | .text first, .text second => first == second
  | .sequence first, .sequence second => sameItems first second
  | .mapping first, .mapping second => first.length == second.length && within first second
  | .tagged firstTag first, .tagged secondTag second => firstTag == secondTag && same first second
  | _, _ => false

def sameItems : List Value → List Value → Bool
  | [], [] => true
  | first :: rest, second :: others => same first second && sameItems rest others
  | _, _ => false

/-- Is every entry also one of `others`? -/
def within : List (Value × Value) → List (Value × Value) → Bool
  | [], _ => true
  | (key, value) :: rest, others =>
      others.any (fun other => same key other.1 && same value other.2) && within rest others

end

mutual

def holdsTag : Value → Bool
  | .tagged _ _ => true
  | .sequence items => itemsHoldTag items
  | .mapping entries => entriesHoldTag entries
  | _ => false

def itemsHoldTag : List Value → Bool
  | [] => false
  | item :: rest => holdsTag item || itemsHoldTag rest

def entriesHoldTag : List (Value × Value) → Bool
  | [] => false
  | (key, value) :: rest => holdsTag key || holdsTag value || entriesHoldTag rest

end

/-- Are there two equal keys? -/
def repeatsKey : List (Value × Value) → Bool
  | [] => false
  | (key, _) :: rest => rest.any (fun entry => same key entry.1) || repeatsKey rest

end Value

def isNullWord (text : String) : Bool := ["null", "Null", "NULL", "~"].contains text

def bool? (text : String) : Option Bool :=
  if ["true", "True", "TRUE"].contains text then some true
  else if ["false", "False", "FALSE"].contains text then some false
  else none

/-- Digits that start with a needless zero are no number. -/
def hasNeedlessZero (text : List Char) : Bool :=
  let digits := (Number.splitSign text).2
  match digits with
  | '0' :: rest => !rest.isEmpty && rest.all Char.isDigit
  | _ => false

/-- Digits after `0x`, `0o` or `0b`, or decimal ones. -/
def magnitude? (text : List Char) : Option Nat :=
  match text with
  | '0' :: 'x' :: digits => Number.natural? 16 digits
  | '0' :: 'o' :: digits => Number.natural? 8 digits
  | '0' :: 'b' :: digits => Number.natural? 2 digits
  | digits => Number.natural? 10 digits

/-- Integers of at most 128 bits. -/
def integer? (text : String) : Option Int := do
  let characters := text.toList
  if hasNeedlessZero characters then none
  let (sign, digits) := Number.splitSign characters
  let magnitude ← magnitude? digits
  if sign == some '-' then
    if magnitude ≤ Nat.pow 2 127 then some (-(magnitude : Int)) else none
  else if magnitude < Nat.pow 2 128 then some magnitude
  else none

/-- Does the number fit into 64 bits, with a sign if it is negative? -/
def fitsWord (value : Int) : Bool :=
  -(Nat.pow 2 63 : Int) ≤ value && value < (Nat.pow 2 64 : Int)

/-- Decimals, infinities and NaN; a number too large to be finite is none. -/
def float? (text : String) : Option Binary64 :=
  let unsigned := if text.startsWith "+" then String.ofList (text.toList.drop 1) else text
  if text != unsigned && (Number.splitSign unsigned.toList).1.isSome then none
  else if [".inf", ".Inf", ".INF"].contains unsigned then some (.infinite false)
  else if ["-.inf", "-.Inf", "-.INF"].contains text then some (.infinite true)
  else if [".nan", ".NaN", ".NAN"].contains text then some .nan
  else
    match Number.decimal? unsigned.toList with
    | some (.infinite _) => none
    | number => number

end SemanticLayer.Yaml
