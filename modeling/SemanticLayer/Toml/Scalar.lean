import SemanticLayer.Number.Numeral
import SemanticLayer.Toml.Value
namespace SemanticLayer.Toml

/-! Values without quotes: booleans, numbers, dates and times. -/

/-- Remove underscores, each of which must stand between two digits. -/
def withoutUnderscores? (isDigit : Char → Bool) : List Char → Option (List Char)
  | [] => some []
  | [c] => if c == '_' then none else some [c]
  | c :: d :: rest =>
      if d == '_' then
        if isDigit c && rest.head?.any isDigit then (withoutUnderscores? isDigit rest).map (c :: ·)
        else none
      else if c == '_' then none
      else (withoutUnderscores? isDigit (d :: rest)).map (c :: ·)

/-- Digits without a needless zero in front. -/
def isWhole (digits : List Char) : Bool :=
  match digits with
  | ['0'] => true
  | '0' :: _ => false
  | _ => !digits.isEmpty && digits.all Char.isDigit

def radixDigits? : List Char → Option (Nat × List Char)
  | '0' :: 'x' :: digits => some (16, digits)
  | '0' :: 'o' :: digits => some (8, digits)
  | '0' :: 'b' :: digits => some (2, digits)
  | _ => none

/-- Integers of at most 128 bits. -/
def boundedInteger? (value : Int) : Option Value :=
  if -(Nat.pow 2 127 : Int) ≤ value && value < (Nat.pow 2 128 : Int) then some (.integer value) else none

/-- A sign may stand in front of decimal digits only. -/
def integer? (text : List Char) : Option Value :=
  match radixDigits? text with
  | some (base, digits) => do
      let digits ← withoutUnderscores? (fun c => (Number.digitValue? base c).isSome) digits
      boundedInteger? (← Number.natural? base digits)
  | none => do
      let (sign, digits) := Number.splitSign text
      let digits ← withoutUnderscores? Char.isDigit digits
      if isWhole digits then
        let magnitude ← Number.natural? 10 digits
        boundedInteger? (if sign == some '-' then -(magnitude : Int) else magnitude)
      else none

/-- A fraction has digits on both sides of its point, and an exponent has digits too. -/
def hasFloatForm (digits : List Char) : Bool :=
  let whole := digits.takeWhile Char.isDigit
  let rest := digits.drop whole.length
  let exponentForm (text : List Char) : Bool :=
    match text with
    | [] => true
    | c :: written =>
        let power := (Number.splitSign written).2
        (c == 'e' || c == 'E') && !power.isEmpty && power.all Char.isDigit
  match rest with
  | '.' :: afterPoint =>
      let fraction := afterPoint.takeWhile Char.isDigit
      isWhole whole && !fraction.isEmpty && exponentForm (afterPoint.drop fraction.length)
  | _ => isWhole whole && !rest.isEmpty && exponentForm rest

/-- Decimals must be finite; infinities are written as such. -/
def float? (text : List Char) : Option Value := do
  let (sign, unsigned) := Number.splitSign text
  if unsigned == "inf".toList then return .float (.infinite (sign == some '-'))
  if unsigned == "nan".toList then return .float .nan
  let digits ← withoutUnderscores? Char.isDigit unsigned
  if hasFloatForm digits then
    match ← Number.decimal? digits with
    | .finite _ mantissa exponent => some (.float (.finite (sign == some '-') mantissa exponent))
    | _ => none
  else none

/-- A number of exactly `width` digits. -/
def fixedNumber? (width : Nat) (text : List Char) : Option (Nat × List Char) := do
  let digits := text.take width
  if digits.length = width ∧ digits.all Char.isDigit then
    return (← Number.natural? 10 digits, text.drop width)
  else none

def after? (c : Char) : List Char → Option (List Char)
  | [] => none
  | d :: rest => if c == d then some rest else none

def isLeapYear (year : Nat) : Bool := year % 4 = 0 && (year % 100 ≠ 0 || year % 400 = 0)

def daysOfMonth (year month : Nat) : Nat :=
  if month = 2 then if isLeapYear year then 29 else 28
  else if [4, 6, 9, 11].contains month then 30
  else 31

/-- What follows a valid date. -/
def afterDate? (text : List Char) : Option (List Char) := do
  let (year, rest) ← fixedNumber? 4 text
  let (month, rest) ← fixedNumber? 2 (← after? '-' rest)
  let (day, rest) ← fixedNumber? 2 (← after? '-' rest)
  if 1 ≤ month ∧ month ≤ 12 ∧ 1 ≤ day ∧ day ≤ daysOfMonth year month then some rest else none

/-- What follows hours and minutes. -/
def afterClock? (text : List Char) : Option (List Char) := do
  let (hour, rest) ← fixedNumber? 2 text
  let (minute, rest) ← fixedNumber? 2 (← after? ':' rest)
  if hour ≤ 23 ∧ minute ≤ 59 then some rest else none

/-- What follows a valid time, whose seconds may be left out. -/
def afterTime? (text : List Char) : Option (List Char) := do
  let rest ← afterClock? text
  match rest with
  | ':' :: seconds =>
      let (second, rest) ← fixedNumber? 2 seconds
      if 60 < second then none
      match rest with
      | '.' :: fraction =>
          let digits := fraction.takeWhile Char.isDigit
          if digits.isEmpty then none else some (fraction.drop digits.length)
      | _ => some rest
  | _ => some rest

/-- Nothing, `Z`, or hours and minutes with a sign. -/
def isOffset (text : List Char) : Bool :=
  match text with
  | [] => true
  | c :: rest =>
      if c == 'Z' || c == 'z' then rest.isEmpty
      else (c == '+' || c == '-') && afterClock? rest == some []

def isDateTime (text : List Char) : Bool :=
  match afterDate? text with
  | some [] => true
  | some (c :: time) => (c == 'T' || c == 't' || c == ' ') && (afterTime? time).any isOffset
  | none => afterTime? text == some []

def dateTime? (text : List Char) : Option Value :=
  if isDateTime text then some (.dateTime (String.ofList text)) else none

def scalar? (text : List Char) : Option Value :=
  if text == "true".toList then some (.bool true)
  else if text == "false".toList then some (.bool false)
  else integer? text <|> float? text <|> dateTime? text

end SemanticLayer.Toml
