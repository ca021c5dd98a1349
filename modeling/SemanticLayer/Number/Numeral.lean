import SemanticLayer.Number.Binary64
namespace SemanticLayer.Number

/-! Numerals: digits in some base, and decimals with a point and an exponent. -/

/-- The value of a digit, in either case, if it is below `base`. -/
def digitValue? (base : Nat) (c : Char) : Option Nat :=
  let value :=
    if c.isDigit then c.toNat - '0'.toNat
    else if 'a' ≤ c && c ≤ 'z' then c.toNat - 'a'.toNat + 10
    else if 'A' ≤ c && c ≤ 'Z' then c.toNat - 'A'.toNat + 10
    else base
  if value < base then some value else none

/-- The number that one or more digits write. -/
def natural? (base : Nat) (digits : List Char) : Option Nat :=
  if digits.isEmpty then none
  else
    digits.foldlM
      (fun value digit => (digitValue? base digit).map fun units => base * value + units) 0

/-- The sign in front, if there is one, and what follows it. -/
def splitSign : List Char → Option Char × List Char
  | c :: rest => if c == '+' || c == '-' then (some c, rest) else (none, c :: rest)
  | [] => (none, [])

/-- A number with an optional sign. -/
def signedNatural? (digits : List Char) : Option Int := do
  let (sign, digits) := splitSign digits
  let magnitude ← natural? 10 digits
  return if sign == some '-' then -(magnitude : Int) else magnitude

/-- Digits with a point among them, at their start or at their end, or without one; then
an exponent if there is one. -/
def decimal? (text : List Char) : Option Binary64 := do
  let (sign, unsigned) := splitSign text
  let whole := unsigned.takeWhile Char.isDigit
  let rest := unsigned.drop whole.length
  let (fraction, rest) :=
    match rest with
    | '.' :: afterPoint =>
        let fraction := afterPoint.takeWhile Char.isDigit
        (fraction, afterPoint.drop fraction.length)
    | _ => ([], rest)
  let exponent ←
    match rest with
    | [] => some 0
    | c :: written => if c == 'e' || c == 'E' then signedNatural? written else none
  let digits := whole ++ fraction
  let value ← natural? 10 digits
  let length := (digits.dropWhile (· == '0')).length
  return Binary64.ofDecimal (sign == some '-') value length (exponent - fraction.length)

end SemanticLayer.Number
