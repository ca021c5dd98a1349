namespace SemanticLayer

/-! Binary floating-point numbers of 64 bits, read from decimals and written back.

Both directions are exact: a decimal is rounded to the nearest number, ties to the even
mantissa, and a number is written with the fewest digits that read back as it. -/

/-- A finite number is `mantissa * 2 ^ exponent`, with fewer than 54 bits of mantissa
and an exponent of at least -1074. -/
inductive Binary64 where
  | nan
  | infinite (negative : Bool)
  | finite (negative : Bool) (mantissa : Nat) (exponent : Int)
deriving DecidableEq, Repr, Inhabited

namespace Binary64

/-- The quotient to the nearest natural number, a half to the even one. -/
def roundQuotient (numerator denominator : Nat) : Nat :=
  let quotient := numerator / denominator
  let twice := 2 * (numerator % denominator)
  if twice < denominator then quotient
  else if denominator < twice then quotient + 1
  else if quotient % 2 = 0 then quotient else quotient + 1

/-- `base ^ exponent` as a fraction. -/
def powerFraction (base : Nat) (exponent : Int) : Nat × Nat :=
  match exponent with
  | .ofNat up => (Nat.pow base up, 1)
  | .negSucc down => (1, Nat.pow base (down + 1))

/-- The greatest `e` with `2 ^ e ≤ numerator / denominator`, for a positive fraction. -/
def binaryOrder (numerator denominator : Nat) : Int :=
  let guess : Int := (Nat.log2 numerator : Int) - (Nat.log2 denominator : Int)
  let (up, down) := powerFraction 2 guess
  if numerator * down < up * denominator then guess - 1 else guess

/-- The number nearest to a fraction. -/
def ofFraction (negative : Bool) (numerator denominator : Nat) : Binary64 :=
  if numerator = 0 then .finite negative 0 (-1074)
  else
    let exponent := max (binaryOrder numerator denominator - 52) (-1074)
    let (up, down) := powerFraction 2 exponent
    let mantissa := roundQuotient (numerator * down) (denominator * up)
    let (mantissa, exponent) :=
      if mantissa = Nat.pow 2 53 then (Nat.pow 2 52, exponent + 1) else (mantissa, exponent)
    if 971 < exponent then .infinite negative else .finite negative mantissa exponent

/-- The number nearest to `digits * 10 ^ exponent`, where `digits` has `length` decimal
digits. Exponents far outside the range are decided without computing the power. -/
def ofDecimal (negative : Bool) (digits length : Nat) (exponent : Int) : Binary64 :=
  if digits = 0 then .finite negative 0 (-1074)
  else if 400 < exponent + length then .infinite negative
  else if exponent + length < -400 then .finite negative 0 (-1074)
  else
    let (up, down) := powerFraction 10 exponent
    ofFraction negative (digits * up) down

/-- A digit sequence `digits`, read as a natural number, times `10 ^ exponent`. -/
structure Decimal where
  digits : Nat
  exponent : Int
deriving Repr

/-- Is `digits * 10 ^ exponent` nearer to the number than to any other, or halfway and
the number even? All quantities are quarters of the unit in the last place. -/
def readsBack (mantissa : Nat) (exponent : Int) (decimal : Decimal) : Bool :=
  let (up, down) := powerFraction 2 (exponent - 2)
  let (tenUp, tenDown) := powerFraction 10 decimal.exponent
  let quarters := decimal.digits * tenUp * down
  let scale := tenDown * up
  let gapBelow := if mantissa = Nat.pow 2 52 ∧ -1074 < exponent then 1 else 2
  let low := (4 * mantissa - gapBelow) * scale
  let high := (4 * mantissa + 2) * scale
  if mantissa % 2 = 0 then low ≤ quarters && quarters ≤ high
  else low < quarters && quarters < high

/-- The greatest `e` with `10 ^ e ≤ numerator / denominator`, found by counting down. -/
def decimalOrder (numerator denominator : Nat) (guess : Int) : Nat → Int
  | 0 => guess
  | steps + 1 =>
      let (up, down) := powerFraction 10 guess
      if numerator * down < up * denominator then decimalOrder numerator denominator (guess - 1) steps
      else guess

/-- The better of the two neighbours of the number on the grid of `10 ^ exponent`, if
one of them reads back. -/
def onGrid? (mantissa : Nat) (binaryExponent : Int) (numerator denominator : Nat)
    (exponent : Int) : Option Decimal :=
  let (up, down) := powerFraction 10 exponent
  let floor := numerator * down / (denominator * up)
  let below : Decimal := ⟨floor, exponent⟩
  let above : Decimal := ⟨floor + 1, exponent⟩
  match readsBack mantissa binaryExponent below, readsBack mantissa binaryExponent above with
  | true, true => some ⟨roundQuotient (numerator * down) (denominator * up), exponent⟩
  | true, false => some below
  | false, true => some above
  | false, false => none

/-- Try ever finer grids; seventeen digits always suffice. -/
def shortestFrom (mantissa : Nat) (binaryExponent : Int) (numerator denominator : Nat)
    (exponent : Int) : Nat → Decimal
  | 0 => ⟨roundQuotient numerator denominator, 0⟩
  | more + 1 =>
      match onGrid? mantissa binaryExponent numerator denominator exponent with
      | some decimal => decimal
      | none => shortestFrom mantissa binaryExponent numerator denominator (exponent - 1) more

/-- The decimal of fewest digits that reads back as a positive number. -/
def shortest (mantissa : Nat) (exponent : Int) : Decimal :=
  let (up, down) := powerFraction 2 exponent
  let numerator := mantissa * up
  let order := decimalOrder numerator down ((binaryOrder numerator down) * 30103 / 100000 + 1) 4
  shortestFrom mantissa exponent numerator down order 20

/-- Drop zeros at the end. -/
def Decimal.normalized (decimal : Decimal) : Nat → Decimal
  | 0 => decimal
  | steps + 1 =>
      if decimal.digits ≠ 0 ∧ decimal.digits % 10 = 0 then
        Decimal.normalized ⟨decimal.digits / 10, decimal.exponent + 1⟩ steps
      else decimal

def zeros (count : Nat) : List Char := List.replicate count '0'

/-- Positional from 0.00001 up to below 10 ^ 16, otherwise one digit before the point and
an exponent. A whole number in positional form ends in `.0`. -/
def Decimal.text (decimal : Decimal) : List Char :=
  let digits := Nat.toDigits 10 decimal.digits
  let point : Int := digits.length + decimal.exponent
  let exponentText := 'e' :: (toString (point - 1)).toList
  if 0 ≤ decimal.exponent ∧ point ≤ 16 then digits ++ zeros decimal.exponent.toNat ++ ['.', '0']
  else if 0 < point ∧ point ≤ 16 then
    digits.take point.toNat ++ '.' :: digits.drop point.toNat
  else if -5 < point ∧ point ≤ 0 then ['0', '.'] ++ zeros (-point).toNat ++ digits
  else
    match digits with
    | [] => []
    | [digit] => digit :: exponentText
    | digit :: rest => digit :: '.' :: rest ++ exponentText

def text : Binary64 → String
  | .nan => ".nan"
  | .infinite false => ".inf"
  | .infinite true => "-.inf"
  | .finite negative mantissa exponent =>
      let unsigned :=
        if mantissa = 0 then ['0', '.', '0']
        else ((shortest mantissa exponent).normalized 20).text
      String.ofList (if negative then '-' :: unsigned else unsigned)

/-- Numbers as values: zeros of both signs are equal, and so is a NaN to itself. -/
def sameValue : Binary64 → Binary64 → Bool
  | .finite _ 0 _, .finite _ 0 _ => true
  | first, second => first == second

end Binary64

end SemanticLayer
