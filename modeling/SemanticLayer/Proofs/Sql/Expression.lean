import Mathlib.Algebra.Field.Rat
namespace SemanticLayer.Sql

/-! Arithmetic over numbers that may be missing.

NULL passes through every operation. Dividing a number by zero is an error, and `NULLIF` is
there to turn a zero into NULL before it divides. -/

/-- A number, or `none` for NULL. -/
abbrev Value := Option Rat

inductive Failure where
  | divisionByZero
  | unknownField (field : String)
deriving DecidableEq, Repr

abbrev Outcome := Except Failure Value

inductive Operator where
  | add | subtract | multiply | divide
deriving DecidableEq, Repr

namespace Operator

/-- Multiplication and division bind closer than addition and subtraction. -/
def isMultiplicative : Operator → Bool
  | .add | .subtract => false
  | .multiply | .divide => true

def apply (left right : Rat) : Operator → Except Failure Rat
  | .add => .ok (left + right)
  | .subtract => .ok (left - right)
  | .multiply => .ok (left * right)
  | .divide => if right = 0 then .error .divisionByZero else .ok (left / right)

def combine (operator : Operator) (left right : Value) : Outcome :=
  match left, right with
  | some left, some right => (operator.apply left right).map some
  | _, _ => .ok none

end Operator

def nullIf (first second : Value) : Value := if first = second then none else first

inductive Expression where
  | number (value : Rat)
  | identifier (name : String)
  /-- A field in dollar and braces. -/
  | reference (field : String)
  | negate (operand : Expression)
  | binary (operator : Operator) (left right : Expression)
  | nullIf (first second : Expression)
deriving DecidableEq, Repr

structure Environment where
  identifiers : String → Outcome
  fields : String → Outcome

namespace Expression

def evaluate (environment : Environment) : Expression → Outcome
  | .number value => .ok (some value)
  | .identifier name => environment.identifiers name
  | .reference field => environment.fields field
  | .negate operand => do
      let value ← operand.evaluate environment
      return value.map fun number => -number
  | .binary operator left right => do
      let left ← left.evaluate environment
      let right ← right.evaluate environment
      operator.combine left right
  | .nullIf first second => do
      let first ← first.evaluate environment
      let second ← second.evaluate environment
      return Sql.nullIf first second

/-- Put expressions in the place of the identifiers that have a `meaning`. -/
def substitute (meaning : String → Option Expression) : Expression → Expression
  | .number value => .number value
  | .identifier name => (meaning name).getD (.identifier name)
  | .reference field => .reference field
  | .negate operand => .negate (operand.substitute meaning)
  | .binary operator left right =>
      .binary operator (left.substitute meaning) (right.substitute meaning)
  | .nullIf first second => .nullIf (first.substitute meaning) (second.substitute meaning)

/-- Identifiers that stand for expressions may as well stand for what these come to. -/
theorem evaluate_substitute (environment : Environment) (meaning : String → Option Expression)
    (expression : Expression) :
    (expression.substitute meaning).evaluate environment =
      expression.evaluate { environment with
        identifiers := fun name =>
          ((meaning name).getD (.identifier name)).evaluate environment } := by
  induction expression with
  | number value => rfl
  | identifier name => rfl
  | reference field => rfl
  | negate operand ih => simp only [substitute, evaluate, ih]
  | binary operator left right leftIH rightIH => simp only [substitute, evaluate, leftIH, rightIH]
  | nullIf first second firstIH secondIH => simp only [substitute, evaluate, firstIH, secondIH]

end Expression

end SemanticLayer.Sql
