import SemanticLayer.Proofs.Sql.Token
namespace SemanticLayer.Sql

/-! The usual precedence.

Signs bind closest, then multiplication and division, then addition and subtraction; operators
of one level are taken from left to right. -/

inductive Level where
  | factor | product | sum
deriving DecidableEq, Repr

/-- `tokens` are written for the expression, as a whole of the given level. -/
inductive Written : Level → (tokens : List Token) → Expression → Prop
  | number {value} : Written .factor [.number value] (.number value)
  | identifier {name} : Written .factor [.identifier name] (.identifier name)
  | reference {field} : Written .factor [.reference field] (.reference field)
  | positive {tokens operand} : Written .factor tokens operand →
      Written .factor (.operator .add :: tokens) operand
  | negative {tokens operand} : Written .factor tokens operand →
      Written .factor (.operator .subtract :: tokens) (.negate operand)
  | parenthesis {tokens expression} : Written .sum tokens expression →
      Written .factor (.opening :: tokens ++ [.closing]) expression
  | nullIf {tokens others first second} : Written .sum tokens first → Written .sum others second →
      Written .factor (.call "NULLIF" :: tokens ++ .comma :: others ++ [.closing])
        (.nullIf first second)
  | single {tokens expression} : Written .factor tokens expression → Written .product tokens expression
  | product {tokens others left right operator} : Written .product tokens left →
      operator.isMultiplicative = true → Written .factor others right →
      Written .product (tokens ++ .operator operator :: others) (.binary operator left right)
  | term {tokens expression} : Written .product tokens expression → Written .sum tokens expression
  | sum {tokens others left right operator} : Written .sum tokens left →
      operator.isMultiplicative = false → Written .product others right →
      Written .sum (tokens ++ .operator operator :: others) (.binary operator left right)

namespace Written

variable {level : Level} {tokens : List Token} {expression : Expression}

theorem of_factor (written : Written .factor tokens expression) : Written .sum tokens expression :=
  .term (.single written)

/-- Factors may stand wherever identifiers stand, without another reading. -/
theorem substitute {replacement : String → Option (List Token)}
    {meaning : String → Option Expression}
    (agree : ∀ name, Option.Rel (Written .factor) (replacement name) (meaning name))
    (written : Written level tokens expression) :
    Written level (tokens.flatMap (Token.replace replacement)) (expression.substitute meaning) := by
  induction written with
  | number => exact .number
  | @identifier name =>
      have agrees := agree name
      simp only [List.flatMap_cons, List.flatMap_nil, List.append_nil, Token.replace,
        Expression.substitute]
      generalize replacement name = replaced at agrees ⊢
      generalize meaning name = meant at agrees ⊢
      cases agrees with
      | none => exact .identifier
      | some factor => exact factor
  | reference => exact .reference
  | positive _ ih => exact .positive ih
  | negative _ ih => exact .negative ih
  | parenthesis _ ih => simpa [Token.replace] using Written.parenthesis ih
  | nullIf _ _ firstIH secondIH =>
      simpa [Token.replace, Expression.substitute] using Written.nullIf firstIH secondIH
  | single _ ih => exact .single ih
  | product _ binds _ leftIH rightIH =>
      simpa [Token.replace, Expression.substitute] using Written.product leftIH binds rightIH
  | term _ ih => exact .term ih
  | sum _ binds _ leftIH rightIH =>
      simpa [Token.replace, Expression.substitute] using Written.sum leftIH binds rightIH

/-- Plain arithmetic reads no field. -/
theorem evaluate_congr_fields (written : Written level tokens expression)
    (arithmetic : ∀ token ∈ tokens, token.isArithmetic) (identifiers fields others : String → Outcome) :
    expression.evaluate ⟨identifiers, fields⟩ = expression.evaluate ⟨identifiers, others⟩ := by
  induction written with
  | number => rfl
  | identifier => rfl
  | @reference field => cases arithmetic (.reference field) (by simp)
  | positive _ ih => exact ih fun token member => arithmetic token (by simp [member])
  | negative _ ih =>
      have operand := ih fun token member => arithmetic token (by simp [member])
      simp only [Expression.evaluate, operand]
  | parenthesis _ ih => exact ih fun token member => arithmetic token (by simp [member])
  | nullIf => cases arithmetic (.call "NULLIF") (by simp)
  | single _ ih => exact ih arithmetic
  | product _ _ _ leftIH rightIH =>
      have left := leftIH fun token member => arithmetic token (by simp [member])
      have right := rightIH fun token member => arithmetic token (by simp [member])
      simp only [Expression.evaluate, left, right]
  | term _ ih => exact ih arithmetic
  | sum _ _ _ leftIH rightIH =>
      have left := leftIH fun token member => arithmetic token (by simp [member])
      have right := rightIH fun token member => arithmetic token (by simp [member])
      simp only [Expression.evaluate, left, right]

end Written

end SemanticLayer.Sql
