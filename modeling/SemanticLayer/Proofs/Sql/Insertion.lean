import SemanticLayer.Proofs.Sql.Parse
import SemanticLayer.Proofs.Sql.Substitution
namespace SemanticLayer.Sql

/-! Texts that keep their meaning wherever an identifier may stand. -/

/-- Whatever stands around the text, it is read as a factor. -/
def Insertable (text : String) (expression : Expression) : Prop :=
  ∃ tokens, Closed text.toList tokens ∧ Written .factor tokens expression

/-- Plain arithmetic: an expression without functions and fields. -/
def isArithmetic (text : String) : Bool :=
  match tokens? text with
  | none => false
  | some tokens => tokens.all Token.isArithmetic && (parseTokens tokens).isSome

variable {text : String} {expression : Expression}

theorem exists_parse_of_isArithmetic (arithmetic : isArithmetic text) :
    ∃ expression, parse text = some expression := by
  unfold isArithmetic at arithmetic
  cases read : tokens? text with
  | none => simp [read] at arithmetic
  | some tokens =>
      simp only [read, Bool.and_eq_true, Option.isSome_iff_exists] at arithmetic
      obtain ⟨_, expression, parsed⟩ := arithmetic
      exact ⟨expression, by simp [parse, read, parsed]⟩

theorem exists_tokens_of_parse (arithmetic : isArithmetic text) (parsed : parse text = some expression) :
    ∃ tokens, tokens? text = some tokens ∧ (∀ token ∈ tokens, token.isArithmetic) ∧
      Written .sum tokens expression := by
  obtain ⟨tokens, read, written⟩ := parse_eq_some_iff.mp parsed
  simp only [isArithmetic, read, Bool.and_eq_true, List.all_eq_true] at arithmetic
  exact ⟨tokens, read, arithmetic.1, written⟩

namespace Insertable

theorem parse_eq (insertable : Insertable text expression) : parse text = some expression := by
  obtain ⟨tokens, closed, written⟩ := insertable
  exact parse_eq_some_iff.mpr ⟨tokens, closed.tokens_eq, written.of_factor⟩

theorem of_reference {field : String} (closingFree : '}' ∉ field.toList) :
    Insertable (LookML.reference field) (.reference field) :=
  ⟨[.reference field], .of_reference closingFree, .reference⟩

theorem parenthesize (parsed : parse text = some expression) :
    Insertable ("(" ++ text ++ ")") expression := by
  obtain ⟨tokens, read, written⟩ := parse_eq_some_iff.mp parsed
  refine ⟨_, ?_, .parenthesis written⟩
  simpa using Closed.parenthesize read

end Insertable

/-- Putting texts in the place of identifiers puts what they mean in the place of what the
identifiers mean. -/
theorem parse_substitute {meaning : List Char → Option (List Char)}
    {expressions : String → Option Expression}
    (agree : ∀ name, Option.Rel (fun inserted => Insertable (String.ofList inserted))
      (meaning name.toList) (expressions name))
    (arithmetic : isArithmetic text) (parsed : parse text = some expression) :
    parse (String.ofList (Text.substitute meaning text.toList)) =
      some (expression.substitute expressions) := by
  obtain ⟨tokens, read, plain, written⟩ := exists_tokens_of_parse arithmetic parsed
  have each : ∀ name : String,
      Option.Rel Closed (meaning name.toList) ((meaning name.toList).bind (tokensFrom .between)) ∧
      Option.Rel (Written .factor) ((meaning name.toList).bind (tokensFrom .between))
        (expressions name) := by
    intro name
    have agrees := agree name
    generalize meaning name.toList = meant at agrees ⊢
    generalize expressions name = expressed at agrees ⊢
    cases agrees with
    | none => exact ⟨.none, .none⟩
    | some insertable =>
        obtain ⟨inserted, closed, factor⟩ := insertable
        rw [String.toList_ofList] at closed
        rw [Option.bind_some, closed.tokens_eq]
        exact ⟨.some closed, .some factor⟩
  have substituted := tokens_substitute (fun name => (each name).1) read plain
  refine parse_eq_some_iff.mpr ⟨_, ?_, written.substitute fun name => (each name).2⟩
  unfold tokens?
  rw [String.toList_ofList]
  exact substituted

theorem evaluate_congr_fields (arithmetic : isArithmetic text) (parsed : parse text = some expression)
    (identifiers fields others : String → Outcome) :
    expression.evaluate ⟨identifiers, fields⟩ = expression.evaluate ⟨identifiers, others⟩ := by
  obtain ⟨tokens, read, plain, written⟩ := exists_tokens_of_parse arithmetic parsed
  exact written.evaluate_congr_fields plain identifiers fields others

end SemanticLayer.Sql
