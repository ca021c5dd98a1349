import SemanticLayer.Proofs.Generation.Outcome
import SemanticLayer.Proofs.LookML.Composition
import SemanticLayer.Proofs.LookML.ValidName
import SemanticLayer.Proofs.MetricCatalog.Value
import SemanticLayer.Proofs.ModelSet.Ownership
import SemanticLayer.Proofs.Sql.Insertion
namespace SemanticLayer

/-! What composed SQL comes to.

With valid names, and with expressions of plain arithmetic, the SQL of a metric evaluates to the
value of the metric (`composed_value_iff`). -/

open LookML Sql

/-- The view and the measure that a field names. A bare name is a field of `view`. -/
def LookML.fieldParts (view field : String) : String × String :=
  match field.toList.dropWhile (· != '.') with
  | [] => (view, field)
  | _ :: measure => (String.ofList (field.toList.takeWhile (· != '.')), String.ofList measure)

def ModelSet.hasField (set : ModelSet) (naming : Naming) (parts : String × String) : Bool :=
  set.models.any fun model => naming.view model.name == parts.1 && model.declaresMeasure parts.2

/-- What identifiers and fields stand for in the view of the anchor. -/
def Assignment.environment (assignment : Assignment) (set : ModelSet) (naming : Naming)
    (anchorModel : String) : Environment where
  identifiers name := .ok (assignment.identifiers name)
  fields field :=
    let parts := fieldParts (naming.view anchorModel) field
    if set.hasField naming parts then .ok (assignment.measures parts.2)
    else .error (.unknownField field)

namespace LookML

theorem before_point {text : List Char} (bare : '.' ∉ text) : ∀ c ∈ text, (c != '.') = true := by
  intro c member
  rw [bne_iff_ne]
  rintro rfl
  exact bare member

theorem fieldParts_of_bare {view field : String} (bare : '.' ∉ field.toList) :
    fieldParts view field = (view, field) := by
  have all : (field.toList ++ []).dropWhile (· != '.') = [] :=
    List.dropWhile_append_of_pos (before_point bare)
  rw [List.append_nil] at all
  simp [fieldParts, all]

theorem fieldParts_of_qualified {view other : String} (measure : String) (bare : '.' ∉ other.toList) :
    fieldParts view (other ++ "." ++ measure) = (other, measure) := by
  have text : (other ++ "." ++ measure).toList = other.toList ++ '.' :: measure.toList := by simp
  unfold fieldParts
  rw [text, List.dropWhile_append_of_pos (before_point bare),
    List.takeWhile_append_of_pos (before_point bare)]
  simp

end LookML

section Composed

variable {set : ModelSet} {catalog : MetricCatalog} {naming : Naming} {anchorModel : String}

namespace LookML.Composition

variable {composition : Composition}

/-- The SQL is a field that has the value of the measure. -/
def Reads (composition : Composition) (set : ModelSet) (naming : Naming) (anchorModel measure : String) :
    Prop :=
  ∃ field, Insertable composition.sql (.reference field) ∧ ∀ assignment : Assignment,
    (assignment.environment set naming anchorModel).fields field = .ok (assignment.measures measure)

theorem ofMeasure_reads {root measure : String} (plain : naming.PlainPrefix)
    (valid : ∀ model ∈ set.models, isValidName model.name ∧
      ∀ measure ∈ model.measures, isValidName measure.name)
    (composed : ofMeasure set naming root anchorModel measure = .ok composition) :
    composition.Reads set naming anchorModel measure := by
  obtain ⟨owner, owned, whole⟩ := ofMeasure_eq_ok_iff.mp composed
  have member : owner ∈ set.models := List.mem_of_find?_eq_some owned
  have declares := List.find?_some owned
  obtain ⟨ownerValid, measuresValid⟩ := valid owner member
  obtain ⟨declared, among, rfl⟩ := SemanticModel.declaresMeasure_iff.mp declares
  have measureValid := measuresValid declared among
  have offered : set.hasField naming (naming.view owner.name, declared.name) := by
    refine List.any_eq_true.mpr ⟨owner, member, ?_⟩
    simpa using declares
  have closedMeasure : '}' ∉ declared.name.toList := not_mem_of_isValidName measureValid (by decide)
  by_cases own : owner.name = anchorModel
  · rw [if_pos own] at whole
    have bare : '.' ∉ declared.name.toList := not_mem_of_isValidName measureValid (by decide)
    rw [own] at offered
    refine ⟨declared.name, whole ▸ .of_reference closedMeasure, fun assignment => ?_⟩
    simp only [Assignment.environment, fieldParts_of_bare bare, offered, if_true]
  · rw [if_neg own] at whole
    have bare : '.' ∉ (naming.view owner.name).toList := not_mem_view plain ownerValid (by decide)
    have closedView : '}' ∉ (naming.view owner.name).toList :=
      not_mem_view plain ownerValid (by decide)
    have closed : '}' ∉ (naming.view owner.name ++ "." ++ declared.name).toList := by
      simp [closedView, closedMeasure]
    refine ⟨naming.view owner.name ++ "." ++ declared.name, whole ▸ .of_reference closed,
      fun assignment => ?_⟩
    simp only [Assignment.environment, fieldParts_of_qualified declared.name bare, offered, if_true]

/-- The SQL is read as an expression that evaluates to the value of the metric. -/
def Computes (composition : Composition) (set : ModelSet) (catalog : MetricCatalog) (naming : Naming)
    (anchorModel : String) (kind : MetricKind) : Prop :=
  ∃ expression, Sql.parse composition.sql = some expression ∧
    (kind.type = .simple → Insertable composition.sql expression) ∧
    ∀ assignment outcome, catalog.HasValue assignment kind outcome ↔
      expression.evaluate (assignment.environment set naming anchorModel) = outcome

theorem parse_quotient {numerator denominator : Composition} {first second : Expression}
    (above : Insertable numerator.sql first) (below : Insertable denominator.sql second) :
    Sql.parse (quotient numerator denominator).sql =
      some (.binary .divide (.binary .multiply (.number 1) first) (.nullIf second (.number 0))) := by
  obtain ⟨firstTokens, firstClosed, firstWritten⟩ := above
  obtain ⟨secondTokens, secondClosed, secondWritten⟩ := below
  have front : Closed "1.0 * ".toList [.number 1, .operator .multiply] :=
    .of_steps (by decide +kernel)
  have middle : Closed " / NULLIF(".toList [.operator .divide, .call "NULLIF"] :=
    .of_steps (by decide +kernel)
  have back : Closed ", 0)".toList [.comma, .number 0, .closing] := .of_steps (by decide +kernel)
  have whole := (((front.append firstClosed).append middle).append secondClosed).append back
  have product : Written .product ([.number 1] ++ .operator .multiply :: firstTokens)
      (.binary .multiply (.number 1) first) := .product (.single .number) rfl firstWritten
  have zero : Written .factor
      (.call "NULLIF" :: secondTokens ++ .comma :: [.number 0] ++ [.closing])
      (.nullIf second (.number 0)) := .nullIf secondWritten.of_factor (.of_factor .number)
  refine parse_eq_some_iff.mpr ⟨_, ?_, .term (.product product rfl zero)⟩
  have read := whole.tokens_eq
  simpa [tokens?, quotient] using read

/-- The factor in front changes no value. -/
theorem evaluate_quotient {environment : Environment} {first second : String} {above below : Value}
    (numerator : environment.fields first = .ok above)
    (denominator : environment.fields second = .ok below) :
    Expression.evaluate environment (.binary .divide
        (.binary .multiply (.number 1) (.reference first)) (.nullIf (.reference second) (.number 0))) =
      Sql.quotient above below := by
  simp only [Expression.evaluate, numerator, denominator]
  cases above with
  | none => rfl
  | some value =>
      have same : Operator.multiply.combine (some 1) (some value) = .ok (some value) := by
        simp [Operator.combine, Operator.apply, Except.map]
      simp only [bind, Except.bind, same, pure, Except.pure]
      rfl

theorem Reads.computes {kind : MetricKind} {measure : String}
    (reads : composition.Reads set naming anchorModel measure)
    (meant : ∀ assignment outcome, catalog.HasValue assignment kind outcome ↔
      .ok (assignment.measures measure) = outcome) :
    composition.Computes set catalog naming anchorModel kind := by
  obtain ⟨field, text, value⟩ := reads
  refine ⟨.reference field, text.parse_eq, fun _ => text, fun assignment outcome => ?_⟩
  rw [meant, Expression.evaluate, value]

theorem Reads.quotient_computes {numerator denominator : Composition} {kind : MetricKind}
    {above below : String} (first : numerator.Reads set naming anchorModel above)
    (second : denominator.Reads set naming anchorModel below) (notSimple : kind.type ≠ .simple)
    (meant : ∀ assignment outcome, catalog.HasValue assignment kind outcome ↔
      Sql.quotient (assignment.measures above) (assignment.measures below) = outcome) :
    (quotient numerator denominator).Computes set catalog naming anchorModel kind := by
  obtain ⟨_, aboveText, aboveValue⟩ := first
  obtain ⟨_, belowText, belowValue⟩ := second
  refine ⟨_, parse_quotient aboveText belowText, fun simple => absurd simple notSimple, ?_⟩
  intro assignment outcome
  rw [meant, evaluate_quotient (aboveValue assignment) (belowValue assignment)]

section Derived

variable {expression : String} {inputs : List MetricInput} {operands : List (Operand Composition)}

/-- An input of a derived metric next to what has been composed for it. -/
structure Supplies (set : ModelSet) (catalog : MetricCatalog) (naming : Naming) (anchorModel : String)
    (input : MetricInput) (nested : Metric) (operand : Operand Composition) : Prop where
  found : catalog.metric? input.name = some nested
  reference : operand.reference = input.reference
  type : operand.type = nested.type
  computes : operand.value.Computes set catalog naming anchorModel nested.kind

/-- The expression that the SQL of an operand is read as. -/
def inputExpression (operand : Operand Composition) : Expression :=
  (Sql.parse operand.value.sql).getD (.number 0)

variable {input : MetricInput} {nested : Metric} {operand : Operand Composition}

theorem Supplies.insertable (supplies : Supplies set catalog naming anchorModel input nested operand) :
    Insertable (inputSql operand) (inputExpression operand) := by
  obtain ⟨meaning, parsed, simple, _⟩ := supplies.computes
  have expression : inputExpression operand = meaning := by simp [inputExpression, parsed]
  rw [expression]
  unfold inputSql
  split
  · rename_i single
    exact simple (supplies.type.symm.trans single)
  · exact .parenthesize parsed

theorem Supplies.hasValue_iff
    (supplies : Supplies set catalog naming anchorModel input nested operand)
    (assignment : Assignment) (outcome : Outcome) :
    catalog.HasValue assignment nested.kind outcome ↔
      (inputExpression operand).evaluate (assignment.environment set naming anchorModel) = outcome := by
  obtain ⟨meaning, parsed, _, value⟩ := supplies.computes
  have expression : inputExpression operand = meaning := by simp [inputExpression, parsed]
  rw [expression]
  exact value assignment outcome

/-- The input whose SQL takes the place of an identifier. -/
def inputNamed (operands : List (Operand Composition)) (name : String) : Option (Operand Composition) :=
  operands.reverse.find? fun operand => operand.reference == name

section Inputs

variable (supplied : List.Forall₂ (fun input operand => ∃ nested,
  Supplies set catalog naming anchorModel input nested operand) inputs operands)
include supplied

theorem exists_input_of_inputNamed {name : String} (named : inputNamed operands name = some operand) :
    ∃ input ∈ inputs, ∃ nested,
      Supplies set catalog naming anchorModel input nested operand ∧ input.reference = name := by
  have member : operand ∈ operands := List.mem_reverse.mp (List.mem_of_find?_eq_some named)
  obtain ⟨input, among, nested, supplies⟩ := Attempt.exists_of_forall₂_right supplied member
  refine ⟨input, among, nested, supplies, ?_⟩
  have tested := List.find?_some named
  rw [← supplies.reference]
  exact beq_iff_eq.mp tested

theorem exists_inputNamed (distinct : (inputs.map MetricInput.reference).Nodup)
    (member : input ∈ inputs) :
    ∃ operand, inputNamed operands input.reference = some operand ∧
      ∃ nested, Supplies set catalog naming anchorModel input nested operand := by
  have references : operands.map Operand.reference = inputs.map MetricInput.reference := by
    clear distinct member
    induction supplied with
    | nil => rfl
    | cons first _ ih =>
        obtain ⟨nested, supplies⟩ := first
        rw [List.map_cons, List.map_cons, supplies.reference, ih]
  have keys : (operands.reverse.map Operand.reference).Nodup := by
    rw [List.map_reverse, List.nodup_reverse, references]
    exact distinct
  obtain ⟨operand, among, nested, supplies⟩ := Attempt.exists_of_forall₂_left supplied member
  refine ⟨operand, (Order.find?_key_eq_some_iff keys).mpr ?_, nested, supplies⟩
  exact ⟨List.mem_reverse.mpr among, supplies.reference⟩

theorem meaning_agrees (name : String) :
    Option.Rel (fun inserted => Insertable (String.ofList inserted)) (meaning operands name.toList)
      ((inputNamed operands name).map inputExpression) := by
  have inserted : meaning operands name.toList =
      (inputNamed operands name).map fun operand => (inputSql operand).toList := by
    unfold meaning inputNamed
    rw [String.ofList_toList]
  rw [inserted]
  cases named : inputNamed operands name with
  | none => exact .none
  | some operand =>
      obtain ⟨_, _, _, supplies, _⟩ := exists_input_of_inputNamed supplied named
      refine .some ?_
      rw [String.ofList_toList]
      exact supplies.insertable

end Inputs

def inputOutcome (operands : List (Operand Composition)) (environment : Environment) (name : String) :
    Outcome :=
  (((inputNamed operands name).map inputExpression).getD (.identifier name)).evaluate environment

variable {assignment : Assignment} {parsed : Expression} {outcome : Outcome}

/-- Names come to the same in the SQL and in the expression. -/
theorem inputOutcome_unique {metrics : MetricInput → Metric} {outcomes : String → Outcome}
    (distinct : (inputs.map MetricInput.reference).Nodup)
    (supplied : List.Forall₂ (fun input operand => ∃ nested,
      Supplies set catalog naming anchorModel input nested operand) inputs operands)
    (found : ∀ input ∈ inputs, catalog.metric? input.name = some (metrics input))
    (values : ∀ input ∈ inputs,
      catalog.HasValue assignment (metrics input).kind (outcomes input.reference))
    (free : ∀ name, (∀ input ∈ inputs, input.reference ≠ name) →
      outcomes name = .ok (assignment.identifiers name)) :
    inputOutcome operands (assignment.environment set naming anchorModel) = outcomes := by
  funext name
  unfold inputOutcome
  cases named : inputNamed operands name with
  | none =>
      refine (free name fun input member equal => ?_).symm
      obtain ⟨operand, known, _⟩ := exists_inputNamed supplied distinct member
      rw [equal, named] at known
      cases known
  | some operand =>
      obtain ⟨input, member, nested, supplies, rfl⟩ := exists_input_of_inputNamed supplied named
      have same : nested = metrics input := by
        rw [← Option.some.injEq, ← supplies.found]
        exact found input member
      subst same
      exact (supplies.hasValue_iff assignment _).mp (values input member)

theorem hasValue_derived_iff (distinct : (inputs.map MetricInput.reference).Nodup)
    (supplied : List.Forall₂ (fun input operand => ∃ nested,
      Supplies set catalog naming anchorModel input nested operand) inputs operands)
    (read : Sql.parse expression = some parsed) :
    catalog.HasValue assignment (.derived expression inputs) outcome ↔
      parsed.value (inputOutcome operands (assignment.environment set naming anchorModel)) =
        outcome := by
  constructor
  · intro value
    cases value with
    | derived readAgain found values free =>
        rw [read, Option.some.injEq] at readAgain
        rw [inputOutcome_unique distinct supplied found values free, readAgain]
  · rintro rfl
    refine @MetricCatalog.HasValue.derived catalog assignment expression inputs parsed
      (fun input => (catalog.metric? input.name).getD default) _ read ?_ ?_ ?_
    · intro input member
      obtain ⟨operand, _, nested, supplies⟩ := exists_inputNamed supplied distinct member
      rw [supplies.found, Option.getD_some]
    · intro input member
      obtain ⟨operand, named, nested, supplies⟩ := exists_inputNamed supplied distinct member
      rw [supplies.found, Option.getD_some, supplies.hasValue_iff]
      simp only [inputOutcome, named, Option.map_some, Option.getD_some]
    · intro name free
      cases named : inputNamed operands name with
      | none => simp [inputOutcome, named, Expression.evaluate, Assignment.environment]
      | some operand =>
          obtain ⟨input, member, _, _, equal⟩ := exists_input_of_inputNamed supplied named
          exact absurd equal (free input member)

theorem ofOperands_computes (arithmetic : isArithmetic expression)
    (distinct : (inputs.map MetricInput.reference).Nodup)
    (supplied : List.Forall₂ (fun input operand => ∃ nested,
      Supplies set catalog naming anchorModel input nested operand) inputs operands) :
    (ofOperands expression operands).Computes set catalog naming anchorModel
      (.derived expression inputs) := by
  obtain ⟨parsed, read⟩ := exists_parse_of_isArithmetic arithmetic
  have parsedSql := parse_substitute (meaning_agrees supplied) arithmetic read
  refine ⟨_, parsedSql, by simp [MetricKind.type], fun assignment outcome => ?_⟩
  have evaluated : (parsed.substitute fun name => (inputNamed operands name).map inputExpression).evaluate
        (assignment.environment set naming anchorModel) =
      parsed.value (inputOutcome operands (assignment.environment set naming anchorModel)) := by
    rw [Expression.evaluate_substitute]
    exact evaluate_congr_fields arithmetic read _ _ _
  rw [hasValue_derived_iff distinct supplied read, evaluated]

end Derived

theorem combine_computes {root : String} {kind : MetricKind} {operands : List (Operand Composition)}
    (plain : naming.PlainPrefix)
    (valid : ∀ model ∈ set.models, isValidName model.name ∧
      ∀ measure ∈ model.measures, isValidName measure.name)
    (derived : ∀ expression inputs, kind = .derived expression inputs →
      isArithmetic expression ∧ (inputs.map MetricInput.reference).Nodup ∧
        List.Forall₂ (fun input operand => ∃ nested,
          Supplies set catalog naming anchorModel input nested operand) inputs operands)
    (combined : (algebra set naming root anchorModel).combine kind operands = .ok composition) :
    composition.Computes set catalog naming anchorModel kind := by
  cases kind with
  | simple measure =>
      exact (ofMeasure_reads plain valid combined).computes
        fun _ _ => MetricCatalog.hasValue_simple_iff
  | ratio numerator denominator =>
      simp only [MetricAlgebra.combine, algebra, Attempt.bind_eq_ok_iff] at combined
      obtain ⟨above, first, below, second, whole⟩ := combined
      cases whole
      exact (ofMeasure_reads plain valid first).quotient_computes
        (ofMeasure_reads plain valid second) (by simp [MetricKind.type])
        fun _ _ => MetricCatalog.hasValue_ratio_iff
  | conversion conversion =>
      simp only [MetricAlgebra.combine, algebra, Attempt.bind_eq_ok_iff] at combined
      obtain ⟨conversions, first, rest⟩ := combined
      have counted := ofMeasure_reads plain valid first
      cases calculation : conversion.calculation with
      | conversions =>
          simp only [calculation] at rest
          cases rest
          exact counted.computes fun _ _ => MetricCatalog.hasValue_conversions_iff calculation
      | conversionRate =>
          simp only [calculation, Attempt.bind_eq_ok_iff] at rest
          obtain ⟨base, second, whole⟩ := rest
          cases whole
          exact counted.quotient_computes (ofMeasure_reads plain valid second)
            (by simp [MetricKind.type]) fun _ _ => MetricCatalog.hasValue_conversionRate_iff calculation
  | derived expression inputs =>
      simp only [MetricAlgebra.combine, algebra, Except.ok.injEq] at combined
      obtain ⟨arithmetic, distinct, supplied⟩ := derived expression inputs rfl
      rw [← combined]
      exact ofOperands_computes arithmetic distinct supplied

end LookML.Composition

/-- Composed SQL means what the metric means: however measures and free identifiers are valued, the
SQL evaluates to the outcome of the metric, an error included. -/
theorem composed_value_iff {metric : Metric} {composition : Composition}
    (plain : naming.PlainPrefix)
    (valid : ∀ model ∈ set.models, isValidName model.name ∧
      ∀ measure ∈ model.measures, isValidName measure.name)
    (arithmetic : ∀ path inner, catalog.Trail metric path inner → ∀ expression inputs,
      inner.kind = .derived expression inputs →
        isArithmetic expression ∧ (inputs.map MetricInput.reference).Nodup)
    (composed : compose set catalog naming anchorModel metric = .ok composition) :
    ∃ expression, Sql.parse composition.sql = some expression ∧ ∀ assignment outcome,
      catalog.HasValue assignment metric.kind outcome ↔
        expression.evaluate (assignment.environment set naming anchorModel) = outcome := by
  have computes : composition.Computes set catalog naming anchorModel metric.kind := by
    refine MetricCatalog.foldFrom_induction
      (motive := fun path inner composition => catalog.Trail metric path inner →
        composition.Computes set catalog naming anchorModel inner.kind)
      ?_ composed .start
    intro path inner operands value entered combined trail
    refine Composition.combine_computes plain valid (fun expression inputs kind => ?_) combined
    obtain ⟨plainArithmetic, distinct⟩ := arithmetic path inner trail expression inputs kind
    have listed : inner.inputs = inputs := by simp [Metric.inputs, kind]
    refine ⟨plainArithmetic, distinct, ?_⟩
    have among := (List.forall₂_and_left inner.inputs operands).mpr ⟨fun _ member => member, entered⟩
    rw [← listed]
    refine among.imp fun input operand both => ?_
    obtain ⟨member, nested, enters, reference, type, below⟩ := both
    exact ⟨nested, enters.found, reference, type, below (trail.extend member enters.found)⟩
  obtain ⟨expression, parsed, _, value⟩ := computes
  exact ⟨expression, parsed, value⟩

end Composed

/-- A revenue of 30 from 6 customers on an area of 2. -/
def Assignment.shop : Assignment where
  measures measure :=
    if measure = "revenue" then some 30 else if measure = "headcount" then some 6 else some 2
  identifiers _ := none

/-- 30 over 6, divided by 6 over 2. -/
theorem score_value :
    ∃ set score composition, ModelSet.ofModels Project.shop.models = .ok set ∧
      Project.shop.metric? "score" = some score ∧
      compose set (.ofMetrics Project.shop.metrics) { viewPrefix := "shop_" } "orders" score =
        .ok composition ∧
      (MetricCatalog.ofMetrics Project.shop.metrics).HasValue .shop score.kind
        (.ok (some (5 / 3))) := by
  have accepted : ModelSet.ofModels Project.shop.models =
      .ok ⟨Order.sortedOn SemanticModel.name Project.shop.models⟩ := rfl
  generalize listed : ModelSet.mk (Order.sortedOn SemanticModel.name Project.shop.models) = set
    at accepted
  obtain ⟨score, found, member, test⟩ : ∃ score, Project.shop.metric? "score" = some score ∧
      score ∈ Project.shop.metrics ∧
      (compose set (.ofMetrics Project.shop.metrics) { viewPrefix := "shop_" } "orders"
        score).toOption.any fun composition =>
          (Sql.parse composition.sql).map (Expression.evaluate
            (Assignment.shop.environment set { viewPrefix := "shop_" } "orders")) ==
              some (.ok (some (5 / 3))) := by
    subst listed
    exact ⟨_, rfl, by decide, by decide +kernel⟩
  obtain ⟨composition, composed, evaluated⟩ := Attempt.exists_ok_of_any _ _ test
  have plain : Naming.PlainPrefix { viewPrefix := "shop_" } :=
    List.all_eq_true.mp (by decide : "shop_".toList.all isNameRest = true)
  have valid : ∀ model ∈ set.models, isValidName model.name ∧
      ∀ measure ∈ model.measures, isValidName measure.name := by
    subst listed
    decide +kernel
  have arithmetic : ∀ path inner, (MetricCatalog.ofMetrics Project.shop.metrics).Trail score path inner →
      ∀ expression inputs, inner.kind = .derived expression inputs →
        isArithmetic expression ∧ (inputs.map MetricInput.reference).Nodup := by
    intro path inner trail expression inputs kind
    have declared := MetricCatalog.mem_of_trail member trail
    simp only [Project.shop, List.mem_cons, List.not_mem_nil, or_false] at declared
    rcases declared with rfl | rfl | rfl | rfl <;> cases kind <;> decide +kernel
  obtain ⟨expression, parsed, value⟩ := composed_value_iff plain valid arithmetic composed
  rw [parsed, Option.map_some, beq_iff_eq, Option.some.injEq] at evaluated
  exact ⟨set, score, composition, accepted, found, composed, (value .shop _).mpr evaluated⟩

end SemanticLayer
