import SemanticLayer.Proofs.Sql.Grammar
namespace SemanticLayer.Sql

/-! Reading an expression from its tokens, one after the other, with a stack of what is open.

`parse_eq_some_iff` states that the grammar and the parser agree, so a text has at most one
reading. -/

/-- Operands and operators in front of a factor that is still to come. -/
structure Pending where
  sum : Option (Expression × Operator) := none
  product : Option (Expression × Operator) := none
  negations : Nat := 0
deriving DecidableEq, Repr

inductive Frame where
  | parenthesis (pending : Pending)
  | nullIfFirst (pending : Pending)
  | nullIfSecond (pending : Pending) (first : Expression)
deriving DecidableEq, Repr

/-- Between two tokens: an operand has to come, or one is complete. -/
inductive State where
  | before (frames : List Frame) (pending : Pending)
  | after (frames : List Frame) (sum : Option (Expression × Operator)) (product : Expression)
deriving DecidableEq, Repr

namespace Expression

def negateTimes : Nat → Expression → Expression
  | 0, expression => expression
  | times + 1, expression => negateTimes times (.negate expression)

/-- Put an expression to the right of what waits for it. -/
def attach (left : Option (Expression × Operator)) (right : Expression) : Expression :=
  match left with
  | none => right
  | some (left, operator) => .binary operator left right

end Expression

namespace Pending

/-- The product that the factor makes complete. -/
def take (pending : Pending) (factor : Expression) : Expression :=
  .attach pending.product (factor.negateTimes pending.negations)

end Pending

namespace State

def start : State := .before [] {}

def afterFactor (frames : List Frame) (pending : Pending) (factor : Expression) : State :=
  .after frames pending.sum (pending.take factor)

def step : State → Token → Option State
  | .before frames pending, token =>
      match token with
      | .number value => some (afterFactor frames pending (.number value))
      | .identifier name => some (afterFactor frames pending (.identifier name))
      | .reference field => some (afterFactor frames pending (.reference field))
      | .operator .add => some (.before frames pending)
      | .operator .subtract =>
          some (.before frames { pending with negations := pending.negations + 1 })
      | .opening => some (.before (.parenthesis pending :: frames) {})
      | .call function =>
          if function = "NULLIF" then some (.before (.nullIfFirst pending :: frames) {}) else none
      | _ => none
  | .after frames sum product, token =>
      match token, frames with
      | .operator operator, _ =>
          if operator.isMultiplicative then
            some (.before frames { sum, product := some (product, operator) })
          else some (.before frames { sum := some (.attach sum product, operator) })
      | .closing, .parenthesis pending :: frames =>
          some (afterFactor frames pending (.attach sum product))
      | .comma, .nullIfFirst pending :: frames =>
          some (.before (.nullIfSecond pending (.attach sum product) :: frames) {})
      | .closing, .nullIfSecond pending first :: frames =>
          some (afterFactor frames pending (.nullIf first (.attach sum product)))
      | _, _ => none

def run (state : State) (tokens : List Token) : Option State := tokens.foldlM step state

/-- The expression that has been read when nothing is open. -/
def result : State → Option Expression
  | .after [] sum product => some (.attach sum product)
  | _ => none

end State

def parseTokens (tokens : List Token) : Option Expression :=
  (State.start.run tokens).bind State.result

def parse (text : String) : Option Expression := (tokens? text).bind parseTokens

section Completeness

variable {state next : State} {token : Token} {tokens others : List Token} {expression : Expression}
  {frames : List Frame} {pending : Pending}

theorem State.run_cons {last : Option State} (stepped : state.step token = some next)
    (later : next.run tokens = last) : state.run (token :: tokens) = last := by
  rw [run, List.foldlM_cons, stepped]
  exact later

theorem State.run_append {last : Option State} (ran : state.run tokens = some next)
    (later : next.run others = last) : state.run (tokens ++ others) = last := by
  rw [run, List.foldlM_append]
  change (state.run tokens).bind (fun next => next.run others) = last
  rw [ran]
  exact later

/-- Where the tokens of an expression lead, for each level. -/
def Level.Read (tokens : List Token) (expression : Expression) : Level → Prop
  | .factor => ∀ frames pending,
      (State.before frames pending).run tokens = some (.afterFactor frames pending expression)
  | .product => ∀ frames sum,
      (State.before frames { sum }).run tokens = some (.after frames sum expression)
  | .sum => ∀ frames, ∃ sum product,
      (State.before frames {}).run tokens = some (.after frames sum product) ∧
        .attach sum product = expression

theorem Written.read {level : Level} (written : Written level tokens expression) :
    level.Read tokens expression := by
  induction written with
  | number => exact fun frames pending => rfl
  | identifier => exact fun frames pending => rfl
  | reference => exact fun frames pending => rfl
  | positive _ ih => exact fun frames pending => ih frames pending
  | negative _ ih =>
      intro frames pending
      exact ih frames { pending with negations := pending.negations + 1 }
  | @parenthesis tokens expression _ ih =>
      intro frames pending
      obtain ⟨sum, product, inside, rfl⟩ := ih (.parenthesis pending :: frames)
      have opened : (State.before frames pending).run (.opening :: tokens) =
          some (.after (.parenthesis pending :: frames) sum product) := State.run_cons rfl inside
      exact State.run_append opened (State.run_cons rfl rfl)
  | @nullIf tokens others first second _ _ firstIH secondIH =>
      intro frames pending
      obtain ⟨sum, product, inFirst, rfl⟩ := firstIH (.nullIfFirst pending :: frames)
      obtain ⟨otherSum, otherProduct, inSecond, rfl⟩ :=
        secondIH (.nullIfSecond pending (.attach sum product) :: frames)
      have called : (State.before frames pending).run (.call "NULLIF" :: tokens) =
          some (.after (.nullIfFirst pending :: frames) sum product) := State.run_cons rfl inFirst
      have separated : (State.after (.nullIfFirst pending :: frames) sum product).run
            (.comma :: others) =
          some (.after (.nullIfSecond pending (.attach sum product) :: frames) otherSum
            otherProduct) := State.run_cons rfl inSecond
      exact State.run_append (State.run_append called separated) (State.run_cons rfl rfl)
  | @product tokens others left right operator _ binds _ leftIH rightIH =>
      intro frames sum
      have stepped : (State.after frames sum left).step (.operator operator) =
          some (.before frames { sum, product := some (left, operator) }) := by
        simp [State.step, binds]
      exact State.run_append (leftIH frames sum) (State.run_cons stepped (rightIH frames _))
  | term _ ih => exact fun frames => ⟨none, _, ih frames none, rfl⟩
  | single _ ih => exact fun frames sum => ih frames { sum }
  | @sum tokens others left right operator _ binds _ leftIH rightIH =>
      intro frames
      obtain ⟨sum, product, before, rfl⟩ := leftIH frames
      have stepped : (State.after frames sum product).step (.operator operator) =
          some (.before frames { sum := some (.attach sum product, operator) }) := by
        simp [State.step, binds]
      exact ⟨_, right, State.run_append before (State.run_cons stepped (rightIH frames _)), rfl⟩

theorem parseTokens_of_written (written : Written .sum tokens expression) :
    parseTokens tokens = some expression := by
  obtain ⟨sum, product, ran, rfl⟩ := written.read []
  unfold parseTokens State.start
  rw [ran]
  rfl

end Completeness

section Soundness

variable {tokens others : List Token} {expression factor : Expression}

/-- The tokens of an operand with its operator, or none. -/
inductive Leads (level : Level) (multiplicative : Bool) :
    List Token → Option (Expression × Operator) → Prop
  | nothing : Leads level multiplicative [] none
  | left {tokens expression operator} : Written level tokens expression →
      operator.isMultiplicative = multiplicative →
      Leads level multiplicative (tokens ++ [.operator operator]) (some (expression, operator))

theorem Leads.attach_product {left : Option (Expression × Operator)}
    (leads : Leads .product true tokens left) (written : Written .factor others expression) :
    Written .product (tokens ++ others) (.attach left expression) := by
  cases leads with
  | nothing => exact .single written
  | left before binds => simpa [Expression.attach] using Written.product before binds written

theorem Leads.attach_sum {left : Option (Expression × Operator)}
    (leads : Leads .sum false tokens left) (written : Written .product others expression) :
    Written .sum (tokens ++ others) (.attach left expression) := by
  cases leads with
  | nothing => exact .term written
  | left before binds => simpa [Expression.attach] using Written.sum before binds written

inductive Signs : List Token → (negations : Nat) → Prop
  | nothing : Signs [] 0
  | positive {tokens negations} : Signs tokens negations →
      Signs (tokens ++ [.operator .add]) negations
  | negative {tokens negations} : Signs tokens negations →
      Signs (tokens ++ [.operator .subtract]) (negations + 1)

theorem Signs.negateTimes {negations : Nat} (signs : Signs tokens negations)
    (written : Written .factor others factor) :
    Written .factor (tokens ++ others) (factor.negateTimes negations) := by
  induction signs generalizing others factor with
  | nothing => exact written
  | positive _ ih => simpa using ih (.positive written)
  | negative _ ih => simpa [Expression.negateTimes] using ih (.negative written)

inductive Pending.Reads : Pending → List Token → Prop
  | intro {pending : Pending} {sum product signs} : Leads .sum false sum pending.sum →
      Leads .product true product pending.product → Signs signs pending.negations →
      Reads pending (sum ++ product ++ signs)

theorem Pending.Reads.take {pending : Pending} (reads : pending.Reads tokens)
    (written : Written .factor others factor) :
    ∃ sum product, tokens ++ others = sum ++ product ∧ Leads .sum false sum pending.sum ∧
      Written .product product (pending.take factor) := by
  obtain ⟨sum, product, signs⟩ := reads
  rename_i before behind between
  refine ⟨before, behind ++ (between ++ others), by simp, sum, ?_⟩
  exact product.attach_product (signs.negateTimes written)

inductive Opened : List Frame → List Token → Prop
  | nothing : Opened [] []
  | parenthesis {frames pending before tokens} : Opened frames before →
      Pending.Reads pending tokens →
      Opened (.parenthesis pending :: frames) (before ++ tokens ++ [.opening])
  | nullIfFirst {frames pending before tokens} : Opened frames before →
      Pending.Reads pending tokens →
      Opened (.nullIfFirst pending :: frames) (before ++ tokens ++ [.call "NULLIF"])
  | nullIfSecond {frames pending first before tokens others} : Opened frames before →
      Pending.Reads pending tokens → Written .sum others first →
      Opened (.nullIfSecond pending first :: frames)
        (before ++ tokens ++ .call "NULLIF" :: others ++ [.comma])

/-- The tokens that a state has read. -/
inductive State.Reads : State → List Token → Prop
  | before {frames pending before tokens} : Opened frames before → Pending.Reads pending tokens →
      Reads (.before frames pending) (before ++ tokens)
  | after {frames sum product before tokens others} : Opened frames before →
      Leads .sum false tokens sum → Written .product others product →
      Reads (.after frames sum product) (before ++ (tokens ++ others))

variable {state next : State} {token : Token}

theorem reads_afterFactor {frames : List Frame} {pending : Pending} {before : List Token}
    (opened : Opened frames before) (reads : pending.Reads tokens)
    (written : Written .factor others factor) :
    (State.afterFactor frames pending factor).Reads (before ++ tokens ++ others) := by
  obtain ⟨sum, product, whole, leads, complete⟩ := reads.take written
  rw [List.append_assoc, whole]
  exact .after opened leads complete

theorem Pending.Reads.nothing : Pending.Reads {} [] :=
  @Pending.Reads.intro {} [] [] [] .nothing .nothing .nothing

theorem Pending.Reads.positive {pending : Pending} (reads : pending.Reads tokens) :
    pending.Reads (tokens ++ [.operator .add]) := by
  obtain ⟨sum, product, signs⟩ := reads
  rw [List.append_assoc]
  exact .intro sum product signs.positive

theorem Pending.Reads.negative {pending : Pending} (reads : pending.Reads tokens) :
    Pending.Reads { pending with negations := pending.negations + 1 }
      (tokens ++ [.operator .subtract]) := by
  obtain ⟨sum, product, signs⟩ := reads
  rw [List.append_assoc]
  exact .intro sum product signs.negative

theorem Pending.Reads.product {sum : Option (Expression × Operator)} {operator : Operator}
    (leads : Leads .sum false tokens sum) (written : Written .product others expression)
    (binds : operator.isMultiplicative = true) :
    Pending.Reads { sum, product := some (expression, operator) }
      (tokens ++ others ++ [.operator operator]) := by
  have reads := @Pending.Reads.intro { sum, product := some (expression, operator) } _ _ []
    leads (.left written binds) .nothing
  simpa using reads

theorem Pending.Reads.sum {operator : Operator} (written : Written .sum tokens expression)
    (binds : operator.isMultiplicative = false) :
    Pending.Reads { sum := some (expression, operator) } (tokens ++ [.operator operator]) := by
  have reads := @Pending.Reads.intro { sum := some (expression, operator) } _ [] []
    (.left written binds) .nothing .nothing
  simpa using reads

theorem State.Reads.step (reads : state.Reads tokens) (stepped : state.step token = some next) :
    next.Reads (tokens ++ [token]) := by
  cases reads with
  | @before frames pending before tokens opened waiting =>
      cases token with
      | number value =>
          cases stepped
          exact reads_afterFactor opened waiting .number
      | identifier name =>
          cases stepped
          exact reads_afterFactor opened waiting .identifier
      | reference field =>
          cases stepped
          exact reads_afterFactor opened waiting .reference
      | operator operator =>
          cases operator with
          | add =>
              cases stepped
              rw [List.append_assoc]
              exact .before opened waiting.positive
          | subtract =>
              cases stepped
              rw [List.append_assoc]
              exact .before opened waiting.negative
          | multiply => cases stepped
          | divide => cases stepped
      | opening =>
          cases stepped
          simpa using State.Reads.before (.parenthesis opened waiting) .nothing
      | call function =>
          simp only [State.step] at stepped
          split at stepped
          · rename_i same
            cases stepped
            subst same
            simpa using State.Reads.before (.nullIfFirst opened waiting) .nothing
          · cases stepped
      | closing => cases stepped
      | comma => cases stepped
  | @after frames sum product before tokens others opened leads complete =>
      have whole := leads.attach_sum complete
      cases token with
      | operator operator =>
          simp only [State.step] at stepped
          split at stepped
          · rename_i binds
            cases stepped
            rw [List.append_assoc]
            exact .before opened (.product leads complete binds)
          · rename_i binds
            cases stepped
            rw [List.append_assoc]
            exact .before opened (.sum whole (Bool.eq_false_iff.mpr binds))
      | closing =>
          cases opened with
          | nothing => cases stepped
          | nullIfFirst opened waiting => cases stepped
          | parenthesis opened waiting =>
              cases stepped
              simpa using reads_afterFactor opened waiting (.parenthesis whole)
          | nullIfSecond opened waiting first =>
              cases stepped
              simpa using reads_afterFactor opened waiting (.nullIf first whole)
      | comma =>
          cases opened with
          | nothing => cases stepped
          | parenthesis opened waiting => cases stepped
          | nullIfSecond opened waiting first => cases stepped
          | nullIfFirst opened waiting =>
              cases stepped
              simpa using State.Reads.before (.nullIfSecond opened waiting whole) .nothing
      | number value => cases stepped
      | identifier name => cases stepped
      | reference field => cases stepped
      | call function => cases stepped
      | opening => cases stepped

theorem State.Reads.run (reads : state.Reads tokens) (ran : state.run others = some next) :
    next.Reads (tokens ++ others) := by
  induction others generalizing state tokens with
  | nil =>
      cases ran
      simpa using reads
  | cons token others ih =>
      rw [State.run, List.foldlM_cons, Option.bind_eq_bind, Option.bind_eq_some_iff] at ran
      obtain ⟨middle, stepped, later⟩ := ran
      simpa using ih (reads.step stepped) later

theorem State.Reads.result (reads : state.Reads tokens) (complete : state.result = some expression) :
    Written .sum tokens expression := by
  cases reads with
  | before opened waiting => cases complete
  | after opened leads last =>
      cases opened with
      | nothing =>
          cases complete
          exact leads.attach_sum last
      | parenthesis => cases complete
      | nullIfFirst => cases complete
      | nullIfSecond => cases complete

theorem State.Reads.start : State.start.Reads [] := .before .nothing .nothing

end Soundness

/-- The parser finds what the grammar allows, and nothing else. -/
theorem parseTokens_eq_some_iff {tokens : List Token} {expression : Expression} :
    parseTokens tokens = some expression ↔ Written .sum tokens expression := by
  constructor
  · intro parsed
    obtain ⟨last, ran, complete⟩ := Option.bind_eq_some_iff.mp parsed
    exact (State.Reads.start.run ran).result complete
  · exact parseTokens_of_written

theorem parse_eq_some_iff {text : String} {expression : Expression} :
    parse text = some expression ↔
      ∃ tokens, tokens? text = some tokens ∧ Written .sum tokens expression := by
  simp only [parse, Option.bind_eq_some_iff, parseTokens_eq_some_iff]

example : parse "a - b / c * d" = parse "a - ((b / c) * d)" := by decide +kernel

end SemanticLayer.Sql
