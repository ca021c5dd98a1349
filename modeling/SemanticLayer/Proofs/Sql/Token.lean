import SemanticLayer.LookML.Literal
import SemanticLayer.Number.Numeral
import SemanticLayer.Proofs.Sql.Expression
import SemanticLayer.Text.Identifier
namespace SemanticLayer.Sql

/-! Tokens of SQL arithmetic.

`Closed` describes text after which reading starts afresh: what follows it is read as if it
stood alone. -/

inductive Token where
  | number (value : Rat)
  | identifier (name : String)
  /-- A name with an opening parenthesis right behind it. -/
  | call (function : String)
  | reference (field : String)
  | operator (operator : Operator)
  | opening
  | closing
  | comma
deriving DecidableEq, Repr

def Token.isArithmetic : Token → Bool
  | .number _ | .identifier _ | .operator _ | .opening | .closing => true
  | .call _ | .reference _ | .comma => false

/-- The tokens in the place of an identifier that has a meaning; other tokens stay. -/
def Token.replace (meaning : String → Option (List Token)) : Token → List Token
  | .identifier name => (meaning name).getD [.identifier name]
  | token => [token]

def symbol? : Char → Option Token
  | '+' => some (.operator .add)
  | '-' => some (.operator .subtract)
  | '*' => some (.operator .multiply)
  | '/' => some (.operator .divide)
  | '(' => some .opening
  | ')' => some .closing
  | ',' => some .comma
  | _ => none

def isNumeric (c : Char) : Bool := c.isDigit || c == '.'

/-- The value of digits with at most one point among them or at an end. -/
def decimal? (text : List Char) : Option Rat :=
  let whole := text.takeWhile Char.isDigit
  let fraction := (text.dropWhile Char.isDigit).drop 1
  if fraction.all Char.isDigit then
    (Number.natural? 10 (whole ++ fraction)).map fun digits =>
      (digits : Rat) / (10 ^ fraction.length : Nat)
  else none

/-- The token that is being read, with its characters in reverse. -/
inductive Word where
  | between
  | identifier (text : List Char)
  | number (text : List Char)
  | dollar
  | reference (text : List Char)
deriving DecidableEq, Repr

def Word.finish : Word → Option (List Token)
  | .between => some []
  | .identifier text => some [.identifier (String.ofList text.reverse)]
  | .number text => (decimal? text.reverse).map fun value => [.number value]
  | .dollar | .reference _ => none

/-- What `c` is when it does not continue a word. -/
def start (c : Char) : Option (List Token × Word) :=
  if Text.isBlank c then some ([], .between)
  else if Text.isIdentifierStart c then some ([], .identifier [c])
  else if isNumeric c then some ([], .number [c])
  else if c == '$' then some ([], .dollar)
  else (symbol? c).map fun token => ([token], .between)

/-- End the word before `c`. -/
def Word.leave (word : Word) (c : Char) : Option (List Token × Word) := do
  let before ← word.finish
  let (tokens, next) ← start c
  return (before ++ tokens, next)

/-- The tokens that are complete with `c`, and the word that goes on. A number and an identifier
do not touch. -/
def Word.step (word : Word) (c : Char) : Option (List Token × Word) :=
  match word with
  | .between => word.leave c
  | .identifier text =>
      if Text.isIdentifierRest c then some ([], .identifier (c :: text))
      else if c == '(' then some ([.call (String.ofList text.reverse)], .between)
      else word.leave c
  | .number text =>
      if isNumeric c then some ([], .number (c :: text))
      else if Text.isIdentifierStart c then none
      else word.leave c
  | .dollar => if c == '{' then some ([], .reference []) else none
  | .reference text =>
      if c == '}' then some ([.reference (String.ofList text.reverse)], .between)
      else some ([], .reference (c :: text))

def tokensFrom (word : Word) : List Char → Option (List Token)
  | [] => word.finish
  | c :: rest => (word.step c).bind fun (tokens, next) => (tokensFrom next rest).map (tokens ++ ·)

def Word.steps (word : Word) : List Char → Option (List Token × Word)
  | [] => some ([], word)
  | c :: rest => (word.step c).bind fun (tokens, next) =>
      (next.steps rest).map fun (others, last) => (tokens ++ others, last)

def tokens? (text : String) : Option (List Token) := tokensFrom .between text.toList

/-- Text that does not touch what follows it. -/
def Closed (text : List Char) (tokens : List Token) : Prop :=
  ∀ rest, tokensFrom .between (text ++ rest) = (tokensFrom .between rest).map (tokens ++ ·)

namespace Word

variable {word next : Word} {c : Char} {tokens : List Token}

theorem leave_eq_some_iff :
    word.leave c = some (tokens, next) ↔
      ∃ before after, word.finish = some before ∧ start c = some (after, next) ∧
        tokens = before ++ after := by
  simp only [leave, Option.bind_eq_bind, Option.bind_eq_some_iff, Option.pure_def,
    Option.some.injEq, Prod.mk.injEq, Prod.exists]
  constructor
  · intro left
    obtain ⟨before, finished, after, _, started, rfl, rfl⟩ := left
    exact ⟨before, after, finished, started, rfl⟩
  · intro left
    obtain ⟨before, after, finished, started, rfl⟩ := left
    exact ⟨before, finished, after, next, started, rfl, rfl⟩

theorem step_between : between.step c = start c := by
  cases started : start c <;> simp [step, leave, finish, started]

end Word

theorem tokensFrom_cons_eq_some_iff {word : Word} {c : Char} {rest : List Char}
    {tokens : List Token} :
    tokensFrom word (c :: rest) = some tokens ↔
      ∃ before next later, word.step c = some (before, next) ∧
        tokensFrom next rest = some later ∧ tokens = before ++ later := by
  simp only [tokensFrom, Option.bind_eq_some_iff, Option.map_eq_some_iff, Prod.exists]
  constructor
  · intro read
    obtain ⟨before, next, stepped, later, found, rfl⟩ := read
    exact ⟨before, next, later, stepped, found, rfl⟩
  · intro read
    obtain ⟨before, next, later, stepped, found, rfl⟩ := read
    exact ⟨before, next, stepped, later, found, rfl⟩

theorem tokensFrom_cons_of_step {word next : Word} {c : Char} {tokens : List Token}
    (stepped : word.step c = some (tokens, next)) (rest : List Char) :
    tokensFrom word (c :: rest) = (tokensFrom next rest).map (tokens ++ ·) := by
  rw [tokensFrom, stepped]
  rfl

theorem tokensFrom_cons_of_silent {word next : Word} {c : Char}
    (stepped : word.step c = some ([], next)) (rest : List Char) :
    tokensFrom word (c :: rest) = tokensFrom next rest := by
  rw [tokensFrom_cons_of_step stepped]
  exact Option.map_id'

theorem tokensFrom_append_of_steps {word last : Word} {text : List Char} {tokens : List Token}
    (stepped : word.steps text = some (tokens, last)) (rest : List Char) :
    tokensFrom word (text ++ rest) = (tokensFrom last rest).map (tokens ++ ·) := by
  induction text generalizing word tokens with
  | nil =>
      cases stepped
      exact Option.map_id'.symm
  | cons c text ih =>
      obtain ⟨⟨before, next⟩, first, others⟩ := Option.bind_eq_some_iff.mp stepped
      obtain ⟨⟨after, reached⟩, later, whole⟩ := Option.map_eq_some_iff.mp others
      cases whole
      rw [List.cons_append, tokensFrom_cons_of_step first, ih later, Option.map_map]
      congr 1
      funext following
      exact (List.append_assoc ..).symm

namespace Closed

variable {text other : List Char} {tokens others : List Token}

theorem tokens_eq (closed : Closed text tokens) : tokensFrom .between text = some tokens := by
  simpa [tokensFrom, Word.finish] using closed []

theorem append (closed : Closed text tokens) (otherClosed : Closed other others) :
    Closed (text ++ other) (tokens ++ others) := by
  intro rest
  rw [List.append_assoc, closed, otherClosed, Option.map_map]
  congr 1
  funext following
  exact (List.append_assoc ..).symm

/-- Text after which no word goes on. -/
theorem of_steps (stepped : Word.between.steps text = some (tokens, .between)) :
    Closed text tokens := fun rest => tokensFrom_append_of_steps stepped rest

theorem tokensFrom_reference (text : List Char) {read : List Char} (closingFree : '}' ∉ text)
    (rest : List Char) :
    tokensFrom (.reference read) (text ++ '}' :: rest) =
      (tokensFrom .between rest).map ([.reference (String.ofList (read.reverse ++ text))] ++ ·) := by
  induction text generalizing read with
  | nil =>
      have stepped : (Word.reference read).step '}' =
          some ([.reference (String.ofList read.reverse)], .between) := rfl
      rw [List.nil_append, tokensFrom_cons_of_step stepped, List.append_nil]
  | cons c text ih =>
      simp only [List.mem_cons, not_or] at closingFree
      have stepped : (Word.reference read).step c = some ([], .reference (c :: read)) := by
        simp [Word.step, Ne.symm closingFree.1]
      rw [List.cons_append, tokensFrom_cons_of_silent stepped, ih closingFree.2,
        List.reverse_cons, List.append_assoc]
      rfl

theorem of_reference {field : String} (closingFree : '}' ∉ field.toList) :
    Closed (LookML.reference field).toList [.reference field] := by
  intro rest
  have written : (LookML.reference field).toList ++ rest =
      '$' :: '{' :: (field.toList ++ '}' :: rest) := by
    simp [LookML.reference]
  have dollar : Word.between.step '$' = some ([], .dollar) := by decide +kernel
  have brace : Word.dollar.step '{' = some ([], .reference []) := rfl
  rw [written, tokensFrom_cons_of_silent dollar, tokensFrom_cons_of_silent brace,
    tokensFrom_reference field.toList closingFree, List.reverse_nil, List.nil_append,
    String.ofList_toList]

/-- A closing parenthesis ends every token before it. -/
theorem tokensFrom_append_closing (text : List Char) {word : Word} {tokens : List Token}
    (read : tokensFrom word text = some tokens) (rest : List Char) :
    tokensFrom word (text ++ ')' :: rest) =
      (tokensFrom .between rest).map ((tokens ++ [.closing]) ++ ·) := by
  induction text generalizing word tokens with
  | nil =>
      have left : word.leave ')' = some (tokens ++ [.closing], .between) :=
        Word.leave_eq_some_iff.mpr ⟨tokens, [.closing], read, by decide +kernel, rfl⟩
      have stepped : word.step ')' = some (tokens ++ [.closing], .between) := by
        cases word with
        | between => exact left
        | identifier text => exact left
        | number text => exact left
        | dollar => cases read
        | reference text => cases read
      exact tokensFrom_cons_of_step stepped rest
  | cons c text ih =>
      obtain ⟨before, next, after, stepped, others, rfl⟩ := tokensFrom_cons_eq_some_iff.mp read
      rw [List.cons_append, tokensFrom_cons_of_step stepped, ih others, Option.map_map]
      congr 1
      funext following
      simp

theorem parenthesize (read : tokensFrom .between text = some tokens) :
    Closed ('(' :: text ++ [')']) (.opening :: tokens ++ [.closing]) := by
  intro rest
  have opened : Word.between.step '(' = some ([.opening], .between) := by decide +kernel
  have whole : '(' :: text ++ [')'] ++ rest = '(' :: (text ++ ')' :: rest) := by simp
  rw [whole, tokensFrom_cons_of_step opened, tokensFrom_append_closing text read, Option.map_map]
  congr 1

end Closed

end SemanticLayer.Sql
