import SemanticLayer.Proofs.Sql.Token
namespace SemanticLayer.Sql

/-! Substitution seen through the tokens.

Replacing the identifiers of an arithmetic text by closed texts replaces the identifier tokens
by the tokens of these texts (`tokens_substitute`). -/

open Text

section Characters

variable {c : Char}

theorem toNat_of_start (first : isIdentifierStart c) :
    (65 ≤ c.toNat ∧ c.toNat ≤ 90) ∨ (97 ≤ c.toNat ∧ c.toNat ≤ 122) ∨ c.toNat = 95 := by
  have letter : (c.isUpper || c.isLower || c == '_') = true := first
  rw [Bool.or_eq_true, Bool.or_eq_true, beq_iff_eq] at letter
  rcases letter with (upper | lower) | rfl
  · exact .inl (of_decide_eq_true upper)
  · obtain ⟨above, below⟩ := Bool.and_eq_true_iff.mp lower
    exact .inr (.inl ⟨of_decide_eq_true above, of_decide_eq_true below⟩)
  · exact .inr (.inr rfl)

theorem isIdentifierRest_of_start (first : isIdentifierStart c) : isIdentifierRest c := by
  simp only [isIdentifierStart, Bool.or_eq_true] at first
  simp only [isIdentifierRest, Char.isAlphanum, Bool.or_eq_true]
  rcases first with letter | underscore
  · exact .inl (.inl letter)
  · exact .inr underscore

theorem isBlank_eq_false_of_start (first : isIdentifierStart c) : isBlank c = false := by
  have code := toNat_of_start first
  simp only [isBlank, Bool.or_eq_false_iff, Bool.and_eq_false_iff, beq_eq_false_iff_ne,
    decide_eq_false_iff_not]
  omega

theorem isNumeric_eq_false_of_start (first : isIdentifierStart c) : isNumeric c = false := by
  have code := toNat_of_start first
  simp only [isNumeric, Char.isDigit, Bool.or_eq_false_iff, Bool.and_eq_false_iff,
    beq_eq_false_iff_ne, decide_eq_false_iff_not, ge_iff_le, UInt32.le_iff_toNat_le]
  refine ⟨?_, fun same => ?_⟩
  · change ¬ 48 ≤ c.toNat ∨ ¬ c.toNat ≤ 57
    omega
  · subst same
    revert code
    decide

end Characters

/-- A word without letters. -/
def Word.isPlain : Word → Bool
  | .between | .number _ => true
  | _ => false

section Steps

variable {word next : Word} {c : Char} {tokens : List Token}

theorem start_of_identifierStart (first : isIdentifierStart c) :
    start c = some ([], .identifier [c]) := by
  simp [start, first, isBlank_eq_false_of_start first]

theorem replace_symbol? {token : Token} (symbol : symbol? c = some token)
    (meaning : String → Option (List Token)) : token.replace meaning = [token] := by
  unfold symbol? at symbol
  split at symbol <;> cases symbol <;> rfl

theorem start_cases (started : start c = some (tokens, next)) :
    (isIdentifierStart c ∧ tokens = [] ∧ next = .identifier [c]) ∨
      (isIdentifierStart c = false ∧ (next.isPlain ∨ next = .dollar) ∧
        ∀ meaning, tokens.flatMap (Token.replace meaning) = tokens) := by
  unfold start at started
  split at started
  · rename_i blank
    cases started
    refine .inr ⟨?_, .inl rfl, fun _ => rfl⟩
    cases first : isIdentifierStart c with
    | false => rfl
    | true => simp [isBlank_eq_false_of_start first] at blank
  · split at started
    · rename_i first
      cases started
      exact .inl ⟨first, rfl, rfl⟩
    · rename_i other
      rw [Bool.not_eq_true] at other
      split at started
      · cases started
        exact .inr ⟨other, .inl rfl, fun _ => rfl⟩
      · split at started
        · cases started
          exact .inr ⟨other, .inr rfl, fun _ => rfl⟩
        · obtain ⟨token, symbol, whole⟩ := Option.map_eq_some_iff.mp started
          cases whole
          exact .inr ⟨other, .inl rfl, fun meaning => by simp [replace_symbol? symbol]⟩

theorem replace_of_finish (plain : word.isPlain) (finished : word.finish = some tokens)
    (meaning : String → Option (List Token)) : tokens.flatMap (Token.replace meaning) = tokens := by
  cases word with
  | between =>
      cases finished
      rfl
  | number text =>
      obtain ⟨value, _, rfl⟩ := Option.map_eq_some_iff.mp finished
      rfl
  | identifier text => cases plain
  | dollar => cases plain
  | reference text => cases plain

/-- A word without letters goes on until a letter begins an identifier, and that only happens
between words. -/
theorem step_cases_of_plain (plain : word.isPlain) (stepped : word.step c = some (tokens, next)) :
    (isIdentifierStart c ∧ word = .between ∧ tokens = [] ∧ next = .identifier [c]) ∨
      (isIdentifierStart c = false ∧ (next.isPlain ∨ next = .dollar) ∧
        ∀ meaning, tokens.flatMap (Token.replace meaning) = tokens) := by
  cases word with
  | between =>
      rw [Word.step_between] at stepped
      rcases start_cases stepped with ⟨first, none, identifier⟩ | other
      · exact .inl ⟨first, rfl, none, identifier⟩
      · exact .inr other
  | number text =>
      simp only [Word.step] at stepped
      split at stepped
      · rename_i digit
        cases stepped
        refine .inr ⟨?_, .inl rfl, fun _ => rfl⟩
        cases first : isIdentifierStart c with
        | false => rfl
        | true => simp [isNumeric_eq_false_of_start first] at digit
      · split at stepped
        · cases stepped
        · rename_i other
          obtain ⟨before, after, finished, started, rfl⟩ := Word.leave_eq_some_iff.mp stepped
          rcases start_cases started with ⟨first, _⟩ | ⟨other, kind, unchanged⟩
          · exact absurd first other
          · refine .inr ⟨other, kind, fun meaning => ?_⟩
            rw [List.flatMap_append, replace_of_finish plain finished, unchanged]
  | identifier text => cases plain
  | dollar => cases plain
  | reference text => cases plain

theorem step_cases_of_identifier {text : List Char}
    (stepped : (Word.identifier text).step c = some (tokens, next)) :
    (isIdentifierRest c ∧ tokens = [] ∧ next = .identifier (c :: text)) ∨
      (∃ function, .call function ∈ tokens) ∨
      (isIdentifierRest c = false ∧ ∃ after, start c = some (after, next) ∧
        tokens = .identifier (String.ofList text.reverse) :: after) := by
  simp only [Word.step] at stepped
  split at stepped
  · rename_i more
    cases stepped
    exact .inl ⟨more, rfl, rfl⟩
  · rename_i ended
    rw [Bool.not_eq_true] at ended
    split at stepped
    · cases stepped
      exact .inr (.inl ⟨_, List.mem_singleton.mpr rfl⟩)
    · obtain ⟨before, after, finished, started, rfl⟩ := Word.leave_eq_some_iff.mp stepped
      cases finished
      exact .inr (.inr ⟨ended, after, started, rfl⟩)

end Steps

/-- The characters of an identifier, the last one first. -/
def IsIdentifier (name : List Char) : Prop :=
  ∃ c rest, name.reverse = c :: rest ∧ isIdentifierStart c ∧ ∀ d ∈ rest, isIdentifierRest d

section Identifiers

variable {name text : List Char} {c : Char}

theorem IsIdentifier.single (first : isIdentifierStart c) : IsIdentifier [c] :=
  ⟨c, [], rfl, first, by simp⟩

theorem IsIdentifier.isEmpty_eq_false (identifier : IsIdentifier name) : name.isEmpty = false := by
  obtain ⟨c, rest, whole, _⟩ := identifier
  cases name with
  | nil => cases whole
  | cons => rfl

theorem IsIdentifier.more (identifier : IsIdentifier name) (following : isIdentifierRest c) :
    IsIdentifier (c :: name) := by
  obtain ⟨d, rest, whole, first, later⟩ := identifier
  refine ⟨d, rest ++ [c], by simp [whole], first, fun e member => ?_⟩
  rcases List.mem_append.mp member with old | new
  · exact later e old
  · rw [List.mem_singleton.mp new]
    exact following

theorem tokensFrom_identifier_append {read : List Char} (later : ∀ c ∈ text, isIdentifierRest c)
    (rest : List Char) :
    tokensFrom (.identifier read) (text ++ rest) =
      tokensFrom (.identifier (text.reverse ++ read)) rest := by
  induction text generalizing read with
  | nil => rfl
  | cons c text ih =>
      obtain ⟨more, others⟩ := List.forall_mem_cons.mp later
      have stepped : (Word.identifier read).step c = some ([], .identifier (c :: read)) := by
        simp [Word.step, more]
      rw [List.cons_append, tokensFrom_cons_of_silent stepped, ih others]
      simp

/-- An identifier is read to its end before anything is made of it. -/
theorem IsIdentifier.tokensFrom (identifier : IsIdentifier name) (rest : List Char) :
    tokensFrom .between (name.reverse ++ rest) = Sql.tokensFrom (.identifier name) rest := by
  obtain ⟨c, others, whole, first, later⟩ := identifier
  have stepped : Word.between.step c = some ([], .identifier [c]) :=
    Word.step_between.trans (start_of_identifierStart first)
  have same : others.reverse ++ [c] = name := by
    rw [← List.reverse_cons, ← whole, List.reverse_reverse]
  rw [whole, List.cons_append, tokensFrom_cons_of_silent stepped,
    tokensFrom_identifier_append later, same]

end Identifiers

section Dollar

variable {text : List Char} {tokens : List Token}

/-- No arithmetic goes on behind a dollar sign. -/
theorem exists_reference_of_tokensFrom {read : List Char}
    (found : tokensFrom (.reference read) text = some tokens) :
    ∃ token ∈ tokens, token.isArithmetic = false := by
  induction text generalizing read tokens with
  | nil => cases found
  | cons c rest ih =>
      obtain ⟨before, next, after, stepped, others, rfl⟩ := tokensFrom_cons_eq_some_iff.mp found
      simp only [Word.step] at stepped
      split at stepped
      · cases stepped
        exact ⟨_, List.mem_append_left _ (List.mem_singleton.mpr rfl), rfl⟩
      · cases stepped
        exact ih others

theorem exists_of_tokensFrom_dollar (found : tokensFrom .dollar text = some tokens) :
    ∃ token ∈ tokens, token.isArithmetic = false := by
  cases text with
  | nil => cases found
  | cons c rest =>
      obtain ⟨before, next, after, stepped, others, rfl⟩ := tokensFrom_cons_eq_some_iff.mp found
      simp only [Word.step] at stepped
      split at stepped
      · cases stepped
        exact exists_reference_of_tokensFrom others
      · cases stepped

end Dollar

/-- What substitution makes of a text behind the characters of an identifier, the last one
first. -/
def rewrite (meaning : List Char → Option (List Char)) (read text : List Char) : List Char :=
  (piecesFrom read text).flatMap fun
    | .identifier name => (meaning name).getD name
    | .other c => [c]

theorem substitute_eq_rewrite (meaning : List Char → Option (List Char)) (text : List Char) :
    Text.substitute meaning text = rewrite meaning [] text := rfl

section Rewriting

variable {meaning : List Char → Option (List Char)} {name : List Char} {c : Char} (rest : List Char)

theorem rewrite_cons_of_start (first : isIdentifierStart c) :
    rewrite meaning [] (c :: rest) = rewrite meaning [c] rest := by
  simp [rewrite, piecesFrom, first]

theorem rewrite_cons_of_other (other : isIdentifierStart c = false) :
    rewrite meaning [] (c :: rest) = c :: rewrite meaning [] rest := by
  simp [rewrite, piecesFrom, other]

theorem rewrite_cons_of_more (identifier : IsIdentifier name) (more : isIdentifierRest c) :
    rewrite meaning name (c :: rest) = rewrite meaning (c :: name) rest := by
  simp [rewrite, piecesFrom, identifier.isEmpty_eq_false, more]

theorem rewrite_cons_of_ended (identifier : IsIdentifier name) (ended : isIdentifierRest c = false) :
    rewrite meaning name (c :: rest) =
      (meaning name.reverse).getD name.reverse ++ c :: rewrite meaning [] rest := by
  simp [rewrite, piecesFrom, identifier.isEmpty_eq_false, ended]

theorem rewrite_nil (identifier : IsIdentifier name) :
    rewrite meaning name [] = (meaning name.reverse).getD name.reverse := by
  simp [rewrite, piecesFrom, identifier.isEmpty_eq_false]

end Rewriting

section Substitution

variable {meaning : List Char → Option (List Char)} {replacement : String → Option (List Token)}
  (agree : ∀ name, Option.Rel Closed (meaning name.toList) (replacement name))

include agree in
/-- What takes the place of an identifier is read as its replacement, whether it is a closed text
or the identifier itself. -/
theorem tokensFrom_meaning {name : List Char} (identifier : IsIdentifier name) (rest : List Char)
    {tokens : List Token}
    (behind : tokensFrom (.identifier name) rest =
      some (.identifier (String.ofList name.reverse) :: tokens))
    (afresh : tokensFrom .between rest = some tokens) :
    tokensFrom .between ((meaning name.reverse).getD name.reverse ++ rest) =
      some (Token.replace replacement (.identifier (String.ofList name.reverse)) ++ tokens) := by
  have agrees := agree (String.ofList name.reverse)
  rw [String.toList_ofList] at agrees
  simp only [Token.replace]
  generalize meaning name.reverse = meant at agrees ⊢
  generalize replacement (String.ofList name.reverse) = replaced at agrees ⊢
  cases agrees with
  | none => simp [identifier.tokensFrom, behind]
  | some closed => simp [closed rest, afresh]

/-- Between identifiers the new text is read like the old one. -/
def Kept (meaning : List Char → Option (List Char)) (replacement : String → Option (List Token))
    (text : List Char) : Prop :=
  ∀ word tokens, Word.isPlain word → tokensFrom word text = some tokens →
    (∀ token ∈ tokens, token.isArithmetic) →
    tokensFrom word (rewrite meaning [] text) = some (tokens.flatMap (Token.replace replacement))

/-- An identifier waits until all of it is known. -/
def Replaced (meaning : List Char → Option (List Char)) (replacement : String → Option (List Token))
    (text : List Char) : Prop :=
  ∀ name tokens, IsIdentifier name → tokensFrom (.identifier name) text = some tokens →
    (∀ token ∈ tokens, token.isArithmetic) →
    tokensFrom .between (rewrite meaning name text) =
      some (tokens.flatMap (Token.replace replacement))

variable {rest : List Char} {c : Char} {word next : Word} {before later : List Token}

/-- No dollar sign begins in arithmetic, so the text goes on plainly behind a character outside
identifiers. -/
theorem Kept.behind (kept : Kept meaning replacement rest) (kind : next.isPlain ∨ next = .dollar)
    (stepped : word.step c = some (before, next)) (read : tokensFrom next rest = some later)
    (arithmetic : ∀ token ∈ later, token.isArithmetic) :
    tokensFrom word (c :: rewrite meaning [] rest) =
      some (before ++ later.flatMap (Token.replace replacement)) := by
  rcases kind with plain | rfl
  · rw [tokensFrom_cons_of_step stepped, kept next later plain read arithmetic]
    rfl
  · obtain ⟨token, member, foreign⟩ := exists_of_tokensFrom_dollar read
    rw [arithmetic token member] at foreign
    cases foreign

theorem Kept.cons (kept : Kept meaning replacement rest) (replaced : Replaced meaning replacement rest) :
    Kept meaning replacement (c :: rest) := by
  intro word tokens plain read arithmetic
  obtain ⟨before, next, later, stepped, following, rfl⟩ := tokensFrom_cons_eq_some_iff.mp read
  have others : ∀ token ∈ later, token.isArithmetic :=
    fun token member => arithmetic token (List.mem_append_right _ member)
  rcases step_cases_of_plain plain stepped with ⟨first, rfl, rfl, rfl⟩ | ⟨other, kind, same⟩
  · rw [rewrite_cons_of_start rest first]
    exact replaced [c] later (.single first) following others
  · rw [rewrite_cons_of_other rest other, List.flatMap_append, same]
    exact kept.behind kind stepped following others

include agree in
theorem Replaced.cons (kept : Kept meaning replacement rest)
    (replaced : Replaced meaning replacement rest) : Replaced meaning replacement (c :: rest) := by
  intro name tokens identifier read arithmetic
  obtain ⟨before, next, later, stepped, following, rfl⟩ := tokensFrom_cons_eq_some_iff.mp read
  have others : ∀ token ∈ later, token.isArithmetic :=
    fun token member => arithmetic token (List.mem_append_right _ member)
  rcases step_cases_of_identifier stepped with
    ⟨more, rfl, rfl⟩ | ⟨function, called⟩ | ⟨ended, after, started, rfl⟩
  · rw [rewrite_cons_of_more rest identifier more]
    exact replaced (c :: name) later (identifier.more more) following others
  · cases arithmetic _ (List.mem_append_left _ called)
  · rcases start_cases started with ⟨first, _⟩ | ⟨_, kind, same⟩
    · rw [isIdentifierRest_of_start first] at ended
      cases ended
    · have behind := kept.behind kind stepped following others
      have afresh := kept.behind kind (Word.step_between.trans started) following others
      rw [rewrite_cons_of_ended rest identifier ended, List.flatMap_append, List.flatMap_cons, same,
        List.append_assoc]
      exact tokensFrom_meaning agree identifier _ behind afresh

include agree in
theorem kept_and_replaced (text : List Char) :
    Kept meaning replacement text ∧ Replaced meaning replacement text := by
  induction text with
  | nil =>
      refine ⟨fun word tokens plain read _ => ?_, fun name tokens identifier read _ => ?_⟩
      · rw [replace_of_finish plain read]
        exact read
      · cases read
        have inserted := tokensFrom_meaning agree identifier [] rfl rfl
        rw [rewrite_nil identifier]
        simpa using inserted
  | cons c rest ih => exact ⟨ih.1.cons ih.2, .cons agree ih.1 ih.2⟩

include agree in
/-- Identifiers with a meaning give way to closed texts, and their tokens to the tokens of these. -/
theorem tokens_substitute {text : List Char} {tokens : List Token}
    (read : tokensFrom .between text = some tokens)
    (arithmetic : ∀ token ∈ tokens, token.isArithmetic) :
    tokensFrom .between (Text.substitute meaning text) =
      some (tokens.flatMap (Token.replace replacement)) := by
  rw [substitute_eq_rewrite]
  exact (kept_and_replaced agree text).1 .between tokens rfl read arithmetic

end Substitution

end SemanticLayer.Sql
