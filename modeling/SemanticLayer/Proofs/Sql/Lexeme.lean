import SemanticLayer.Proofs.Text.OneLine
import Mathlib.Data.List.TakeWhile
namespace SemanticLayer.Sql

open SemanticLayer.Text

/-! SQL text in lexical pieces: quoted text, comments, and runs of plain characters.

Which tokens a run consists of is left open: putting SQL on one line neither parts nor joins
plain characters. -/

inductive Lexeme where
  /-- Plain characters side by side. -/
  | run (first : Char) (rest : List Char)
  /-- A quoted literal or identifier, with its quotes. -/
  | quoted (quote : Char) (rest : List Char)
  | comment (text : List Char)
deriving DecidableEq, Repr

namespace Lexeme

variable {first quote : Char} {rest text : List Char}

def isComment : Lexeme → Bool
  | .run .. | .quoted .. => false
  | .comment _ => true

@[simp] theorem isComment_run : (run first rest).isComment = false := rfl
@[simp] theorem isComment_quoted : (quoted quote rest).isComment = false := rfl
@[simp] theorem isComment_comment : (comment text).isComment = true := rfl

/-- The white space inside quotes is squeezed like any other. -/
def squeeze : Lexeme → Lexeme
  | .quoted quote rest => .quoted quote (Text.squeeze false rest)
  | lexeme => lexeme

@[simp] theorem squeeze_run : (run first rest).squeeze = run first rest := rfl
@[simp] theorem squeeze_quoted :
    (quoted quote rest).squeeze = quoted quote (Text.squeeze false rest) := rfl

theorem squeeze_of_isComment {lexeme : Lexeme} (comment : lexeme.isComment = true) :
    lexeme.squeeze = lexeme := by
  cases lexeme with
  | comment text => rfl
  | run first rest => cases comment
  | quoted quote rest => cases comment

end Lexeme

def isQuote (c : Char) : Bool := c == '\'' || c == '"'

def isLineBreak (c : Char) : Bool := c == '\n' || c == '\r'

def opensComment : List Char → Bool
  | c :: d :: _ => c == '-' && d == '-'
  | _ => false

/-- What is quoted behind the opening quote, and what follows. A quote closes unless it is doubled,
and text that no quote closes is quoted to its end. With `closing`, the character before was a
quote that closes. -/
def quotedSpan (quote : Char) (closing : Bool) : List Char → List Char × List Char
  | [] => ([], [])
  | c :: rest =>
      if closing && c != quote then ([], c :: rest)
      else
        let (inner, behind) := quotedSpan quote (c == quote && !closing) rest
        (c :: inner, behind)

def runSpan : List Char → List Char × List Char
  | [] => ([], [])
  | c :: rest =>
      if isBlank c || isQuote c || opensComment (c :: rest) then ([], c :: rest)
      else
        let (front, behind) := runSpan rest
        (c :: front, behind)

variable {quote c : Char} {closing gap : Bool} {text rest : List Char}

theorem quotedSpan_append (quote : Char) (closing : Bool) (text : List Char) :
    (quotedSpan quote closing text).1 ++ (quotedSpan quote closing text).2 = text := by
  fun_induction quotedSpan quote closing text with
  | case1 => rfl
  | case2 => rfl
  | case3 closing c rest _ inner behind cut ih => simpa [cut] using ih

theorem runSpan_append (text : List Char) : (runSpan text).1 ++ (runSpan text).2 = text := by
  fun_induction runSpan text with
  | case1 => rfl
  | case2 => rfl
  | case3 c rest _ front behind cut ih => simpa [cut] using ih

theorem length_quotedSpan_le (quote : Char) (closing : Bool) (text : List Char) :
    (quotedSpan quote closing text).2.length ≤ text.length := by
  have cut := congrArg List.length (quotedSpan_append quote closing text)
  rw [List.length_append] at cut
  omega

theorem length_runSpan_le (text : List Char) : (runSpan text).2.length ≤ text.length := by
  have cut := congrArg List.length (runSpan_append text)
  rw [List.length_append] at cut
  omega

/-- White space parts lexemes, and a comment ends with its line. -/
def lexemes : List Char → List Lexeme
  | [] => []
  | c :: rest =>
      if isBlank c then lexemes rest
      else if isQuote c then
        .quoted c (quotedSpan c false rest).1 :: lexemes (quotedSpan c false rest).2
      else if opensComment (c :: rest) then
        .comment (c :: rest.takeWhile (!isLineBreak ·)) :: lexemes (rest.dropWhile (!isLineBreak ·))
      else .run c (runSpan rest).1 :: lexemes (runSpan rest).2
termination_by text => text.length
decreasing_by
  · simp
  · exact Nat.lt_succ_of_le (length_quotedSpan_le c false rest)
  · exact Nat.lt_succ_of_le (List.dropWhile_suffix _).length_le
  · exact Nat.lt_succ_of_le (length_runSpan_le rest)

theorem opensComment_squeeze (c : Char) (rest : List Char) :
    opensComment (c :: squeeze false rest) = opensComment (c :: rest) := by
  cases rest with
  | nil => rfl
  | cons d behind =>
      cases blank : isBlank d with
      | false => simp [opensComment, blank]
      | true =>
          have notDash : d ≠ '-' := ne_of_isBlank blank (by decide)
          rw [squeeze_cons_blank behind blank]
          rcases squeeze_true_cases behind with empty | space
          · simp [opensComment, empty, notDash]
          · simp [opensComment, space, notDash]

theorem quotedSpan_open_cons (quote c : Char) (rest : List Char) :
    quotedSpan quote false (c :: rest) =
      (c :: (quotedSpan quote (c == quote) rest).1, (quotedSpan quote (c == quote) rest).2) := by
  simp [quotedSpan]

theorem quotedSpan_doubled (quote : Char) (rest : List Char) :
    quotedSpan quote true (quote :: rest) =
      (quote :: (quotedSpan quote false rest).1, (quotedSpan quote false rest).2) := by
  simp [quotedSpan]

theorem quotedSpan_closed (other : text.head? ≠ some quote) :
    quotedSpan quote true text = ([], text) := by
  cases text with
  | nil => rfl
  | cons c rest =>
      have different : c ≠ quote := by simpa using other
      simp [quotedSpan, different]

theorem head?_squeeze_ne (visible : isBlank quote = false) (other : c ≠ quote) :
    (squeeze false (c :: rest)).head? ≠ some quote := by
  cases blank : isBlank c with
  | false => simp [blank, other]
  | true =>
      rw [squeeze_cons_blank rest blank]
      rcases squeeze_true_cases rest with empty | space
      · simp [empty]
      · have notSpace : ' ' ≠ quote := ne_of_isBlank (by decide) visible
        simp [space, notSpace]

/-- Behind a closing quote no white space is waiting. -/
theorem quotedSpan_squeeze (visible : isBlank quote = false) (waiting : closing = true → gap = false) :
    quotedSpan quote closing (squeeze gap text) =
      (squeeze gap (quotedSpan quote closing text).1,
        squeeze false (quotedSpan quote closing text).2) := by
  induction text generalizing closing gap with
  | nil => rfl
  | cons c rest ih =>
      cases closing with
      | true =>
          rw [waiting rfl]
          by_cases same : c = quote
          · subst same
            rw [squeeze_cons_visible rest visible, quotedSpan_doubled, quotedSpan_doubled,
              ih (by simp), squeeze_cons_visible _ visible]
          · rw [quotedSpan_closed (head?_squeeze_ne visible same), quotedSpan_closed (by simpa using same),
              squeeze_nil]
      | false =>
          have opened : ∀ d, isBlank d = true → (d == quote) = false := fun d blank =>
            beq_eq_false_iff_ne.mpr (ne_of_isBlank blank visible)
          rw [quotedSpan_open_cons]
          cases blank : isBlank c with
          | true =>
              rw [squeeze_cons_blank rest blank, opened c blank, ih (by simp),
                squeeze_cons_blank _ blank]
          | false =>
              cases gap with
              | false =>
                  rw [squeeze_cons_visible rest blank, quotedSpan_open_cons, ih (by simp),
                    squeeze_cons_visible _ blank]
              | true =>
                  rw [squeeze_true_cons_visible rest blank, quotedSpan_open_cons,
                    opened ' ' (by decide), quotedSpan_open_cons, ih (by simp),
                    squeeze_true_cons_visible _ blank]

theorem runSpan_squeeze (text : List Char) :
    runSpan (squeeze false text) = ((runSpan text).1, squeeze false (runSpan text).2) := by
  induction text with
  | nil => rfl
  | cons c rest ih =>
      cases blank : isBlank c with
      | true =>
          have stopped : runSpan (c :: rest) = ([], c :: rest) := by simp [runSpan, blank]
          rw [stopped, squeeze_cons_blank rest blank]
          rcases squeeze_true_cases rest with empty | space
          · simp [empty, runSpan]
          · simp [space, runSpan, isBlank]
      | false =>
          rw [squeeze_cons_visible rest blank]
          simp only [runSpan, opensComment_squeeze, ih]
          split <;> simp [blank]

theorem lexemes_cons_blank (blank : isBlank c = true) : lexemes (c :: rest) = lexemes rest := by
  rw [lexemes, if_pos blank]

theorem lexemes_squeeze (gap : Bool) (text : List Char) :
    lexemes (squeeze gap text) = lexemes (oneLine text) := by
  rcases squeeze_cases gap text with same | space
  · rw [same]
  · rw [space, lexemes_cons_blank (by decide)]

theorem isLineBreak_of_mem_squeeze (member : c ∈ squeeze gap text) : isLineBreak c = false := by
  cases broken : isLineBreak c with
  | false => rfl
  | true =>
      have blank : isBlank c = true := by
        rcases Bool.or_eq_true_iff.mp broken with feed | carriage
        · rw [eq_of_beq feed]; rfl
        · rw [eq_of_beq carriage]; rfl
      rw [eq_space_of_mem_squeeze member blank] at broken
      exact absurd broken (by decide)

/-- On one line a comment runs to the end of the text. -/
theorem filter_lexemes_comment (visible : isBlank c = false) (plain : isQuote c = false)
    (opens : opensComment (c :: rest) = true) :
    (lexemes (squeeze false (c :: rest))).filter (!·.isComment) = [] := by
  have toEnd : (squeeze false rest).dropWhile (!isLineBreak ·) = [] := by
    rw [List.dropWhile_eq_nil_iff]
    intro d member
    simp [isLineBreak_of_mem_squeeze member]
  rw [← opensComment_squeeze] at opens
  simp [lexemes, visible, plain, opens, toEnd]

theorem filter_lexemes_oneLine (text : List Char) :
    (lexemes (oneLine text)).filter (!·.isComment) =
      ((lexemes text).takeWhile (!·.isComment)).map Lexeme.squeeze := by
  rw [← lexemes_squeeze false]
  -- No white space is waiting where a lexeme begins or ends, so `false` is kept up.
  fun_induction lexemes text with
  | case1 => simp [lexemes]
  | case2 c rest blank ih =>
      rw [squeeze_cons_blank rest blank, lexemes_squeeze, ← lexemes_squeeze false]
      exact ih
  | case3 c rest visible quote ih =>
      have visible : isBlank c = false := by simpa using visible
      rw [squeeze_cons_visible rest visible]
      simp [lexemes, visible, quote, quotedSpan_squeeze, ih]
  | case4 c rest visible plain opens ih =>
      have visible : isBlank c = false := by simpa using visible
      have plain : isQuote c = false := by simpa using plain
      rw [filter_lexemes_comment visible plain opens]
      rfl
  | case5 c rest visible plain closed ih =>
      have visible : isBlank c = false := by simpa using visible
      have plain : isQuote c = false := by simpa using plain
      have closed : opensComment (c :: squeeze false rest) = false := by
        rw [opensComment_squeeze]
        simpa using closed
      rw [squeeze_cons_visible rest visible]
      simp [lexemes, visible, plain, closed, runSpan_squeeze, ih]

end SemanticLayer.Sql
