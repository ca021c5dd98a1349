import SemanticLayer.LookML.Literal
import SemanticLayer.Proofs.Sql.Lexeme
namespace SemanticLayer

/-! SQL put on one line, token by token.

The tokens before the first comment stay, quoted text with its white space squeezed. What stands
behind the comment becomes part of it. -/

namespace Sql

/-- How plain characters side by side are cut into tokens. -/
structure Cutting where
  cut : List Char → List (List Char)
  flatten_cut : ∀ run, (cut run).flatten = run

namespace Cutting

variable {cutting : Cutting} {found : List Lexeme} {lexeme : Lexeme}

/-- White space and quotes are the only cuts. -/
def wholeRuns : Cutting where
  cut run := [run]
  flatten_cut _ := List.flatten_singleton

/-- Quoted text is one token, and a comment is none. -/
def tokensOf (cutting : Cutting) : Lexeme → List (List Char)
  | .run first rest => cutting.cut (first :: rest)
  | .quoted quote rest => [quote :: rest]
  | .comment _ => []

def tokens (cutting : Cutting) (sql : String) : List (List Char) :=
  (lexemes sql.toList).flatMap cutting.tokensOf

@[simp] theorem tokensOf_comment (text : List Char) : cutting.tokensOf (.comment text) = [] := rfl

theorem tokensOf_eq_nil_iff : cutting.tokensOf lexeme = [] ↔ lexeme.isComment = true := by
  cases lexeme with
  | comment text => simp
  | quoted quote rest => simp [tokensOf]
  | run first rest =>
      have inhabited : cutting.cut (first :: rest) ≠ [] := by
        intro empty
        have whole := cutting.flatten_cut (first :: rest)
        rw [empty] at whole
        cases whole
      simpa [tokensOf] using inhabited

theorem length_tokensOf_squeeze (cutting : Cutting) (lexeme : Lexeme) :
    (cutting.tokensOf lexeme.squeeze).length = (cutting.tokensOf lexeme).length := by
  cases lexeme <;> rfl

theorem tokensOf_squeeze_eq_iff :
    cutting.tokensOf lexeme.squeeze = cutting.tokensOf lexeme ↔ lexeme.squeeze = lexeme := by
  cases lexeme with
  | run first rest => simp
  | quoted quote rest => simp [tokensOf]
  | comment text => simp [Lexeme.squeeze]

theorem tokensOf_squeeze_append_eq_iff {behind others : List (List Char)} :
    cutting.tokensOf lexeme.squeeze ++ behind = cutting.tokensOf lexeme ++ others ↔
      lexeme.squeeze = lexeme ∧ behind = others := by
  constructor
  · intro same
    obtain ⟨front, rest⟩ := List.append_inj same (cutting.length_tokensOf_squeeze lexeme)
    exact ⟨tokensOf_squeeze_eq_iff.mp front, rest⟩
  · rintro ⟨own, rfl⟩
    rw [own]

theorem flatMap_filter (cutting : Cutting) (found : List Lexeme) :
    (found.filter (!·.isComment)).flatMap cutting.tokensOf = found.flatMap cutting.tokensOf := by
  induction found with
  | nil => rfl
  | cons lexeme rest ih => cases lexeme <;> simp [ih]

/-- Of a comment on, nothing is left. -/
theorem tokens_oneLine (cutting : Cutting) (sql : String) :
    cutting.tokens (LookML.oneLineSql sql) =
      (((lexemes sql.toList).takeWhile (!·.isComment)).map Lexeme.squeeze).flatMap
        cutting.tokensOf := by
  rw [tokens, LookML.oneLineSql, String.toList_ofList, ← flatMap_filter, filter_lexemes_oneLine]

end Cutting

/-- The lexemes of SQL that reads the same on one line. -/
structure FitsOneLine (found : List Lexeme) : Prop where
  /-- Inside quotes no white space is squeezed. -/
  squeezed : ∀ lexeme ∈ found, lexeme.squeeze = lexeme
  /-- Behind a comment stand only comments. -/
  comments : found.Pairwise fun earlier later => earlier.isComment → later.isComment

variable {cutting : Cutting} {lexeme : Lexeme} {found : List Lexeme}

theorem fitsOneLine_cons_iff :
    FitsOneLine (lexeme :: found) ↔
      lexeme.squeeze = lexeme ∧ (lexeme.isComment → ∀ later ∈ found, later.isComment) ∧
        FitsOneLine found := by
  constructor
  · intro fits
    obtain ⟨own, others⟩ := List.forall_mem_cons.mp fits.squeezed
    obtain ⟨behind, later⟩ := List.pairwise_cons.mp fits.comments
    exact ⟨own, fun comment other member => behind other member comment, others, later⟩
  · intro parts
    obtain ⟨own, behind, rest⟩ := parts
    constructor
    · exact List.forall_mem_cons.mpr ⟨own, rest.squeezed⟩
    · exact List.pairwise_cons.mpr
        ⟨fun other member comment => behind comment other member, rest.comments⟩

theorem fitsOneLine_of_comments (comments : ∀ lexeme ∈ found, lexeme.isComment) :
    FitsOneLine found := by
  constructor
  · exact fun lexeme member => Lexeme.squeeze_of_isComment (comments lexeme member)
  · exact List.pairwise_of_forall_mem_list fun _ _ later member _ => comments later member

theorem flatMap_squeeze_eq_iff (cutting : Cutting) (found : List Lexeme) :
    ((found.takeWhile (!·.isComment)).map Lexeme.squeeze).flatMap cutting.tokensOf =
      found.flatMap cutting.tokensOf ↔ FitsOneLine found := by
  induction found with
  | nil => exact iff_of_true rfl (fitsOneLine_of_comments (by simp))
  | cons lexeme rest ih =>
      rw [fitsOneLine_cons_iff, List.flatMap_cons]
      cases comment : lexeme.isComment with
      | true =>
          -- From a comment on nothing is left, so the rest must not have tokens either.
          have silent : [] = rest.flatMap cutting.tokensOf ↔ ∀ later ∈ rest, later.isComment := by
            rw [eq_comm, List.flatMap_eq_nil_iff]
            simp only [Cutting.tokensOf_eq_nil_iff]
          rw [List.takeWhile_cons_of_neg (by simp [comment]), Cutting.tokensOf_eq_nil_iff.mpr comment,
            List.nil_append, List.map_nil, List.flatMap_nil, silent, Lexeme.squeeze_of_isComment comment]
          simp only [true_and, true_implies]
          exact ⟨fun comments => ⟨comments, fitsOneLine_of_comments comments⟩, And.left⟩
      | false =>
          rw [List.takeWhile_cons_of_pos (by simp [comment]), List.map_cons, List.flatMap_cons,
            Cutting.tokensOf_squeeze_append_eq_iff, ih]
          simp

end Sql

namespace LookML

/-- Which plain characters make up a token does not matter. -/
theorem one_line_keeps_tokens_iff (cutting : Sql.Cutting) (sql : String) :
    (∀ c ∈ (oneLineSql sql).toList, Text.isBlank c → c = ' ') ∧
    cutting.tokens (oneLineSql sql) =
      (((Sql.lexemes sql.toList).takeWhile (!·.isComment)).map Sql.Lexeme.squeeze).flatMap
        cutting.tokensOf ∧
    (cutting.tokens (oneLineSql sql) = cutting.tokens sql ↔
      Sql.FitsOneLine (Sql.lexemes sql.toList)) := by
  rw [Sql.Cutting.tokens_oneLine]
  refine ⟨?_, rfl, Sql.flatMap_squeeze_eq_iff cutting (Sql.lexemes sql.toList)⟩
  rw [oneLineSql, String.toList_ofList]
  exact fun c member blank => Text.eq_space_of_mem_oneLine member blank

/-- Three tokens stand on two lines in front of a comment. -/
theorem product_keeps_tokens :
    oneLineSql "amount\n  * rate -- net" = "amount * rate -- net" ∧
    Sql.Cutting.wholeRuns.tokens (oneLineSql "amount\n  * rate -- net") =
      Sql.Cutting.wholeRuns.tokens "amount\n  * rate -- net" ∧
    Sql.Cutting.wholeRuns.tokens "amount\n  * rate -- net" =
      ["amount".toList, "*".toList, "rate".toList] := by
  obtain ⟨_, _, same⟩ := one_line_keeps_tokens_iff .wholeRuns "amount\n  * rate -- net"
  refine ⟨by decide +kernel, same.mpr ?_, by decide +kernel⟩
  exact { squeezed := by decide +kernel, comments := by decide +kernel }

/-- The two spaces belong to the value that is compared. -/
theorem wide_literal_narrowed :
    oneLineSql "status = 'on  hold'" = "status = 'on hold'" ∧
    Sql.Lexeme.quoted '\'' "on  hold'".toList ∈ Sql.lexemes "status = 'on  hold'".toList ∧
    ∀ cutting : Sql.Cutting,
      cutting.tokens (oneLineSql "status = 'on  hold'") ≠ cutting.tokens "status = 'on  hold'" := by
  have literal : Sql.Lexeme.quoted '\'' "on  hold'".toList ∈
      Sql.lexemes "status = 'on  hold'".toList := by
    decide +kernel
  refine ⟨by decide +kernel, literal, fun cutting same => ?_⟩
  rw [Sql.Cutting.tokens_oneLine, Sql.Cutting.tokens, Sql.flatMap_squeeze_eq_iff] at same
  exact absurd (same.squeezed _ literal) (by decide +kernel)

end LookML

end SemanticLayer
