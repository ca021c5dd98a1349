import SemanticLayer.LookML.Literal
import SemanticLayer.Text.Identifier
namespace SemanticLayer.LookML

/-! References inside SQL.

`Referring` describes text in which a dollar sign stands only at the start of a reference. In
such a text every `$` with a brace after it is the start of one of those references
(`Referring.allowed_of_mentions`), wherever it is looked for. -/

/-- A reference to `name` stands somewhere in `sql`. No closing brace belongs to a name, so the
first one ends the reference. -/
def Mentions (sql name : String) : Prop :=
  '}' ∉ name.toList ∧ ∃ before after, sql = before ++ reference name ++ after

/-- The two parts around a separator that the first of them does not hold. -/
theorem append_cons_inj {separator : Char} {left right rest other : List Char}
    (leftFree : separator ∉ left) (rightFree : separator ∉ right)
    (same : left ++ separator :: rest = right ++ separator :: other) :
    left = right ∧ rest = other := by
  induction left generalizing right with
  | nil =>
      cases right with
      | nil => simpa using same
      | cons head tail =>
          simp only [List.nil_append, List.cons_append, List.cons.injEq] at same
          exact absurd (List.mem_cons.mpr (.inl same.1)) rightFree
  | cons head tail ih =>
      cases right with
      | nil =>
          simp only [List.nil_append, List.cons_append, List.cons.injEq] at same
          exact absurd (List.mem_cons.mpr (.inl same.1.symm)) leftFree
      | cons otherHead otherTail =>
          simp only [List.cons_append, List.cons.injEq] at same
          simp only [List.mem_cons, not_or] at leftFree rightFree
          obtain ⟨tails, rests⟩ := ih leftFree.2 rightFree.2 same.2
          rw [same.1, tails]
          exact ⟨rfl, rests⟩

/-- A text with one separator has only one split at it. -/
theorem append_cons_inj_of_not_mem {separator : Char} {left right rest other : List Char}
    (leftFree : separator ∉ left) (restFree : separator ∉ rest)
    (same : left ++ separator :: rest = right ++ separator :: other) :
    left = right ∧ rest = other := by
  have counts := congrArg (List.count separator) same
  simp only [List.count_append, List.count_cons_self, List.count_eq_zero.mpr leftFree,
    List.count_eq_zero.mpr restFree] at counts
  have rightFree : separator ∉ right := List.count_eq_zero.mp (by omega)
  exact append_cons_inj leftFree rightFree same

/-- Text whose dollar signs all start a reference to an `allowed` name. -/
inductive Referring (allowed : String → Prop) : List Char → Prop
  | nil : Referring allowed []
  | char {c rest} : c ≠ '$' → Referring allowed rest → Referring allowed (c :: rest)
  | reference {name : String} {rest} : '$' ∉ name.toList → '}' ∉ name.toList → allowed name →
      Referring allowed rest → Referring allowed ('$' :: '{' :: (name.toList ++ '}' :: rest))

namespace Referring

variable {allowed : String → Prop} {text first second : List Char}

theorem append (firstRefers : Referring allowed first) (secondRefers : Referring allowed second) :
    Referring allowed (first ++ second) := by
  induction firstRefers with
  | nil => exact secondRefers
  | char other _ ih => exact .char other ih
  | reference dollarFree closed permitted _ ih =>
      simpa using Referring.reference dollarFree closed permitted ih

theorem of_not_mem (dollarFree : '$' ∉ text) : Referring allowed text := by
  induction text with
  | nil => exact .nil
  | cons c rest ih =>
      simp only [List.mem_cons, not_or] at dollarFree
      exact .char (fun same => dollarFree.1 same.symm) (ih dollarFree.2)

theorem mono {wider : String → Prop} (weaker : ∀ name, allowed name → wider name)
    (refers : Referring allowed text) : Referring wider text := by
  induction refers with
  | nil => exact .nil
  | char other _ ih => exact .char other ih
  | reference dollarFree closed permitted _ ih =>
      exact .reference dollarFree closed (weaker _ permitted) ih

theorem of_reference {name : String} (dollarFree : '$' ∉ name.toList) (closed : '}' ∉ name.toList)
    (permitted : allowed name) : Referring allowed (LookML.reference name).toList := by
  have written : (LookML.reference name).toList = '$' :: '{' :: (name.toList ++ ['}']) := by
    simp [LookML.reference]
  rw [written]
  exact .reference dollarFree closed permitted .nil

theorem flatMap {pieces : List α} {write : α → List Char}
    (each : ∀ piece ∈ pieces, Referring allowed (write piece)) :
    Referring allowed (pieces.flatMap write) := by
  induction pieces with
  | nil => exact .nil
  | cons piece rest ih =>
      rw [List.flatMap_cons]
      exact (each piece (List.mem_cons_self ..)).append
        (ih fun other member => each other (List.mem_cons_of_mem _ member))

/-- Substitution puts references in, but the text around them has none. -/
theorem substitute {meaning : List Char → Option (List Char)} (dollarFree : '$' ∉ text)
    (meanings : ∀ name inserted, .identifier name ∈ Text.pieces text →
      meaning name = some inserted → Referring allowed inserted) :
    Referring allowed (Text.substitute meaning text) := by
  refine flatMap fun piece member => ?_
  have inside : ∀ c ∈ piece.text, c ∈ text := by
    intro c within
    rw [← Text.flatten_pieces text]
    exact List.mem_flatMap.mpr ⟨piece, member, within⟩
  have clean : '$' ∉ piece.text := fun within => dollarFree (inside _ within)
  cases piece with
  | other c => exact of_not_mem clean
  | identifier name =>
      cases found : meaning name with
      | none => simpa [found, Text.Piece.text] using of_not_mem clean
      | some inserted => simpa [found] using meanings name inserted member found

theorem allowed_of_occurrence {name : String} (refers : Referring allowed text)
    (closed : '}' ∉ name.toList) {before after : List Char}
    (split : text = before ++ '$' :: '{' :: (name.toList ++ '}' :: after)) : allowed name := by
  induction refers generalizing before with
  | nil => simp at split
  | char other _ ih =>
      cases before with
      | nil =>
          simp only [List.nil_append, List.cons.injEq] at split
          exact absurd split.1 other
      | cons head tail =>
          simp only [List.cons_append, List.cons.injEq] at split
          exact ih split.2
  | @reference found rest dollarFree foundClosed permitted _ ih =>
      cases before with
      | nil =>
          simp only [List.nil_append, List.cons.injEq, true_and] at split
          have same := (append_cons_inj foundClosed closed split).1
          rwa [String.toList_inj.mp same] at permitted
      | cons head tail =>
          simp only [List.cons_append, List.cons.injEq] at split
          -- The dollar sign that is looked for lies behind the reference found first.
          have later : ('{' :: (found.toList ++ ['}'])) ++ rest =
              tail ++ '$' :: '{' :: (name.toList ++ '}' :: after) := by simpa using split.2
          rcases List.append_eq_append_iff.mp later with ⟨gap, _, restSplit⟩ | ⟨gap, whole, behind⟩
          · exact ih restSplit
          · cases gap with
            | nil =>
                have restSplit : rest = [] ++ '$' :: '{' :: (name.toList ++ '}' :: after) := by
                  simpa using behind.symm
                exact ih restSplit
            | cons c gap =>
                simp only [List.cons_append, List.cons.injEq] at behind
                have within : '$' ∈ '{' :: (found.toList ++ ['}']) := by
                  rw [whole, behind.1]
                  simp
                simp [dollarFree] at within

theorem allowed_of_mentions {sql name : String} (refers : Referring allowed sql.toList)
    (mentions : Mentions sql name) : allowed name := by
  obtain ⟨closed, before, after, split⟩ := mentions
  have occurrence : sql.toList =
      before.toList ++ '$' :: '{' :: (name.toList ++ '}' :: after.toList) := by
    rw [split]
    simp [LookML.reference]
  exact refers.allowed_of_occurrence closed occurrence

end Referring

end SemanticLayer.LookML
