import SemanticLayer.Text.Blank
import Mathlib.Data.List.Basic
namespace SemanticLayer.Text

/-! Text on one line, character by character.

A run of white space leaves one space, written when the next word begins: none stands at the
two ends. -/

variable {c d : Char} {text : List Char} {gap : Bool}

theorem ne_of_isBlank (blank : isBlank c = true) (visible : isBlank d = false) : c ≠ d := by
  rintro rfl
  rw [blank] at visible
  contradiction

/-- With `gap`, white space came before. -/
def squeeze (gap : Bool) : List Char → List Char
  | [] => []
  | c :: rest =>
      if isBlank c then squeeze true rest
      else if gap then ' ' :: c :: squeeze false rest
      else c :: squeeze false rest

@[simp] theorem squeeze_nil : squeeze gap [] = [] := rfl

@[simp] theorem squeeze_cons_blank (rest : List Char) (blank : isBlank c = true) :
    squeeze gap (c :: rest) = squeeze true rest := by
  rw [squeeze, if_pos blank]

@[simp] theorem squeeze_cons_visible (rest : List Char) (visible : isBlank c = false) :
    squeeze false (c :: rest) = c :: squeeze false rest := by
  simp [squeeze, visible]

@[simp] theorem squeeze_true_cons_visible (rest : List Char) (visible : isBlank c = false) :
    squeeze true (c :: rest) = ' ' :: c :: squeeze false rest := by
  simp [squeeze, visible]

theorem flatMap_wordsFrom (word text : List Char) :
    (wordsFrom word text).flatMap (' ' :: ·) =
      if word.isEmpty then squeeze true text else ' ' :: (word.reverse ++ squeeze false text) := by
  induction text generalizing word with
  | nil => cases word <;> simp [wordsFrom]
  | cons c rest ih =>
      cases blank : isBlank c with
      | false => cases word <;> simp [wordsFrom, blank, ih]
      | true => cases word <;> simp [wordsFrom, blank, ih]

theorem intercalate_space (parts : List (List Char)) :
    [' '].intercalate parts = (parts.flatMap (' ' :: ·)).tail := by
  induction parts with
  | nil => rfl
  | cons part rest ih =>
      cases rest with
      | nil => simp
      | cons next others => simp [List.intercalate_cons_cons, ih]

theorem oneLine_eq_tail (text : List Char) : oneLine text = (squeeze true text).tail := by
  rw [oneLine, words, intercalate_space, flatMap_wordsFrom]
  simp

theorem oneLine_cons_visible (rest : List Char) (visible : isBlank c = false) :
    oneLine (c :: rest) = c :: squeeze false rest := by
  rw [oneLine_eq_tail, squeeze_true_cons_visible rest visible, List.tail_cons]

theorem squeeze_true_cases (text : List Char) :
    squeeze true text = [] ∨ squeeze true text = ' ' :: oneLine text := by
  rw [oneLine_eq_tail]
  induction text with
  | nil => exact .inl rfl
  | cons c rest ih =>
      cases blank : isBlank c with
      | true => rwa [squeeze_cons_blank rest blank]
      | false => simp [blank]

/-- All that can stand at the front besides the line is a space. -/
theorem squeeze_cases (gap : Bool) (text : List Char) :
    squeeze gap text = oneLine text ∨ squeeze gap text = ' ' :: oneLine text := by
  have opened : squeeze true text = oneLine text ∨ squeeze true text = ' ' :: oneLine text := by
    rcases squeeze_true_cases text with empty | space
    · exact .inl (by rw [oneLine_eq_tail, empty, List.tail_nil])
    · exact .inr space
  cases gap with
  | true => exact opened
  | false =>
      cases text with
      | nil => exact .inl rfl
      | cons c rest =>
          cases blank : isBlank c with
          | true => rwa [squeeze_cons_blank rest blank] at opened ⊢
          | false => simp [blank, oneLine_cons_visible]

theorem eq_space_of_mem_squeeze (member : c ∈ squeeze gap text) (blank : isBlank c = true) :
    c = ' ' := by
  fun_induction squeeze gap text with
  | case1 => cases member
  | case2 _ _ _ _ ih => exact ih member
  | case3 d rest visible ih =>
      rcases List.mem_cons.mp member with space | within
      · exact space
      · rcases List.mem_cons.mp within with rfl | later
        · contradiction
        · exact ih later
  | case4 _ d rest visible _ ih =>
      rcases List.mem_cons.mp member with rfl | later
      · contradiction
      · exact ih later

theorem eq_space_of_mem_oneLine (member : c ∈ oneLine text) (blank : isBlank c = true) : c = ' ' := by
  rw [oneLine_eq_tail] at member
  exact eq_space_of_mem_squeeze (List.mem_of_mem_tail member) blank

end SemanticLayer.Text
