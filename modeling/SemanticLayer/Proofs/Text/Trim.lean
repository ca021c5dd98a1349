import SemanticLayer.Text.Blank
namespace SemanticLayer.Text

/-! Text without the white space around it. -/

variable {text rest inner : List Char}

def AllBlank (text : List Char) : Prop := ∀ c ∈ text, isBlank c = true

/-- No white space stands at the front. -/
def StartsVisible (text : List Char) : Prop := ∀ c, text.head? = some c → isBlank c = false

/-- White space stands around `inner` in `text`, and none at its own ends. -/
structure Trimmed (text inner : List Char) : Prop where
  around : ∃ before after, text = before ++ (inner ++ after) ∧ AllBlank before ∧ AllBlank after
  first : StartsVisible inner
  last : ∀ c, inner.getLast? = some c → isBlank c = false

theorem AllBlank.reverse (blank : AllBlank text) : AllBlank text.reverse :=
  fun c member => blank c (List.mem_reverse.mp member)

theorem trimStart_eq_iff :
    trimStart text = rest ↔
      (∃ before, text = before ++ rest ∧ AllBlank before) ∧ StartsVisible rest := by
  constructor
  · rintro rfl
    refine ⟨⟨text.takeWhile isBlank, List.takeWhile_append_dropWhile.symm, ?_⟩, ?_⟩
    · exact List.all_eq_true.mp List.all_takeWhile
    · intro c first
      have stops := List.head?_dropWhile_not isBlank text
      unfold trimStart at first
      rwa [first] at stops
  · rintro ⟨⟨before, rfl, blank⟩, visible⟩
    rw [trimStart, List.dropWhile_append_of_pos blank]
    cases rest with
    | nil => rfl
    | cons c others => exact List.dropWhile_cons_of_neg (by simp [visible c rfl])

theorem trimStart_append (blank : AllBlank text) (visible : StartsVisible rest) :
    trimStart (text ++ rest) = rest :=
  trimStart_eq_iff.mpr ⟨⟨text, rfl, blank⟩, visible⟩

theorem trimEnd_eq_iff :
    trimEnd text = rest ↔
      (∃ after, text = rest ++ after ∧ AllBlank after) ∧
        ∀ c, rest.getLast? = some c → isBlank c = false := by
  have mirrored : trimEnd text = rest ↔ trimStart text.reverse = rest.reverse := List.reverse_eq_iff
  rw [mirrored, trimStart_eq_iff]
  unfold StartsVisible
  rw [List.head?_reverse]
  refine and_congr_left fun _ => ?_
  constructor
  · rintro ⟨before, whole, blank⟩
    refine ⟨before.reverse, ?_, blank.reverse⟩
    rw [← List.reverse_reverse text, whole, List.reverse_append, List.reverse_reverse]
  · rintro ⟨after, rfl, blank⟩
    exact ⟨after.reverse, List.reverse_append, blank.reverse⟩

theorem trim_eq_iff : trim text = inner ↔ Trimmed text inner := by
  unfold trim
  rw [trimEnd_eq_iff]
  constructor
  · rintro ⟨⟨after, cut, afterBlank⟩, last⟩
    obtain ⟨⟨before, whole, beforeBlank⟩, first⟩ := trimStart_eq_iff.mp cut
    refine ⟨⟨before, after, whole, beforeBlank, afterBlank⟩, fun c head => first c ?_, last⟩
    rw [List.head?_append, head, Option.some_or]
  · rintro ⟨⟨before, after, rfl, beforeBlank, afterBlank⟩, first, last⟩
    cases inner with
    | nil =>
        -- Nothing is visible, so all of it goes at the front already.
        have blank : AllBlank (before ++ ([] ++ after)) := by
          intro c member
          rcases List.mem_append.mp member with early | late
          · exact beforeBlank c early
          · exact afterBlank c late
        have nothing : trimStart (before ++ ([] ++ after)) = [] :=
          trimStart_eq_iff.mpr ⟨⟨_, (List.append_nil _).symm, blank⟩, by simp [StartsVisible]⟩
        exact ⟨⟨[], nothing, by simp [AllBlank]⟩, last⟩
    | cons c others =>
        have visible : StartsVisible (c :: others ++ after) := fun d head => first d head
        exact ⟨⟨after, trimStart_append beforeBlank visible, afterBlank⟩, last⟩

end SemanticLayer.Text
