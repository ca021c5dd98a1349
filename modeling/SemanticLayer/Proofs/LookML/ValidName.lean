import SemanticLayer.LookML.View
import SemanticLayer.Project
namespace SemanticLayer

/-! Names that stand in references without being cut short. -/

open LookML

/-- The prefix of view names has no other characters than names may have. -/
def LookML.Naming.PlainPrefix (naming : Naming) : Prop := ∀ c ∈ naming.viewPrefix.toList, isNameRest c

/-- Every name is a valid name of the output. -/
structure Project.ValidNames (project : Project) : Prop where
  models : ∀ model ∈ project.models, isValidName model.name
  measures : ∀ model ∈ project.models, ∀ measure ∈ model.measures, isValidName measure.name
  metrics : ∀ metric ∈ project.metrics, isValidName metric.name

/-- No derived expression holds a dollar sign of its own. -/
def Project.PlainExpressions (project : Project) : Prop :=
  ∀ metric ∈ project.metrics, ∀ expression inputs, metric.kind = .derived expression inputs →
    '$' ∉ expression.toList

namespace LookML

variable {name : String} {naming : Naming} {c : Char}

theorem isNameRest_of_isNameStart (start : isNameStart c) : isNameRest c := by
  simp only [isNameStart, Bool.or_eq_true] at start
  simp only [isNameRest, Bool.or_eq_true]
  rcases start with lower | underscore
  · exact .inl (.inl lower)
  · exact .inr underscore

theorem isNameRest_of_mem (valid : isValidName name) (member : c ∈ name.toList) : isNameRest c := by
  unfold isValidName isName at valid
  cases text : name.toList with
  | nil => simp [text] at member
  | cons head rest =>
      simp only [text, Bool.and_eq_true, List.all_eq_true] at valid
      rw [text, List.mem_cons] at member
      rcases member with same | later
      · rw [same]
        exact isNameRest_of_isNameStart valid.1
      · exact valid.2 c later

theorem not_mem_of_isValidName (valid : isValidName name) (special : isNameRest c = false) :
    c ∉ name.toList := by
  intro member
  rw [isNameRest_of_mem valid member] at special
  cases special

theorem not_mem_view {model : String} (plain : naming.PlainPrefix) (valid : isValidName model)
    (special : isNameRest c = false) : c ∉ (naming.view model).toList := by
  simp only [Naming.view, String.toList_append, List.mem_append, not_or]
  refine ⟨fun member => ?_, not_mem_of_isValidName valid special⟩
  rw [plain c member] at special
  cases special

/-- Between view and measure the name of a field has a dot, and nothing else that names do not have. -/
theorem not_mem_field {model measure : String} (plain : naming.PlainPrefix) (modelValid : isValidName model)
    (measureValid : isValidName measure) (special : isNameRest c = false) (other : c ≠ '.') :
    c ∉ (naming.view model ++ "." ++ measure).toList := by
  have inView := not_mem_view plain modelValid special
  have inMeasure := not_mem_of_isValidName measureValid special
  simp [inView, inMeasure, other]

/-- Different models have different views. -/
theorem Naming.view_inj {first second : String} (same : naming.view first = naming.view second) :
    first = second :=
  (String.append_right_inj naming.viewPrefix).mp same

end LookML

end SemanticLayer
