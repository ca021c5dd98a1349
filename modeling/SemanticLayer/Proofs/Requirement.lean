import SemanticLayer.Connectivity
import SemanticLayer.Proofs.Order.SortedMap
import SemanticLayer.Proofs.Order.Union
namespace SemanticLayer

/-! What ends up in a requirement, through single measures and through merging.

All ways in which requirements grow are put together from `Requirement.require`, so what they add is
said once (`Requirement.Adds`) and carried through their loops (`Requirement.Adds.foldl`). -/

open SemanticLayer.Order

namespace Requirement

variable {requirement first second : Requirement} {model measure : String}

/-- No model has an entry without a measure. -/
def NoneEmpty (requirement : Requirement) : Prop :=
  ∀ model measures, requirement.measures.get? model = some measures → ∃ measure, measure ∈ measures

theorem mem_measuresFor_iff :
    measure ∈ requirement.measuresFor model ↔
      ∃ measures, requirement.measures.get? model = some measures ∧ measure ∈ measures := by
  unfold measuresFor
  cases requirement.measures.get? model with
  | none => simp
  | some measures => simp

@[simp] theorem not_mem_measuresFor_empty (base : String) :
    measure ∉ (empty base).measuresFor model := List.not_mem_nil

theorem noneEmpty_empty (base : String) : (empty base).NoneEmpty := nofun

theorem mem_models_iff : model ∈ requirement.models ↔ requirement.contains model :=
  SortedMap.mem_keys_iff

theorem contains_iff (inhabited : requirement.NoneEmpty) :
    requirement.contains model ↔ ∃ measure, measure ∈ requirement.measuresFor model := by
  unfold contains
  simp only [mem_measuresFor_iff, Option.isSome_iff_exists]
  constructor
  · rintro ⟨measures, found⟩
    obtain ⟨measure, member⟩ := inhabited model measures found
    exact ⟨measure, measures, found, member⟩
  · rintro ⟨measure, measures, found, _⟩
    exact ⟨measures, found⟩

theorem isEmpty_iff (inhabited : requirement.NoneEmpty) :
    requirement.isEmpty ↔ ∀ model measure, measure ∉ requirement.measuresFor model := by
  constructor
  · intro empty model measure listed
    obtain ⟨measures, found, _⟩ := mem_measuresFor_iff.mp listed
    rw [SortedMap.get?_eq_some_iff_mem, List.isEmpty_iff.mp empty] at found
    cases found
  · intro nothing
    refine List.isEmpty_iff.mpr (List.eq_nil_iff_forall_not_mem.mpr fun entry member => ?_)
    have found := SortedMap.get?_eq_some_iff_mem.mpr member
    obtain ⟨measure, among⟩ := inhabited _ _ found
    exact nothing _ _ (mem_measuresFor_iff.mpr ⟨_, found, among⟩)

/-- Without empty entries a requirement is what it needs. -/
theorem eq_of_mem_iff (base : first.base = second.base) (firstInhabited : first.NoneEmpty)
    (secondInhabited : second.NoneEmpty)
    (same : ∀ model measure, measure ∈ first.measuresFor model ↔ measure ∈ second.measuresFor model) :
    first = second := by
  have listed : ∀ model, first.contains model ↔ second.contains model := by
    intro model
    rw [contains_iff firstInhabited, contains_iff secondInhabited]
    simp only [same]
  have measures : first.measures = second.measures := by
    ext1 model
    have equal : first.measuresFor model = second.measuresFor model := SortedSet.ext (same model)
    specialize listed model
    unfold contains at listed
    unfold measuresFor at equal
    cases found : first.measures.get? model with
    | none =>
        have absent : second.measures.get? model = none := by simpa [found] using listed
        exact absent.symm
    | some measures =>
        obtain ⟨others, otherFound⟩ := Option.isSome_iff_exists.mp (listed.mp (by simp [found]))
        simpa [found, otherFound] using equal
  cases first
  cases second
  congr

/-- `grow` adds the measures that `asked` tells, except those of the base. -/
structure Adds (grow : Requirement → Requirement) (asked : String → String → Prop) : Prop where
  base : ∀ requirement, (grow requirement).base = requirement.base
  mem : ∀ requirement model measure, measure ∈ (grow requirement).measuresFor model ↔
    measure ∈ requirement.measuresFor model ∨ asked model measure ∧ model ≠ requirement.base
  noneEmpty : ∀ requirement : Requirement, requirement.NoneEmpty → (grow requirement).NoneEmpty

theorem adds_require (target read : String) :
    Adds (fun requirement => requirement.require target read)
      (fun model measure => model = target ∧ measure = read) := by
  have joined : ∀ requirement : Requirement, target ≠ requirement.base →
      (requirement.require target read).measures = requirement.measures.change target fun known =>
        (known.getD SortedSet.empty).insert read := by
    intro requirement apart
    rw [require, if_neg apart]
  have own : ∀ requirement : Requirement, target = requirement.base →
      requirement.require target read = requirement := by
    intro requirement same
    rw [require, if_pos same]
  refine ⟨fun requirement => ?_, fun requirement model measure => ?_, fun requirement inhabited => ?_⟩
  · unfold require
    split <;> rfl
  · by_cases same : target = requirement.base
    · rw [own requirement same]
      simp only [iff_self_or, and_imp]
      rintro rfl _ apart
      exact absurd same apart
    · unfold measuresFor
      rw [joined requirement same, SortedMap.get?_change]
      by_cases equal : model = target
      · subst equal
        simp [same, or_comm]
      · simp [equal]
  · by_cases same : target = requirement.base
    · rwa [own requirement same]
    · intro model measures found
      rw [joined requirement same, SortedMap.get?_change] at found
      split at found
      · cases found
        exact ⟨read, by simp⟩
      · exact inhabited model measures found

section Growing

variable {grow : Requirement → Requirement} {asked other : String → String → Prop}

theorem Adds.congr (adds : Adds grow asked)
    (same : ∀ model measure, other model measure ↔ asked model measure) : Adds grow other := by
  refine ⟨adds.base, fun requirement model measure => ?_, adds.noneEmpty⟩
  rw [adds.mem, same]

theorem adds_nothing : Adds id fun _ _ => False := ⟨fun _ => rfl, by simp, fun _ => id⟩

theorem Adds.andThen {later : Requirement → Requirement} (first : Adds grow asked)
    (second : Adds later other) :
    Adds (fun requirement => later (grow requirement))
      (fun model measure => asked model measure ∨ other model measure) := by
  refine ⟨fun requirement => ?_, fun requirement model measure => ?_, fun requirement inhabited => ?_⟩
  · rw [second.base, first.base]
  · rw [second.mem, first.mem, first.base, or_assoc, ← or_and_right]
  · exact second.noneEmpty _ (first.noneEmpty requirement inhabited)

/-- Steps of which each adds something add it all together. -/
theorem Adds.foldl {step : Requirement → α → Requirement} {added : α → String → String → Prop}
    (adds : ∀ item, Adds (fun requirement => step requirement item) (added item)) (items : List α) :
    Adds (fun requirement => items.foldl step requirement)
      (fun model measure => ∃ item ∈ items, added item model measure) := by
  induction items with
  | nil => exact adds_nothing.congr (by simp)
  | cons item rest ih => exact ((adds item).andThen ih).congr (by simp)

theorem adds_requireAll (target : String) (measures : SortedSet String) :
    Adds (fun requirement => requirement.requireAll target measures)
      (fun model measure => model = target ∧ measure ∈ measures) :=
  (Adds.foldl (adds_require target) measures.items).congr (by simp [SortedSet.mem_def, and_comm])

theorem adds_merge (other : Requirement) :
    Adds (fun requirement => requirement.merge other)
      (fun model measure => measure ∈ other.measuresFor model) := by
  refine (Adds.foldl (fun entry => adds_requireAll entry.1 entry.2) other.measures.entries).congr ?_
  simp [mem_measuresFor_iff, SortedMap.get?_eq_some_iff_mem]

/-- Merging one requirement after the other. -/
theorem adds_mergeAll (others : List Requirement) :
    Adds (fun requirement => others.foldl merge requirement)
      (fun model measure => ∃ other ∈ others, measure ∈ other.measuresFor model) :=
  Adds.foldl adds_merge others

end Growing

end Requirement

variable {set : ModelSet} {anchorModel model measure : String}

/-- A metric needs its measures from the models that own them, except from its own anchor. -/
theorem mem_requiredMeasures_iff {measures : SortedSet String} :
    measure ∈ (requiredMeasures set anchorModel measures).measuresFor model ↔
      measure ∈ measures ∧ model ≠ anchorModel ∧
        ∃ owner, set.ownerOfMeasure? measure = some owner ∧ owner.name = model := by
  unfold requiredMeasures
  refine ((Requirement.Adds.foldl (fun read => (?owned : Requirement.Adds _ fun model measure =>
    measure = read ∧ ∃ owner, set.ownerOfMeasure? read = some owner ∧ owner.name = model))
      measures.items).mem _ model measure).trans ?_
  case owned =>
    cases set.ownerOfMeasure? read with
    | none => exact Requirement.adds_nothing.congr (by simp)
    | some owner => exact (Requirement.adds_require owner.name read).congr (by simp [and_comm, eq_comm])
  rw [or_iff_right (Requirement.not_mem_measuresFor_empty anchorModel), Requirement.empty]
  simp [SortedSet.mem_def, and_comm, and_left_comm]

theorem validateConnectivity_eq_ok_iff {graph : JoinGraph} {metric : String} {measures : List String} :
    validateConnectivity set graph metric anchorModel measures = .ok () ↔
      ∀ measure ∈ measures, ∃ owner, set.ownerOfMeasure? measure = some owner ∧
        graph.reaches owner.name := by
  induction measures with
  | nil => simp [validateConnectivity]
  | cons measure rest ih =>
      unfold validateConnectivity
      cases declared : set.ownerOfMeasure? measure with
      | none => simp [declared]
      | some owner =>
          by_cases reached : graph.reaches owner.name
          · simp [declared, reached, ih]
          · simp [declared, reached]

end SemanticLayer
