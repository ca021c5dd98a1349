import SemanticLayer.Proofs.ModelSet.Ownership
import SemanticLayer.Proofs.Order.Sorting
namespace SemanticLayer

/-! Why a list of models is refused.

`ModelConflict.Holds` says what each conflict means of the models. The checks go through the models
in ascending order of their names, so a conflict is found at the least model whose name, primary
entity and measures cannot stand beside those of the models below it. -/

namespace ModelConflict

variable {earlier models : List SemanticModel} {model : SemanticModel} {conflict : ModelConflict}

/-- What the conflict says of the models is so. Of two models the lesser one is named first; a
measure that one model declares twice is shared by that model and itself. -/
def Holds (models : List SemanticModel) : ModelConflict → Prop
  | .duplicateModel name => 1 < (models.map SemanticModel.name).count name
  | .multiplePrimaryEntities name =>
      ∃ model ∈ models, model.name = name ∧ 1 < model.primaryEntities.length
  | .duplicatePrimaryEntity entity first second =>
      first < second ∧
        (∃ model ∈ models, model.name = first ∧ model.identifies entity) ∧
        ∃ model ∈ models, model.name = second ∧ model.identifies entity
  | .duplicateMeasure measure first second =>
      first ≤ second ∧
        (∃ model ∈ models, model.name = first ∧ model.declaresMeasure measure) ∧
        ∃ model ∈ models, model.name = second ∧ model.declaresMeasure measure ∧
          (first = second → 1 < (model.measures.map Measure.name).count measure)

/-- The model at which the conflict is found. Repeated names are looked for in the whole list,
before any model is looked at. -/
def foundAt? : ModelConflict → Option String
  | .duplicateModel _ => none
  | .multiplePrimaryEntities model => some model
  | .duplicatePrimaryEntity _ _ second => some second
  | .duplicateMeasure _ _ second => some second

theorem holds_of_repeatedName? {earlier : List String}
    (found : repeatedName? earlier models = some conflict) :
    ∃ name, conflict = .duplicateModel name ∧
      1 < (earlier ++ models.map SemanticModel.name).count name := by
  induction models generalizing earlier with
  | nil => cases found
  | cons model rest ih =>
      unfold repeatedName? at found
      split at found
      · rename_i known
        cases found
        have before : 0 < earlier.count model.name := List.count_pos_iff.mpr known
        refine ⟨model.name, rfl, ?_⟩
        rw [List.count_append, List.map_cons, List.count_cons_self]
        omega
      · -- The head has moved to the names that stand earlier; counts do not see that.
        obtain ⟨name, rfl, twice⟩ := ih found
        refine ⟨name, rfl, ?_⟩
        rw [List.cons_append, ← List.perm_middle.count_eq] at twice
        exact twice

theorem eq_of_repeatedMeasure? {owner : String} {before : List String} {measures : List Measure}
    (found : repeatedMeasure? earlier owner before measures = some conflict) :
    ∃ measure ∈ measures,
      (∃ first ∈ earlier, first.declaresMeasure measure.name ∧
        conflict = .duplicateMeasure measure.name first.name owner) ∨
      (1 < (before ++ measures.map Measure.name).count measure.name ∧
        conflict = .duplicateMeasure measure.name owner owner) := by
  induction measures generalizing before with
  | nil => cases found
  | cons measure rest ih =>
      unfold repeatedMeasure? at found
      cases declared : earlier.find? fun model => model.declaresMeasure measure.name with
      | some first =>
          simp only [declared, Option.some.injEq] at found
          have declares := List.find?_some declared
          exact ⟨measure, List.mem_cons_self ..,
            .inl ⟨first, List.mem_of_find?_eq_some declared, declares, found.symm⟩⟩
      | none =>
          simp only [declared] at found
          split at found
          · rename_i known
            cases found
            have stands : 0 < before.count measure.name := List.count_pos_iff.mpr known
            refine ⟨measure, List.mem_cons_self .., .inr ⟨?_, rfl⟩⟩
            rw [List.count_append, List.map_cons, List.count_cons_self]
            omega
          · obtain ⟨later, member, shared | ⟨twice, same⟩⟩ := ih found
            · exact ⟨later, List.mem_cons_of_mem _ member, .inl shared⟩
            · rw [List.cons_append, ← List.perm_middle.count_eq] at twice
              exact ⟨later, List.mem_cons_of_mem _ member, .inr ⟨twice, same⟩⟩

/-- What one model gets wrong is found at this model, and is so of any models that contain it and
the earlier ones. -/
theorem holds_of_ofModel? (member : model ∈ models)
    (below : ∀ first ∈ earlier, first ∈ models ∧ first.name < model.name)
    (found : ofModel? earlier model = some conflict) :
    conflict.foundAt? = some model.name ∧ conflict.Holds models := by
  unfold ofModel? at found
  split at found
  · rename_i several
    cases found
    exact ⟨rfl, model, member, rfl, several⟩
  · rw [Option.orElse_eq_or, Option.or_eq_some_iff] at found
    rcases found with entity | ⟨_, repeated⟩
    · obtain ⟨primary, own, shared⟩ := Option.bind_eq_some_iff.mp entity
      obtain ⟨first, taken, rfl⟩ := Option.map_eq_some_iff.mp shared
      obtain ⟨firstMember, less⟩ := below first (List.mem_of_find?_eq_some taken)
      have identifies := List.find?_some taken
      exact ⟨rfl, less, ⟨first, firstMember, rfl, identifies⟩, model, member, rfl,
        SemanticModel.identifies_iff.mpr ⟨primary, own, rfl⟩⟩
    · obtain ⟨measure, declared, ⟨first, among, declares, rfl⟩ | ⟨twice, rfl⟩⟩ :=
        eq_of_repeatedMeasure? repeated
      · obtain ⟨firstMember, less⟩ := below first among
        have own := SemanticModel.declaresMeasure_iff.mpr ⟨measure, declared, rfl⟩
        refine ⟨rfl, Std.le_of_lt less, ⟨first, firstMember, rfl, declares⟩, model, member, rfl, own, ?_⟩
        exact fun same => absurd less (same ▸ String.lt_irrefl _)
      · have own := SemanticModel.declaresMeasure_iff.mpr ⟨measure, declared, rfl⟩
        exact ⟨rfl, String.le_refl _, ⟨model, member, rfl, own⟩, model, member, rfl, own, fun _ => twice⟩

theorem split_of_first? (found : first? earlier models = some conflict) :
    ∃ before model after, models = before ++ model :: after ∧ first? earlier before = none ∧
      ofModel? (earlier ++ before) model = some conflict := by
  induction models generalizing earlier with
  | nil => cases found
  | cons model rest ih =>
      rw [first?, Option.orElse_eq_or, Option.or_eq_some_iff] at found
      rcases found with own | ⟨clear, later⟩
      · exact ⟨[], model, rest, rfl, rfl, by rwa [List.append_nil]⟩
      · obtain ⟨before, other, after, rfl, none, conflicting⟩ := ih later
        refine ⟨model :: before, other, after, rfl, ?_, ?_⟩
        · rw [first?, clear]
          exact none
        · rwa [List.append_assoc] at conflicting

end ModelConflict

namespace ModelSet

variable {models : List SemanticModel} {conflict : ModelConflict}

theorem unambiguous_before {before after : List SemanticModel} {model : SemanticModel}
    (distinct : ((before ++ model :: after).map SemanticModel.name).Nodup)
    (clear : ModelConflict.first? [] before = none)
    (conflicting : ModelConflict.ofModel? before model = some conflict) :
    Unambiguous before ∧ ¬ Unambiguous (before ++ [model]) := by
  constructor
  · obtain ⟨consistent, _, compatible⟩ := ModelConflict.first?_eq_none_iff.mp clear
    rw [List.map_append] at distinct
    exact ⟨distinct.of_append_left, consistent, compatible⟩
  · intro unambiguous
    have own := unambiguous.consistent model (by simp)
    have beside := (List.pairwise_append.mp unambiguous.compatible).2.2
    have none : ModelConflict.ofModel? before model = none :=
      ModelConflict.ofModel?_eq_none_iff.mpr ⟨own, fun first member => beside first member model (by simp)⟩
    rw [conflicting] at none
    cases none

/-- A conflict at a model is found once the names are known to be distinct, at the least model that
cannot stand beside the ones below it. -/
theorem conflict_of_first? (distinct : (models.map SemanticModel.name).Nodup)
    (found : ModelConflict.first? [] (Order.sortedOn SemanticModel.name models) = some conflict) :
    conflict.Holds models ∧ ∃ name, conflict.foundAt? = some name ∧
      Unambiguous (models.filter fun model => model.name < name) ∧
      ¬ Unambiguous (models.filter fun model => model.name ≤ name) := by
  have sorted := Order.sortedOn_perm SemanticModel.name models
  have ascending := Order.sortedOn_ascending distinct
  obtain ⟨before, model, after, split, clear, conflicting⟩ := ModelConflict.split_of_first? found
  rw [List.nil_append] at conflicting
  -- Sorting puts the models below the clashing one in front of it, so the filters cut there.
  rw [split] at sorted ascending
  have members : ∀ first ∈ before, first ∈ models ∧ first.name < model.name := by
    intro first member
    rw [List.map_append, List.pairwise_append] at ascending
    exact ⟨sorted.mem_iff.mp (List.mem_append_left _ member),
      ascending.2.2 first.name (List.mem_map_of_mem member) model.name (by simp)⟩
  have member : model ∈ models := sorted.mem_iff.mp (by simp)
  obtain ⟨foundAt, holds⟩ := ModelConflict.holds_of_ofModel? member members conflicting
  obtain ⟨below, upTo⟩ := unambiguous_before (ascending.imp Std.ne_of_lt) clear conflicting
  refine ⟨holds, model.name, foundAt, ?_, ?_⟩
  · rw [← Unambiguous.perm_iff (sorted.filter _), Order.filter_lt_of_ascending ascending]
    exact below
  · rw [← Unambiguous.perm_iff (sorted.filter _), Order.filter_le_of_ascending ascending]
    exact upTo

theorem error_of_ofModels (refused : ofModels models = .error conflict) :
    conflict.Holds models ∧ ∀ name, conflict.foundAt? = some name →
      (models.map SemanticModel.name).Nodup ∧
      Unambiguous (models.filter fun model => model.name < name) ∧
      ¬ Unambiguous (models.filter fun model => model.name ≤ name) := by
  unfold ofModels at refused
  cases repeated : ModelConflict.repeatedName? [] models with
  | some shared =>
      simp only [repeated, Except.error.injEq] at refused
      subst refused
      obtain ⟨name, rfl, twice⟩ := ModelConflict.holds_of_repeatedName? repeated
      exact ⟨twice, fun _ found => by cases found⟩
  | none =>
      have distinct := (ModelConflict.repeatedName?_eq_none_iff.mp repeated).2
      simp only [repeated] at refused
      cases found : ModelConflict.first? [] (Order.sortedOn SemanticModel.name models) with
      | none => simp only [found, reduceCtorEq] at refused
      | some clash =>
          simp only [found, Except.error.injEq] at refused
          subst refused
          obtain ⟨holds, name, foundAt, below, upTo⟩ := conflict_of_first? distinct found
          refine ⟨holds, fun other otherFound => ?_⟩
          rw [foundAt, Option.some.injEq] at otherFound
          subst otherFound
          exact ⟨distinct, below, upTo⟩

/-- Models are accepted exactly when they can be told apart, and then every primary entity and every
measure is answered with the one model that declares it. A refusal says something that is so of the
models, and unless a name repeats it is found at the least model that clashes with the ones below
it. -/
theorem accepts_exactly_unambiguous (models : List SemanticModel) :
    ((∃ set, ofModels models = .ok set) ↔ Unambiguous models) ∧
    (∀ set, ofModels models = .ok set →
      (∀ entity owner, set.ownerOfEntity? entity = some owner ↔
        owner ∈ models ∧ owner.identifies entity) ∧
      ∀ measure owner, set.ownerOfMeasure? measure = some owner ↔
        owner ∈ models ∧ owner.declaresMeasure measure) ∧
    ∀ conflict, ofModels models = .error conflict →
      conflict.Holds models ∧ ∀ name, conflict.foundAt? = some name →
        (models.map SemanticModel.name).Nodup ∧
        Unambiguous (models.filter fun model => model.name < name) ∧
        ¬ Unambiguous (models.filter fun model => model.name ≤ name) := by
  refine ⟨?_, ?_, fun conflict refused => error_of_ofModels refused⟩
  · simp only [ofModels_eq_ok_iff, exists_and_left, exists_eq, and_true]
  · intro set accepted
    exact ⟨fun entity owner => ownerOfEntity?_eq_some_iff accepted,
      fun measure owner => ownerOfMeasure?_eq_some_iff accepted⟩

/-- Orders and returns both declare the revenue, and visits have two primary entities. -/
def storeModels : List SemanticModel := [
  { name := "visits", entities := [⟨"visit", .primary, "id"⟩, ⟨"session", .primary, "session_id"⟩] },
  { name := "returns", measures := [{ name := "revenue", aggregation := .sum }] },
  { name := "orders", measures := [{ name := "revenue", aggregation := .sum }] }]

/-- The clash of the lesser names is reported: without returns and visits the models are accepted,
with returns they are not. -/
theorem returns_clash_with_orders :
    ofModels storeModels = .error (.duplicateMeasure "revenue" "orders" "returns") ∧
      (∃ set, ofModels (storeModels.filter fun model => model.name < "returns") = .ok set) ∧
      ¬ ∃ set, ofModels (storeModels.filter fun model => model.name ≤ "returns") = .ok set := by
  have refused : ofModels storeModels =
      .error (.duplicateMeasure "revenue" "orders" "returns") := by decide +kernel
  obtain ⟨_, below, upTo⟩ :=
    ((accepts_exactly_unambiguous storeModels).2.2 _ refused).2 "returns" rfl
  refine ⟨refused, (accepts_exactly_unambiguous _).1.mpr below, fun accepted => upTo ?_⟩
  exact (accepts_exactly_unambiguous _).1.mp accepted

end ModelSet

end SemanticLayer
