import Mathlib.Data.List.Pairwise
import SemanticLayer.ModelSet
import SemanticLayer.Proofs.Order.Lookup
namespace SemanticLayer

/-! What acceptance of a list of models means.

`ModelSet.ofModels_eq_ok_iff` says which lists are accepted. In an accepted set a name, a
primary entity and a measure each belong to one model, so the three lookups answer with
the model that declares what is asked for. -/

namespace SemanticModel

/-- A model that is in order by itself. -/
structure Consistent (model : SemanticModel) : Prop where
  primary : model.primaryEntities.length ≤ 1
  measures : (model.measures.map Measure.name).Nodup

/-- Two models that share neither their primary entity nor a measure. -/
structure Compatible (first second : SemanticModel) : Prop where
  entities : ∀ entity, first.identifies entity → ¬ second.identifies entity
  measures : ∀ measure, first.declaresMeasure measure → ¬ second.declaresMeasure measure

instance : Std.Symm Compatible where
  symm _ _ compatible :=
    ⟨fun entity second first => compatible.entities entity first second,
      fun measure second first => compatible.measures measure first second⟩

theorem identifies_iff {model : SemanticModel} {entity : String} :
    model.identifies entity ↔ ∃ primary, model.primaryEntity? = some primary ∧ primary.name = entity := by
  simp [identifies, Option.any_eq_true]

theorem declaresMeasure_iff {model : SemanticModel} {measure : String} :
    model.declaresMeasure measure ↔ ∃ declared ∈ model.measures, declared.name = measure := by
  simp [declaresMeasure]

end SemanticModel

namespace ModelConflict

variable {earlier models : List SemanticModel} {model : SemanticModel}

theorem repeatedName?_eq_none_iff {earlier : List String} :
    repeatedName? earlier models = none ↔
      (∀ model ∈ models, model.name ∉ earlier) ∧ (models.map SemanticModel.name).Nodup := by
  induction models generalizing earlier with
  | nil => simp [repeatedName?]
  | cons model rest ih =>
      by_cases known : model.name ∈ earlier
      · simp [repeatedName?, known]
      · simp only [repeatedName?, known, if_false, ih, List.mem_cons, not_or, List.map_cons,
          List.nodup_cons, List.mem_map, not_exists, not_and]
        constructor
        · intro clear
          obtain ⟨fresh, distinct⟩ := clear
          refine ⟨?_, fun other member => (fresh other member).1, distinct⟩
          intro other member
          rcases member with rfl | later
          · exact known
          · exact (fresh other later).2
        · intro clear
          obtain ⟨fresh, different, distinct⟩ := clear
          exact ⟨fun other member => ⟨different other member, fresh other (.inr member)⟩, distinct⟩

theorem repeatedMeasure?_eq_none_iff {owner : String} {before : List String}
    {measures : List Measure} :
    repeatedMeasure? earlier owner before measures = none ↔
      (∀ measure ∈ measures, ∀ model ∈ earlier, ¬ model.declaresMeasure measure.name) ∧
        (∀ measure ∈ measures, measure.name ∉ before) ∧ (measures.map Measure.name).Nodup := by
  induction measures generalizing before with
  | nil => simp [repeatedMeasure?]
  | cons measure rest ih =>
      unfold repeatedMeasure?
      cases declared : earlier.find? fun model => model.declaresMeasure measure.name with
      | some first =>
          have declares := List.find?_some declared
          have member := List.mem_of_find?_eq_some declared
          simp only [reduceCtorEq, false_iff]
          exact fun ⟨undeclared, _⟩ => undeclared measure (List.mem_cons_self ..) first member declares
      | none =>
          have undeclared : ∀ model ∈ earlier, ¬ model.declaresMeasure measure.name :=
            List.find?_eq_none.mp declared
          by_cases known : measure.name ∈ before
          · simp [known]
          · simp only [known, if_false, ih, List.mem_cons, not_or, List.map_cons, List.nodup_cons,
              List.mem_map, not_exists, not_and]
            constructor
            · intro clear
              obtain ⟨foreign, fresh, distinct⟩ := clear
              refine ⟨?_, ?_, fun other member => (fresh other member).1, distinct⟩
              · intro other member
                rcases member with rfl | later
                · exact undeclared
                · exact foreign other later
              · intro other member
                rcases member with rfl | later
                · exact known
                · exact (fresh other later).2
            · intro clear
              obtain ⟨foreign, fresh, different, distinct⟩ := clear
              exact ⟨fun other member => foreign other (.inr member),
                fun other member => ⟨different other member, fresh other (.inr member)⟩, distinct⟩

theorem ofModel?_eq_none_iff :
    ofModel? earlier model = none ↔
      model.Consistent ∧ ∀ first ∈ earlier, first.Compatible model := by
  by_cases several : 1 < model.primaryEntities.length
  · simp only [ofModel?, several, if_true, reduceCtorEq, false_iff]
    intro sound
    have single := sound.1.primary
    omega
  · have sharedEntity :
        (model.primaryEntity?.bind fun primary =>
          (earlier.find? fun first => first.identifies primary.name).map fun first =>
            ModelConflict.duplicatePrimaryEntity primary.name first.name model.name) = none ↔
          ∀ first ∈ earlier, ∀ entity, first.identifies entity → ¬ model.identifies entity := by
      cases found : model.primaryEntity? with
      | none => simp [SemanticModel.identifies_iff, found]
      | some primary =>
          simp only [Option.bind_some, Option.map_eq_none_iff, List.find?_eq_none]
          constructor
          · intro foreign first member entity firstIdentifies identifies
            obtain ⟨other, same, rfl⟩ := SemanticModel.identifies_iff.mp identifies
            rw [found, Option.some.injEq] at same
            subst same
            exact foreign first member firstIdentifies
          · intro foreign first member firstIdentifies
            exact foreign first member primary.name firstIdentifies
              (SemanticModel.identifies_iff.mpr ⟨primary, found, rfl⟩)
    simp only [ofModel?, several, if_false, Option.orElse_eq_or, Option.or_eq_none_iff, sharedEntity,
      repeatedMeasure?_eq_none_iff]
    constructor
    · intro clear
      obtain ⟨entities, foreign, _, distinct⟩ := clear
      refine ⟨⟨by omega, distinct⟩, fun first member => ⟨entities first member, ?_⟩⟩
      intro measure firstDeclares declares
      obtain ⟨declared, declaredMember, rfl⟩ := SemanticModel.declaresMeasure_iff.mp declares
      exact foreign declared declaredMember first member firstDeclares
    · intro sound
      obtain ⟨consistent, compatible⟩ := sound
      refine ⟨fun first member => (compatible first member).entities, ?_, by simp,
        consistent.measures⟩
      intro measure declared first member firstDeclares
      exact (compatible first member).measures measure.name firstDeclares
        (SemanticModel.declaresMeasure_iff.mpr ⟨measure, declared, rfl⟩)

theorem first?_eq_none_iff :
    first? earlier models = none ↔
      (∀ model ∈ models, model.Consistent) ∧
        (∀ first ∈ earlier, ∀ second ∈ models, first.Compatible second) ∧
        models.Pairwise SemanticModel.Compatible := by
  induction models generalizing earlier with
  | nil => simp [first?]
  | cons model rest ih =>
      simp only [first?, Option.orElse_eq_or, Option.or_eq_none_iff, ofModel?_eq_none_iff, ih,
        List.mem_append, List.mem_cons, List.not_mem_nil, or_false, List.pairwise_cons]
      constructor
      · intro sound
        obtain ⟨⟨own, before⟩, consistent, compatible, pairwise⟩ := sound
        refine ⟨?_, ?_, fun second member => compatible model (.inr rfl) second member, pairwise⟩
        · intro other member
          rcases member with rfl | later
          · exact own
          · exact consistent other later
        · intro first firstMember second member
          rcases member with rfl | later
          · exact before first firstMember
          · exact compatible first (.inl firstMember) second later
      · intro sound
        obtain ⟨consistent, compatible, later, pairwise⟩ := sound
        refine ⟨⟨consistent model (.inl rfl), fun first member => compatible first member model (.inl rfl)⟩,
          fun other member => consistent other (.inr member), ?_, pairwise⟩
        intro first firstMember second member
        rcases firstMember with earlierMember | rfl
        · exact compatible first earlierMember second (.inr member)
        · exact later second member

end ModelConflict

namespace ModelSet

variable {models : List SemanticModel} {set : ModelSet} {owner : SemanticModel}

/-- Models that can be told apart by their names, their primary entities and their
measures. -/
structure Unambiguous (models : List SemanticModel) : Prop where
  names : (models.map SemanticModel.name).Nodup
  consistent : ∀ model ∈ models, model.Consistent
  compatible : models.Pairwise SemanticModel.Compatible

/-- The order in which the models are declared plays no part. -/
theorem Unambiguous.perm_iff {first second : List SemanticModel} (same : first.Perm second) :
    Unambiguous first ↔ Unambiguous second := by
  have names := (same.map SemanticModel.name).nodup_iff
  have consistent : (∀ model ∈ first, model.Consistent) ↔ ∀ model ∈ second, model.Consistent := by
    simp only [same.mem_iff]
  have compatible := same.pairwise_iff (R := SemanticModel.Compatible) (Std.Symm.symm _ _)
  exact ⟨fun ⟨a, b, c⟩ => ⟨names.mp a, consistent.mp b, compatible.mp c⟩,
    fun ⟨a, b, c⟩ => ⟨names.mpr a, consistent.mpr b, compatible.mpr c⟩⟩

theorem ofModels_eq_ok_iff :
    ofModels models = .ok set ↔
      Unambiguous models ∧ set = ⟨Order.sortedOn SemanticModel.name models⟩ := by
  have sorted : (Order.sortedOn SemanticModel.name models).Perm models := Order.sorted_perm _ _
  unfold ofModels
  cases repeated : ModelConflict.repeatedName? [] models with
  | some conflict =>
      simp only [reduceCtorEq, false_iff, not_and]
      intro unambiguous
      have fresh : ModelConflict.repeatedName? [] models = none :=
        ModelConflict.repeatedName?_eq_none_iff.mpr ⟨by simp, unambiguous.names⟩
      rw [repeated] at fresh
      cases fresh
  | none =>
      have names := (ModelConflict.repeatedName?_eq_none_iff.mp repeated).2
      cases clash : ModelConflict.first? [] (Order.sortedOn SemanticModel.name models) with
      | some conflict =>
          simp only [clash, reduceCtorEq, false_iff, not_and]
          intro unambiguous
          have ascending := (Unambiguous.perm_iff sorted).mpr unambiguous
          have clear : ModelConflict.first? [] (Order.sortedOn SemanticModel.name models) = none :=
            ModelConflict.first?_eq_none_iff.mpr ⟨ascending.consistent, by simp, ascending.compatible⟩
          rw [clash] at clear
          cases clear
      | none =>
          obtain ⟨consistent, _, compatible⟩ := ModelConflict.first?_eq_none_iff.mp clash
          have ascending : Unambiguous (Order.sortedOn SemanticModel.name models) :=
            ⟨(sorted.map SemanticModel.name).nodup_iff.mpr names, consistent, compatible⟩
          simp only [clash, Except.ok.injEq, (Unambiguous.perm_iff sorted).mp ascending, true_and]
          exact eq_comm

section Accepted

variable (accepted : ofModels models = .ok set)
include accepted

theorem unambiguous_of_accepted : Unambiguous models := (ofModels_eq_ok_iff.mp accepted).1

theorem models_perm : set.models.Perm models := by
  rw [(ofModels_eq_ok_iff.mp accepted).2]
  exact Order.sorted_perm _ _

theorem mem_models_iff {model : SemanticModel} : model ∈ set.models ↔ model ∈ models :=
  (models_perm accepted).mem_iff

theorem names_nodup : (set.models.map SemanticModel.name).Nodup :=
  ((models_perm accepted).map _).nodup_iff.mpr (unambiguous_of_accepted accepted).names

theorem eq_of_name_eq {first second : SemanticModel} (firstMember : first ∈ models)
    (secondMember : second ∈ models) (same : first.name = second.name) : first = second :=
  List.inj_on_of_nodup_map (unambiguous_of_accepted accepted).names firstMember secondMember same

theorem compatible_of_ne {first second : SemanticModel} (firstMember : first ∈ models)
    (secondMember : second ∈ models) (different : first ≠ second) : first.Compatible second :=
  (unambiguous_of_accepted accepted).compatible.forall firstMember secondMember different

theorem model?_eq_some_iff {model : SemanticModel} {name : String} :
    set.model? name = some model ↔ model ∈ models ∧ model.name = name := by
  rw [← mem_models_iff accepted]
  exact Order.find?_key_eq_some_iff (names_nodup accepted)

theorem measure?_eq_some_iff {model : SemanticModel} (member : model ∈ models) {name : String}
    {measure : Measure} :
    model.measure? name = some measure ↔ measure ∈ model.measures ∧ measure.name = name :=
  Order.find?_key_eq_some_iff ((unambiguous_of_accepted accepted).consistent model member).measures

/-- The owner of a measure is the one model that declares it. -/
theorem ownerOfMeasure?_eq_some_iff {measure : String} :
    set.ownerOfMeasure? measure = some owner ↔ owner ∈ models ∧ owner.declaresMeasure measure := by
  unfold ownerOfMeasure?
  rw [Order.find?_eq_some_iff_mem, mem_models_iff accepted]
  intro first firstMember second secondMember firstDeclares secondDeclares
  rw [mem_models_iff accepted] at firstMember secondMember
  by_contra different
  exact (compatible_of_ne accepted firstMember secondMember different).measures measure
    firstDeclares secondDeclares

/-- The owner of an entity is the one model that declares it as its primary entity. -/
theorem ownerOfEntity?_eq_some_iff {entity : String} :
    set.ownerOfEntity? entity = some owner ↔ owner ∈ models ∧ owner.identifies entity := by
  unfold ownerOfEntity?
  rw [Order.find?_eq_some_iff_mem, mem_models_iff accepted]
  intro first firstMember second secondMember firstIdentifies secondIdentifies
  rw [mem_models_iff accepted] at firstMember secondMember
  by_contra different
  exact (compatible_of_ne accepted firstMember secondMember different).entities entity
    firstIdentifies secondIdentifies

theorem ownerOfMeasure?_eq_none_iff {measure : String} :
    set.ownerOfMeasure? measure = none ↔ ∀ model ∈ models, ¬ model.declaresMeasure measure := by
  simp only [ownerOfMeasure?, List.find?_eq_none, mem_models_iff accepted]

theorem ownerOfEntity?_eq_none_iff {entity : String} :
    set.ownerOfEntity? entity = none ↔ ∀ model ∈ models, ¬ model.identifies entity := by
  simp only [ownerOfEntity?, List.find?_eq_none, mem_models_iff accepted]

/-- The entity by which a model is identified leads back to the model. -/
theorem ownerOfEntity?_of_primary {primary : Entity} (member : owner ∈ models)
    (isPrimary : owner.primaryEntity? = some primary) :
    set.ownerOfEntity? primary.name = some owner :=
  (ownerOfEntity?_eq_some_iff accepted).mpr
    ⟨member, SemanticModel.identifies_iff.mpr ⟨primary, isPrimary, rfl⟩⟩

end Accepted

end ModelSet

end SemanticLayer
