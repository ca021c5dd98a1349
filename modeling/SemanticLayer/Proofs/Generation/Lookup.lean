import SemanticLayer.Proofs.Generation.Closure
namespace SemanticLayer

/-! Looking up what an explore names.

An explore names views, measures and entities, and a reader who knows the output and the models
looks them up one by one: the view under its name, from there the model, and in the model the rest. -/

open SemanticLayer.Order LookML

variable {project : Project} {options : Options} {output : Output} {set : ModelSet}
  {model : SemanticModel} {name : String}

namespace Output.Closed

theorem view?_eq_some_iff (closed : output.Closed) {view : View} :
    output.view? name = some view ↔ view ∈ output.views ∧ view.name = name :=
  find?_key_eq_some_iff closed.views

theorem explore?_eq_some_iff (closed : output.Closed) {explore : Explore} :
    output.explore? name = some explore ↔ explore ∈ output.explores ∧ explore.name = name :=
  find?_key_eq_some_iff closed.explores

end Output.Closed

theorem Output.closed_of_generated (generated : generate project options = .ok output) :
    output.Closed := by
  obtain ⟨set, accepted, diagnostics, rfl⟩ := generate_eq_ok generated
  exact Generation.assemble_closed accepted

theorem SemanticModel.exists_entity?_iff :
    (∃ entity, model.entity? name = some entity) ↔ ∃ declared ∈ model.entities, declared.name = name := by
  rw [← Option.isSome_iff_exists, entity?, List.find?_isSome]
  simp only [beq_iff_eq]

/-- The view called `name` is that of `model`. -/
def Output.Shows (output : Output) (set : ModelSet) (name : String) (model : SemanticModel) : Prop :=
  ∃ view, output.view? name = some view ∧ set.model? view.model = some model

/-- The view called `name` is that of a model with such an entity. -/
def Output.ShowsEntity (output : Output) (set : ModelSet) (name entity : String) : Prop :=
  ∃ model, output.Shows set name model ∧ ∃ declared, model.entity? entity = some declared

/-- Whatever the explore names is found under its name. -/
structure Output.Resolves (output : Output) (set : ModelSet) (explore : Explore) : Prop where
  itself : output.explore? explore.name = some explore
  base : ∃ model, output.Shows set explore.baseView model
  exposed : ∀ join ∈ explore.joins, ∃ model, output.Shows set join.view model ∧
    ∀ field ∈ join.fields.tail, ∃ measure declared, model.measure? measure = some declared ∧
      field = join.view ++ "." ++ measure
  compared : ∀ join ∈ explore.joins, ∃ near nearEntity far farEntity,
    join.condition =
        reference (near ++ "." ++ nearEntity) ++ " = " ++ reference (far ++ "." ++ farEntity) ∧
      output.ShowsEntity set near nearEntity ∧ output.ShowsEntity set far farEntity

namespace Generation

variable {diagnostics : List MetricError}

theorem shows_view (accepted : ModelSet.ofModels project.models = .ok set)
    (member : model ∈ set.models) :
    (assemble set options (resolvedMetrics set (.ofMetrics project.metrics) options)
      diagnostics).Shows set (options.naming.view model.name) model := by
  refine ⟨_, (assemble_closed accepted).view?_eq_some_iff.mpr ⟨List.mem_map_of_mem member, name_view⟩, ?_⟩
  rw [model_view]
  exact (ModelSet.model?_eq_some_iff accepted).mpr ⟨(ModelSet.mem_models_iff accepted).mp member, rfl⟩

theorem showsEntity_of_declaresKey (accepted : ModelSet.ofModels project.models = .ok set)
    (member : model ∈ set.models) {entity expression : String}
    (declares : model.DeclaresKey entity expression) :
    (assemble set options (resolvedMetrics set (.ofMetrics project.metrics) options)
      diagnostics).ShowsEntity set (options.naming.view model.name) entity := by
  obtain ⟨declared, declaredMember, named, _⟩ := declares
  exact ⟨model, shows_view accepted member,
    SemanticModel.exists_entity?_iff.mpr ⟨declared, declaredMember, named⟩⟩

end Generation

theorem explores_resolve (accepted : ModelSet.ofModels project.models = .ok set)
    (generated : generate project options = .ok output) :
    ∀ explore ∈ output.explores, output.Resolves set explore := by
  have closed := Output.closed_of_generated generated
  obtain ⟨made, madeAccepted, diagnostics, rfl⟩ := generate_eq_ok generated
  rw [accepted, Except.ok.injEq] at madeAccepted
  subst madeAccepted
  intro explore member
  constructor
  case itself => exact closed.explore?_eq_some_iff.mpr ⟨member, rfl⟩
  case base =>
    obtain ⟨base, selected, rfl⟩ := List.mem_map.mp member
    exact ⟨base, Generation.shows_view accepted (List.mem_of_mem_filter selected)⟩
  case exposed =>
    intro join joinMember
    obtain ⟨view, viewMember, named, fields⟩ := closed.joined explore member join joinMember
    obtain ⟨model, modelMember, rfl⟩ := List.mem_map.mp viewMember
    rw [← named]
    refine ⟨model, ?_, fun field exposed => ?_⟩
    · rw [Generation.name_view]
      exact Generation.shows_view accepted modelMember
    · obtain ⟨written, writtenMember, rfl⟩ := fields field exposed
      rw [Generation.measures_view] at writtenMember
      obtain ⟨measure, measureMember, rfl⟩ := List.mem_map.mp writtenMember
      have owner := (ModelSet.mem_models_iff accepted).mp modelMember
      exact ⟨measure.name, measure,
        (ModelSet.measure?_eq_some_iff accepted owner).mpr ⟨measureMember, rfl⟩, rfl⟩
  case compared =>
    intro join joinMember
    obtain ⟨base, _, rfl⟩ := List.mem_map.mp member
    obtain ⟨entry, entryMember, rfl⟩ := List.mem_map.mp joinMember
    have link := JoinGraph.link_mem_links entryMember
    obtain ⟨source, sourceMember, sourceName, sourceKey⟩ := ModelSet.exists_source link
    obtain ⟨target, targetMember, targetName, targetKey⟩ := ModelSet.exists_target link
    refine ⟨_, _, _, _, rfl, ?_, ?_⟩
    · rw [← sourceName]
      exact Generation.showsEntity_of_declaresKey accepted sourceMember sourceKey
    · rw [← targetName]
      exact Generation.showsEntity_of_declaresKey accepted targetMember targetKey

end SemanticLayer
