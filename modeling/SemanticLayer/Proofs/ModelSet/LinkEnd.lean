import SemanticLayer.Proofs.ModelSet.Chain
namespace SemanticLayer

/-! The two ends of a link.

Each end is an entity that the model at that end declares, and both entities have one name. -/

/-- `model` keeps an entity called `entity` in `expression`. -/
def SemanticModel.DeclaresKey (model : SemanticModel) (entity expression : String) : Prop :=
  ∃ declared ∈ model.entities, declared.name = entity ∧ declared.expression = expression

namespace ModelSet

variable {set : ModelSet} {link : Link}

theorem exists_keys_of_mem_foreignLinks (member : link ∈ set.foreignLinks) :
    (∃ model ∈ set.models, model.name = link.source ∧
        model.DeclaresKey link.fromEntity link.fromExpression) ∧
      (∃ model ∈ set.models, model.name = link.target ∧
        model.DeclaresKey link.toEntity link.toExpression) ∧
      link.fromEntity = link.toEntity := by
  obtain ⟨model, modelMember, foreign, foreignMember, found⟩ := mem_foreignLinks_iff.mp member
  obtain ⟨owner, primary, owned, _, identified, rfl⟩ := foreignLink?_eq_some_iff.mp found
  have identifies : owner.identifies foreign.name :=
    List.find?_some (p := fun model : SemanticModel => model.identifies foreign.name) owned
  obtain ⟨key, declared, same⟩ := SemanticModel.identifies_iff.mp identifies
  rw [identified, Option.some.injEq] at declared
  subst declared
  exact ⟨⟨model, modelMember, rfl, foreign, List.mem_of_mem_filter foreignMember, rfl, rfl⟩,
    ⟨owner, List.mem_of_find?_eq_some owned, rfl, primary,
      List.mem_of_find?_eq_some identified, rfl, rfl⟩, same.symm⟩

theorem flip_mem_links (member : link ∈ set.links) : link.flip ∈ set.links := by
  obtain ⟨foreign, declared, rfl | rfl⟩ := mem_links_iff.mp member
  · exact mem_links_iff.mpr ⟨link, declared, .inr rfl⟩
  · exact mem_links_iff.mpr ⟨foreign, declared, .inl foreign.flip_flip⟩

theorem exists_source (member : link ∈ set.links) :
    ∃ model ∈ set.models, model.name = link.source ∧
      model.DeclaresKey link.fromEntity link.fromExpression := by
  obtain ⟨foreign, declared, rfl | rfl⟩ := mem_links_iff.mp member
  · exact (exists_keys_of_mem_foreignLinks declared).1
  · exact (exists_keys_of_mem_foreignLinks declared).2.1

theorem exists_target (member : link ∈ set.links) :
    ∃ model ∈ set.models, model.name = link.target ∧
      model.DeclaresKey link.toEntity link.toExpression :=
  exists_source (flip_mem_links member)

theorem fromEntity_eq_toEntity (member : link ∈ set.links) : link.fromEntity = link.toEntity := by
  obtain ⟨foreign, declared, rfl | rfl⟩ := mem_links_iff.mp member
  · exact (exists_keys_of_mem_foreignLinks declared).2.2
  · exact (exists_keys_of_mem_foreignLinks declared).2.2.symm

/-- A link equates a key of the model at the one end with a key of the model at the other. -/
theorem condition_of_mem_links (member : link ∈ set.links) :
    ∃ source ∈ set.models, ∃ target ∈ set.models, ∃ entity near far,
      source.DeclaresKey entity near ∧ target.DeclaresKey entity far ∧
        link.condition = source.name ++ "." ++ near ++ " = " ++ target.name ++ "." ++ far := by
  obtain ⟨source, sourceMember, sourceName, sourceKey⟩ := exists_source member
  obtain ⟨target, targetMember, targetName, targetKey⟩ := exists_target member
  rw [← fromEntity_eq_toEntity member] at targetKey
  refine ⟨source, sourceMember, target, targetMember, _, _, _, sourceKey, targetKey, ?_⟩
  rw [sourceName, targetName]
  rfl

end ModelSet

end SemanticLayer
