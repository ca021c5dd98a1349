import SemanticLayer.Proofs.Generation.MetricFields
import SemanticLayer.Proofs.Generation.Outcome
import SemanticLayer.Proofs.JoinGraph.EmissionOrder
import SemanticLayer.Proofs.ModelSet.LinkEnd
namespace SemanticLayer

/-! The columns behind a join condition.

A condition names two entities. Which columns it compares is up to the views: each has a dimension
for every entity that its model declares, so an entity that is declared twice is two dimensions of
one name. -/

open LookML

variable {project : Project} {options : Options} {output : Output} {set : ModelSet}
  {model : SemanticModel} {entity expression : String}

/-- The view of `model` has exactly one dimension called `entity`, and it reads `expression`. -/
def Output.ReadsKey (output : Output) (model entity expression : String) : Prop :=
  ∃ view ∈ output.views, view.model = model ∧
    (view.dimensions.filter fun field => field.name == entity).map DimensionField.sql =
      [columnSql expression]

instance (name : String) : Decidable (output.ReadsKey name entity expression) :=
  inferInstanceAs (Decidable (∃ view ∈ output.views, _))

def SemanticModel.DeclaresOnce (model : SemanticModel) (entity : String) : Prop :=
  (model.entities.filter fun declared => declared.name == entity).length = 1

instance : Decidable (model.DeclaresOnce entity) := inferInstanceAs (Decidable (_ = _))

/-- No dimension of a model is called like one of its entities. -/
def Project.KeysApart (project : Project) : Prop :=
  ∀ model ∈ project.models, ∀ entity ∈ model.entities, ∀ dimension ∈ model.dimensions,
    dimension.name ≠ entity.name

instance : Decidable project.KeysApart :=
  inferInstanceAs (Decidable (∀ model ∈ project.models, _))

theorem LookML.DimensionField.name_of_ofDimension? {dimension : Dimension} {field : DimensionField}
    (made : ofDimension? dimension = some field) : field.name = dimension.name := by
  unfold ofDimension? at made
  cases kind : dimension.kind with
  | time granularity => simp [kind] at made
  | categorical =>
      simp only [kind, Option.some.injEq] at made
      rw [← made]

theorem LookML.View.filter_dimensions_ofModel (naming : Naming) (schema : Option String)
    (apart : ∀ dimension ∈ model.dimensions, dimension.name ≠ entity) :
    ((View.ofModel naming schema model).dimensions.filter fun field => field.name == entity) =
      (model.entities.filter fun declared => declared.name == entity).map
        DimensionField.ofEntity := by
  have keys : (model.entities.map DimensionField.ofEntity).filter (fun field => field.name == entity) =
      (model.entities.filter fun declared => declared.name == entity).map
        DimensionField.ofEntity := by
    rw [List.filter_map]
    rfl
  have others : (model.dimensions.filterMap DimensionField.ofDimension?).filter
      (fun field => field.name == entity) = [] := by
    rw [List.filter_eq_nil_iff]
    intro field member same
    obtain ⟨dimension, dimensionMember, made⟩ := List.mem_filterMap.mp member
    rw [beq_iff_eq, DimensionField.name_of_ofDimension? made] at same
    exact apart dimension dimensionMember same
  rw [View.ofModel, List.filter_append, keys, others, List.append_nil]

namespace Generation

theorem readsKey_assemble_iff (accepted : ModelSet.ofModels project.models = .ok set)
    (apart : project.KeysApart) {resolved : List ResolvedMetric} {diagnostics : List MetricError}
    (member : model ∈ project.models) (declares : model.DeclaresKey entity expression) :
    (assemble set options resolved diagnostics).ReadsKey model.name entity expression ↔
      model.DeclaresOnce entity := by
  obtain ⟨key, keyMember, rfl, rfl⟩ := declares
  have selected : key ∈ model.entities.filter fun declared => declared.name == key.name :=
    List.mem_filter.mpr ⟨keyMember, beq_self_eq_true _⟩
  have dimensions := View.filter_dimensions_ofModel options.naming options.schema
    (apart model member key keyMember)
  constructor
  · intro reads
    obtain ⟨made, viewMember, named, columns⟩ := reads
    obtain ⟨other, otherMember, rfl⟩ := List.mem_map.mp viewMember
    rw [model_view] at named
    have same := ModelSet.eq_of_name_eq accepted ((ModelSet.mem_models_iff accepted).mp otherMember)
      member named
    subst same
    rw [dimensions_view, dimensions] at columns
    simpa [SemanticModel.DeclaresOnce] using congrArg List.length columns
  · intro once
    obtain ⟨only, single⟩ := List.length_eq_one_iff.mp once
    rw [single, List.mem_singleton] at selected
    refine ⟨view options resolved model,
      List.mem_map_of_mem ((ModelSet.mem_models_iff accepted).mpr member), model_view, ?_⟩
    rw [dimensions_view, dimensions, single, ← selected]
    rfl

end Generation

/-- The condition of a join names the entities of a link, and each of the two stands for exactly
the column of the link when the model at that end declares no second entity of the name. -/
theorem joins_compare_declared_keys (accepted : ModelSet.ofModels project.models = .ok set)
    (apart : project.KeysApart) (generated : generate project options = .ok output)
    {explore : Explore} (exploreMember : explore ∈ output.explores) {join : Join}
    (joinMember : join ∈ explore.joins) :
    ∃ base ∈ project.models, explore.baseView = options.naming.view base.name ∧
      ∃ entry ∈ (JoinGraph.build set base.name options.maxJoinHops).joins,
        join.view = options.naming.view entry.target ∧
        join.condition =
          reference (options.naming.view entry.link.source ++ "." ++ entry.link.fromEntity) ++ " = " ++
            reference (options.naming.view entry.link.target ++ "." ++ entry.link.toEntity) ∧
        (∃ source ∈ project.models, source.name = entry.link.source ∧
          (output.ReadsKey source.name entry.link.fromEntity entry.link.fromExpression ↔
            source.DeclaresOnce entry.link.fromEntity)) ∧
        ∃ target ∈ project.models, target.name = entry.link.target ∧
          (output.ReadsKey target.name entry.link.toEntity entry.link.toExpression ↔
            target.DeclaresOnce entry.link.toEntity) := by
  obtain ⟨made, madeAccepted, diagnostics, rfl⟩ := generate_eq_ok generated
  rw [accepted, Except.ok.injEq] at madeAccepted
  subst madeAccepted
  obtain ⟨base, baseSelected, rfl⟩ := List.mem_map.mp exploreMember
  have baseMember := (ModelSet.mem_models_iff accepted).mp (List.mem_of_mem_filter baseSelected)
  obtain ⟨entry, entryMember, rfl⟩ := List.mem_map.mp joinMember
  have link := JoinGraph.link_mem_links entryMember
  obtain ⟨source, sourceMember, sourceName, sourceKey⟩ := ModelSet.exists_source link
  obtain ⟨target, targetMember, targetName, targetKey⟩ := ModelSet.exists_target link
  rw [ModelSet.mem_models_iff accepted] at sourceMember targetMember
  exact ⟨base, baseMember, rfl, entry, entryMember, rfl, rfl,
    ⟨source, sourceMember, sourceName,
      Generation.readsKey_assemble_iff accepted apart sourceMember sourceKey⟩,
    target, targetMember, targetName,
    Generation.readsKey_assemble_iff accepted apart targetMember targetKey⟩

/-- Orders are joined to their customers by the columns that the two models name. -/
theorem shop_orders_read_customers :
    ∃ output, generate Project.shop {} = .ok output ∧ ∃ explore ∈ output.explores,
      explore.baseView = "orders" ∧ ∃ join ∈ explore.joins, join.view = "customers" ∧
        output.ReadsKey "orders" "customer" "customer_id" ∧
        output.ReadsKey "customers" "customer" "id" := by
  have accepted : ModelSet.ofModels Project.shop.models =
      .ok ⟨Order.sortedOn SemanticModel.name Project.shop.models⟩ := by decide +kernel
  obtain ⟨output, generated, made⟩ := Attempt.exists_ok_of_any (generate Project.shop {})
    (fun output => output.explores.any fun explore => explore.baseView == "orders" &&
      explore.joins.any fun join => join.view == "customers")
    (by decide +kernel)
  simp only [List.any_eq_true, Bool.and_eq_true, beq_iff_eq] at made
  obtain ⟨explore, exploreMember, based, join, joinMember, joined⟩ := made
  obtain ⟨base, _, baseView, entry, entryMember, view, _, ⟨source, sourceMember, sourceName, near⟩,
    target, targetMember, targetName, far⟩ :=
    joins_compare_declared_keys accepted (by decide) generated exploreMember joinMember
  have baseName : base.name = "orders" := by simpa [Naming.view, based] using baseView.symm
  have targetOfEntry : entry.target = "customers" := by
    simpa [Naming.view, joined] using view.symm
  have linked : ∀ entry ∈ (JoinGraph.build
      ⟨Order.sortedOn SemanticModel.name Project.shop.models⟩ "orders" none).joins,
      entry.target = "customers" → entry.link =
        ⟨"orders", "customer", "customer_id", "customers", "customer", "id", .manyToOne⟩ := by
    decide +kernel
  rw [baseName] at entryMember
  rw [linked entry entryMember targetOfEntry] at sourceName near targetName far
  have once : ∀ model ∈ Project.shop.models, model.name = "orders" ∨ model.name = "customers" →
      model.DeclaresOnce "customer" := by decide
  rw [sourceName] at near
  rw [targetName] at far
  exact ⟨output, generated, explore, exploreMember, based, join, joinMember, joined,
    near.mpr (once source sourceMember (.inl sourceName)),
    far.mpr (once target targetMember (.inr targetName))⟩

/-- Employees with the employees they report to, and the sales that they make. -/
def Project.staff : Project :=
  { models := [
      { name := "employees"
        entities := [⟨"employee", .primary, "id"⟩, ⟨"employee", .foreign, "manager_id"⟩] },
      { name := "sales"
        entities := [⟨"sale", .primary, "id"⟩, ⟨"employee", .foreign, "seller_id"⟩] }] }

/-- Sales are joined to the key of employees, but their view has two dimensions of that name. -/
theorem employee_key_ambiguous :
    ∃ output, Project.staff.KeysApart ∧ generate Project.staff {} = .ok output ∧
      ∃ set, ModelSet.ofModels Project.staff.models = .ok set ∧
      ∃ explore ∈ output.explores, explore.baseView = "employees" ∧ ∃ join ∈ explore.joins,
        ∃ entry ∈ (JoinGraph.build set "employees" none).joins, join.view = entry.target ∧
          ¬ output.ReadsKey entry.link.source entry.link.fromEntity entry.link.fromExpression := by
  have accepted : ModelSet.ofModels Project.staff.models =
      .ok ⟨Order.sortedOn SemanticModel.name Project.staff.models⟩ := by decide +kernel
  obtain ⟨output, generated, made⟩ := Attempt.exists_ok_of_any (generate Project.staff {})
    (fun output => output.explores.any fun explore => explore.baseView == "employees" &&
      explore.joins.any fun join => (JoinGraph.build
        ⟨Order.sortedOn SemanticModel.name Project.staff.models⟩ "employees" none).joins.any
          fun entry => join.view == entry.target && !output.ReadsKey entry.link.source
            entry.link.fromEntity entry.link.fromExpression)
    (by decide +kernel)
  simp only [List.any_eq_true, Bool.and_eq_true, beq_iff_eq, Bool.not_eq_true',
    decide_eq_false_iff_not] at made
  exact ⟨output, by decide, generated, _, accepted, made⟩

end SemanticLayer
