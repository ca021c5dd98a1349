import SemanticLayer.Proofs.Source.Record
import SemanticLayer.Source.Reading
namespace SemanticLayer.Source

/-! All records of a text together.

A project is made of all records or of none. It has what they declare, in their order, and otherwise the
first of their faults is what loading ends with. -/

section Outcomes

variable {ε : Type u} {α : Type v} {β γ : Type w} {action : α → Except ε β} {pick : β → Option γ}
  {test : α → Bool} {relation : α → γ → Prop} {items : List α} {values : List β}

/-- What is picked out of the outcomes belongs to the items that pass the test, in their order. -/
theorem forall₂_filter_of_mapM
    (kept : ∀ item value, action item = .ok value → test item →
      ∃ found, pick value = some found ∧ relation item found)
    (dropped : ∀ item value, action item = .ok value → test item = false → pick value = none)
    (mapped : items.mapM action = .ok values) :
    List.Forall₂ relation (items.filter test) (values.filterMap pick) := by
  rw [Attempt.mapM_eq_ok_iff] at mapped
  induction mapped with
  | nil => exact .nil
  | @cons item value items values converted _ ih =>
      cases passes : test item with
      | true =>
          obtain ⟨found, picked, related⟩ := kept item value converted passes
          rw [List.filter_cons_of_pos passes, List.filterMap_cons_some picked]
          exact .cons related ih
      | false =>
          rw [List.filter_cons_of_neg (by simp [passes]),
            List.filterMap_cons_none (dropped item value converted passes)]
          exact ih

end Outcomes

namespace ModelRecord

variable {record : ModelRecord} {model : SemanticModel}

structure Declares (record : ModelRecord) (model : SemanticModel) : Prop where
  name : model.name = record.name
  relation : model.relation = record.relation.map relationName
  description : model.description = record.description
  entities : List.Forall₂ EntityRecord.Declares (record.entities.filter EntityRecord.formsJoins)
    model.entities
  skipped : ∀ entity ∈ record.entities, entity.formsJoins = false → entity.IsSkipped
  dimensions : List.Forall₂ DimensionRecord.Declares record.dimensions model.dimensions
  measures : List.Forall₂ MeasureRecord.Declares record.measures model.measures

/-- The errors of all parts: entities, then dimensions, then measures. -/
def faults (record : ModelRecord) : List RecordError :=
  let owner := Owner.model record.name
  record.entities.filterMap (fun entity => Attempt.error? (entity.convert owner)) ++
    (record.dimensions.filterMap (fun dimension => Attempt.error? (dimension.convert owner)) ++
      record.measures.filterMap fun measure => Attempt.error? (measure.convert owner))

theorem declares_of_convert (converted : record.convert = .ok model) : record.Declares model := by
  obtain ⟨entities, entitiesConverted, rest⟩ := Attempt.bind_eq_ok_iff.mp converted
  obtain ⟨dimensions, dimensionsConverted, rest⟩ := Attempt.bind_eq_ok_iff.mp rest
  obtain ⟨measures, measuresConverted, rest⟩ := Attempt.bind_eq_ok_iff.mp rest
  cases rest
  refine ⟨rfl, rfl, rfl, ?_, ?_, ?_, ?_⟩
  · apply forall₂_filter_of_mapM ?_ ?_ entitiesConverted
    · intro entity outcome converted joins
      simpa [joins] using EntityRecord.convert_cases converted
    · intro entity outcome converted apart
      have skipped := EntityRecord.convert_cases converted
      rw [if_neg (by simp [apart])] at skipped
      exact skipped.1
  · intro entity member apart
    obtain ⟨outcome, _, converted⟩ :=
      Attempt.exists_of_forall₂_left (Attempt.mapM_eq_ok_iff.mp entitiesConverted) member
    have skipped := EntityRecord.convert_cases converted
    rw [if_neg (by simp [apart])] at skipped
    exact skipped.2
  · exact (Attempt.mapM_eq_ok_iff.mp dimensionsConverted).imp
      fun _ _ converted => DimensionRecord.declares_of_convert converted
  · exact (Attempt.mapM_eq_ok_iff.mp measuresConverted).imp
      fun _ _ converted => MeasureRecord.declares_of_convert converted

theorem error?_convert (record : ModelRecord) :
    Attempt.error? record.convert = record.faults.head? := by
  unfold convert faults
  rw [List.head?_append, List.head?_append, ← Attempt.error?_mapM, ← Attempt.error?_mapM,
    ← Attempt.error?_mapM]
  apply Attempt.error?_bind_eq_or
  intro entities
  apply Attempt.error?_bind_eq_or
  intro dimensions
  exact Attempt.error?_bind fun measures => ⟨_, rfl⟩

end ModelRecord

namespace Declarations

variable {declarations : Declarations} {project : Project}

structure Declares (declarations : Declarations) (project : Project) : Prop where
  models : List.Forall₂ ModelRecord.Declares declarations.models project.models
  metrics : List.Forall₂ MetricRecord.Declares (declarations.metrics.filter MetricRecord.isSupported)
    project.metrics
  rejected : List.Forall₂ MetricRecord.Rejects
    (declarations.metrics.filter fun record => !record.isSupported) project.rejected

/-- The errors of all records: models come before metrics. -/
def faults (declarations : Declarations) : List RecordError :=
  declarations.models.flatMap ModelRecord.faults ++
    declarations.metrics.filterMap fun record => Attempt.error? record.convert

theorem declares_of_toProject (converted : declarations.toProject = .ok project) :
    declarations.Declares project := by
  obtain ⟨models, modelsConverted, rest⟩ := Attempt.bind_eq_ok_iff.mp converted
  obtain ⟨outcomes, metricsConverted, rest⟩ := Attempt.bind_eq_ok_iff.mp rest
  cases rest
  refine ⟨?_, ?_, ?_⟩
  · exact (Attempt.mapM_eq_ok_iff.mp modelsConverted).imp
      fun _ _ converted => ModelRecord.declares_of_convert converted
  · apply forall₂_filter_of_mapM ?_ ?_ metricsConverted
    · intro record outcome converted supported
      obtain ⟨metric, rfl, declared⟩ := by simpa [supported] using MetricRecord.convert_cases converted
      exact ⟨metric, rfl, declared⟩
    · intro record outcome converted apart
      obtain ⟨error, rfl, _⟩ := by simpa [apart] using MetricRecord.convert_cases converted
      rfl
  · apply forall₂_filter_of_mapM ?_ ?_ metricsConverted
    · intro record outcome converted apart
      rw [Bool.not_eq_true'] at apart
      obtain ⟨error, rfl, rejects⟩ := by simpa [apart] using MetricRecord.convert_cases converted
      exact ⟨error, rfl, rejects⟩
    · intro record outcome converted supported
      rw [Bool.not_eq_false'] at supported
      obtain ⟨metric, rfl, _⟩ := by simpa [supported] using MetricRecord.convert_cases converted
      rfl

theorem error?_toProject (declarations : Declarations) :
    Attempt.error? declarations.toProject = declarations.faults.head? := by
  have models : Attempt.error? (declarations.models.mapM ModelRecord.convert) =
      (declarations.models.flatMap ModelRecord.faults).head? := by
    rw [Attempt.error?_mapM, List.head?_filterMap, List.head?_flatMap]
    exact congrArg (List.findSome? · _) (funext ModelRecord.error?_convert)
  unfold toProject faults
  rw [List.head?_append, ← models, ← Attempt.error?_mapM]
  apply Attempt.error?_bind_eq_or
  intro models
  exact Attempt.error?_bind fun outcomes => ⟨_, rfl⟩

theorem exists_toProject_iff :
    (∃ project, declarations.toProject = .ok project) ↔
      (∀ record ∈ declarations.models, ∃ model, record.convert = .ok model) ∧
        ∀ record ∈ declarations.metrics, ∃ outcome, record.convert = .ok outcome := by
  rw [← Attempt.error?_eq_none_iff, error?_toProject, List.head?_eq_none_iff, faults,
    List.append_eq_nil_iff, List.flatMap_eq_nil_iff, List.filterMap_eq_nil_iff]
  simp only [← List.head?_eq_none_iff, ← ModelRecord.error?_convert, Attempt.error?_eq_none_iff]

theorem Declares.length_add_length (declares : declarations.Declares project) :
    project.metrics.length + project.rejected.length = declarations.metrics.length := by
  rw [← declares.metrics.length_eq, ← declares.rejected.length_eq, ← List.length_append]
  exact (List.filter_append_perm _ _).length_eq

/-- Either every record converts, and the project has one model for each record of a model and one
metric or one rejection for each record of a metric, in their order; or loading ends with the error of
the first record that does not convert. -/
theorem loaded_whole_or_first_fault (declarations : Declarations) :
    ((∃ project, declarations.toProject = .ok project) ↔
      (∀ record ∈ declarations.models, ∃ model, record.convert = .ok model) ∧
        ∀ record ∈ declarations.metrics, ∃ outcome, record.convert = .ok outcome) ∧
    (∀ project, declarations.toProject = .ok project → declarations.Declares project ∧
      project.metrics.length + project.rejected.length = declarations.metrics.length) ∧
    (∀ error, declarations.toProject = .error error ↔ declarations.faults.head? = some error) ∧
    ∀ file text, ofYaml text = .ok declarations → ¬ text.toList.all Text.isBlank →
      Project.ofText file text = declarations.toProject.mapError .record := by
  refine ⟨exists_toProject_iff, fun project converted => ?_, fun error => ?_,
    fun file text decoded written => ?_⟩
  · have declares := declares_of_toProject converted
    exact ⟨declares, declares.length_add_length⟩
  · rw [← error?_toProject, Attempt.error?_eq_some_iff]
  · unfold Project.ofText
    rw [if_neg written, decoded]

/-- A metric without a type, a dimension of an unknown type and a measure without an aggregation. -/
def stockText : String :=
  "metrics:\n- name: growth\nsemantic_models:\n- name: shops\n" ++
    "  measures:\n  - name: sales\n  dimensions:\n  - name: opened\n    type: Date\n"

def stock : Declarations :=
  { models := [
      { name := "shops"
        dimensions := [{ name := "opened", type := some "Date" }]
        measures := [{ name := "sales" }] }]
    metrics := [{ name := "growth" }] }

/-- The model comes before the metric and its dimensions before its measures. -/
theorem stock_refused :
    ofYaml stockText = .ok stock ∧ Project.ofText "stock.yml" stockText =
      .error (.record (.invalidValue (.model "shops") "dimensions.opened.type"
        "unknown dimension type 'date'")) := by
  have decoded : ofYaml stockText = .ok stock :=
    Attempt.toOption_eq_some_iff.mp (by decide +kernel)
  obtain ⟨_, _, fails, reads⟩ := loaded_whole_or_first_fault stock
  have refused := (fails (.invalidValue (.model "shops") "dimensions.opened.type"
    "unknown dimension type 'date'")).mpr (by decide +kernel)
  refine ⟨decoded, ?_⟩
  rw [reads "stock.yml" stockText decoded (by decide +kernel), refused]
  rfl

end Declarations

end SemanticLayer.Source
