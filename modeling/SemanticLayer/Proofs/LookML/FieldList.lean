import Mathlib.Data.List.Forall2
import SemanticLayer.LookML.View
namespace SemanticLayer

/-! The fields of a view are those that its model declares.

`dimensionFields` and `hasField` look at the view only. `NamesDimension` says from the model what
the first of them lists. -/

open LookML

/-- How fields are named that are read in these steps. -/
def Granularity.timeframe : Granularity → String
  | .day => "date"
  | granularity => granularity.tag

/-- Steps at least as coarse are offered, and with hours the time itself. -/
inductive Granularity.Offers (granularity : Granularity) : String → Prop
  | step {coarser : Granularity} : granularity.rank ≤ coarser.rank →
      Offers granularity coarser.timeframe
  | time : granularity = .hour → Offers granularity "time"

namespace Dimension

variable {dimension : Dimension}

def isCategorical (dimension : Dimension) : Bool := dimension.kind == .categorical

theorem isCategorical_iff : dimension.isCategorical ↔ dimension.kind = .categorical := beq_iff_eq

/-- A dimension that is not categorical has a granularity. -/
theorem exists_granularity_iff :
    (∃ granularity, dimension.kind = .time granularity) ↔ dimension.isCategorical = false := by
  unfold isCategorical
  cases dimension.kind <;> simp

/-- `name` is that of a time dimension read in one of its timeframes. -/
def NamesTimeframe (dimension : Dimension) (name : String) : Prop :=
  ∃ granularity timeframe, dimension.kind = .time granularity ∧ granularity.Offers timeframe ∧
    dimension.name ++ "_" ++ timeframe = name

theorem NamesTimeframe.isCategorical_eq_false {name : String} (names : dimension.NamesTimeframe name) :
    dimension.isCategorical = false := by
  obtain ⟨granularity, _, kind, _⟩ := names
  exact exists_granularity_iff.mp ⟨granularity, kind⟩

end Dimension

/-- `name` is that of an entity, of a categorical dimension, or of a time dimension in a timeframe. -/
def SemanticModel.NamesDimension (model : SemanticModel) (name : String) : Prop :=
  (∃ entity ∈ model.entities, entity.name = name) ∨
    (∃ dimension ∈ model.dimensions, dimension.isCategorical ∧ dimension.name = name) ∨
    ∃ dimension ∈ model.dimensions, dimension.NamesTimeframe name

section Related

variable {α β : Type} {relation : β → α → Prop} {made : List β} {items : List α}

/-- Something is made of the items that pass the test, and nothing of the others. -/
theorem forall₂_filterMap_filter {pick : α → Option β} {test : α → Bool}
    (kept : ∀ item, test item → ∃ made, pick item = some made ∧ relation made item)
    (dropped : ∀ item, test item = false → pick item = none) (items : List α) :
    List.Forall₂ relation (items.filterMap pick) (items.filter test) := by
  induction items with
  | nil => exact .nil
  | cons item rest ih =>
      cases passes : test item with
      | true =>
          obtain ⟨made, picked, related⟩ := kept item passes
          rw [List.filter_cons_of_pos passes, List.filterMap_cons_some picked]
          exact .cons related ih
      | false =>
          rw [List.filter_cons_of_neg (by simp [passes]),
            List.filterMap_cons_none (dropped item passes)]
          exact ih

theorem exists_iff_of_forall₂ {left : β → Prop} {right : α → Prop}
    (related : List.Forall₂ relation made items)
    (same : ∀ field item, relation field item → (left field ↔ right item)) :
    (∃ field ∈ made, left field) ↔ ∃ item ∈ items, right item := by
  induction related with
  | nil => simp
  | cons head _ ih => simp [ih, same _ _ head]

end Related

namespace LookML

/-- The hidden field of an entity. -/
structure DimensionField.IsKeyOf (field : DimensionField) (entity : Entity) : Prop where
  name : field.name = entity.name
  hidden : field.isHidden = true
  primary : field.isPrimaryKey = entity.isPrimary

/-- The visible field of a categorical dimension. -/
structure DimensionField.IsColumnOf (field : DimensionField) (dimension : Dimension) : Prop where
  name : field.name = dimension.name
  visible : field.isHidden = false
  notPrimary : field.isPrimaryKey = false
  label : field.label = dimension.label
  description : field.description = dimension.description

structure DimensionGroup.IsGroupOf (group : DimensionGroup) (dimension : Dimension) : Prop where
  name : group.name = dimension.name
  timeframes : ∃ granularity, dimension.kind = .time granularity ∧
    ∀ timeframe, timeframe ∈ group.timeframes ↔ granularity.Offers timeframe
  label : group.label = dimension.label
  description : group.description = dimension.description

structure MeasureField.IsFieldOf (field : MeasureField) (measure : Measure) : Prop where
  name : field.name = measure.name
  label : field.label = measure.label
  description : field.description = measure.description

/-- The fields of `view` in the order in which `model` declares what they stand for. -/
structure View.Lists (view : View) (model : SemanticModel) : Prop where
  dimensions : ∃ keys columns, view.dimensions = keys ++ columns ∧
    List.Forall₂ DimensionField.IsKeyOf keys model.entities ∧
    List.Forall₂ DimensionField.IsColumnOf columns (model.dimensions.filter Dimension.isCategorical)
  groups : List.Forall₂ DimensionGroup.IsGroupOf view.groups
    (model.dimensions.filter (!·.isCategorical))
  measures : List.Forall₂ MeasureField.IsFieldOf view.measures model.measures

theorem mem_timeframeSteps_iff {timeframe : String} {step : Granularity} :
    (timeframe, step) ∈ timeframeSteps ↔
      timeframe = step.timeframe ∨ timeframe = "time" ∧ step = .hour := by
  cases step <;> simp [timeframeSteps, Granularity.timeframe, Granularity.tag, or_comm]

theorem mem_timeframesFrom_iff {granularity : Granularity} {timeframe : String} :
    timeframe ∈ timeframesFrom granularity ↔ granularity.Offers timeframe := by
  have member : timeframe ∈ timeframesFrom granularity ↔
      ∃ step, (timeframe, step) ∈ timeframeSteps ∧ granularity.rank ≤ step.rank := by
    simp [timeframesFrom]
  simp only [member, mem_timeframeSteps_iff]
  constructor
  · rintro ⟨step, rfl | ⟨rfl, rfl⟩, coarser⟩
    · exact .step coarser
    · refine .time ?_
      cases granularity with
      | hour => rfl
      | _ => exact absurd coarser (by decide)
  · rintro (@⟨step, coarser⟩ | hours)
    · exact ⟨step, .inl rfl, coarser⟩
    · exact ⟨.hour, .inr ⟨rfl, rfl⟩, hours ▸ Nat.le_refl _⟩

theorem DimensionField.exists_ofDimension? {dimension : Dimension}
    (categorical : dimension.isCategorical) :
    ∃ field, ofDimension? dimension = some field ∧ field.IsColumnOf dimension := by
  simp only [ofDimension?, Dimension.isCategorical_iff.mp categorical]
  exact ⟨_, rfl, rfl, rfl, rfl, rfl, rfl⟩

theorem DimensionField.ofDimension?_eq_none {dimension : Dimension}
    (timed : dimension.isCategorical = false) : ofDimension? dimension = none := by
  obtain ⟨granularity, kind⟩ := Dimension.exists_granularity_iff.mpr timed
  simp only [ofDimension?, kind]

theorem DimensionGroup.exists_ofDimension? {dimension : Dimension}
    (timed : dimension.isCategorical = false) :
    ∃ group, ofDimension? dimension = some group ∧ group.IsGroupOf dimension := by
  obtain ⟨granularity, kind⟩ := Dimension.exists_granularity_iff.mpr timed
  simp only [ofDimension?, kind]
  exact ⟨_, rfl, rfl, ⟨granularity, kind, fun _ => mem_timeframesFrom_iff⟩, rfl, rfl⟩

theorem DimensionGroup.ofDimension?_eq_none {dimension : Dimension}
    (categorical : dimension.isCategorical) : ofDimension? dimension = none := by
  simp only [ofDimension?, Dimension.isCategorical_iff.mp categorical]

namespace View

variable {view : View} {model : SemanticModel} {name : String}

theorem ofModel_lists (naming : Naming) (schema : Option String) (model : SemanticModel) :
    (ofModel naming schema model).Lists model := by
  refine ⟨⟨_, _, rfl, ?_, ?_⟩, ?_, ?_⟩
  · exact List.forall₂_map_left_iff.mpr (List.forall₂_same.mpr fun entity _ => ⟨rfl, rfl, rfl⟩)
  · exact forall₂_filterMap_filter (fun _ => DimensionField.exists_ofDimension?)
      (fun _ => DimensionField.ofDimension?_eq_none) _
  · refine forall₂_filterMap_filter (fun _ timed => ?_) (fun _ categorical => ?_) _
    · exact DimensionGroup.exists_ofDimension? (by simpa using timed)
    · exact DimensionGroup.ofDimension?_eq_none (by simpa using categorical)
  · exact List.forall₂_map_left_iff.mpr (List.forall₂_same.mpr fun measure _ => ⟨rfl, rfl, rfl⟩)

theorem mem_dimensionFields_iff :
    name ∈ view.dimensionFields ↔
      (∃ field ∈ view.dimensions, field.name = name) ∨
        ∃ group ∈ view.groups, ∃ timeframe ∈ group.timeframes, group.name ++ "_" ++ timeframe = name := by
  simp [dimensionFields, DimensionGroup.fieldNames]

theorem Lists.mem_dimensionFields_iff (lists : view.Lists model) :
    name ∈ view.dimensionFields ↔ model.NamesDimension name := by
  obtain ⟨keys, columns, cut, entities, categories⟩ := lists.dimensions
  have keyNames : (∃ field ∈ keys, field.name = name) ↔
      ∃ entity ∈ model.entities, entity.name = name :=
    exists_iff_of_forall₂ entities fun field entity key => by rw [key.name]
  have columnNames : (∃ field ∈ columns, field.name = name) ↔
      ∃ dimension ∈ model.dimensions.filter Dimension.isCategorical, dimension.name = name :=
    exists_iff_of_forall₂ categories fun field dimension column => by rw [column.name]
  have groupNames :
      (∃ group ∈ view.groups, ∃ timeframe ∈ group.timeframes, group.name ++ "_" ++ timeframe = name) ↔
        ∃ dimension ∈ model.dimensions.filter (!·.isCategorical), dimension.NamesTimeframe name := by
    refine exists_iff_of_forall₂ lists.groups fun group dimension made => ?_
    obtain ⟨granularity, kind, offered⟩ := made.timeframes
    simp [Dimension.NamesTimeframe, made.name, kind, offered]
  -- Only a dimension with a granularity has timeframes, so the filter may go.
  have timed : ∀ dimension : Dimension,
      (!dimension.isCategorical) ∧ dimension.NamesTimeframe name ↔ dimension.NamesTimeframe name :=
    fun dimension => and_iff_right_of_imp fun names => by simp [names.isCategorical_eq_false]
  rw [View.mem_dimensionFields_iff, cut, groupNames]
  simp only [List.mem_append, or_and_right, exists_or, keyNames, columnNames, or_assoc,
    SemanticModel.NamesDimension, List.mem_filter, and_assoc, timed]

/-- The fields that count for a collision are those that are listed, by name. -/
theorem hasField_iff_listed :
    view.hasField name ↔
      name ∈ view.dimensionFields ∨ name ∈ view.groups.map DimensionGroup.name ∨
        name ∈ view.measures.map MeasureField.name ∨
        name ∈ view.metrics.map MetricField.name := by
  rw [mem_dimensionFields_iff]
  simp [hasField, DimensionGroup.fieldNames, and_or_left, exists_or, or_assoc, or_left_comm]

end View

/-- A view has the fields that its model declares, in their order, and lists the names of those that
are not measures, in ascending order and each once. Whatever fields metrics add, a name is taken
exactly when it is listed or when a group, a measure or a metric has it. -/
theorem view_lists_model_fields (naming : Naming) (schema : Option String) (model : SemanticModel) :
    (View.ofModel naming schema model).Lists model ∧
    (View.ofModel naming schema model).dimensionFields.items.Pairwise (· < ·) ∧
    (∀ name, name ∈ (View.ofModel naming schema model).dimensionFields ↔ model.NamesDimension name) ∧
    ∀ metrics name, View.hasField { View.ofModel naming schema model with metrics } name ↔
      name ∈ (View.ofModel naming schema model).dimensionFields ∨
        name ∈ (View.ofModel naming schema model).groups.map DimensionGroup.name ∨
        name ∈ (View.ofModel naming schema model).measures.map MeasureField.name ∨
        name ∈ metrics.map MetricField.name := by
  have lists := View.ofModel_lists naming schema model
  exact ⟨lists, Order.SortedSet.ascending _, fun _ => lists.mem_dimensionFields_iff,
    fun _ _ => View.hasField_iff_listed⟩

/-- The month of a time dimension and a categorical dimension may be called alike. -/
example :
    (View.ofModel {} none {
      name := "rentals"
      entities := [⟨"rental", .primary, "id"⟩]
      dimensions := [
        { name := "rented_at", kind := .time .month },
        { name := "rented_at_month" }] }).dimensionFields.items =
      ["rental", "rented_at_month", "rented_at_quarter", "rented_at_year"] := by
  decide +kernel

end LookML

end SemanticLayer
