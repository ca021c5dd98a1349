import Mathlib.Data.List.Basic
import SemanticLayer.LookML.Record
import SemanticLayer.Proofs.Json.Compact
namespace SemanticLayer

/-! Records of views and explores hold all there is to them.

Two parts with the same record are the same, fields that no file shows included. -/

namespace Json

theorem optional_string_inj {first second : Option String} :
    optional .string first = optional .string second ↔ first = second := by
  cases first <;> cases second <;> simp [optional]

theorem ofStrings_inj {first second : List String} : ofStrings first = ofStrings second ↔ first = second := by
  have strings : Function.Injective Json.string := fun _ _ => Json.string.inj
  rw [ofStrings, ofStrings, Json.array.injEq, strings.list_map.eq_iff]

end Json

namespace LookML

open Json (optional_string_inj ofStrings_inj)

theorem DimensionField.json_injective : Function.Injective DimensionField.json := by
  intro first second same
  cases first
  cases second
  simpa [json, optional_string_inj] using same

theorem DimensionGroup.json_injective : Function.Injective DimensionGroup.json := by
  intro first second same
  cases first
  cases second
  simpa [json, optional_string_inj, ofStrings_inj] using same

theorem MeasureField.json_injective : Function.Injective MeasureField.json := by
  intro first second same
  cases first
  cases second
  simpa [json, optional_string_inj] using same

theorem MetricField.json_injective : Function.Injective MetricField.json := by
  intro first second same
  cases first
  cases second
  simpa [json, optional_string_inj, ofStrings_inj] using same

theorem View.json_injective : Function.Injective View.json := by
  intro first second same
  cases first
  cases second
  simpa [json, optional_string_inj, DimensionField.json_injective.list_map.eq_iff,
    DimensionGroup.json_injective.list_map.eq_iff, MeasureField.json_injective.list_map.eq_iff,
    MetricField.json_injective.list_map.eq_iff] using same

theorem tag_injective : Function.Injective Cardinality.tag := by
  intro first second same
  revert same
  cases first <;> cases second <;> decide

theorem Join.json_injective : Function.Injective Join.json := by
  intro first second same
  cases first
  cases second
  simpa [json, ofStrings_inj, tag_injective.eq_iff, Int.natCast_inj] using same

theorem Explore.json_injective : Function.Injective Explore.json := by
  intro first second same
  cases first
  cases second
  simpa [json, optional_string_inj, Join.json_injective.list_map.eq_iff] using same

theorem record_inj {views others : List View} {explores alike : List Explore} :
    record views explores = record others alike ↔ views = others ∧ explores = alike := by
  simp [record, View.json_injective.list_map.eq_iff, Explore.json_injective.list_map.eq_iff]

end LookML

end SemanticLayer
