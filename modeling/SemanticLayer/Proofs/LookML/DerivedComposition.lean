import Mathlib.Data.List.Perm.Basic
import SemanticLayer.Proofs.LookML.Composition
import SemanticLayer.Proofs.Text.Substitution
namespace SemanticLayer.LookML

/-! The composition of a derived metric out of the compositions of its inputs.

An input is composed as if it were asked for by itself: where nothing fails, neither the metric that
an error would be about nor the names on the way play a part. The expression is then scanned once,
and every name of an input gives way to the SQL of that input. -/

open SemanticLayer.Order

variable {set : ModelSet} {catalog : MetricCatalog} {naming : Naming} {anchorModel : String}
  {metric : Metric} {composition : Composition} {expression : String} {inputs : List MetricInput}

namespace Composition

variable {operands permuted : List (Operand Composition)}

/-- The operand is what its input comes to by itself. -/
structure OfInput (set : ModelSet) (catalog : MetricCatalog) (naming : Naming) (anchorModel : String)
    (input : MetricInput) (operand : Operand Composition) : Prop where
  reference : operand.reference = input.reference
  composed : ∃ nested, catalog.metric? input.name = some nested ∧ operand.type = nested.type ∧
    compose set catalog naming anchorModel nested = .ok operand.value

/-- What takes the place of a name in an expression: the SQL of the last input that is referred to
by the name, or the name itself. -/
inductive StandsFor (operands : List (Operand Composition)) (name : List Char) : List Char → Prop
  | simple {before operand after} : operands = before ++ operand :: after →
      operand.reference.toList = name → (∀ later ∈ after, later.reference.toList ≠ name) →
      operand.type = .simple → StandsFor operands name operand.value.sql.toList
  | nested {before operand after} : operands = before ++ operand :: after →
      operand.reference.toList = name → (∀ later ∈ after, later.reference.toList ≠ name) →
      operand.type ≠ .simple → StandsFor operands name ('(' :: operand.value.sql.toList ++ [')'])
  | itself : (∀ operand ∈ operands, operand.reference.toList ≠ name) → StandsFor operands name name

theorem eq_of_standsFor {name inserted : List Char} (stands : StandsFor operands name inserted) :
    inserted = (meaning operands name).getD name := by
  cases stands with
  | simple split named last simple =>
      rw [meaning_eq_some_iff.mpr ⟨_, _, _, split, named, last, rfl⟩, Option.getD_some, inputSql,
        if_pos simple]
  | nested split named last nested =>
      rw [meaning_eq_some_iff.mpr ⟨_, _, _, split, named, last, rfl⟩]
      simp [inputSql, nested]
  | itself absent =>
      rw [meaning_eq_none_iff.mpr absent, Option.getD_none]

theorem standsFor_meaning (operands : List (Operand Composition)) (name : List Char) :
    StandsFor operands name ((meaning operands name).getD name) := by
  cases meant : meaning operands name with
  | none => exact .itself (meaning_eq_none_iff.mp meant)
  | some text =>
      obtain ⟨before, operand, after, split, named, last, rfl⟩ := meaning_eq_some_iff.mp meant
      rw [Option.getD_some]
      by_cases simple : operand.type = .simple
      · simpa [inputSql, simple] using StandsFor.simple split named last simple
      · simpa [inputSql, simple] using StandsFor.nested split named last simple

theorem standsFor_iff {name inserted : List Char} :
    StandsFor operands name inserted ↔ inserted = (meaning operands name).getD name := by
  refine ⟨eq_of_standsFor, ?_⟩
  rintro rfl
  exact standsFor_meaning operands name

/-- The metric that an error would be about plays no part where there is none. -/
theorem combine_of_root {root other : String} {kind : MetricKind}
    (combined : (algebra set naming root anchorModel).combine kind operands = .ok composition) :
    (algebra set naming other anchorModel).combine kind operands = .ok composition := by
  have single : ∀ {measure composition},
      ofMeasure set naming root anchorModel measure = .ok composition →
        ofMeasure set naming other anchorModel measure = .ok composition :=
    fun measured => ofMeasure_eq_ok_iff.mpr (ofMeasure_eq_ok_iff.mp measured)
  refine combine_eq_ok_iff.mpr ?_
  rcases combine_eq_ok_iff.mp combined with
    ⟨measure, shows, measured⟩ | ⟨numerator, denominator, above, below, shows, upper, lower, whole⟩ |
    derived
  · exact .inl ⟨measure, shows, single measured⟩
  · exact .inr (.inl ⟨numerator, denominator, above, below, shows, single upper, single lower, whole⟩)
  · exact .inr (.inr derived)

theorem ofOperands_perm (same : permuted.Perm operands)
    (distinct : (permuted.map Operand.reference).Nodup) (expression : String) :
    ofOperands expression permuted = ofOperands expression operands := by
  have reversed : permuted.reverse.Perm operands.reverse :=
    (List.reverse_perm _).trans (same.trans (List.reverse_perm _).symm)
  have reversedDistinct : (permuted.reverse.map Operand.reference).Nodup := by
    rw [List.map_reverse, List.nodup_reverse]
    exact distinct
  have meanings : meaning permuted = meaning operands := by
    funext name
    unfold meaning
    rw [find?_key_eq_of_perm reversed reversedDistinct]
  have fields :
      (permuted.map fun operand => operand.value.requiredFields).foldl SortedSet.union SortedSet.empty =
        (operands.map fun operand => operand.value.requiredFields).foldl SortedSet.union
          SortedSet.empty := by
    ext field
    simp only [SortedSet.mem_foldl_union, List.mem_map, same.mem_iff]
  unfold ofOperands
  rw [meanings, fields]

theorem ofInput_of_operand {path : List String} {input : MetricInput} {operand : Operand Composition}
    {root : String}
    (evaluated : catalog.operand (algebra set naming root anchorModel) root path input = .ok operand) :
    OfInput set catalog naming anchorModel input operand := by
  obtain ⟨nested, enters, reference, type, walked⟩ := MetricCatalog.operand_eq_ok_iff.mp evaluated
  refine ⟨reference, nested, enters.found, type, ?_⟩
  have name := MetricCatalog.name_of_metric? enters.found
  refine MetricCatalog.foldFrom_eq_ok_of_subset (fun _ _ _ found => found)
    (fun _ _ _ combined => combine_of_root combined) ?_ walked
  intro known member
  rw [List.mem_singleton.mp member, name]
  exact List.mem_append_right _ (List.mem_singleton.mpr rfl)

end Composition

/-- How a derived metric is composed. -/
theorem compose_derived_eq_ok_iff (kind : metric.kind = .derived expression inputs) :
    compose set catalog naming anchorModel metric = .ok composition ↔
      ∃ operands, List.Forall₂ (fun input operand =>
          catalog.operand (Composition.algebra set naming metric.name anchorModel) metric.name
            [metric.name] input = .ok operand) inputs operands ∧
        Composition.ofOperands expression operands = composition := by
  have listed : metric.inputs = inputs := by simp [Metric.inputs, kind]
  unfold compose MetricCatalog.fold
  rw [MetricCatalog.foldFrom_eq_ok_iff, listed, kind]
  simp only [MetricAlgebra.combine, Composition.algebra, Except.ok.injEq]

theorem Composition.references_of_ofInput {operands : List (Operand Composition)}
    (entered : List.Forall₂ (OfInput set catalog naming anchorModel) inputs operands) :
    operands.map Operand.reference = inputs.map MetricInput.reference := by
  have same : List.Forall₂ Eq (inputs.map MetricInput.reference)
      (operands.map Operand.reference) := by
    rw [List.forall₂_map_left_iff, List.forall₂_map_right_iff]
    exact entered.imp fun _ _ own => own.reference.symm
  rw [List.forall₂_eq_eq_eq] at same
  exact same.symm

/-- The order of the inputs plays no part where no two of them go by the same name, nor does the
definition that the catalog has for the metric itself. -/
theorem compose_permuted {permuted : List MetricInput} {other : MetricCatalog}
    (kind : metric.kind = .derived expression inputs) (same : permuted.Perm inputs)
    (distinct : (inputs.map MetricInput.reference).Nodup)
    (keeps : ∀ name, name ≠ metric.name → other.metric? name = catalog.metric? name)
    (composed : compose set catalog naming anchorModel metric = .ok composition) :
    compose set other naming anchorModel { metric with kind := .derived expression permuted } =
      .ok composition := by
  obtain ⟨operands, entered, whole⟩ := (compose_derived_eq_ok_iff kind).mp composed
  obtain ⟨reordered, permutedEntered, reorder⟩ := List.perm_comp_forall₂ same entered
  have apart : (reordered.map Operand.reference).Nodup := by
    rw [Composition.references_of_ofInput
      (permutedEntered.imp fun _ _ => Composition.ofInput_of_operand)]
    exact (same.map MetricInput.reference).nodup_iff.mpr distinct
  have reorderedWhole : Composition.ofOperands expression reordered = composition :=
    (Composition.ofOperands_perm reorder apart expression).trans whole
  have here : compose set catalog naming anchorModel
      { metric with kind := .derived expression permuted } = .ok composition :=
    (compose_derived_eq_ok_iff rfl).mpr ⟨reordered, permutedEntered, reorderedWhole⟩
  refine MetricCatalog.foldFrom_eq_ok_of_subset ?_ (fun _ _ _ combined => combined)
    (List.Subset.refl _) here
  intro name nested fresh found
  rw [keeps name (fun own => fresh (own ▸ List.mem_singleton.mpr rfl))]
  exact found

/-- A derived metric is composed out of its inputs as they are composed by themselves. -/
theorem composed_by_one_substitution (kind : metric.kind = .derived expression inputs)
    (composed : compose set catalog naming anchorModel metric = .ok composition) :
    ∃ operands,
      List.Forall₂ (Composition.OfInput set catalog naming anchorModel) inputs operands ∧
      (∀ text, Text.Rewritten (Composition.StandsFor operands) expression.toList text ↔
        text = composition.sql.toList) ∧
      composition.requiredFields.items.Pairwise (· < ·) ∧
      (∀ field, field ∈ composition.requiredFields ↔
        ∃ operand ∈ operands, field ∈ operand.value.requiredFields) ∧
      ∀ permuted other, permuted.Perm inputs → (inputs.map MetricInput.reference).Nodup →
        (∀ name, name ≠ metric.name → other.metric? name = catalog.metric? name) →
        compose set other naming anchorModel { metric with kind := .derived expression permuted } =
          .ok composition := by
  obtain ⟨operands, entered, rfl⟩ := (compose_derived_eq_ok_iff kind).mp composed
  refine ⟨operands, entered.imp fun _ _ => Composition.ofInput_of_operand, ?_,
    SortedSet.ascending _, ?_, fun permuted other same distinct keeps =>
      compose_permuted kind same distinct keeps composed⟩
  · intro text
    rw [Text.rewritten_iff fun _ _ => Composition.standsFor_iff]
    simp [Composition.ofOperands]
  · intro field
    simp [Composition.ofOperands, SortedSet.mem_foldl_union]

def ledgerModels : List SemanticModel := [
  { name := "income", measures := [{ name := "revenue", aggregation := .sum }] },
  { name := "spending", measures := [{ name := "cost", aggregation := .sum }] }]

def ledger : MetricCatalog := .ofMetrics [
  { name := "turnover", kind := .simple "revenue" },
  { name := "cost_share", kind := .ratio "cost" "revenue" }]

/-- Of two input names one begins with the other, which is a name in the inserted SQL as well. -/
def leftover (inputs : List MetricInput) : Metric :=
  { name := "leftover", kind := .derived "cost - cost_share * 2" inputs }

/-- The leftover is composed by one scan of its expression, and alike with its inputs exchanged. -/
theorem leftover_composed :
    ∃ composition operands,
      compose ⟨ledgerModels⟩ ledger {} "income"
          (leftover [{ name := "turnover", aliasName := some "cost" }, { name := "cost_share" }]) =
        .ok composition ∧
      composition.sql = "${revenue} - (1.0 * ${spending.cost} / NULLIF(${revenue}, 0)) * 2" ∧
      Text.Rewritten (Composition.StandsFor operands) "cost - cost_share * 2".toList
        composition.sql.toList ∧
      composition.requiredFields.items = ["spending.cost"] ∧
      compose ⟨ledgerModels⟩ ledger {} "income"
          (leftover [{ name := "cost_share" }, { name := "turnover", aliasName := some "cost" }]) =
        .ok composition := by
  obtain ⟨composition, composed, whole⟩ := Attempt.exists_ok_of_any
    (compose ⟨ledgerModels⟩ ledger {} "income"
      (leftover [{ name := "turnover", aliasName := some "cost" }, { name := "cost_share" }]))
    (fun composition =>
      composition.sql == "${revenue} - (1.0 * ${spending.cost} / NULLIF(${revenue}, 0)) * 2" &&
        composition.requiredFields.items == ["spending.cost"])
    (by decide +kernel)
  simp only [Bool.and_eq_true, beq_iff_eq] at whole
  obtain ⟨operands, _, scanned, _, _, reordered⟩ := composed_by_one_substitution rfl composed
  have exchanged := reordered
    [{ name := "cost_share" }, { name := "turnover", aliasName := some "cost" }] ledger
    (List.Perm.swap ..) (by decide) fun _ _ => rfl
  exact ⟨composition, operands, composed, whole.1, (scanned _).mpr rfl, whole.2, exchanged⟩

end SemanticLayer.LookML
