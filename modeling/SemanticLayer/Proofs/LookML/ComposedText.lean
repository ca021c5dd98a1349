import SemanticLayer.Proofs.LookML.Composition
import SemanticLayer.Proofs.LookML.ValidName
namespace SemanticLayer.LookML

/-! What composed SQL refers to.

A reference is to a measure of the anchor or to a field of another view. Such a field comes from a
metric that inputs in use lead to, and so it is a required one. -/

open SemanticLayer.Order

variable {set : ModelSet} {catalog : MetricCatalog} {naming : Naming} {anchorModel : String}
  {metric : Metric} {composition : Composition}

/-- The expression of the metric names the input, and no later input goes by the same name. -/
def Uses (metric : Metric) (input : MetricInput) : Prop :=
  ∃ expression before after, metric.kind = .derived expression (before ++ input :: after) ∧
    (∀ later ∈ after, later.reference ≠ input.reference) ∧
    .identifier input.reference.toList ∈ Text.pieces expression.toList

theorem Uses.listed {input : MetricInput} (uses : Uses metric input) : metric.Lists input := by
  obtain ⟨_, _, _, kind, _, _⟩ := uses
  simp [Metric.Lists, Metric.inputs, kind]

/-- What the SQL of the metric may refer to: fields that inputs in use lead to, and measures of the
anchor. -/
def Reaches (set : ModelSet) (catalog : MetricCatalog) (naming : Naming) (anchorModel : String)
    (metric : Metric) (name : String) : Prop :=
  catalog.Leads Uses (Shows set naming anchorModel name) metric ∨
    ∃ owner, set.ownerOfMeasure? name = some owner ∧ owner.name = anchorModel

namespace Composition

variable {root measure expression : String} {operands : List (Operand Composition)}

theorem ofMeasure_referring (plain : naming.PlainPrefix)
    (valid : ∀ measure owner, set.ownerOfMeasure? measure = some owner →
      isValidName owner.name ∧ isValidName measure)
    (among : measure ∈ shown metric.kind)
    (single : ofMeasure set naming root anchorModel measure = .ok composition) :
    Referring (Reaches set catalog naming anchorModel metric) composition.sql.toList := by
  obtain ⟨owner, owned, rfl⟩ := ofMeasure_eq_ok_iff.mp single
  obtain ⟨ownerValid, measureValid⟩ := valid measure owner owned
  by_cases own : owner.name = anchorModel
  · rw [if_pos own]
    exact Referring.of_reference (not_mem_of_isValidName measureValid (by decide))
      (not_mem_of_isValidName measureValid (by decide)) (.inr ⟨owner, owned, own⟩)
  · rw [if_neg own]
    have free := fun c => not_mem_field (c := c) plain ownerValid measureValid
    exact Referring.of_reference (free '$' (by decide) (by decide)) (free '}' (by decide) (by decide))
      (.inl (.here ⟨measure, among, owner, owned, own, rfl⟩))

theorem quotient_referring {allowed : String → Prop} {numerator denominator : Composition}
    (above : Referring allowed numerator.sql.toList) (below : Referring allowed denominator.sql.toList) :
    Referring allowed (quotient numerator denominator).sql.toList := by
  simp only [quotient, String.toList_append]
  exact ((((Referring.of_not_mem (by decide)).append above).append
    (Referring.of_not_mem (by decide))).append below).append (Referring.of_not_mem (by decide))

theorem inputSql_referring {allowed : String → Prop} {operand : Operand Composition}
    (refers : Referring allowed operand.value.sql.toList) :
    Referring allowed (inputSql operand).toList := by
  unfold inputSql
  split
  · exact refers
  · simp only [String.toList_append]
    exact ((Referring.of_not_mem (by decide)).append refers).append (Referring.of_not_mem (by decide))

theorem ofOperands_referring {inputs : List MetricInput}
    (kind : metric.kind = .derived expression inputs) (dollarFree : '$' ∉ expression.toList)
    (entered : List.Forall₂ (fun input operand => operand.reference = input.reference ∧
      ∃ nested, catalog.metric? input.name = some nested ∧
        Referring (Reaches set catalog naming anchorModel nested) operand.value.sql.toList)
      inputs operands) :
    Referring (Reaches set catalog naming anchorModel metric)
      (ofOperands expression operands).sql.toList := by
  rw [ofOperands, String.toList_ofList]
  refine Referring.substitute dollarFree fun name inserted named meant => ?_
  obtain ⟨before, operand, after, rfl, rfl, last, rfl⟩ := meaning_eq_some_iff.mp meant
  obtain ⟨first, input, rest, rfl, ⟨reference, nested, found, below⟩, behind⟩ :=
    Attempt.exists_split_of_forall₂_right entered
  have uses : Uses metric input := by
    refine ⟨expression, first, rest, kind, fun later member same => ?_, by rwa [← reference]⟩
    obtain ⟨other, among, otherReference, _⟩ := Attempt.exists_of_forall₂_left behind member
    exact last other among (by rw [otherReference, same, reference])
  refine inputSql_referring (below.mono ?_)
  rintro name (leads | own)
  · exact .inl (.through uses found leads)
  · exact .inr own

end Composition

theorem compose_referring (plain : naming.PlainPrefix)
    (valid : ∀ measure owner, set.ownerOfMeasure? measure = some owner →
      isValidName owner.name ∧ isValidName measure)
    (expressions : ∀ path inner expression inputs, catalog.Trail metric path inner →
      inner.kind = .derived expression inputs → '$' ∉ expression.toList)
    (composed : compose set catalog naming anchorModel metric = .ok composition) :
    Referring (Reaches set catalog naming anchorModel metric) composition.sql.toList := by
  refine MetricCatalog.foldFrom_induction
    (motive := fun path inner composition => catalog.Trail metric path inner →
      Referring (Reaches set catalog naming anchorModel inner) composition.sql.toList)
    ?_ composed .start
  intro path inner operands composition entered combined trail
  rcases Composition.combine_eq_ok_iff.mp combined with
    ⟨measure, shows, single⟩ | ⟨first, second, above, below, shows, upper, lower, rfl⟩ |
    ⟨expression, inputs, kind, rfl⟩
  · exact Composition.ofMeasure_referring plain valid (by simp [shows]) single
  · exact Composition.quotient_referring
      (Composition.ofMeasure_referring plain valid (by simp [shows]) upper)
      (Composition.ofMeasure_referring plain valid (by simp [shows]) lower)
  · have listed : inner.inputs = inputs := by simp [Metric.inputs, kind]
    refine Composition.ofOperands_referring kind (expressions path inner expression inputs trail kind) ?_
    rw [← listed]
    have listedEach := (List.forall₂_and_left _ _).mpr ⟨fun _ member => member, entered⟩
    refine listedEach.imp fun input operand evaluated => ?_
    obtain ⟨member, nested, enters, reference, _, below⟩ := evaluated
    exact ⟨reference, nested, enters.found, below (trail.extend member enters.found)⟩

namespace Composition

/-- What the SQL of a composition may refer to. -/
def Permits (set : ModelSet) (anchorModel : String) (composition : Composition) (name : String) :
    Prop :=
  name ∈ composition.requiredFields ∨
    ∃ owner, set.ownerOfMeasure? name = some owner ∧ owner.name = anchorModel

/-- The SQL refers to nothing that the composition does not permit. -/
def Faithful (set : ModelSet) (anchorModel : String) (composition : Composition) : Prop :=
  Referring (composition.Permits set anchorModel) composition.sql.toList

end Composition

/-- With valid names and expressions that hold no references of their own, composed SQL refers
to required fields and to measures of the anchor. -/
theorem compose_faithful (plain : naming.PlainPrefix)
    (valid : ∀ measure owner, set.ownerOfMeasure? measure = some owner →
      isValidName owner.name ∧ isValidName measure)
    (expressions : ∀ path inner expression inputs, catalog.Trail metric path inner →
      inner.kind = .derived expression inputs → '$' ∉ expression.toList)
    (composed : compose set catalog naming anchorModel metric = .ok composition) :
    composition.Faithful set anchorModel := by
  refine (compose_referring plain valid expressions composed).mono fun name reached => ?_
  rcases reached with leads | own
  · exact .inl ((mem_requiredFields_iff composed).mpr (leads.mono fun _ _ uses => uses.listed))
  · exact .inr own

end SemanticLayer.LookML
