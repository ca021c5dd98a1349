import SemanticLayer.Proofs.LookML.ComposedText
import SemanticLayer.Proofs.ModelSet.Ownership
import SemanticLayer.Proofs.Text.Substitution
namespace SemanticLayer.LookML

/-! The required fields of a composition beside its SQL.

A field is required as soon as a metric that the inputs lead to shows it. It stands in the SQL when
the expressions on the way use these inputs. An input that an expression does not name, or whose name
a later input takes, leaves its fields required but not in the SQL. -/

open SemanticLayer.Order

variable {set : ModelSet} {catalog : MetricCatalog} {naming : Naming} {anchorModel : String}
  {metric : Metric} {composition : Composition} {field : String}

namespace Composition

variable {root measure expression : String} {operands : List (Operand Composition)}

/-- A field that the metric shows stands in its SQL. -/
theorem infix_of_shows (shows : Shows set naming anchorModel field metric)
    (combined : (algebra set naming root anchorModel).combine metric.kind operands = .ok composition) :
    (reference field).toList <:+: composition.sql.toList := by
  obtain ⟨measure, among, owner, owned, other, rfl⟩ := shows
  have written : ∀ {part}, ofMeasure set naming root anchorModel measure = .ok part →
      part.sql = reference (naming.view owner.name ++ "." ++ measure) := by
    intro part single
    obtain ⟨found, declared, rfl⟩ := ofMeasure_eq_ok_iff.mp single
    rw [owned, Option.some.injEq] at declared
    rw [← declared, if_neg other]
  rcases combine_eq_ok_iff.mp combined with
    ⟨only, shows, single⟩ | ⟨first, second, above, below, shows, upper, lower, rfl⟩ |
    ⟨expression, inputs, kind, rfl⟩
  · rw [shows, List.mem_singleton] at among
    subst among
    exact written single ▸ List.infix_rfl
  · rw [shows, List.mem_pair] at among
    simp only [quotient, String.toList_append]
    rcases among with rfl | rfl
    · rw [written upper]
      exact ⟨"1.0 * ".toList, " / NULLIF(".toList ++ below.sql.toList ++ ", 0)".toList,
        by simp only [List.append_assoc]⟩
    · rw [written lower]
      exact List.infix_append ..
  · simp [shown, kind] at among

/-- The SQL of an input stands where the expression names it. -/
theorem infix_of_named {before after : List (Operand Composition)} {operand : Operand Composition}
    (last : ∀ later ∈ after, later.reference ≠ operand.reference)
    (named : .identifier operand.reference.toList ∈ Text.pieces expression.toList) :
    operand.value.sql.toList <:+: (ofOperands expression (before ++ operand :: after)).sql.toList := by
  have meant : meaning (before ++ operand :: after) operand.reference.toList =
      some (inputSql operand).toList := by
    refine meaning_eq_some_iff.mpr ⟨before, operand, after, rfl, rfl, fun later member same => ?_, rfl⟩
    exact last later member (String.toList_inj.mp same)
  have inserted : operand.value.sql.toList <:+: (inputSql operand).toList := by
    unfold inputSql
    split
    · exact List.infix_rfl
    · exact ⟨['('], [')'], by simp⟩
  simpa [ofOperands] using inserted.trans (Text.infix_substitute named meant)

end Composition

/-- A field that inputs in use lead to stands in the SQL. -/
theorem infix_of_leads (composed : compose set catalog naming anchorModel metric = .ok composition)
    (leads : catalog.Leads Uses (Shows set naming anchorModel field) metric) :
    (reference field).toList <:+: composition.sql.toList := by
  refine MetricCatalog.foldFrom_induction
    (motive := fun _ metric composition =>
      catalog.Leads Uses (Shows set naming anchorModel field) metric →
        (reference field).toList <:+: composition.sql.toList) ?_ composed leads
  intro path metric operands composition entered combined leads
  cases leads with
  | here shows => exact Composition.infix_of_shows shows combined
  | through uses found inner =>
      obtain ⟨expression, before, after, kind, last, named⟩ := uses
      rw [Metric.inputs, kind] at entered
      obtain ⟨first, operand, rest, rfl, ⟨nested, enters, reference, _, below⟩, behind⟩ :=
        Attempt.exists_split_of_forall₂_left entered
      cases enters.eq_of_found found
      rw [kind] at combined
      cases combined
      refine (below inner).trans (Composition.infix_of_named (fun later member => ?_) ?_)
      · obtain ⟨other, among, _, _, otherReference, _⟩ :=
          Attempt.exists_of_forall₂_right behind member
        rw [otherReference, reference]
        exact last other among
      · rwa [reference]

/-- The fields that a composition requires are those that its inputs lead to. Those that inputs in use
lead to stand in the SQL, and with names that do not cut references short no others do. -/
theorem required_field_in_sql (composed : compose set catalog naming anchorModel metric = .ok composition) :
    (∀ field, field ∈ composition.requiredFields ↔
      catalog.Leads Metric.Lists (Shows set naming anchorModel field) metric) ∧
    (∀ field, catalog.Leads Uses (Shows set naming anchorModel field) metric →
      (reference field).toList <:+: composition.sql.toList) ∧
    ((∀ path inner, catalog.Trail metric path inner → ∀ input ∈ inner.inputs, Uses inner input) →
      ∀ field ∈ composition.requiredFields, (reference field).toList <:+: composition.sql.toList) ∧
    (naming.PlainPrefix →
      (∀ measure owner, set.ownerOfMeasure? measure = some owner →
        isValidName owner.name ∧ isValidName measure) →
      (∀ path inner expression inputs, catalog.Trail metric path inner →
        inner.kind = .derived expression inputs → '$' ∉ expression.toList) →
      ∀ field ∈ composition.requiredFields,
        ((reference field).toList <:+: composition.sql.toList ↔
          catalog.Leads Uses (Shows set naming anchorModel field) metric)) := by
  refine ⟨fun field => mem_requiredFields_iff composed, fun field => infix_of_leads composed,
    fun used field required => ?_, fun plain valid expressions field required => ?_⟩
  · exact infix_of_leads composed
      (((mem_requiredFields_iff composed).mp required).of_followed used .start)
  · refine ⟨fun stands => ?_, infix_of_leads composed⟩
    obtain ⟨_, _, _, measure, _, owner, owned, _, rfl⟩ :=
      ((mem_requiredFields_iff composed).mp required).exists_trail .start
    obtain ⟨ownerValid, measureValid⟩ := valid measure owner owned
    obtain ⟨before, after, split⟩ := stands
    have occurrence : composition.sql.toList = before ++ '$' :: '{' ::
        ((naming.view owner.name ++ "." ++ measure).toList ++ '}' :: after) := by
      rw [← split]
      simp [reference]
    have closed : '}' ∉ (naming.view owner.name ++ "." ++ measure).toList :=
      not_mem_field plain ownerValid measureValid (by decide) (by decide)
    rcases (compose_referring plain valid expressions composed).allowed_of_occurrence closed
      occurrence with leads | ⟨other, otherOwned, _⟩
    · exact leads
    · -- A measure of the anchor has a valid name, which the dot of a field does not belong to.
      have dotFree := not_mem_of_isValidName (valid _ other otherOwned).2 (c := '.') (by decide)
      simp at dotFree

def firmModels : List SemanticModel := [
  { name := "payroll", measures := [{ name := "wages", aggregation := .sum }] },
  { name := "purchases", measures := [{ name := "cost", aggregation := .sum }] },
  { name := "sales", measures := [{ name := "revenue", aggregation := .sum }] }]

/-- The wages are an input that the expression does not name. -/
def surplus : Metric :=
  { name := "surplus"
    kind := .derived "revenue - cost" [{ name := "revenue" }, { name := "cost" }, { name := "wages" }] }

def firm : MetricCatalog := .ofMetrics [
  { name := "revenue", kind := .simple "revenue" },
  { name := "cost", kind := .simple "cost" },
  { name := "wages", kind := .simple "wages" },
  surplus]

theorem firmModels_accepted : ModelSet.ofModels firmModels = .ok ⟨firmModels⟩ := by decide +kernel

theorem surplus_composed : ∃ composition,
    compose ⟨firmModels⟩ firm {} "sales" surplus = .ok composition ∧
      composition.sql = "${revenue} - ${purchases.cost}" ∧
      composition.requiredFields.items = ["payroll.wages", "purchases.cost"] := by
  obtain ⟨composition, composed, whole⟩ := Attempt.exists_ok_of_any
    (compose ⟨firmModels⟩ firm {} "sales" surplus)
    (fun composition => composition.sql == "${revenue} - ${purchases.cost}" &&
      composition.requiredFields.items == ["payroll.wages", "purchases.cost"]) (by decide +kernel)
  simp only [Bool.and_eq_true, beq_iff_eq] at whole
  exact ⟨composition, composed, whole⟩

/-- Cost and wages are both required of the surplus, which uses the cost only. -/
theorem surplus_uses_cost : ModelSet.ofModels firmModels = .ok ⟨firmModels⟩ ∧ ∃ composition,
    compose ⟨firmModels⟩ firm {} "sales" surplus = .ok composition ∧
      firm.Leads Metric.Lists (Shows ⟨firmModels⟩ {} "sales" "payroll.wages") surplus ∧
      firm.Leads Uses (Shows ⟨firmModels⟩ {} "sales" "purchases.cost") surplus ∧
      (reference "purchases.cost").toList <:+: composition.sql.toList ∧
      ¬ firm.Leads Uses (Shows ⟨firmModels⟩ {} "sales" "payroll.wages") surplus := by
  obtain ⟨composition, composed, written, fields⟩ := surplus_composed
  obtain ⟨required, stands, _, exactly⟩ := required_field_in_sql composed
  have wages : "payroll.wages" ∈ composition.requiredFields := by
    rw [SortedSet.mem_def, fields]
    exact List.mem_cons_self ..
  have usesCost : firm.Leads Uses (Shows ⟨firmModels⟩ {} "sales" "purchases.cost") surplus := by
    have uses : Uses surplus { name := "cost" } :=
      ⟨_, [{ name := "revenue" }], [{ name := "wages" }], rfl, by decide, by decide +kernel⟩
    exact .through uses rfl (.here ⟨"cost", by decide, firmModels[1], by decide, by decide, by decide⟩)
  refine ⟨firmModels_accepted, composition, composed, (required _).mp wages, usesCost, stands _ usesCost, ?_⟩
  have names : ∀ owner ∈ firmModels, isValidName owner.name ∧
      ∀ declared ∈ owner.measures, isValidName declared.name := by decide
  have derivedOnly : ∀ inner ∈ surplus :: firm.metrics,
      inner.kind.type = .derived → inner = surplus := by decide +kernel
  rw [← exactly ?_ ?_ ?_ _ wages, written]
  · decide +kernel
  · simp [Naming.PlainPrefix]
  · intro measure owner owned
    obtain ⟨member, declares⟩ := (ModelSet.ownerOfMeasure?_eq_some_iff firmModels_accepted).mp owned
    obtain ⟨declared, among, rfl⟩ := SemanticModel.declaresMeasure_iff.mp declares
    obtain ⟨ownerValid, measures⟩ := names owner member
    exact ⟨ownerValid, measures declared among⟩
  · intro path inner expression inputs trail kind
    have single := derivedOnly inner (MetricCatalog.mem_cons_of_trail trail) (by rw [kind]; rfl)
    subst single
    cases kind
    decide

/-- The wages are required of the surplus though its SQL does not refer to them. -/
theorem wages_required_without_reference :
    ModelSet.ofModels firmModels = .ok ⟨firmModels⟩ ∧ ∃ composition,
    compose ⟨firmModels⟩ firm {} "sales" surplus = .ok composition ∧
      "payroll.wages" ∈ composition.requiredFields ∧
      ¬ (reference "payroll.wages").toList <:+: composition.sql.toList := by
  obtain ⟨composition, composed, written, fields⟩ := surplus_composed
  refine ⟨firmModels_accepted, composition, composed, ?_, ?_⟩
  · rw [SortedSet.mem_def, fields]
    exact List.mem_cons_self ..
  · rw [written]
    decide +kernel

end SemanticLayer.LookML
