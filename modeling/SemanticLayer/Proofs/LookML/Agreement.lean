import SemanticLayer.Proofs.LookML.Composition
import SemanticLayer.Proofs.MetricCatalog.Failure
namespace SemanticLayer.LookML

/-! Extracting the measures of a metric and composing its SQL are the same walk.

Composing adds one reason to fail, a measure that no model owns. Where there is none, both end with
a value or both with the same error, which for a cycle of references shows the cycle that the metric
runs into, whether or not it lies on it. -/

open SemanticLayer.Order MetricCatalog

variable {set : ModelSet} {catalog : MetricCatalog} {naming : Naming} {anchorModel : String}
  {metric : Metric} {reason : MetricError}

theorem accepts_composition
    (owned : ∀ path inner, catalog.Trail metric path inner → ∀ measure ∈ inner.kind.payload,
      ∃ owner, set.ownerOfMeasure? measure = some owner) :
    catalog.Accepts (Composition.algebra set naming metric.name anchorModel) metric :=
  fun path inner trail => Composition.exists_combine_of_owned (owned path inner trail)

/-- Composing fails at the first reference that cannot be followed, or for a measure without owner. -/
theorem obstacle_of_compose_error
    (failed : compose set catalog naming anchorModel metric = .error reason) :
    catalog.Obstacle metric reason ∨ ∃ measure, reason = .unknownMeasureReference metric.name measure := by
  rcases obstacle_of_foldFrom_error .start (List.nodup_singleton _) failed with
    obstacle | ⟨_, _, _, _, combined⟩
  · exact .inl obstacle
  · obtain ⟨measure, _, _, unknown⟩ := Composition.unowned_of_combine_error combined
    exact .inr ⟨measure, unknown⟩

/-- A cycle that is reported of a metric is one that its references run into. The metric is on the
cycle exactly when it is the one that the last reference leads back to. -/
theorem reported_cycle_run_into (declared : catalog.metric? metric.name = some metric)
    {name : String} {cycle : List String}
    (failed : catalog.measures metric = .error (.circularMetricReference name cycle) ∨
      compose set catalog naming anchorModel metric = .error (.circularMetricReference name cycle)) :
    name = metric.name ∧ ∃ approach, catalog.RunsInto metric approach cycle ∧
      (metric.name ∈ cycle ↔ approach = []) := by
  have obstacle : catalog.Obstacle metric (.circularMetricReference name cycle) := by
    rcases failed with extracting | composing
    · exact obstacle_of_measures_error extracting
    · rcases obstacle_of_compose_error composing with obstacle | ⟨_, unknown⟩
      · exact obstacle
      · cases unknown
  cases obstacle with
  | circular trail distinct member known =>
      obtain ⟨approach, runs⟩ := runsInto_cycleAt declared trail distinct member known
      exact ⟨rfl, approach, runs, runs.mem_iff⟩

/-- The revenue is a measure of sales, the cost one of purchases. -/
def tradeModels : List SemanticModel := [
  { name := "sales", measures := [{ name := "revenue", aggregation := .sum }] },
  { name := "purchases", measures := [{ name := "cost", aggregation := .sum }] }]

/-- Of the growth the cycle on which it lies is reported, of the outlook one that it only leads to. -/
theorem growth_on_cycle_outlook_before_it :
    forecasts.metric? growth.name = some growth ∧
      forecasts.measures growth =
        .error (.circularMetricReference "growth" ["growth", "trend", "growth"]) ∧
      forecasts.RunsInto growth [] ["growth", "trend", "growth"] ∧
      forecasts.metric? outlook.name = some outlook ∧
      compose ⟨tradeModels⟩ forecasts {} "sales" outlook =
        .error (.circularMetricReference "outlook" ["growth", "trend", "growth"]) ∧
      ∃ approach, approach ≠ [] ∧ forecasts.RunsInto outlook approach ["growth", "trend", "growth"] := by
  have extracting : forecasts.measures growth =
      .error (.circularMetricReference "growth" ["growth", "trend", "growth"]) := by decide +kernel
  have composing : compose ⟨tradeModels⟩ forecasts {} "sales" outlook =
      .error (.circularMetricReference "outlook" ["growth", "trend", "growth"]) := by decide +kernel
  have reported : forecasts.measures growth =
        .error (.circularMetricReference "growth" ["growth", "trend", "growth"]) ∨
      compose ⟨tradeModels⟩ forecasts {} "sales" growth =
        .error (.circularMetricReference "growth" ["growth", "trend", "growth"]) := .inl extracting
  obtain ⟨_, direct, growthRuns, growthOn⟩ := reported_cycle_run_into rfl reported
  obtain ⟨_, approach, outlookRuns, outlookOn⟩ := reported_cycle_run_into rfl (.inr composing)
  have onCycle : direct = [] := growthOn.mp (by decide)
  subst onCycle
  have offCycle : outlook.name ∉ ["growth", "trend", "growth"] := by decide
  exact ⟨rfl, extracting, growthRuns, rfl, composing, approach,
    fun none => offCycle (outlookOn.mpr none), outlookRuns⟩

/-- The outlook is reported as part of a cycle that it is not on. -/
theorem outlook_not_on_reported_cycle :
    forecasts.metric? outlook.name = some outlook ∧
      forecasts.measures outlook =
        .error (.circularMetricReference outlook.name ["growth", "trend", "growth"]) ∧
      compose ⟨tradeModels⟩ forecasts {} "sales" outlook =
        .error (.circularMetricReference outlook.name ["growth", "trend", "growth"]) ∧
      outlook.name ∉ ["growth", "trend", "growth"] := by
  refine ⟨rfl, ?_, ?_, ?_⟩ <;> decide +kernel

/-- Whatever measures are extracted, composing succeeds when models own them, and requires fields of
other models among them only. When none are extracted composing fails too, and with the same error
where every measure that is named has an owner. -/
theorem compose_agrees_with_measures (set : ModelSet) (catalog : MetricCatalog) (naming : Naming)
    (anchorModel : String) (metric : Metric) :
    (∀ measures, catalog.measures metric = .ok measures →
      (∀ measure ∈ measures, ∃ owner, set.ownerOfMeasure? measure = some owner) →
      ∃ composition, compose set catalog naming anchorModel metric = .ok composition ∧
        composition.requiredFields.items.Pairwise (· < ·) ∧
        ∀ field ∈ composition.requiredFields, ∃ measure ∈ measures, ∃ owner,
          set.ownerOfMeasure? measure = some owner ∧ owner.name ≠ anchorModel ∧
            field = naming.view owner.name ++ "." ++ measure) ∧
    ∀ reason, catalog.measures metric = .error reason →
      (∃ other, compose set catalog naming anchorModel metric = .error other) ∧
      ((∀ named ∈ metric :: catalog.metrics, ∀ measure ∈ named.kind.payload,
          ∃ owner, set.ownerOfMeasure? measure = some owner) →
        compose set catalog naming anchorModel metric = .error reason) := by
  refine ⟨?_, ?_⟩
  · intro measures extracted owned
    obtain ⟨defined, acyclic⟩ := exists_measures_iff.mp ⟨measures, extracted⟩
    obtain ⟨composition, composed⟩ : ∃ composition,
        compose set catalog naming anchorModel metric = .ok composition := by
      refine exists_compose_of_owned defined acyclic fun path inner trail measure named => ?_
      exact owned measure ((mem_measures_iff extracted).mpr ⟨path, inner, trail, named⟩)
    refine ⟨composition, composed, composition.requiredFields.ascending, fun field required => ?_⟩
    obtain ⟨path, inner, trail, measure, named, owner, ownedBy, joined, qualified⟩ :=
      exists_trail_of_mem_requiredFields composed field required
    exact ⟨measure, (mem_measures_iff extracted).mpr ⟨path, inner, trail, named⟩, owner, ownedBy,
      joined, qualified⟩
  · intro reason failed
    refine ⟨?_, fun owned => ?_⟩
    · cases composed : compose set catalog naming anchorModel metric with
      | error other => exact ⟨other, rfl⟩
      | ok composition =>
          have passed := exists_fold_eq_ok_iff.mp ⟨composition, composed⟩
          have sound := defined_and_acyclic_iff.mpr fun path inner trail => (passed path inner trail).1
          obtain ⟨measures, extracted⟩ := exists_measures_iff.mpr sound
          rw [failed] at extracted
          cases extracted
    · have accepts : catalog.Accepts (Composition.algebra set naming metric.name anchorModel) metric :=
        accepts_composition fun path inner trail => owned inner (mem_cons_of_trail trail)
      have same := error?_foldFrom_eq (accepts_measures metric) accepts .start
      exact Attempt.error?_eq_some_iff.mp (same ▸ Attempt.error?_eq_some_iff.mpr failed)

/-- Seen from sales the margin requires the cost, and the outlook fails as its extraction does. -/
theorem margin_requires_cost :
    (∃ measures composition, forecasts.measures margin = .ok measures ∧
      compose ⟨tradeModels⟩ forecasts {} "sales" margin = .ok composition ∧
      composition.requiredFields.items = ["purchases.cost"] ∧
      ∃ measure ∈ measures, ∃ owner, ModelSet.ownerOfMeasure? ⟨tradeModels⟩ measure = some owner ∧
        owner.name ≠ "sales" ∧ "purchases.cost" = Naming.view {} owner.name ++ "." ++ measure) ∧
    ∃ reason, forecasts.measures outlook = .error reason ∧
      compose ⟨tradeModels⟩ forecasts {} "sales" outlook = .error reason := by
  have isOwned : ∀ named ∈ forecasts.metrics, ∀ measure ∈ named.kind.payload,
      (ModelSet.ownerOfMeasure? ⟨tradeModels⟩ measure).isSome := by decide +kernel
  have owned : ∀ named ∈ forecasts.metrics, ∀ measure ∈ named.kind.payload,
      ∃ owner, ModelSet.ownerOfMeasure? ⟨tradeModels⟩ measure = some owner :=
    fun named member measure among => Option.isSome_iff_exists.mp (isOwned named member measure among)
  have marginDefined : forecasts.metric? "margin" = some margin := rfl
  have outlookDefined : forecasts.metric? "outlook" = some outlook := rfl
  constructor
  · obtain ⟨measures, extracted, _⟩ := Attempt.exists_ok_of_any (forecasts.measures margin)
      (fun _ => true) (by decide +kernel)
    obtain ⟨composition, composed, listed⟩ := Attempt.exists_ok_of_any
      (compose ⟨tradeModels⟩ forecasts {} "sales" margin)
      (fun composition => composition.requiredFields.items == ["purchases.cost"]) (by decide +kernel)
    have extractedOwned : ∀ measure ∈ measures,
        ∃ owner, ModelSet.ownerOfMeasure? ⟨tradeModels⟩ measure = some owner := by
      intro measure member
      obtain ⟨_, inner, trail, named⟩ := (mem_measures_iff extracted).mp member
      rcases List.mem_cons.mp (mem_cons_of_trail trail) with rfl | inCatalog
      · exact owned _ (mem_of_metric? marginDefined) measure named
      · exact owned inner inCatalog measure named
    obtain ⟨other, otherComposed, _, required⟩ :=
      (compose_agrees_with_measures ⟨tradeModels⟩ forecasts {} "sales" margin).1 measures extracted
        extractedOwned
    rw [composed, Except.ok.injEq] at otherComposed
    subst otherComposed
    have fields := beq_iff_eq.mp listed
    have cost : "purchases.cost" ∈ composition.requiredFields := by
      rw [SortedSet.mem_def, fields]
      exact List.mem_cons_self ..
    exact ⟨measures, composition, extracted, composed, fields, required _ cost⟩
  · have failed : forecasts.measures outlook =
        .error (.circularMetricReference "outlook" ["growth", "trend", "growth"]) := by decide +kernel
    refine ⟨_, failed, ?_⟩
    refine ((compose_agrees_with_measures ⟨tradeModels⟩ forecasts {} "sales" outlook).2 _ failed).2 ?_
    exact List.forall_mem_cons.mpr ⟨owned outlook (mem_of_metric? outlookDefined), owned⟩

end SemanticLayer.LookML
