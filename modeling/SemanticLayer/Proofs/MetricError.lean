import SemanticLayer.Generation
import SemanticLayer.Proofs.LookML.Agreement
namespace SemanticLayer

/-! Every error is about the metric that was to be resolved, however deep in its references
the cause lies, and the models that it names are there. -/

open SemanticLayer.Order LookML

variable {set : ModelSet} {catalog : MetricCatalog} {metric : Metric} {reason : MetricError}

/-- The error is about the metric called `about` and names models of the set only. -/
structure MetricError.Concerns (set : ModelSet) (about : String) (reason : MetricError) : Prop where
  metric : reason.metric = about
  models : ∀ name ∈ reason.models, ∃ model ∈ set.models, model.name = name

theorem MetricError.concerns_of_unknown {about measure : String} :
    (unknownMeasureReference about measure).Concerns set about := ⟨rfl, nofun⟩

namespace Anchor

theorem concerns_of_denominatorEntity_error {name denominator : String}
    (failed : denominatorEntity set name denominator = .error reason) : reason.Concerns set name := by
  unfold denominatorEntity at failed
  split at failed
  · cases failed
    exact MetricError.concerns_of_unknown
  · split at failed
    · cases failed
    · cases failed
      exact ⟨rfl, nofun⟩

theorem concerns_of_resolveEntity_error (failed : resolveEntity set metric = .error reason) :
    reason.Concerns set metric.name := by
  unfold resolveEntity at failed
  split at failed
  · cases failed
  · rename_i denominator _ _
    cases inferred : denominatorEntity set metric.name denominator with
    | ok entity => simp [inferred, Except.map] at failed
    | error own =>
        simp only [inferred, Except.map, Except.error.injEq] at failed
        rw [← failed]
        exact concerns_of_denominatorEntity_error inferred
  · cases failed
    exact ⟨rfl, nofun⟩

theorem concerns_of_resolve_error (failed : resolve set metric = .error reason) :
    reason.Concerns set metric.name := by
  unfold resolve at failed
  rcases Attempt.bind_eq_error_iff.mp failed with unidentified | ⟨⟨entity, source⟩, _, unowned⟩
  · exact concerns_of_resolveEntity_error unidentified
  · cases owned : set.ownerOfEntity? entity with
    | some model => simp [owned, pure, Except.pure] at unowned
    | none =>
        simp only [owned] at unowned
        cases unowned
        exact ⟨rfl, nofun⟩

theorem model_mem_of_resolve {anchor : Anchor} (resolved : resolve set metric = .ok anchor) :
    anchor.model ∈ set.models := by
  unfold resolve at resolved
  obtain ⟨⟨entity, source⟩, _, owned⟩ := Attempt.bind_eq_ok_iff.mp resolved
  cases found : set.ownerOfEntity? entity with
  | none => simp [found] at owned
  | some model =>
      simp only [found] at owned
      cases owned
      exact List.mem_of_find?_eq_some found

end Anchor

theorem MetricCatalog.Obstacle.concerns (set : ModelSet) (obstacle : catalog.Obstacle metric reason) :
    reason.Concerns set metric.name := by
  cases obstacle <;> exact ⟨rfl, nofun⟩

theorem concerns_of_validateConnectivity_error {graph : JoinGraph} {name anchorModel : String}
    {measures : List String} (anchored : ∃ model ∈ set.models, model.name = anchorModel)
    (failed : validateConnectivity set graph name anchorModel measures = .error reason) :
    reason.Concerns set name := by
  induction measures with
  | nil => cases failed
  | cons measure rest ih =>
      unfold validateConnectivity at failed
      split at failed
      · cases failed
        exact MetricError.concerns_of_unknown
      · next owner owned =>
          split at failed
          · exact ih failed
          · cases failed
            have ownerMember : ∃ model ∈ set.models, model.name = owner.name :=
              ⟨owner, List.mem_of_find?_eq_some owned, rfl⟩
            exact ⟨rfl, List.forall_mem_cons.mpr ⟨ownerMember, List.forall_mem_singleton.mpr anchored⟩⟩

theorem LookML.concerns_of_compose_error {naming : Naming} {anchorModel : String}
    (failed : compose set catalog naming anchorModel metric = .error reason) :
    reason.Concerns set metric.name := by
  rcases obstacle_of_compose_error failed with obstacle | ⟨_, rfl⟩
  · exact obstacle.concerns set
  · exact MetricError.concerns_of_unknown

theorem ResolvedMetric.concerns_of_resolve_error {options : Options}
    (failed : resolve set catalog options metric = .error reason) :
    reason.Concerns set metric.name := by
  unfold resolve at failed
  rcases Attempt.bind_eq_error_iff.mp failed with unanchored | ⟨anchor, anchored, failed⟩
  · exact Anchor.concerns_of_resolve_error unanchored
  rcases Attempt.bind_eq_error_iff.mp failed with unextracted | ⟨measures, _, failed⟩
  · exact (MetricCatalog.obstacle_of_measures_error unextracted).concerns set
  rcases Attempt.bind_eq_error_iff.mp failed with disconnected | ⟨_, _, failed⟩
  · exact concerns_of_validateConnectivity_error
      ⟨anchor.model, Anchor.model_mem_of_resolve anchored, rfl⟩ disconnected
  rcases Attempt.bind_eq_error_iff.mp failed with uncomposed | ⟨_, _, impossible⟩
  · exact concerns_of_compose_error uncomposed
  · cases impossible

end SemanticLayer
