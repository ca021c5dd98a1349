import SemanticLayer.Proofs.Generation.Outcome
namespace SemanticLayer

/-! What becomes of the metrics that fail.

A lenient run leaves them out and reports their errors, and a strict run ends with the first
error that a lenient run reports. -/

namespace Generation

/-- The errors of the metrics that do not pass every check, in ascending order of the names. -/
def failures (set : ModelSet) (catalog : MetricCatalog) (options : Options) : List MetricError :=
  (partition ((distinctMetrics catalog).map (ResolvedMetric.resolve set catalog options))).2

variable {set : ModelSet} {catalog : MetricCatalog} {options : Options}

theorem failures_eq (set : ModelSet) (catalog : MetricCatalog) (options : Options) :
    failures set catalog options =
      ((distinctMetrics catalog).map (ResolvedMetric.resolve set catalog options)).filterMap
        Attempt.error? := by
  refine congrArg (List.filterMap · _) (funext fun outcome => ?_)
  cases outcome <;> rfl

/-- Resolving the metrics until one fails. -/
theorem mapM_resolve :
    (distinctMetrics catalog).mapM (ResolvedMetric.resolve set catalog options) =
      match failures set catalog options with
      | [] => .ok (resolvedMetrics set catalog options)
      | error :: _ => .error error := by
  rw [Attempt.mapM_eq_of_errors, ← failures_eq]
  cases failures set catalog options <;> rfl

end Generation

open Generation

variable {project : Project} {set : ModelSet}

theorem generate_of_conflict {conflict : ModelConflict} (options : Options)
    (refused : ModelSet.ofModels project.models = .error conflict) :
    generate project options = .error (.models conflict) := by
  unfold generate
  rw [refused]

/-- A lenient run that gets past the models always succeeds. -/
theorem generate_lenient (options : Options) (accepted : ModelSet.ofModels project.models = .ok set) :
    generate project { options with mode := .lenient } =
      .ok (assemble set options (resolvedMetrics set (.ofMetrics project.metrics) options)
        (project.rejected ++ failures set (.ofMetrics project.metrics) options)) := by
  unfold generate run
  rw [accepted, firstOfEachName_eq]
  rfl

theorem generate_strict (options : Options) (accepted : ModelSet.ofModels project.models = .ok set) :
    generate project { options with mode := .strict } =
      match project.rejected ++ failures set (.ofMetrics project.metrics) options with
      | [] => .ok (assemble set options (resolvedMetrics set (.ofMetrics project.metrics) options) [])
      | error :: _ => .error (.metric error) := by
  unfold generate run
  rw [accepted, firstOfEachName_eq]
  cases project.rejected with
  | cons error rest => rfl
  | nil =>
      -- Resolving a metric does not depend on the mode.
      have resolution :
          ResolvedMetric.resolve set (.ofMetrics project.metrics) { options with mode := .strict } =
            ResolvedMetric.resolve set (.ofMetrics project.metrics) options := rfl
      simp only [resolution, mapM_resolve, List.nil_append]
      cases failures set (.ofMetrics project.metrics) options <;> rfl

/-- Two runs that differ in their mode only refuse the same models for the same reason.
Otherwise the lenient run succeeds, and the strict run has the same output when there is
nothing to report and else ends with the first error of the report. -/
theorem strict_stops_at_first_diagnostic (project : Project) (options : Options) :
    match ModelSet.ofModels project.models with
    | .error conflict =>
        ∀ mode, generate project { options with mode } = .error (.models conflict)
    | .ok _ =>
        ∃ output, generate project { options with mode := .lenient } = .ok output ∧
          generate project { options with mode := .strict } =
            match output.diagnostics with
            | [] => .ok output
            | error :: _ => .error (.metric error) := by
  cases accepted : ModelSet.ofModels project.models with
  | error conflict => exact fun _ => generate_of_conflict _ accepted
  | ok set =>
      refine ⟨_, generate_lenient options accepted, ?_⟩
      rw [generate_strict options accepted]
      generalize project.rejected ++ failures set (.ofMetrics project.metrics) options = reported
      cases reported <;> rfl

end SemanticLayer
