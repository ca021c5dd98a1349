import SemanticLayer.Proofs.CommandLine.Preparation
import SemanticLayer.Proofs.Generation.Failure
namespace SemanticLayer

/-! Validating and generating.

A project is valid exactly when a strict run generates it (`clean_iff_strict`), so validating it
succeeds exactly when a strict run that writes nothing does (`CommandLine.validate_iff_dryRun`). -/

open Generation

/-- A lenient run has nothing to report exactly when a strict run succeeds. -/
theorem clean_iff_strict (project : Project) (options : Options) :
    (∃ output, generate project { options with mode := .lenient } = .ok output ∧
      output.hasErrors = false) ↔
      ∃ output, generate project { options with mode := .strict } = .ok output := by
  cases accepted : ModelSet.ofModels project.models with
  | error conflict =>
      rw [generate_of_conflict _ accepted, generate_of_conflict _ accepted]
      simp
  | ok set =>
      rw [generate_lenient options accepted, generate_strict options accepted]
      -- What the lenient run reports is what the strict run stops at.
      generalize project.rejected ++ failures set (.ofMetrics project.metrics) options = reported
      cases reported with
      | nil => exact iff_of_true ⟨_, rfl, rfl⟩ ⟨_, rfl⟩
      | cons error rest =>
          refine iff_of_false ?_ nofun
          intro clean
          obtain ⟨output, same, none⟩ := clean
          cases same
          cases none

namespace CommandLine

variable {surroundings : Surroundings} {settings : Settings} {input : String} {verbose : Bool}
  {request : GenerateRequest} {invocation : Invocation} {place : Place}

theorem code_ofInvocation_iff :
    ((Plan.ofInvocation surroundings invocation).carryOut place).1.code = 0 ↔
      ∃ plan, attempt surroundings invocation = .ok plan ∧ (plan.carryOut place).1.code = 0 := by
  unfold Plan.ofInvocation
  cases attempted : attempt surroundings invocation with
  | ok plan => simp
  | error outcome =>
      have one := attempt_failsWithOne surroundings invocation outcome attempted
      simp [Plan.carryOut, one]

theorem planValidate_iff :
    (∃ outcome, planValidate surroundings settings input = .ok outcome ∧ outcome.code = 0) ↔
      ∃ project, Project.load surroundings.place input = .ok project ∧
        ∃ options, settings.options surroundings.environment = .ok options ∧
          ∃ output, generate project { options with mode := .lenient } = .ok output ∧
            output.hasErrors = false := by
  unfold planValidate loadProject orConfigurationError generateOr
  simp only [Attempt.exists_bind_iff, Attempt.mapError_eq_ok_iff]
  refine exists_congr fun project => and_congr_right fun _ => ?_
  refine exists_congr fun options => and_congr_right fun _ => ?_
  refine exists_congr fun output => and_congr_right fun _ => ?_
  cases output.hasErrors with
  | false => exact iff_of_true ⟨_, rfl, rfl⟩ rfl
  | true => exact iff_of_false (fun checked => nomatch checked.choose_spec.1) nofun

theorem planDryRun_iff (dry : request.dryRun = true) :
    (∃ plan, planGenerate surroundings settings verbose request = .ok plan ∧
      (plan.carryOut place).1.code = 0) ↔
      ∃ project, Project.load surroundings.place request.input = .ok project ∧
        ∃ options, settings.options surroundings.environment = .ok options ∧
          ∃ output,
            generate project { options with mode := request.mode.getD options.mode } = .ok output := by
  unfold planGenerate loadProject orConfigurationError generateOr
  simp only [Attempt.exists_bind_iff, Attempt.mapError_eq_ok_iff]
  refine exists_congr fun project => and_congr_right fun _ => ?_
  refine exists_congr fun options => and_congr_right fun _ => ?_
  refine exists_congr fun output => and_iff_left ?_
  cases request.format with
  | json => exact ⟨_, rfl, rfl⟩
  | lookml =>
      rw [dry]
      exact ⟨_, rfl, rfl⟩

/-- Validating a project succeeds exactly when a strict run that writes nothing does. -/
theorem validate_iff_dryRun {checked generated : Invocation}
    (checks : checked.command = .validate request.input)
    (generates : generated.command = .generate request) (strict : request.mode = some .strict)
    (dry : request.dryRun = true) (config : checked.config = generated.config) :
    ((Plan.ofInvocation surroundings checked).carryOut surroundings.place).1.code = 0 ↔
      ((Plan.ofInvocation surroundings generated).carryOut surroundings.place).1.code = 0 := by
  rw [code_ofInvocation_iff, code_ofInvocation_iff]
  unfold attempt
  rw [Attempt.exists_bind_iff, Attempt.exists_bind_iff, config, checks, generates]
  refine exists_congr fun settings => and_congr_right fun _ => ?_
  have checking : (∃ plan, (planValidate surroundings settings request.input).map Plan.finish = .ok plan ∧
        (plan.carryOut surroundings.place).1.code = 0) ↔
      ∃ outcome, planValidate surroundings settings request.input = .ok outcome ∧ outcome.code = 0 :=
    Attempt.exists_map_iff
  refine (checking.trans planValidate_iff).trans (Iff.trans ?_ (planDryRun_iff dry).symm)
  refine exists_congr fun project => and_congr_right fun _ => ?_
  refine exists_congr fun options => and_congr_right fun _ => ?_
  rw [strict]
  exact clean_iff_strict project options

end CommandLine

end SemanticLayer
