import SemanticLayer.CommandLine.Plan
import SemanticLayer.Proofs.Attempt
namespace SemanticLayer.CommandLine

/-! What comes before the work of a command.

Settings, project and options are loaded (`Prepared`), or the run ends with code 1
(`attempt_failsWithOne`). -/

/-- All that a command works on has been loaded. -/
structure Prepared (surroundings : Surroundings) (config : Option String) (input : String)
    (settings : Settings) (project : Project) (options : Options) : Prop where
  loaded : Settings.load surroundings.place surroundings.environment config = .ok settings
  read : Project.load surroundings.place input = .ok project
  resolved : settings.options surroundings.environment = .ok options

/-- If the attempt fails, the run ends with code 1. -/
def FailsWithOne (action : Attempt α) : Prop := ∀ outcome, action = .error outcome → outcome.code = 1

section Failing

variable {action : Attempt α} {next : α → Attempt β}

theorem failsWithOne_pure (value : α) : FailsWithOne (pure value) := nofun

theorem failsWithOne_throw {outcome : Outcome} (code : outcome.code = 1) :
    FailsWithOne (throw outcome : Attempt α) := by
  intro other same
  cases same
  exact code

theorem failsWithOne_mapError (result : Except ε α) (line : ε → String) :
    FailsWithOne (result.mapError fun error => failed (line error)) := by
  intro outcome failing
  cases result with
  | ok value => cases failing
  | error error =>
      cases failing
      rfl

theorem FailsWithOne.bind (fails : FailsWithOne action) (later : ∀ value, FailsWithOne (next value)) :
    FailsWithOne (action >>= next) := by
  intro outcome failing
  rcases Attempt.bind_eq_error_iff.mp failing with first | ⟨value, _, behind⟩
  · exact fails outcome first
  · exact later value outcome behind

theorem FailsWithOne.map (fails : FailsWithOne action) (change : α → β) :
    FailsWithOne (action.map change) := by
  intro outcome failing
  cases action with
  | ok value => cases failing
  | error error =>
      cases failing
      exact fails _ rfl

end Failing

variable (surroundings : Surroundings) (settings : Settings) (input : String)

theorem planGenerate_failsWithOne (verbose : Bool) (request : GenerateRequest) :
    FailsWithOne (planGenerate surroundings settings verbose request) := by
  refine (failsWithOne_mapError _ _).bind fun project => ?_
  refine (failsWithOne_mapError _ _).bind fun options => ?_
  refine (failsWithOne_mapError _ _).bind fun output => ?_
  cases request.format with
  | json => exact failsWithOne_pure _
  | lookml =>
      cases request.dryRun with
      | true => exact failsWithOne_pure _
      | false =>
          cases request.output with
          | some directory => exact failsWithOne_pure _
          | none =>
              cases settings.resolvedDirectory surroundings.environment with
              | ok directory => exact failsWithOne_pure _
              | error error => exact failsWithOne_throw rfl

theorem planValidate_failsWithOne : FailsWithOne (planValidate surroundings settings input) := by
  refine (failsWithOne_mapError _ _).bind fun project => ?_
  refine (failsWithOne_mapError _ _).bind fun options => ?_
  refine (failsWithOne_mapError _ _).bind fun output => ?_
  cases output.hasErrors with
  | true => exact failsWithOne_throw rfl
  | false => exact failsWithOne_pure _

theorem planList_failsWithOne : FailsWithOne (planList surroundings settings input) := by
  refine (failsWithOne_mapError _ _).bind fun project => ?_
  refine (failsWithOne_mapError _ _).bind fun options => ?_
  exact (failsWithOne_mapError _ _).bind fun output => failsWithOne_pure _

theorem attempt_failsWithOne (invocation : Invocation) :
    FailsWithOne (attempt surroundings invocation) := by
  refine (failsWithOne_mapError _ _).bind fun settings => ?_
  cases invocation.command with
  | generate request => exact planGenerate_failsWithOne surroundings settings _ request
  | validate input => exact (planValidate_failsWithOne surroundings settings input).map _
  | list input => exact (planList_failsWithOne surroundings settings input).map _

end SemanticLayer.CommandLine
