import SemanticLayer.Proofs.CommandLine.Validation
import SemanticLayer.Proofs.FileTree.FileList
import SemanticLayer.Proofs.Order.Sorting
namespace SemanticLayer

/-! The files that a run leaves behind.

A run comes to writing only when all that it is asked for has been made (`CommandLine.Delivers`). It
then writes every file of the output (`CommandLine.run_of_delivers`), and any other run changes
nothing (`CommandLine.run_of_not_delivers`). -/

theorem Output.files_names_nodup (output : Output) (options : LookML.EmitOptions) :
    ((output.files options).map Prod.fst).Nodup :=
  ((Order.sortedOn_perm Prod.fst _).map Prod.fst).nodup_iff.mpr (LookML.lastOfEach_names_nodup _)

namespace CommandLine

/-- The directory into which a request has files written: that of the request, else of the settings. -/
def GenerateRequest.LeadsTo (request : GenerateRequest) (settings : Settings)
    (environment : Settings.Environment) (directory : String) : Prop :=
  request.output = some directory ∨
    (request.output = none ∧ settings.resolvedDirectory environment = .ok directory)

/-- The arguments ask for `output` to be written into `directory`, and nothing before that fails. -/
inductive Delivers (surroundings : Surroundings) (arguments : List String) (directory : String)
    (output : Output) : Prop
  | intro {invocation request settings project options}
      (asked : Request.ofArguments? arguments = some (.invocation invocation))
      (command : invocation.command = .generate request)
      (format : request.format = .lookml)
      (wet : request.dryRun = false)
      (prepared : Prepared surroundings invocation.config request.input settings project options)
      (generated : generate project { options with mode := request.mode.getD options.mode } = .ok output)
      (destination : request.LeadsTo settings surroundings.environment directory)

variable {surroundings : Surroundings} {arguments : List String} {directory : String}
  {output : Output} {files : List (String × String)} {errors : List String} {verbose : Bool}
  {settings : Settings} {request : GenerateRequest} {place made after : Place}

theorem of_planGenerate
    (planned : planGenerate surroundings settings verbose request = .ok (.write directory files errors)) :
    ∃ project options output, Project.load surroundings.place request.input = .ok project ∧
      settings.options surroundings.environment = .ok options ∧
      generate project { options with mode := request.mode.getD options.mode } = .ok output ∧
      request.format = .lookml ∧ request.dryRun = false ∧
      request.LeadsTo settings surroundings.environment directory := by
  unfold planGenerate at planned
  obtain ⟨project, read, planned⟩ := Attempt.bind_eq_ok_iff.mp planned
  obtain ⟨options, resolved, planned⟩ := Attempt.bind_eq_ok_iff.mp planned
  obtain ⟨output, generated, planned⟩ := Attempt.bind_eq_ok_iff.mp planned
  refine ⟨project, options, output, Attempt.mapError_eq_ok_iff.mp read,
    Attempt.mapError_eq_ok_iff.mp resolved, Attempt.mapError_eq_ok_iff.mp generated, ?_⟩
  -- Every other way out of the plan shows the output or ends with an error.
  cases format : request.format with
  | json =>
      rw [format] at planned
      cases planned
  | lookml =>
      cases dry : request.dryRun with
      | true =>
          simp only [format, dry] at planned
          cases planned
      | false =>
          simp only [format, dry] at planned
          refine ⟨rfl, rfl, ?_⟩
          cases named : request.output with
          | some chosen =>
              rw [named] at planned
              cases planned
              exact .inl named
          | none =>
              cases destination : settings.resolvedDirectory surroundings.environment with
              | error error =>
                  simp only [named, destination] at planned
                  cases planned
              | ok chosen =>
                  simp only [named, destination] at planned
                  cases planned
                  exact .inr ⟨named, destination⟩

theorem map_finish_ne_write (action : Attempt Outcome) :
    action.map Plan.finish ≠ .ok (.write directory files errors) := by
  cases action <;> exact nofun

theorem delivers_of_plan
    (planned : Plan.ofArguments surroundings arguments = .write directory files errors) :
    ∃ output, Delivers surroundings arguments directory output := by
  unfold Plan.ofArguments at planned
  split at planned
  · cases planned
  · cases planned
  · cases planned
  · rename_i invocation asked
    unfold Plan.ofInvocation at planned
    split at planned
    · rename_i plan attempted
      subst planned
      unfold attempt at attempted
      obtain ⟨settings, loaded, attempted⟩ := Attempt.bind_eq_ok_iff.mp attempted
      cases command : invocation.command with
      | validate input =>
          rw [command] at attempted
          exact absurd attempted (map_finish_ne_write _)
      | list input =>
          rw [command] at attempted
          exact absurd attempted (map_finish_ne_write _)
      | generate request =>
          rw [command] at attempted
          obtain ⟨project, options, output, read, resolved, generated, format, wet, destination⟩ :=
            of_planGenerate attempted
          exact ⟨output, .intro asked command format wet
            ⟨Attempt.mapError_eq_ok_iff.mp loaded, read, resolved⟩ generated destination⟩
    · cases planned

theorem planGenerate_of_prepared {config : Option String} {project : Project} {options : Options}
    (prepared : Prepared surroundings config request.input settings project options)
    (generated : generate project { options with mode := request.mode.getD options.mode } = .ok output)
    (format : request.format = .lookml) (wet : request.dryRun = false)
    (destination : request.LeadsTo settings surroundings.environment directory) (verbose : Bool) :
    ∃ errors, planGenerate surroundings settings verbose request =
      .ok (.write directory (output.files {}) errors) := by
  have read : loadProject surroundings request.input = .ok project :=
    Attempt.mapError_eq_ok_iff.mpr prepared.read
  have resolved : orConfigurationError (settings.options surroundings.environment) = .ok options :=
    Attempt.mapError_eq_ok_iff.mpr prepared.resolved
  have made : generateOr "Generation error" project
      { options with mode := request.mode.getD options.mode } = .ok output :=
    Attempt.mapError_eq_ok_iff.mpr generated
  refine ⟨output.diagnostics.map diagnosticLine ++
    if verbose then [s!"Fingerprint: {output.fingerprint}"] else [], ?_⟩
  unfold planGenerate
  rw [read, resolved]
  simp only [Attempt.bind_eq_ok_iff, Except.ok.injEq, exists_eq_left', made, format, wet]
  rcases destination with named | ⟨unnamed, chosen⟩
  · rw [named]
    rfl
  · rw [unnamed, chosen]
    rfl

theorem plan_of_delivers (delivers : Delivers surroundings arguments directory output) :
    ∃ errors, Plan.ofArguments surroundings arguments = .write directory (output.files {}) errors := by
  obtain @⟨invocation, request, settings, project, options, asked, command, format, wet, prepared,
    generated, destination⟩ := delivers
  obtain ⟨errors, planned⟩ :=
    planGenerate_of_prepared prepared generated format wet destination invocation.verbose
  have loaded : loadSettings surroundings invocation.config = .ok settings :=
    Attempt.mapError_eq_ok_iff.mpr prepared.loaded
  have attempted : attempt surroundings invocation = .ok (.write directory (output.files {}) errors) := by
    unfold attempt
    rw [loaded, command]
    exact planned
  refine ⟨errors, ?_⟩
  unfold Plan.ofArguments Plan.ofInvocation
  rw [asked]
  simp only [attempted]

/-- The single write of a file, given by name and text. -/
def writeFile (directory : String) (place : Place) (file : String × String) : Except FileError Place :=
  place.writeText (Path.join directory file.1) file.2

/-- Making the directory and every single write succeed, and lead to `after`. -/
def WritesSucceed (place : Place) (directory : String) (files : List (String × String))
    (after : Place) : Prop :=
  ∃ made, place.createDirectories directory = .ok made ∧
    files.foldlM (writeFile directory) made = .ok after

theorem wroteAll_of_foldlM (written : files.foldlM (writeFile directory) place = .ok after) :
    Place.WroteAll directory place files after := by
  induction files generalizing place with
  | nil =>
      cases written
      exact .nil
  | cons file rest ih =>
      obtain ⟨middle, first, others⟩ := Attempt.bind_eq_ok_iff.mp written
      exact .cons (Place.wrote_of_writeText first) (ih others)

theorem writeFiles_eq_iff :
    writeFiles place directory files = (after, none) ↔
      files.foldlM (writeFile directory) place = .ok after := by
  induction files generalizing place with
  | nil => simp [writeFiles, pure, Except.pure]
  | cons file rest ih =>
      rw [List.foldlM_cons, writeFiles, writeFile]
      cases place.writeText (Path.join directory file.1) file.2 with
      | ok next => exact ih
      | error error => exact iff_of_false nofun nofun

theorem carryOut_of_writesSucceed (succeed : WritesSucceed place directory files after) :
    (Plan.write directory files errors).carryOut place =
      (writeOutcome directory files errors none, after) := by
  obtain ⟨made, created, written⟩ := succeed
  simp only [Plan.carryOut, created, writeFiles_eq_iff.mpr written, Option.map_none]

/-- A run that writes ends with code 0 exactly when every single write succeeds. -/
theorem carryOut_write_code_iff :
    ((Plan.write directory files errors).carryOut place).1.code = 0 ↔
      ∃ after, WritesSucceed place directory files after := by
  constructor
  · intro code
    cases created : place.createDirectories directory with
    | error error =>
        simp only [Plan.carryOut, created, Option.map_some] at code
        cases code
    | ok made =>
        rcases written : writeFiles made directory files with ⟨after, none | error⟩
        · exact ⟨after, made, created, writeFiles_eq_iff.mp written⟩
        · simp only [Plan.carryOut, created, written, Option.map_some] at code
          cases code
  · intro written
    obtain ⟨after, succeed⟩ := written
    rw [carryOut_of_writesSucceed succeed]
    rfl

theorem run_of_not_delivers
    (idle : ∀ directory output, ¬ Delivers surroundings arguments directory output) :
    (run surroundings arguments).2 = surroundings.place := by
  unfold run
  cases planned : Plan.ofArguments surroundings arguments with
  | finish outcome => rfl
  | write directory files errors =>
      obtain ⟨output, delivers⟩ := delivers_of_plan planned
      exact absurd delivers (idle directory output)

theorem run_of_delivers (delivers : Delivers surroundings arguments directory output) :
    ∃ errors, run surroundings arguments =
      (Plan.write directory (output.files {}) errors).carryOut surroundings.place := by
  obtain ⟨errors, planned⟩ := plan_of_delivers delivers
  exact ⟨errors, congrArg (Plan.carryOut surroundings.place) planned⟩

theorem run_ofInvocation {invocation : Invocation}
    (asked : Request.ofArguments? arguments = some (.invocation invocation)) :
    run surroundings arguments =
      (Plan.ofInvocation surroundings invocation).carryOut surroundings.place := by
  unfold run Plan.ofArguments
  rw [asked]

/-- A run changes files only if it is to write the files of a project into a directory and nothing
before the writing fails. If then every single write succeeds, and only then, it ends with code 0;
the files have been written one after the other, each under its name with its text, and all else is
as before. They all hold their texts in the end exactly when names that lead to one file belong to
one text, as names without a slash do, under which the files stand in the directory itself. Validating
a project succeeds exactly when a strict run does that writes nothing. -/
theorem run_writes_complete_results (surroundings : Surroundings) (arguments : List String) :
    ((∀ directory output, ¬ Delivers surroundings arguments directory output) →
      (run surroundings arguments).2 = surroundings.place) ∧
    (∀ directory output, Delivers surroundings arguments directory output →
      ((run surroundings arguments).1.code = 0 ↔
        ∃ after, WritesSucceed surroundings.place directory (output.files {}) after) ∧
      ∀ after, WritesSucceed surroundings.place directory (output.files {}) after →
        (run surroundings arguments).2 = after ∧
        (∃ made, surroundings.place.createDirectories directory = .ok made ∧
          Place.WroteAll directory made (output.files {}) after) ∧
        surroundings.place.HasFiles directory (output.files {}) after ∧
        ((∀ file ∈ output.files {}, after.Holds directory file) ↔
          after.Agree directory (output.files {})) ∧
        ((∀ file ∈ output.files {}, Path.IsPlain file.1) → ∀ file ∈ output.files {},
          after.Holds directory file ∧
          ∃ front, after.locate (Path.join directory file.1) = .ok (front ++ [file.1]) ∧
            (directory ≠ "" → after.locate directory = .ok front))) ∧
    ∀ checking generating checked generated request,
      Request.ofArguments? checking = some (.invocation checked) →
      Request.ofArguments? generating = some (.invocation generated) →
      generated.command = .generate request → checked.command = .validate request.input →
      checked.config = generated.config → request.mode = some .strict → request.dryRun = true →
        ((run surroundings checking).1.code = 0 ↔ (run surroundings generating).1.code = 0) := by
  refine ⟨run_of_not_delivers, fun directory output delivers => ?_, ?_⟩
  · obtain ⟨errors, ran⟩ := run_of_delivers delivers
    rw [ran]
    refine ⟨carryOut_write_code_iff, fun after succeed => ?_⟩
    rw [carryOut_of_writesSucceed succeed]
    obtain ⟨made, created, written⟩ := succeed
    have wrote := wroteAll_of_foldlM written
    have kept := (Place.addsDirectories_of_createDirectories created).2
    refine ⟨rfl, ⟨made, created, wrote⟩, wrote.hasFiles kept, wrote.holds_iff, ?_⟩
    intro plain file member
    have agree := wrote.agree_of_plain plain (output.files_names_nodup {})
    exact ⟨wrote.holds_iff.mpr agree file member, wrote.stands_in plain member⟩
  · intro checking generating checked generated request asksCheck asksGenerate generates checks config
      strict dry
    rw [run_ofInvocation asksCheck, run_ofInvocation asksGenerate]
    exact validate_iff_dryRun checks generates strict dry config

/-- A directory with one file of declarations. -/
def declaring (text : String) : Surroundings :=
  { place := ⟨.directory [("shop.yml", .file text.toUTF8)], []⟩
    environment := fun _ => none }

def intoOut : List String := ["generate", "shop.yml", "-o", "out"]

/-- A run over such a directory that comes to writing and in which every write succeeds. -/
theorem exists_delivers {text : String} {project : Project} (check : Output → Place → Bool)
    (loaded : Settings.load (declaring text).place (declaring text).environment none = .ok {})
    (read : Project.load (declaring text).place "shop.yml" = .ok project)
    (checked : (generate project {}).toOption.any fun output =>
      ((declaring text).place.createDirectories "out" >>= fun made =>
        (output.files {}).foldlM (writeFile "out") made).toOption.any (check output)) :
    ∃ output after, Delivers (declaring text) intoOut "out" output ∧
      WritesSucceed (declaring text).place "out" (output.files {}) after ∧ check output after := by
  obtain ⟨output, generated, written⟩ := Attempt.exists_ok_of_any _ _ checked
  obtain ⟨after, ended, holds⟩ := Attempt.exists_ok_of_any _ _ written
  have asked : Request.ofArguments? intoOut =
      some (.invocation { command := .generate { input := "shop.yml", output := some "out" } }) := by
    decide +kernel
  have resolved : Settings.options {} (fun _ => none) = .ok {} :=
    Attempt.toOption_eq_some_iff.mp (by decide +kernel)
  exact ⟨output, after, .intro asked rfl rfl rfl ⟨loaded, read, resolved⟩ generated (.inl rfl),
    Attempt.bind_eq_ok_iff.mp ended, holds⟩

def shopSurroundings : Surroundings :=
  declaring "semantic_models: [{name: shops, entities: [{name: shop, type: primary}]}]"

def shopProject : Project := { models := [{ name := "shops", entities := [⟨"shop", .primary, "shop"⟩] }] }

/-- A view and an explore are written for it, and it is valid. -/
theorem shop_files_written :
    ∃ output after,
      Delivers shopSurroundings intoOut "out" output ∧
      (output.files {}).map Prod.fst = ["explores.lkml", "shops.view.lkml"] ∧
      WritesSucceed shopSurroundings.place "out" (output.files {}) after ∧
      (run shopSurroundings intoOut).1.code = 0 ∧
      (run shopSurroundings intoOut).2 = after ∧
      (∀ file ∈ output.files {}, after.Holds "out" file ∧
        ∃ front, after.locate (Path.join "out" file.1) = .ok (front ++ [file.1]) ∧
          after.locate "out" = .ok front) ∧
      ((run shopSurroundings ["validate", "shop.yml"]).1.code = 0 ↔
        (run shopSurroundings ["generate", "--strict", "--dry-run", "shop.yml"]).1.code = 0) := by
  have loaded : Settings.load shopSurroundings.place shopSurroundings.environment none = .ok {} :=
    Attempt.toOption_eq_some_iff.mp (by decide +kernel)
  have read : Project.load shopSurroundings.place "shop.yml" = .ok shopProject :=
    Attempt.toOption_eq_some_iff.mp (by decide +kernel)
  obtain ⟨output, after, delivers, succeed, names⟩ := exists_delivers
    (fun output _ => (output.files {}).map Prod.fst == ["explores.lkml", "shops.view.lkml"])
    loaded read (by decide +kernel)
  rw [beq_iff_eq] at names
  obtain ⟨_, writes, validates⟩ := run_writes_complete_results shopSurroundings intoOut
  obtain ⟨coded, finishes⟩ := writes "out" output delivers
  obtain ⟨leaves, _, _, _, stand⟩ := finishes after succeed
  have plain : ∀ file ∈ output.files {}, Path.IsPlain file.1 := by
    intro file member
    have name : file.1 ∈ ["explores.lkml", "shops.view.lkml"] := names ▸ List.mem_map_of_mem member
    rcases List.mem_pair.mp name with same | same
    · rw [same]
      exact (by decide : '/' ∉ "explores.lkml".toList)
    · rw [same]
      exact (by decide : '/' ∉ "shops.view.lkml".toList)
  refine ⟨output, after, delivers, names, succeed, coded.mpr ⟨after, succeed⟩, leaves, ?_, ?_⟩
  · intro file member
    obtain ⟨holds, front, located, own⟩ := stand plain file member
    exact ⟨holds, front, located, own (by decide)⟩
  · have checks : Request.ofArguments? ["validate", "shop.yml"] =
        some (.invocation { command := .validate "shop.yml" }) := by decide +kernel
    have generates : Request.ofArguments? ["generate", "--strict", "--dry-run", "shop.yml"] =
        some (.invocation
          { command := .generate { input := "shop.yml", mode := some .strict, dryRun := true } }) := by
      decide +kernel
    exact validates _ _ _ _ _ checks generates rfl rfl rfl rfl rfl

def twinSurroundings : Surroundings := declaring "semantic_models: [{name: shops}, {name: ./shops}]"

def twinProject : Project := { models := [{ name := "shops" }, { name := "./shops" }] }

/-- Two views are rendered and every write succeeds, but one file is left of them. -/
theorem twin_views_share_a_file :
    ∃ output after,
      Delivers twinSurroundings intoOut "out" output ∧
      (output.files {}).map Prod.fst = ["./shops.view.lkml", "shops.view.lkml"] ∧
      WritesSucceed twinSurroundings.place "out" (output.files {}) after ∧
      (run twinSurroundings intoOut).1.code = 0 ∧
      (run twinSurroundings intoOut).2 = after ∧
      ¬ ∀ file ∈ output.files {}, after.Holds "out" file := by
  have loaded : Settings.load twinSurroundings.place twinSurroundings.environment none = .ok {} :=
    Attempt.toOption_eq_some_iff.mp (by decide +kernel)
  have read : Project.load twinSurroundings.place "shop.yml" = .ok twinProject :=
    Attempt.toOption_eq_some_iff.mp (by decide +kernel)
  obtain ⟨output, after, delivers, succeed, checked⟩ := exists_delivers
    (fun output after =>
      (output.files {}).map Prod.fst == ["./shops.view.lkml", "shops.view.lkml"] &&
      ((output.files {}).map Prod.snd).Nodup &&
      (output.files {}).all fun file =>
        (after.locate (Path.join "out" file.1)).toOption == some ["out", "shops.view.lkml"])
    loaded read (by decide +kernel)
  simp only [Bool.and_eq_true, beq_iff_eq, decide_eq_true_eq, List.all_eq_true] at checked
  obtain ⟨⟨names, texts⟩, leads⟩ := checked
  obtain ⟨errors, planned⟩ := run_of_delivers delivers
  have ran : run twinSurroundings intoOut = (writeOutcome "out" (output.files {}) errors none, after) :=
    planned.trans (carryOut_of_writesSucceed succeed)
  refine ⟨output, after, delivers, names, succeed, ?_, congrArg Prod.snd ran, fun holds => ?_⟩
  · rw [ran]
    rfl
  obtain ⟨made, _, written⟩ := succeed
  have agree := (wroteAll_of_foldlM written).holds_iff.mp holds
  have firstListed : "./shops.view.lkml" ∈ (output.files {}).map Prod.fst := by simp [names]
  have secondListed : "shops.view.lkml" ∈ (output.files {}).map Prod.fst := by simp [names]
  obtain ⟨first, firstMember, firstName⟩ := List.mem_map.mp firstListed
  obtain ⟨second, secondMember, secondName⟩ := List.mem_map.mp secondListed
  have same : first.2 = second.2 :=
    agree first firstMember second secondMember _
      (Attempt.toOption_eq_some_iff.mp (leads first firstMember))
      (Attempt.toOption_eq_some_iff.mp (leads second secondMember))
  -- Different names have different texts here.
  rw [List.inj_on_of_nodup_map texts firstMember secondMember same, secondName] at firstName
  exact absurd firstName (by decide)

end CommandLine

end SemanticLayer
