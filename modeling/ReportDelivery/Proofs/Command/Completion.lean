import ReportDelivery.Proofs.Command.Build
import ReportDelivery.Proofs.Delivery.Sufficiency

/-! What becomes of a build once its inputs are accepted.

On a console that takes what it shows, it writes the report and exits with 0, or tells what is wrong
and exits with 1, with two exceptions. A lone surrogate, which the loader lets through, has no place
in the output and ends the run where nothing is caught. So does a file that has no name under an
emptied target. -/
namespace ReportDelivery

variable {world : World} {arguments : Arguments} {build : BuildArguments} {scan : ScanData}
  {context : Option Repository} {report : Report} {kept : ScanData}

/-- What makes a build crash on inputs that were accepted. -/
inductive Crashes (scan : ScanData) (settings : Settings) (context : Option Repository)
    (strict : Bool) : Prop
  | unnamed {identity : Identity}
      (hidentity : Identity.establish strict scan settings context = .ok identity)
      (hnames : ¬ settings.Names scan)
  | surrogate {report : Report} {kept : ScanData}
      (hassemble : scan.assembleReport settings context strict = .ok (report, kept))
      (hholds : report.HoldsSurrogate)

namespace World

/-- The option for the output gives a path that the system takes. What is there, if anything, does
not matter. -/
def NamesOutput (world : World) (output : Setting Text) : Prop :=
  ∃ path, world.pathOf output = .ok path ∧ Path.check path = .ok ()

/-! ### Steps of a build -/

theorem writeReport_of_encoded (houtput : world.NamesOutput build.output) (verbose : Bool)
    {bytes : Bytes} (hbytes : report.encoded = .ok bytes) :
    (world.writeReport verbose build.output report).exit = .ok 0 ∨
      (world.writeReport verbose build.output report).exit = .ok 1 := by
  obtain ⟨path, hpath, hcheck⟩ := houtput
  rw [writeReport_def]
  rw [hpath, hbytes]
  dsimp only
  split
  · exact .inl rfl
  · exact .inr (refuse_exit ..)
  · next error files hother hwrite =>
    obtain ⟨cause, rfl⟩ := FileSystem.write_error hcheck hwrite
    exact absurd rfl (hother cause)

theorem writeReport_of_unencodable (houtput : world.NamesOutput build.output) (verbose : Bool)
    {problem : Utf8.EncodeError} (hencode : report.encoded = .error (.unencodable problem)) :
    world.writeReport verbose build.output report = world.crash (.encoding problem) := by
  obtain ⟨path, hpath, -⟩ := houtput
  rw [writeReport_def]
  rw [hpath, hencode]
  rfl

theorem runBuild_of_assembled (hinputs : world.loadInputs arguments = .ok (scan, context))
    (h : scan.assembleReport arguments.settings context build.strict = .ok (report, kept)) :
    world.runBuild arguments build =
      world.writeReport arguments.verbose build.output report := by
  rw [runBuild_def]
  rw [hinputs]
  dsimp only
  rw [h]

theorem runBuild_of_report_error (hinputs : world.loadInputs arguments = .ok (scan, context))
    {error : ReportError}
    (h : scan.assembleReport arguments.settings context build.strict = .error (.report error)) :
    world.runBuild arguments build = world.refuse arguments.verbose 1 error.message := by
  rw [runBuild_def]
  rw [hinputs]
  dsimp only
  rw [h]

theorem runBuild_of_unnamed (hinputs : world.loadInputs arguments = .ok (scan, context))
    (h : scan.assembleReport arguments.settings context build.strict = .error .unnamed) :
    world.runBuild arguments build = world.crash .unnamed := by
  rw [runBuild_def]
  rw [hinputs]
  dsimp only
  rw [h]
  rfl

/-! ### The whole build -/

/-- A build goes one of two ways: it comes to an end with an exit code, or it crashes. -/
theorem runBuild_cases (hinputs : world.loadInputs arguments = .ok (scan, context))
    (houtput : world.NamesOutput build.output) :
    ((world.runBuild arguments build).exit = .ok 0 ∨
        (world.runBuild arguments build).exit = .ok 1) ∧
      ¬ Crashes scan arguments.settings context build.strict ∨
    ∃ failure, world.runBuild arguments build = world.crash failure ∧
      (failure = .unnamed ∨ ∃ problem, failure = .encoding problem) ∧
      Crashes scan arguments.settings context build.strict := by
  obtain ⟨path, content, hload⟩ := loadInputs_ok hinputs
  obtain ⟨root, -, -, hloads⟩ := ScanData.ofFile_ok hload
  obtain ⟨languages, hlanguages⟩ := hloads.languages
  rcases exists_ok_or_error (scan.assembleReport arguments.settings context build.strict) with
    ⟨⟨report, kept⟩, hassemble⟩ | ⟨failure, hfailure⟩
  · rw [runBuild_of_assembled hinputs hassemble]
    rcases exists_ok_or_error report.encoded with ⟨bytes, hbytes⟩ | ⟨error, herror⟩
    · refine .inl ⟨writeReport_of_encoded houtput _ hbytes, ?_⟩
      rintro (⟨hidentity, hnames⟩ | ⟨hassemble', hholds⟩)
      · cases hassemble.symm.trans
          (hloads.assembleReport_error.2 (.inr ⟨⟨_, hidentity⟩, hnames, rfl⟩))
      · cases hassemble.symm.trans hassemble'
        exact hholds.encoded hbytes
    · obtain ⟨hholds, problem, rfl⟩ :=
        (Report.Obtained.assembled hload hassemble).plain.encoded_error herror
      exact .inr ⟨_, writeReport_of_unencodable houtput _ herror, .inr ⟨problem, rfl⟩,
        .surrogate hassemble hholds⟩
  · rcases hloads.assembleReport_error.1 hfailure with
      ⟨hstrict, hfull⟩ | ⟨⟨identity, hidentity⟩, hnames, rfl⟩
    · obtain ⟨error, rfl⟩ : ∃ error, failure = .report error := by
        rcases Identity.full_error hlanguages hfull with rfl | ⟨missing, rfl⟩ <;> exact ⟨_, rfl⟩
      rw [runBuild_of_report_error hinputs hfailure]
      refine .inl ⟨.inr (world.refuse_exit ..), ?_⟩
      rintro (⟨hidentity, -⟩ | ⟨hassemble, -⟩)
      · cases hidentity.symm.trans ((Identity.establish_error hlanguages).2 ⟨hstrict, hfull⟩)
      · cases hassemble.symm.trans hfailure
    · exact .inr ⟨_, runBuild_of_unnamed hinputs hfailure, .inl rfl, .unnamed hidentity hnames⟩

end World

/-! ### The main theorem -/

/-- **Main theorem.** Whatever inputs were accepted, and whether or not the system lets the output
be written: on a console that takes what it shows, and with room for the report to be printed, a
build exits with 0 or 1, unless there is a lone surrogate in the report or a file that has no name.
In these two cases, and in no others, it crashes, and has then changed and said nothing. -/
theorem accepted_inputs_built {console : Console}
    (hinputs : world.loadInputs arguments = .ok (scan, context))
    (houtput : world.NamesOutput build.output)
    (haccepts : console.Accepts (world.runBuild arguments build)) :
    ((world.runBuildOn console arguments build).exit = .ok 0 ∨
        (world.runBuildOn console arguments build).exit = .ok 1 ↔
      ¬ Crashes scan arguments.settings context build.strict) ∧
    (Crashes scan arguments.settings context build.strict →
      ∃ failure, world.runBuildOn console arguments build = world.crash failure ∧
        (failure = .unnamed ∨ ∃ problem, failure = .encoding problem)) := by
  rw [(world.runBuildOn_shown console arguments build).eq_of_accepts haccepts]
  rcases World.runBuild_cases hinputs houtput with ⟨hexit, hnot⟩ | ⟨failure, hrun, hwhy, hcrash⟩
  · exact ⟨iff_of_true hexit hnot, fun hcrash => absurd hcrash hnot⟩
  · refine ⟨iff_of_false ?_ (not_not.2 hcrash), fun _ => ⟨failure, hrun, hwhy⟩⟩
    rw [hrun]
    rintro (⟨⟨⟩⟩ | ⟨⟨⟩⟩)

theorem World.namesOutput_sample (content : Bytes) :
    (World.sample content).NamesOutput World.sampleBuild.output :=
  ⟨"out/report.json.gz", rfl, rfl⟩

/-- A build that is completed, and one that crashes. -/
theorem sampleInputs_built :
    (∃ scan, (World.sample namedFile).loadInputs (World.sampleArguments (.value ".")) =
        .ok (scan, none) ∧
      ¬ Crashes scan ⟨.value ".", .value []⟩ none false) ∧
    ∃ scan failure, (World.sample surrogateFile).loadInputs (World.sampleArguments (.value ".")) =
        .ok (scan, none) ∧
      Crashes scan ⟨.value ".", .value []⟩ none false ∧
      (World.sample surrogateFile).runBuildOn .obliging (World.sampleArguments (.value "."))
        World.sampleBuild = (World.sample surrogateFile).crash failure := by
  constructor
  · obtain ⟨scan, hload⟩ := ok_of_toBool (x := ScanData.ofFile "scan.json" namedFile)
      (by decide +kernel)
    have hinputs := World.loadInputs_sample (.value ".") hload
    obtain ⟨hexit, -⟩ :=
      accepted_inputs_built hinputs (World.namesOutput_sample _) (Console.accepts_obliging _)
    exact ⟨scan, hinputs, hexit.1 (.inl (World.exit_of_toOption (by decide +kernel)))⟩
  · obtain ⟨scan, report, kept, hload, hassemble, hholds⟩ := surrogateFile_reported
    have hinputs := World.loadInputs_sample (.value ".") hload
    have hcrashes : Crashes scan ⟨.value ".", .value []⟩ none false := .surrogate hassemble hholds
    obtain ⟨-, hcrash⟩ :=
      accepted_inputs_built hinputs (World.namesOutput_sample _) (Console.accepts_obliging _)
    obtain ⟨failure, hrun, -⟩ := hcrash hcrashes
    exact ⟨scan, failure, hinputs, hcrashes, hrun⟩

/-- The loader accepts a lone surrogate, and the build neither writes it nor gives up, even if the
console takes everything. -/
theorem surrogate_crashes_build :
    ∃ scan failure, (World.sample surrogateFile).loadInputs (World.sampleArguments (.value ".")) =
        .ok (scan, none) ∧
      (World.sample surrogateFile).NamesOutput World.sampleBuild.output ∧
      ((World.sample surrogateFile).runBuildOn .obliging (World.sampleArguments (.value "."))
        World.sampleBuild).exit = .error failure := by
  obtain ⟨scan, report, kept, hload, hassemble, hholds⟩ := surrogateFile_reported
  have hinputs := World.loadInputs_sample (.value ".") hload
  refine ⟨scan, ?_⟩
  rcases World.runBuild_cases hinputs (World.namesOutput_sample _) with
    ⟨-, hnot⟩ | ⟨failure, hrun, -⟩
  · exact absurd (.surrogate hassemble hholds) hnot
  · exact ⟨failure, hinputs, World.namesOutput_sample _, congrArg Outcome.exit hrun⟩

end ReportDelivery
