import ReportDelivery.Proofs.Command.Build
import ReportDelivery.Proofs.Scan.Refusal

/-! Inputs that cannot be used.

Both commands load their inputs first, and inputs that cannot be used are to be answered with exit
code 2. `malformed_inputs_reported` says that they are, whatever the files hold, on a console that
takes what the command has to tell about them, with one exception. An infinity where a finding needs
an integer is not taken for a fault of the file, and leaves the command as it came. -/
namespace ReportDelivery

theorem Failure.IsMalformed.isInputFault {failure : Failure} (h : failure.IsMalformed) :
    failure.isInputFault = true := by
  cases h <;> rfl

/-- The run ended before it sent or changed anything. -/
structure Outcome.Refused (outcome : Outcome) (world : World) : Prop where
  exit : outcome.exit = .ok 2
  requests : outcome.requests = none
  files : outcome.files = world.files

namespace World

variable {world : World} {arguments : Arguments} {failure : Failure}

/-! ### Loading -/

/-- The options for the input files give paths. What is there, if anything, does not matter. -/
structure NamesInputs (world : World) (arguments : Arguments) : Prop where
  scan : ∃ path, world.pathOf arguments.reportData = .ok path
  context : ∀ t, arguments.gitContext = some (.value t) → t ≠ [] →
    ∃ path, world.pathOf (.value t) = .ok path

theorem readInput_error {option : Setting Text} (hpath : ∃ path, world.pathOf option = .ok path)
    (h : world.readInput option = .error failure) : failure.isInputFault = true := by
  rcases bind_error.1 h with h | ⟨path, -, h⟩
  · obtain ⟨path, hpath⟩ := hpath
    cases hpath.symm.trans h
  · rcases bind_error.1 h with h | ⟨content, -, ⟨⟩⟩
    obtain ⟨error, -, rfl⟩ := mapError_error.1 h
    rfl

theorem readContext_error (hnames : world.NamesInputs arguments)
    (h : world.readContext arguments = .error failure) : failure.isInputFault = true := by
  unfold readContext at h
  split at h
  · cases h
  · cases h
  · cases h
  · next option hemptied hempty hoption =>
    have hpath : ∃ path, world.pathOf option = .ok path := by
      cases option with
      | emptied => exact absurd rfl hemptied
      | value t =>
        refine hnames.context t hoption ?_
        rintro rfl
        exact hempty rfl
    rcases bind_error.1 h with h | ⟨⟨path, content⟩, -, h⟩
    · exact readInput_error hpath h
    · rcases bind_error.1 h with h | ⟨context, -, ⟨⟩⟩
      exact (Repository.ofFile_error h).isInputFault

/-- The file of scan results is one in which loading gets to an infinity. -/
def Overflows (world : World) (arguments : Arguments) : Prop :=
  ∃ path content, world.readInput arguments.reportData = .ok (path, content) ∧
    ScanData.ofFile path content = .error (.coercion .infinityAsInteger)

theorem Overflows.loadInputs (h : world.Overflows arguments) :
    world.loadInputs arguments = .error (.coercion .infinityAsInteger) := by
  obtain ⟨path, content, hread, hload⟩ := h
  exact bind_error.2 (.inl (bind_error.2 (.inr ⟨_, hread, hload⟩)))

theorem loadInputs_error (hnames : world.NamesInputs arguments)
    (h : world.loadInputs arguments = .error failure) (hfinite : ¬ world.Overflows arguments) :
    failure.isInputFault = true := by
  rcases bind_error.1 h with h | ⟨scan, -, h⟩
  · rcases bind_error.1 h with h | ⟨⟨path, content⟩, hread, hload⟩
    · exact readInput_error hnames.scan h
    · rcases ScanData.ofFile_error hload with hmalformed | rfl
      · exact hmalformed.isInputFault
      · exact absurd ⟨path, content, hread, hload⟩ hfinite
  · rcases bind_error.1 h with h | ⟨context, -, ⟨⟩⟩
    rcases bind_error.1 h with h | ⟨context, -, ⟨⟩⟩
    exact readContext_error hnames h

/-! ### Runs -/

/-- The outcome of either command when its inputs are not loaded. -/
def unloaded (world : World) (verbose : Bool) (failure : Failure) : Outcome :=
  if failure.isInputFault then world.refuse verbose 2 failure.message else world.crash failure

theorem runBuild_unloaded (h : world.loadInputs arguments = .error failure)
    (build : BuildArguments) :
    world.runBuild arguments build = world.unloaded arguments.verbose failure := by
  rw [runBuild_def, h]
  rfl

theorem runSend_unloaded (h : world.loadInputs arguments = .error failure) {send : SendArguments}
    {key : Text} (hkey : chooseApiKey (send.apiKey.bind Setting.value?) world.environ = some key) :
    world.runSend arguments send = world.unloaded arguments.verbose failure := by
  rw [runSend_def, hkey, h]
  rfl

theorem refused_refuse (verbose : Bool) (message : Text) :
    (world.refuse verbose 2 message).Refused world := by
  rw [refuse_def]
  exact ⟨rfl, rfl, rfl⟩

theorem refused_unloaded (verbose : Bool) (hfault : failure.isInputFault = true) :
    (world.unloaded verbose failure).Refused world := by
  rw [unloaded, if_pos hfault]
  exact refused_refuse _ _

theorem runBuild_refused (h : world.loadInputs arguments = .error failure)
    (hfault : failure.isInputFault = true) (build : BuildArguments) :
    (world.runBuild arguments build).Refused world := by
  rw [runBuild_unloaded h]
  exact refused_unloaded _ hfault

/-- Sending is refused for want of a key before the inputs are looked at. -/
theorem runSend_refused (h : world.loadInputs arguments = .error failure)
    (hfault : failure.isInputFault = true) (send : SendArguments) :
    (world.runSend arguments send).Refused world := by
  cases hkey : chooseApiKey (send.apiKey.bind Setting.value?) world.environ with
  | none =>
    rw [runSend_def, hkey]
    exact refused_refuse _ _
  | some key =>
    rw [runSend_unloaded h hkey]
    exact refused_unloaded _ hfault

/-- A failure that is nobody's fault is the same on every console: nothing is shown. -/
theorem runBuildOn_crashes (console : Console) (h : world.loadInputs arguments = .error failure)
    (hfault : failure.isInputFault = false) (build : BuildArguments) :
    (world.runBuildOn console arguments build).exit = .error failure := by
  rw [runBuildOn, h]
  dsimp only
  rw [hfault, if_neg Bool.false_ne_true]
  rfl

theorem runSendOn_crashes (console : Console) (h : world.loadInputs arguments = .error failure)
    (hfault : failure.isInputFault = false) {send : SendArguments} {key : Text}
    (hkey : chooseApiKey (send.apiKey.bind Setting.value?) world.environ = some key) :
    (world.runSendOn console arguments send).exit = .error failure := by
  rw [runSendOn, hkey]
  dsimp only
  rw [h]
  dsimp only
  rw [hfault, if_neg Bool.false_ne_true]
  rfl

end World

/-! ### The main theorem -/

/-- **Main theorem.** A file of scan results that is not loaded is at fault, unless loading it gets
to an infinity where a finding needs an integer; a file with a repository's context that is not
loaded is always at fault. Accordingly, a command whose inputs are not loaded is refused with exit
code 2 on a console that takes its message, and only the infinity is left to end it in another way,
with nothing shown on any console. -/
theorem malformed_inputs_reported (path : Text) (content : Bytes) (world : World)
    (console : Console) (arguments : Arguments) :
    (∀ failure, ScanData.ofFile path content = .error failure →
      failure.isInputFault = true ∨ failure = .coercion .infinityAsInteger) ∧
    (ScanData.ofFile path content = .error (.coercion .infinityAsInteger) ↔
      ∃ root, Json.readFile content = .ok (.object root) ∧ ScanData.Overflows root) ∧
    (∀ failure, Repository.ofFile path content = .error failure → failure.isInputFault = true) ∧
    ∀ failure, world.NamesInputs arguments → world.loadInputs arguments = .error failure →
      (¬ world.Overflows arguments →
        (∀ build, console.Accepts (world.runBuild arguments build) →
          (world.runBuildOn console arguments build).Refused world) ∧
        ∀ send, console.Accepts (world.runSend arguments send) →
          (world.runSendOn console arguments send).Refused world) ∧
      (world.Overflows arguments →
        (∀ build,
          (world.runBuildOn console arguments build).exit = .error (.coercion .infinityAsInteger)) ∧
        ∀ send key, chooseApiKey (send.apiKey.bind Setting.value?) world.environ = some key →
          (world.runSendOn console arguments send).exit =
            .error (.coercion .infinityAsInteger)) := by
  refine ⟨fun failure h => ?_, ScanData.ofFile_overflows, fun failure h => ?_,
    fun failure hnames h => ⟨fun hfinite => ⟨?_, ?_⟩, fun hoverflows => ⟨fun build => ?_, ?_⟩⟩⟩
  · exact (ScanData.ofFile_error h).imp_left Failure.IsMalformed.isInputFault
  · exact (Repository.ofFile_error h).isInputFault
  · intro build haccepts
    rw [(world.runBuildOn_shown console arguments build).eq_of_accepts haccepts]
    exact World.runBuild_refused h (World.loadInputs_error hnames h hfinite) build
  · intro send haccepts
    rw [(world.runSendOn_shown console arguments send).eq_of_accepts haccepts]
    exact World.runSend_refused h (World.loadInputs_error hnames h hfinite) send
  · exact World.runBuildOn_crashes console hoverflows.loadInputs rfl build
  · intro send key hkey
    exact World.runSendOn_crashes console hoverflows.loadInputs rfl hkey

/-! ### Two files that are not loaded -/

/-- An array, where an object should be. -/
def arrayFile : Bytes := [0x5B, 0x5D]

theorem ofFile_arrayFile :
    ScanData.ofFile "scan.json" arrayFile = .error (.format (.scanDataNotObject "scan.json")) := by
  rfl

/-- A finding on a line beyond all numbers. -/
def overflowFile : Bytes :=
  "\x7b\"findings\": \x7b\"high\": [\x7b\"line_number\": 1E400\x7d]\x7d\x7d".toList.map
    fun c => .ofNat c.toNat

theorem ofFile_overflowFile :
    ScanData.ofFile "scan.json" overflowFile = .error (.coercion .infinityAsInteger) := by
  have hescapes : (match ScanData.ofFile "scan.json" overflowFile with
      | .ok _ => true
      | .error failure => failure.isInputFault) = false := by
    decide +kernel
  rcases exists_ok_or_error (ScanData.ofFile "scan.json" overflowFile) with ⟨scan, h⟩ | ⟨failure, h⟩
  · rw [h] at hescapes
    cases hescapes
  · rcases ScanData.ofFile_error h with hmalformed | rfl
    · rw [h] at hescapes
      cases hmalformed.isInputFault.symm.trans hescapes
    · exact h

namespace World

theorem loadInputs_sample_error {content : Bytes} {failure : Failure} (target : Setting Text)
    (h : ScanData.ofFile "scan.json" content = .error failure) :
    (sample content).loadInputs (sampleArguments target) = .error failure :=
  bind_error.2 (.inl (bind_error.2 (.inr ⟨_, readInput_sample content, h⟩)))

theorem namesInputs_sample (content : Bytes) (target : Setting Text) :
    (sample content).NamesInputs (sampleArguments target) :=
  ⟨⟨"scan.json", rfl⟩, nofun⟩

theorem overflows_sample {content : Bytes} {target : Setting Text} :
    (sample content).Overflows (sampleArguments target) ↔
      ScanData.ofFile "scan.json" content = .error (.coercion .infinityAsInteger) := by
  constructor
  · rintro ⟨path, content', hread, hload⟩
    obtain ⟨rfl, rfl⟩ := Prod.mk.inj (Except.ok.inj ((readInput_sample content).symm.trans hread))
    exact hload
  · exact fun hload => ⟨_, _, readInput_sample content, hload⟩

end World

/-- The array is refused as an input, and so would it be as a repository's context. The infinity is
not. -/
theorem sampleInputs_reported :
    Failure.isInputFault (.format (.scanDataNotObject "scan.json")) = true ∧
    Failure.isInputFault (.format (.contextNotObject "context.json")) = true ∧
    ((World.sample arrayFile).runBuildOn .obliging (World.sampleArguments (.value "."))
      World.sampleBuild).Refused (World.sample arrayFile) ∧
    ((World.sample overflowFile).runBuildOn .obliging (World.sampleArguments (.value "."))
      World.sampleBuild).exit = .error (.coercion .infinityAsInteger) := by
  obtain ⟨hscan, -, -, hrun⟩ := malformed_inputs_reported "scan.json" arrayFile
    (World.sample arrayFile) .obliging (World.sampleArguments (.value "."))
  obtain ⟨-, -, hcontext, hcrashing⟩ := malformed_inputs_reported "context.json" arrayFile
    (World.sample overflowFile) .obliging (World.sampleArguments (.value "."))
  refine ⟨?_, hcontext _ rfl, ?_, ?_⟩
  · exact (hscan _ ofFile_arrayFile).resolve_right nofun
  · obtain ⟨hrefused, -⟩ :=
      hrun _ (World.namesInputs_sample _ _) (World.loadInputs_sample_error _ ofFile_arrayFile)
    refine (hrefused fun hoverflows => ?_).1 World.sampleBuild (Console.accepts_obliging _)
    cases ofFile_arrayFile.symm.trans (World.overflows_sample.1 hoverflows)
  · obtain ⟨-, hcrashes⟩ := hcrashing _ (World.namesInputs_sample _ _)
      (World.loadInputs_sample_error _ ofFile_overflowFile)
    exact (hcrashes (World.overflows_sample.2 ofFile_overflowFile)).1 World.sampleBuild

/-- A file that cannot be loaded, and on no console is the build that reads it refused for it. -/
theorem infinity_not_reported :
    ∃ failure, ScanData.ofFile "scan.json" overflowFile = .error failure ∧
      failure.isInputFault = false ∧
      ∀ console, ((World.sample overflowFile).runBuildOn console (World.sampleArguments (.value "."))
        World.sampleBuild).exit = .error failure :=
  ⟨_, ofFile_overflowFile, rfl, fun console => World.runBuildOn_crashes console
    (World.loadInputs_sample_error _ ofFile_overflowFile) rfl _⟩

end ReportDelivery
