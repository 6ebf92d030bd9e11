import ReportDelivery.Proofs.Command.Agreement
import ReportDelivery.Proofs.Command.Inputs
import ReportDelivery.Proofs.Environment

/-! What the exit codes stand for.

A command that returns tells by its exit code how far it got: 2 if it had no key or could not use its
inputs, 1 if the job failed, 0 if it is done. `exit_codes_exact` says that a code is returned exactly
for its reasons, that a command which could not start has changed nothing, and under which key the
collector is asked. -/
namespace ReportDelivery

/-- The run made no request, and left the files and the temporary directories as they were. -/
structure Outcome.Untouched (outcome : Outcome) (world : World) : Prop where
  requests : outcome.requests = none
  files : outcome.files = world.files
  area : outcome.area = world.area

namespace World

variable {world : World} {arguments : Arguments} {build : BuildArguments} {send : SendArguments}
  {code : Nat}

theorem untouched_refuse (verbose : Bool) (code : Nat) (message : Text) :
    (world.refuse verbose code message).Untouched world := by
  rw [refuse_def]
  exact ⟨rfl, rfl, rfl⟩

theorem untouched_crash (failure : Failure) : (world.crash failure).Untouched world :=
  ⟨rfl, rfl, rfl⟩

/-! ### Inputs -/

/-- The inputs are not loaded, because of the system or of a value in a file. -/
def Unusable (world : World) (arguments : Arguments) : Prop :=
  ∃ failure, world.loadInputs arguments = .error failure ∧ failure.isInputFault = true

theorem untouched_unloaded (verbose : Bool) (failure : Failure) :
    (world.unloaded verbose failure).Untouched world := by
  unfold unloaded
  split
  · exact untouched_refuse _ _ _
  · exact untouched_crash _

theorem unloaded_exit {verbose : Bool} {failure : Failure} :
    (world.unloaded verbose failure).exit = .ok code ↔ failure.isInputFault = true ∧ code = 2 := by
  unfold unloaded
  split
  · next hfault =>
    rw [refuse_def]
    constructor
    · rintro ⟨⟩
      exact ⟨hfault, rfl⟩
    · rintro ⟨-, rfl⟩
      rfl
  · next hfault => exact ⟨nofun, fun h => absurd h.1 hfault⟩

/-! ### Exit codes of a build -/

/-- The inputs are loaded, but no report can be made of them. -/
def Unreported (world : World) (arguments : Arguments) (build : BuildArguments) : Prop :=
  ∃ scan context error, world.loadInputs arguments = .ok (scan, context) ∧
    scan.assembleReport arguments.settings context build.strict = .error (.report error)

/-- The report is assembled and encoded, and this comes of writing it. -/
def Writes (world : World) (arguments : Arguments) (build : BuildArguments)
    (result : Except FileError Unit) : Prop :=
  ∃ scan context report kept output bytes, world.loadInputs arguments = .ok (scan, context) ∧
    scan.assembleReport arguments.settings context build.strict = .ok (report, kept) ∧
    world.pathOf build.output = .ok output ∧ report.encoded = .ok bytes ∧
    (world.files.write output (outputContent output bytes)).1 = result

/-- The reasons for the exit codes of a build. -/
inductive BuildExits (world : World) (arguments : Arguments) (build : BuildArguments) : Nat → Prop
  | unusable (h : world.Unusable arguments) : BuildExits world arguments build 2
  | unreported (h : world.Unreported arguments build) : BuildExits world arguments build 1
  | unwritten {error : SystemError} (h : world.Writes arguments build (.error (.system error))) :
      BuildExits world arguments build 1
  | written (h : world.Writes arguments build (.ok ())) : BuildExits world arguments build 0

theorem writeReport_exit {verbose : Bool} {option : Setting Text} {report : Report} :
    (world.writeReport verbose option report).exit = .ok code ↔
      ∃ output bytes, world.pathOf option = .ok output ∧ report.encoded = .ok bytes ∧
        ((world.files.write output (outputContent output bytes)).1 = .ok () ∧ code = 0 ∨
          ∃ error, (world.files.write output (outputContent output bytes)).1 =
            .error (.system error) ∧ code = 1) := by
  rw [writeReport_def]
  split
  · next failure hpath =>
    refine iff_of_false nofun ?_
    rintro ⟨output, bytes, hok, -⟩
    cases hpath.symm.trans hok
  · next error _ hbytes =>
    refine iff_of_false nofun ?_
    rintro ⟨output, bytes, -, hok, -⟩
    cases hbytes.symm.trans hok
  · next output bytes hpath hbytes =>
    constructor
    · intro h
      refine ⟨output, bytes, hpath, hbytes, ?_⟩
      split at h
      · next hwrite =>
        cases h
        exact .inl ⟨by rw [hwrite], rfl⟩
      · next hwrite =>
        rw [refuse_def] at h
        cases h
        exact .inr ⟨_, by rw [hwrite], rfl⟩
      · cases h
    · rintro ⟨output', bytes', hpath', hbytes', hresult⟩
      cases hpath.symm.trans hpath'
      cases hbytes.symm.trans hbytes'
      rcases hwrite : world.files.write output (outputContent output bytes) with ⟨result, files⟩
      rw [hwrite] at hresult
      rcases hresult with ⟨rfl, rfl⟩ | ⟨error, rfl, rfl⟩
      · rfl
      · exact refuse_exit ..

/-- Whatever code a build returns, it has a reason for it. -/
theorem buildExits_of_exit (h : (world.runBuild arguments build).exit = .ok code) :
    world.BuildExits arguments build code := by
  rcases hinputs : world.loadInputs arguments with failure | ⟨scan, context⟩
  · rw [runBuild_unloaded hinputs] at h
    obtain ⟨hfault, rfl⟩ := unloaded_exit.1 h
    exact .unusable ⟨failure, hinputs, hfault⟩
  · rcases hassemble : scan.assembleReport arguments.settings context build.strict with
      failure | ⟨report, kept⟩
    · cases failure with
      | report error =>
        rw [runBuild_of_report_error hinputs hassemble, refuse_exit] at h
        cases h
        exact .unreported ⟨scan, context, error, hinputs, hassemble⟩
      | _ =>
        rw [runBuild_def, hinputs] at h
        dsimp only at h
        rw [hassemble] at h
        cases h
    · rw [runBuild_of_assembled hinputs hassemble] at h
      obtain ⟨output, bytes, hpath, hbytes, ⟨hwrite, rfl⟩ | ⟨error, hwrite, rfl⟩⟩ :=
        writeReport_exit.1 h
      · exact .written ⟨_, _, _, _, _, _, hinputs, hassemble, hpath, hbytes, hwrite⟩
      · exact .unwritten ⟨_, _, _, _, _, _, hinputs, hassemble, hpath, hbytes, hwrite⟩

theorem BuildExits.exit (h : world.BuildExits arguments build code) :
    (world.runBuild arguments build).exit = .ok code := by
  cases h with
  | unusable h =>
    obtain ⟨failure, hload, hfault⟩ := h
    exact (runBuild_refused hload hfault build).exit
  | unreported h =>
    obtain ⟨scan, context, error, hinputs, hassemble⟩ := h
    rw [runBuild_of_report_error hinputs hassemble, refuse_exit]
  | unwritten h =>
    obtain ⟨_, _, _, _, _, _, hinputs, hassemble, hpath, hbytes, hwrite⟩ := h
    rw [runBuild_of_assembled hinputs hassemble]
    exact writeReport_exit.2 ⟨_, _, hpath, hbytes, .inr ⟨_, hwrite, rfl⟩⟩
  | written h =>
    obtain ⟨_, _, _, _, _, _, hinputs, hassemble, hpath, hbytes, hwrite⟩ := h
    rw [runBuild_of_assembled hinputs hassemble]
    exact writeReport_exit.2 ⟨_, _, hpath, hbytes, .inl ⟨hwrite, rfl⟩⟩

/-- Of the builds that return, those with code 2 are the ones whose inputs are not loaded. -/
theorem BuildExits.code_two (h : world.BuildExits arguments build code) :
    code = 2 ↔ ∃ failure, world.loadInputs arguments = .error failure := by
  have hloaded {loaded : ScanData × Option Repository}
      (hinputs : world.loadInputs arguments = .ok loaded) :
      ¬ ∃ failure, world.loadInputs arguments = .error failure := by
    rintro ⟨failure, hload⟩
    cases hinputs.symm.trans hload
  cases h with
  | unusable h =>
    obtain ⟨failure, hload, -⟩ := h
    exact iff_of_true rfl ⟨failure, hload⟩
  | unreported h =>
    obtain ⟨_, _, _, hinputs, -⟩ := h
    exact iff_of_false (by decide) (hloaded hinputs)
  | unwritten h | written h =>
    obtain ⟨_, _, _, _, _, _, hinputs, -⟩ := h
    exact iff_of_false (by decide) (hloaded hinputs)

/-- A build that has no report to write changes nothing. -/
theorem runBuild_untouched
    (h : (world.runBuild arguments build).exit = .ok 2 ∨ world.Unreported arguments build) :
    (world.runBuild arguments build).Untouched world := by
  rcases h with h | ⟨scan, context, error, hinputs, hassemble⟩
  · cases buildExits_of_exit h with
    | unusable h =>
      obtain ⟨failure, hload, -⟩ := h
      rw [runBuild_unloaded hload]
      exact untouched_unloaded _ _
  · rw [runBuild_of_report_error hinputs hassemble]
    exact untouched_refuse _ _ _

/-! ### Exit codes of sending -/

/-- The texts that may be the API key, in order of preference. -/
def keyCandidates (world : World) (send : SendArguments) : List Text :=
  (send.apiKey.bind Setting.value?).toList ++
    [world.environ.get "BEARER_API_KEY", world.environ.get "BEARER_TOKEN"]

/-- The reasons for the exit codes of sending. -/
inductive SendExits (world : World) (arguments : Arguments) (send : SendArguments) : Nat → Prop
  | noKey (h : ∀ candidate ∈ world.keyCandidates send, candidate.hasContent = false) :
      SendExits world arguments send 2
  | unusable (h : world.Unusable arguments) : SendExits world arguments send 2
  | failed {key : Text} {scan : ScanData} {context : Option Repository}
      (hkey : FirstContent (world.keyCandidates send) key)
      (hinputs : world.loadInputs arguments = .ok (scan, context))
      (hanswer : ((world.delivery arguments send key.strip context).run scan).1 = .ok false) :
      SendExits world arguments send 1
  | delivered {key : Text} {scan : ScanData} {context : Option Repository}
      (hkey : FirstContent (world.keyCandidates send) key)
      (hinputs : world.loadInputs arguments = .ok (scan, context))
      (hanswer : ((world.delivery arguments send key.strip context).run scan).1 = .ok true) :
      SendExits world arguments send 0

theorem afterDelivery_exit {verbose : Bool} {host : Text} {delivered : Except Failure Bool}
    {s : DeliveryState} : (world.afterDelivery verbose host delivered s).exit = .ok code ↔
      delivered = .ok false ∧ code = 1 ∨ delivered = .ok true ∧ code = 0 := by
  rw [afterDelivery_def]
  rcases delivered with failure | (_ | _)
  · refine iff_of_false nofun ?_
    rintro (⟨⟨⟩, -⟩ | ⟨⟨⟩, -⟩)
  · constructor
    · rintro ⟨⟩
      exact .inl ⟨rfl, rfl⟩
    · rintro (⟨-, rfl⟩ | ⟨⟨⟩, -⟩)
      rfl
  · constructor
    · rintro ⟨⟩
      exact .inr ⟨rfl, rfl⟩
    · rintro (⟨⟨⟩, -⟩ | ⟨-, rfl⟩)
      rfl

/-- Sending has no key, or it does not load its inputs, or it comes to a delivery. -/
theorem runSend_cases (world : World) (arguments : Arguments) (send : SendArguments) :
    ((∀ candidate ∈ world.keyCandidates send, candidate.hasContent = false) ∧
      world.runSend arguments send = world.refuse arguments.verbose 2 missingKeyMessage) ∨
    (∃ failure, world.loadInputs arguments = .error failure ∧
      world.runSend arguments send = world.unloaded arguments.verbose failure) ∨
    ∃ key scan context, FirstContent (world.keyCandidates send) key ∧
      world.loadInputs arguments = .ok (scan, context) ∧
      world.runSend arguments send = world.afterDelivery arguments.verbose
        (chooseHost (send.host.bind Setting.value?) world.environ)
        ((world.delivery arguments send key.strip context).run scan).1
        ((world.delivery arguments send key.strip context).run scan).2 := by
  cases hkey : chooseApiKey (send.apiKey.bind Setting.value?) world.environ with
  | none =>
    refine .inl ⟨firstContent?_eq_none.1 hkey, ?_⟩
    rw [runSend_def, hkey]
  | some stripped =>
    rcases hinputs : world.loadInputs arguments with failure | ⟨scan, context⟩
    · refine .inr (.inl ⟨failure, rfl, ?_⟩)
      rw [runSend_unloaded hinputs hkey]
    · obtain ⟨key, hfirst, rfl⟩ := firstContent?_eq_some.1 hkey
      exact .inr (.inr ⟨key, scan, context, hfirst, rfl, runSend_eq hkey hinputs⟩)

theorem sendExits_of_exit (h : (world.runSend arguments send).exit = .ok code) :
    world.SendExits arguments send code := by
  rcases world.runSend_cases arguments send with ⟨hnone, hrun⟩ | ⟨failure, hload, hrun⟩ |
    ⟨key, scan, context, hkey, hinputs, hrun⟩
  · rw [hrun] at h
    cases h
    exact .noKey hnone
  · rw [hrun] at h
    obtain ⟨hfault, rfl⟩ := unloaded_exit.1 h
    exact .unusable ⟨failure, hload, hfault⟩
  · rw [hrun] at h
    obtain ⟨hanswer, rfl⟩ | ⟨hanswer, rfl⟩ := afterDelivery_exit.1 h
    · exact .failed hkey hinputs hanswer
    · exact .delivered hkey hinputs hanswer

theorem SendExits.exit (h : world.SendExits arguments send code) :
    (world.runSend arguments send).exit = .ok code := by
  cases h with
  | noKey h =>
    have hnone : chooseApiKey (send.apiKey.bind Setting.value?) world.environ = none :=
      firstContent?_eq_none.2 h
    rw [runSend_def, hnone]
    rfl
  | unusable h =>
    obtain ⟨failure, hload, hfault⟩ := h
    exact (runSend_refused hload hfault send).exit
  | failed hkey hinputs hanswer =>
    rw [runSend_eq (firstContent?_eq_some.2 ⟨_, hkey, rfl⟩) hinputs]
    exact afterDelivery_exit.2 (.inl ⟨hanswer, rfl⟩)
  | delivered hkey hinputs hanswer =>
    rw [runSend_eq (firstContent?_eq_some.2 ⟨_, hkey, rfl⟩) hinputs]
    exact afterDelivery_exit.2 (.inr ⟨hanswer, rfl⟩)

theorem runSend_untouched (h : (world.runSend arguments send).exit = .ok 2) :
    (world.runSend arguments send).Untouched world := by
  rcases world.runSend_cases arguments send with ⟨-, hrun⟩ | ⟨failure, -, hrun⟩ |
    ⟨key, scan, context, -, -, hrun⟩
  · rw [hrun]
    exact untouched_refuse _ _ _
  · rw [hrun]
    exact untouched_unloaded _ _
  · rw [hrun] at h
    obtain ⟨-, ⟨⟩⟩ | ⟨-, ⟨⟩⟩ := afterDelivery_exit.1 h

/-- The client strips the key again, which changes nothing. -/
theorem headers_of_posts {key : Text} {context : Option Repository} {request : Request}
    (h : (world.delivery arguments send key.strip context).client.Posts request) :
    request.headers = [(Text.ofString "Authorization", key.strip),
      (Text.ofString "User-Agent", Text.ofString "scanreport/1.4.0")] := by
  obtain ⟨path, v, -, rfl⟩ := h
  have hkey : (world.delivery arguments send key.strip context).client.apiKey = key.strip :=
    Text.strip_strip key
  rw [Client.postRequest, hkey]
  rfl

theorem runSend_posts {requests : List Request}
    (h : (world.runSend arguments send).requests = some requests) :
    ∃ key, FirstContent (world.keyCandidates send) key ∧
      ∀ request ∈ requests, request.method = .post → request.headers =
        [(Text.ofString "Authorization", key.strip),
          (Text.ofString "User-Agent", Text.ofString "scanreport/1.4.0")] := by
  rcases world.runSend_cases arguments send with ⟨-, hrun⟩ | ⟨failure, -, hrun⟩ |
    ⟨key, scan, context, hkey, -, hrun⟩
  · rw [hrun, (untouched_refuse _ _ _).requests] at h
    cases h
  · rw [hrun, (untouched_unloaded _ _).requests] at h
    cases h
  · rw [hrun, requests_afterDelivery] at h
    obtain rfl := Option.some.inj h
    refine ⟨key, hkey, fun request hmem hpost => ?_⟩
    let attempt := world.delivery arguments send key.strip context
    obtain ⟨made, hmade, hposts⟩ := deliverScan_posts attempt.client attempt.verbose
      attempt.settings attempt.context attempt.fault (attempt.start scan)
    have hrequests : (attempt.run scan).2.conversation.requests = made := hmade
    exact headers_of_posts (hposts request (hrequests ▸ hmem) hpost)

end World

/-! ### The main theorem -/

/-- **Main theorem.** Each command returns an exit code exactly for its reasons. With code 2, and
where a build has no report, the command has changed nothing and asked the collector for nothing. What
sending posts carries the first key with content, without the white space around it. -/
theorem exit_codes_exact (world : World) (arguments : Arguments) :
    (∀ build code, (world.runBuild arguments build).exit = .ok code ↔
      world.BuildExits arguments build code) ∧
    (∀ build code, (world.runBuild arguments build).exit = .ok code →
      (code = 2 ↔ ∃ failure, world.loadInputs arguments = .error failure)) ∧
    (∀ build, (world.runBuild arguments build).exit = .ok 2 ∨ world.Unreported arguments build →
      (world.runBuild arguments build).Untouched world) ∧
    (∀ send code, (world.runSend arguments send).exit = .ok code ↔
      world.SendExits arguments send code) ∧
    (∀ send, (world.runSend arguments send).exit = .ok 2 →
      (world.runSend arguments send).Untouched world) ∧
    ∀ send requests, (world.runSend arguments send).requests = some requests →
      ∃ key, FirstContent (world.keyCandidates send) key ∧
        ∀ request ∈ requests, request.method = .post → request.headers =
          [(Text.ofString "Authorization", key.strip),
            (Text.ofString "User-Agent", Text.ofString "scanreport/1.4.0")] :=
  ⟨fun _ _ => ⟨World.buildExits_of_exit, World.BuildExits.exit⟩,
    fun _ _ h => (World.buildExits_of_exit h).code_two, fun _ => World.runBuild_untouched,
    fun _ _ => ⟨World.sendExits_of_exit, World.SendExits.exit⟩, fun _ => World.runSend_untouched,
    fun _ _ => World.runSend_posts⟩

namespace World

/-- Empty scan results of a repository, and a collector that makes an offer. -/
def emptyScan : World :=
  { sample [0x7B, 0x7D] with
    environ := repositoryEnviron
    replies := sampleStart.conversation.replies }

def plainBuild : BuildArguments := ⟨.value "report.json", false⟩

/-- Sending under a key that is white space. -/
def blankKey : SendArguments := { sampleSend with apiKey := some (.value " ") }

end World

/-- A build that is done and one whose input is an array, sending without a key and sending with
one. -/
theorem sampleExits_exact :
    World.emptyScan.BuildExits (World.sampleArguments (.value ".")) World.plainBuild 0 ∧
    ((World.sample arrayFile).runBuild (World.sampleArguments (.value "."))
      World.sampleBuild).Untouched (World.sample arrayFile) ∧
    (World.emptyScan.runSend sendingArguments World.blankKey).Untouched World.emptyScan ∧
    ∃ requests, (World.emptyScan.runSend sendingArguments World.sampleSend).requests =
        some requests ∧
      requests.map (·.method) = [.post, .put, .post] ∧
      ∀ request ∈ requests, request.method = .post → request.headers =
        [(Text.ofString "Authorization", Text.ofString "key"),
          (Text.ofString "User-Agent", Text.ofString "scanreport/1.4.0")] := by
  obtain ⟨hbuild, -⟩ := exit_codes_exact World.emptyScan (World.sampleArguments (.value "."))
  obtain ⟨hrefuse, -, huntouched, -⟩ :=
    exit_codes_exact (World.sample arrayFile) (World.sampleArguments (.value "."))
  obtain ⟨-, -, -, hsend, hkeyless, hposts⟩ := exit_codes_exact World.emptyScan sendingArguments
  refine ⟨?_, ?_, ?_, ?_⟩
  · exact (hbuild _ 0).1 (World.exit_of_toOption (by decide +kernel))
  · have hunusable : (World.sample arrayFile).Unusable (World.sampleArguments (.value ".")) :=
      ⟨_, World.loadInputs_sample_error _ ofFile_arrayFile, rfl⟩
    exact huntouched _ (.inl ((hrefuse _ 2).2 (.unusable hunusable)))
  · have hblank : ∀ candidate ∈ World.emptyScan.keyCandidates World.blankKey,
        candidate.hasContent = false := by decide
    exact hkeyless _ ((hsend _ 2).2 (.noKey hblank))
  · have hmethods : ((World.emptyScan.runSend sendingArguments
        World.sampleSend).requests.map fun requests => requests.map (·.method)) =
          some [.post, .put, .post] := by decide +kernel
    obtain ⟨requests, hrequests, hmethods⟩ := Option.map_eq_some_iff.1 hmethods
    obtain ⟨key, hkey, hheaders⟩ := hposts _ requests hrequests
    have hfirst : firstContent? (World.emptyScan.keyCandidates World.sampleSend) =
        some (Text.ofString "key") := by decide
    have hstrip : key.strip = Text.ofString "key" :=
      Option.some.inj ((firstContent?_eq_some.2 ⟨key, hkey, rfl⟩).symm.trans hfirst)
    exact ⟨requests, hrequests, hmethods, hstrip ▸ hheaders⟩

end ReportDelivery
