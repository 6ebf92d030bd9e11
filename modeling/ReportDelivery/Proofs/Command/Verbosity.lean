import ReportDelivery.Proofs.Command.Agreement
import ReportDelivery.Proofs.Command.Inputs

/-! What verbosity does to a command.

Every way through a command makes certain calls of the logger (`World.buildCalls`,
`World.sendCalls`), and none of them depends on verbosity. `verbosity_adds_debug_lines` says that on
a console that takes the lines for debugging a verbose command does the same as a quiet one,
whatever its temporary files are called, and that its log has these lines before those of the other,
each under its own level. If the console refuses one of them, the verbose command fails there, and
the quiet one does not. -/
namespace ReportDelivery

namespace World

variable (world : World) (arguments : Arguments) (build : BuildArguments) (send : SendArguments)
  (fault : Option PackagingFault)

/-! ### Calls of the logger -/

/-- The calls of a command whose inputs are not loaded. -/
def unloadedCalls (failure : Failure) : List LogCall :=
  if failure.isInputFault then [⟨.error, failure.message⟩] else []

/-- The calls of a build that has a report. -/
def writeCalls (output : Setting Text) (report : Report) : List LogCall :=
  match world.pathOf output, report.encoded with
  | .ok output, .ok content =>
    match (world.files.write output (outputContent output content)).1 with
    | .ok _ => [⟨.done, "Report written to: " ++ output⟩]
    | .error (.system error) => [⟨.error, "Failed to write " ++ output ++ ": " ++ error.message⟩]
    | .error _ => []
  | _, _ => []

def buildCalls : List LogCall :=
  match world.loadInputs arguments with
  | .error failure => unloadedCalls failure
  | .ok (scan, context) =>
    match scan.assembleReport arguments.settings context build.strict with
    | .error (.report error) => [⟨.error, error.message⟩]
    | .error _ => []
    | .ok (report, _) => world.writeCalls build.output report

/-- The calls that come after a delivery. -/
def afterCalls (host : Text) (sessionError : Option Text) : Except Failure Bool → List LogCall
  | .error _ => []
  | .ok false => [⟨.error, sessionError.getD uploadMessage⟩]
  | .ok true => [⟨.done, "Report sent to " ++ host⟩]

def sendCalls : List LogCall :=
  match chooseApiKey (send.apiKey.bind Setting.value?) world.environ with
  | none => [⟨.error, missingKeyMessage⟩]
  | some key =>
    match world.loadInputs arguments with
    | .error failure => unloadedCalls failure
    | .ok (scan, context) =>
      let host := chooseHost (send.host.bind Setting.value?) world.environ
      let client := Client.create key host Client.defaultUserAgent send.seconds
      let start : DeliveryState :=
        { scan, area := world.area, conversation := { replies := world.replies } }
      let (delivered, s) := deliverScan client false arguments.settings context fault start
      deliveryCalls client arguments.settings context fault start ++
        afterCalls host s.sessionError delivered

/-! ### What the calls leave -/

section
variable (verbose : Bool)

theorem refuse_log (code : Nat) (message : Text) :
    (world.refuse verbose code message).log = Log.shown verbose [⟨.error, message⟩] := by
  rw [refuse_def, Log.shown_singleton]
  rfl

theorem unloaded_log (failure : Failure) :
    (world.unloaded verbose failure).log = Log.shown verbose (unloadedCalls failure) := by
  unfold unloaded unloadedCalls
  split
  · exact world.refuse_log verbose 2 failure.message
  · rfl

theorem writeReport_log (output : Setting Text) (report : Report) :
    (world.writeReport verbose output report).log =
      Log.shown verbose (world.writeCalls output report) := by
  rw [writeReport_def]
  unfold writeCalls
  rcases world.pathOf output with failure | output
  · rfl
  · rcases report.encoded with error | content
    · rfl
    · dsimp only
      rcases world.files.write output (outputContent output content) with ⟨error | _, files⟩
      · cases error with
        | system error => exact refuse_log _ verbose 1 _
        | _ => rfl
      · rw [Log.shown_singleton]
        rfl

theorem runBuild_log :
    (world.runBuild { arguments with verbose } build).log =
      Log.shown verbose (world.buildCalls arguments build) := by
  have hinputs : world.loadInputs { arguments with verbose } = world.loadInputs arguments := rfl
  have hsettings : Arguments.settings { arguments with verbose } = arguments.settings := rfl
  rw [runBuild_def, buildCalls, hinputs, hsettings]
  rcases world.loadInputs arguments with failure | ⟨scan, context⟩
  · exact world.unloaded_log verbose failure
  · dsimp only
    rcases scan.assembleReport arguments.settings context build.strict with
      failure | ⟨report, kept⟩
    · cases failure with
      | report error => exact world.refuse_log verbose 1 error.message
      | _ => rfl
    · exact world.writeReport_log verbose build.output report

theorem afterDelivery_log (host : Text) (delivered : Except Failure Bool) (s : DeliveryState) :
    (world.afterDelivery verbose host delivered s).log =
      s.log ++ Log.shown verbose (afterCalls host s.sessionError delivered) := by
  rw [afterDelivery_def]
  rcases delivered with failure | (_ | _)
  · rw [afterCalls, Log.shown_nil, List.append_nil]
  · rw [afterCalls, Log.shown_singleton]
    rfl
  · rw [afterCalls, Log.shown_singleton]
    rfl

theorem runSendUnderOn_log :
    (world.runSendUnderOn .obliging { arguments with verbose } send fault).log =
      Log.shown verbose (world.sendCalls arguments send fault) := by
  have hinputs : world.loadInputs { arguments with verbose } = world.loadInputs arguments := rfl
  unfold runSendUnderOn sendCalls
  rw [hinputs]
  rcases chooseApiKey (send.apiKey.bind Setting.value?) world.environ with _ | key
  · exact world.refuse_log verbose 2 missingKeyMessage
  · dsimp only
    rcases world.loadInputs arguments with failure | ⟨scan, context⟩
    · exact world.unloaded_log verbose failure
    · refine (world.afterDelivery_log verbose _ _ _).trans ?_
      rw [Log.shown_append]
      have hrun := deliverScan_eq (Client.create key
        (chooseHost (send.host.bind Setting.value?) world.environ) Client.defaultUserAgent
        send.seconds) verbose arguments.settings context fault
        { scan, area := world.area, conversation := { replies := world.replies } }
      exact congrArg (fun run : Except Failure Bool × DeliveryState => run.2.log ++
        Log.shown verbose (afterCalls (chooseHost (send.host.bind Setting.value?) world.environ)
          run.2.sessionError run.1)) hrun

end
end World

/-! ### Verbose runs and quiet ones -/

/-- The outcome with these entries before its log. -/
def Outcome.preceded (outcome : Outcome) (log : Log) : Outcome :=
  { outcome with log := log ++ outcome.log }

/-- The console takes what the calls leave for debugging. -/
def Console.TakesDebug (console : Console) (calls : List LogCall) : Prop :=
  console.Takes (Log.shown true (Log.debugging calls))

instance (console : Console) (calls : List LogCall) : Decidable (console.TakesDebug calls) :=
  inferInstanceAs
    (Decidable (∀ entry ∈ Log.shown true (Log.debugging calls), console.line entry = none))

/-- The run fails at the first line for debugging that the console refuses, with the lines before it
in the log. -/
def Outcome.EndsAtDebug (console : Console) (calls : List LogCall) (outcome : Outcome) : Prop :=
  ∃ shown entry rest error, Log.shown true (Log.debugging calls) = shown ++ entry :: rest ∧
    console.line entry = some error ∧ outcome.exit = .error (.console error) ∧ outcome.log = shown

theorem Console.TakesDebug.takes {console : Console} {calls : List LogCall}
    (h : console.TakesDebug calls) (verbose : Bool) :
    console.Takes (Log.shown verbose (Log.debugging calls)) := by
  cases verbose with
  | true => exact h
  | false =>
    rw [Log.shown_quiet_debugging]
    exact console.takes_nil

theorem Outcome.finish_preceded (outcome : Outcome) (console : Console)
    (table : Option (List SummaryRow)) (log lines : Log) :
    (outcome.preceded log).finish console table lines =
      (outcome.finish console table lines).preceded log := by
  unfold Outcome.finish
  rcases console.draw table with failure | _
  · rfl
  · rcases console.emit lines with ⟨result, shown⟩
    simp only [Outcome.preceded, List.append_assoc]

namespace World

variable (world : World) (console : Console) (arguments : Arguments) (build : BuildArguments)
  (send : SendArguments) (fault : Option PackagingFault) (verbose : Bool)

/-- A build says nothing for debugging. -/
theorem debugging_buildCalls : Log.debugging (world.buildCalls arguments build) = [] := by
  unfold buildCalls
  split
  · unfold unloadedCalls
    split <;> rfl
  · split
    · rfl
    · rfl
    · unfold writeCalls
      split
      · split <;> rfl
      · rfl

theorem afterDeliveryOn_preceded (host : Text) (delivered : Except Failure Bool) (s : DeliveryState)
    (log : Log) :
    world.afterDeliveryOn console verbose host delivered { s with log := log ++ s.log } =
      (world.afterDeliveryOn console false host delivered s).preceded log := by
  unfold afterDeliveryOn
  rcases delivered with failure | (_ | _)
  · rfl
  all_goals
    dsimp only
    rw [← Outcome.finish_preceded]
    rfl

theorem debugging_afterCalls (host : Text) (sessionError : Option Text)
    (delivered : Except Failure Bool) :
    Log.debugging (afterCalls host sessionError delivered) = [] := by
  rcases delivered with failure | (_ | _) <;> rfl

/-- Sending says nothing for debugging, or it comes to a delivery, and what that says is all there
is. -/
theorem runSendUnderOn_cases :
    (∃ outcome, Log.debugging (world.sendCalls arguments send fault) = [] ∧
      ∀ verbose, world.runSendUnderOn console { arguments with verbose } send fault = outcome) ∨
    ∃ client context host start, start.log = [] ∧
      Log.debugging (world.sendCalls arguments send fault) =
        deliveryCalls client arguments.settings context fault start ∧
      ∀ verbose, world.runSendUnderOn console { arguments with verbose } send fault =
        world.afterDeliveryOn console verbose host
          (deliverScanOn console client verbose arguments.settings context fault start).1
          (deliverScanOn console client verbose arguments.settings context fault start).2 := by
  have hinputs (verbose : Bool) :
    world.loadInputs { arguments with verbose } = world.loadInputs arguments := rfl
  unfold runSendUnderOn sendCalls
  simp only [hinputs]
  rcases chooseApiKey (send.apiKey.bind Setting.value?) world.environ with _ | key
  · exact .inl ⟨world.refuseOn console false 2 missingKeyMessage, rfl, fun verbose => rfl⟩
  · rcases world.loadInputs arguments with failure | ⟨scan, context⟩
    · dsimp only
      unfold unloadedCalls
      split
      · exact .inl ⟨world.refuseOn console false 2 failure.message, rfl, fun verbose => rfl⟩
      · exact .inl ⟨world.crash failure, rfl, fun verbose => rfl⟩
    · refine .inr ⟨_, context, _, _, rfl, ?_, fun verbose => rfl⟩
      dsimp only
      rw [Log.debugging_append, debugging_deliveryCalls, debugging_afterCalls, List.append_nil]

variable {world console arguments send fault}

/-- On a console that takes the lines for debugging, these are all that a verbose run adds. -/
theorem runSendUnderOn_preceded (h : console.TakesDebug (world.sendCalls arguments send fault))
    (verbose : Bool) :
    world.runSendUnderOn console { arguments with verbose } send fault =
      (world.runSendUnderOn console { arguments with verbose := false } send fault).preceded
        (Log.shown verbose (Log.debugging (world.sendCalls arguments send fault))) := by
  rcases world.runSendUnderOn_cases console arguments send fault with ⟨outcome, hnone, hrun⟩ |
    ⟨client, context, host, start, hstart, hcalls, hrun⟩
  · rw [hrun, hrun, hnone]
    rfl
  · have htakes := h.takes verbose
    rw [hcalls] at htakes ⊢
    have hsilent :
        (deliverScan client false arguments.settings context fault start).2.log = [] := by
      rw [deliverScan_log, hstart, ← debugging_deliveryCalls, Log.shown_quiet_debugging]
      rfl
    rw [hrun, hrun, deliverScanOn_of_takes htakes, deliverScanOn_quiet, deliverScan_eq, hstart,
      ← world.afterDeliveryOn_preceded console verbose, hsilent, List.append_nil]
    rfl

/-- On any other console a verbose run does not get past them. -/
theorem runSendUnderOn_endsAtDebug
    (h : ¬ console.TakesDebug (world.sendCalls arguments send fault)) :
    (world.runSendUnderOn console { arguments with verbose := true } send fault).EndsAtDebug console
      (world.sendCalls arguments send fault) := by
  rcases world.runSendUnderOn_cases console arguments send fault with ⟨outcome, hnone, hrun⟩ |
    ⟨client, context, host, start, hstart, hcalls, hrun⟩
  · refine absurd ?_ h
    rw [Console.TakesDebug, hnone]
    exact console.takes_nil
  · rw [Console.TakesDebug, hcalls] at h
    rw [hrun, Outcome.EndsAtDebug, hcalls]
    rcases console.emit_cases (Log.shown true
        (deliveryCalls client arguments.settings context fault start)) with htakes |
      ⟨shown, entry, rest, error, hlines, -, hentry, hemit⟩
    · exact absurd htakes h
    · generalize hdelivery :
        deliverScanOn console client true arguments.settings context fault start = delivery
      cases hdelivery ▸
          deliverScanOn_shows console client true arguments.settings context fault start with
      | taken htakes => exact absurd htakes h
      | refused hemit' hlog _ =>
        obtain ⟨⟨⟩, rfl⟩ := Prod.mk.inj (hemit.symm.trans hemit')
        refine ⟨shown, entry, rest, error, hlines, hentry, rfl, ?_⟩
        rw [hstart] at hlog
        exact hlog

end World

/-! ### Other names -/

/-- The same with other names for temporary directories and files. -/
def World.renamed (world : World) (root : Text) (label : Nat → Text) : World :=
  { world with area := world.area.renamed root label }

/-- Outcomes that are the same but for names, the `n`-th package being at `path n` in one run and at
`path' n` in the other. -/
structure Outcome.SameButNames (path path' : Nat → Text) (outcome outcome' : Outcome) : Prop where
  exit : outcome.exit = outcome'.exit
  log : outcome.log = outcome'.log
  summary : outcome.summary = outcome'.summary
  requests : Option.Rel (List.Forall₂ (Request.SameButName path path')) outcome.requests
    outcome'.requests
  files : outcome.files = outcome'.files
  /-- The same directories are left. -/
  directories : outcome.area.existing = outcome'.area.existing

/-- What is shown in the end makes no difference. -/
theorem Outcome.SameButNames.finish {path path' : Nat → Text} {outcome outcome' : Outcome}
    (h : outcome.SameButNames path path' outcome') (console : Console)
    (table : Option (List SummaryRow)) (lines : Log) :
    (outcome.finish console table lines).SameButNames path path'
      (outcome'.finish console table lines) := by
  unfold Outcome.finish
  rcases console.draw table with failure | _
  · exact ⟨rfl, h.log, h.summary, h.requests, h.files, h.directories⟩
  · exact ⟨by simp only [h.exit], by simp only [h.log], rfl, h.requests, h.files, h.directories⟩

namespace World

variable (world : World) (console : Console) (arguments : Arguments) (build : BuildArguments)
  (send : SendArguments) (fault : Option PackagingFault) (verbose : Bool) (root : Text)
  (label : Nat → Text) {path path' : Nat → Text}

theorem refuseOn_renamed (code : Nat) (message : Text) :
    (world.refuseOn console verbose code message).SameButNames path path'
      ((world.renamed root label).refuseOn console verbose code message) := by
  unfold refuseOn
  refine Outcome.SameButNames.finish ?_ console _ _
  exact ⟨rfl, rfl, rfl, .none, rfl, rfl⟩

theorem crash_renamed (failure : Failure) :
    (world.crash failure).SameButNames path path' ((world.renamed root label).crash failure) :=
  ⟨rfl, rfl, rfl, .none, rfl, rfl⟩

theorem writeReportOn_renamed (output : Setting Text) (report : Report) :
    (world.writeReportOn console verbose output report).SameButNames path path'
      ((world.renamed root label).writeReportOn console verbose output report) := by
  have hpath : (world.renamed root label).pathOf output = world.pathOf output := rfl
  have hfiles : (world.renamed root label).files = world.files := rfl
  simp only [writeReportOn, hpath, hfiles]
  split
  · exact world.crash_renamed root label _
  · exact world.crash_renamed root label _
  · split
    · refine Outcome.SameButNames.finish ?_ console _ _
      exact ⟨rfl, rfl, rfl, .none, rfl, rfl⟩
    · next files _ => exact refuseOn_renamed { world with files } console verbose root label 1 _
    · exact ⟨rfl, rfl, rfl, .none, rfl, rfl⟩

/-- A build has nothing to do with temporary files. -/
theorem runBuildOn_renamed :
    (world.runBuildOn console arguments build).SameButNames path path'
      ((world.renamed root label).runBuildOn console arguments build) := by
  have hinputs : (world.renamed root label).loadInputs arguments = world.loadInputs arguments := rfl
  simp only [runBuildOn, hinputs]
  rcases world.loadInputs arguments with failure | ⟨scan, context⟩
  · dsimp only
    split
    · exact world.refuseOn_renamed console arguments.verbose root label 2 failure.message
    · exact world.crash_renamed root label failure
  · dsimp only
    rcases scan.assembleReport arguments.settings context build.strict with
      failure | ⟨report, kept⟩
    · cases failure with
      | report error =>
        exact world.refuseOn_renamed console arguments.verbose root label 1 error.message
      | _ => exact world.crash_renamed root label _
    · exact world.writeReportOn_renamed console arguments.verbose root label build.output report

theorem afterDeliveryOn_renamed (host : Text) (delivered : Except Failure Bool)
    {s s' : DeliveryState} (h : s.SameButNames path path' s') :
    (world.afterDeliveryOn console verbose host delivered s).SameButNames path path'
      ((world.renamed root label).afterDeliveryOn console verbose host delivered s') := by
  have hends (exit : Except Failure Nat) : Outcome.SameButNames path path'
      { exit, log := s.log, requests := some s.conversation.requests, files := world.files,
        area := s.area }
      { exit, log := s'.log, requests := some s'.conversation.requests, files := world.files,
        area := s'.area } :=
    ⟨rfl, h.log, rfl, .some h.conversation.requests, rfl, h.directories⟩
  unfold afterDeliveryOn
  split
  · exact hends _
  · rw [h.sessionError]
    exact (hends _).finish console _ _
  · rw [h.scan]
    exact (hends _).finish console _ _

/-- The names show in messages for debugging, so this is about quiet runs. -/
theorem runSendUnderOn_renamed :
    (world.runSendUnderOn console { arguments with verbose := false } send fault).SameButNames
      world.area.filePath (world.renamed root label).area.filePath
      ((world.renamed root label).runSendUnderOn console { arguments with verbose := false } send
        fault) := by
  have hinputs : (world.renamed root label).loadInputs { arguments with verbose := false } =
    world.loadInputs { arguments with verbose := false } := rfl
  have henviron : (world.renamed root label).environ = world.environ := rfl
  simp only [runSendUnderOn, hinputs, henviron, deliverScanOn_quiet]
  rcases chooseApiKey (send.apiKey.bind Setting.value?) world.environ with _ | key
  · exact world.refuseOn_renamed console false root label 2 missingKeyMessage
  · rcases world.loadInputs { arguments with verbose := false } with failure | ⟨scan, context⟩
    · dsimp only
      split
      · exact world.refuseOn_renamed console false root label 2 failure.message
      · exact world.crash_renamed root label failure
    · obtain ⟨answer, left, left', hrun, hrun', hsame⟩ :=
        deliverScan_renamed root label (.create key
          (chooseHost (send.host.bind Setting.value?) world.environ) Client.defaultUserAgent
          send.seconds) { arguments with verbose := false }.settings context fault
          { scan, area := world.area, conversation := { replies := world.replies } }
      have hends := world.afterDeliveryOn_renamed console false root label
        (chooseHost (send.host.bind Setting.value?) world.environ) answer hsame
      have hrun' : deliverScan _ false _ context fault
          { scan, area := (world.renamed root label).area,
            conversation := { replies := (world.renamed root label).replies } } =
        (answer, left') := hrun'
      dsimp only
      rw [hrun, hrun']
      exact hends

end World

/-! ### The main theorem -/

/-- The two outcomes are the same, but for debug entries in the log of the verbose one. -/
structure Outcome.Quiets (verbose quiet : Outcome) : Prop where
  exit : quiet.exit = verbose.exit
  log : quiet.log = verbose.log.withoutDebug
  summary : quiet.summary = verbose.summary
  requests : quiet.requests = verbose.requests
  files : quiet.files = verbose.files
  area : quiet.area = verbose.area

/-- The log is what the calls leave, line by line under their levels, up to where the console
refuses something. -/
structure Outcome.Records (verbose : Bool) (calls : List LogCall) (outcome : Outcome) : Prop where
  shown : ∃ whole, Log.Records verbose calls whole ∧ outcome.log <+: whole ∧
    ((∀ error, outcome.exit ≠ .error (.console error)) → outcome.log = whole)
  oneLine : ∀ entry ∈ outcome.log, entry.line.OneLine

/-- All that verbosity does to the run of a command that makes these calls is to show the ones for
debugging. -/
structure OnlyAddsDebug (run : World → Bool → Outcome) (world : World) (calls : List LogCall) :
    Prop where
  quiets : (run world true).Quiets (run world false)
  /-- The quiet run is the same under other names, its log included. -/
  names : ∀ root label, (run world false).SameButNames world.area.filePath
    (world.renamed root label).area.filePath (run (world.renamed root label) false)
  records : ∀ verbose, (run world verbose).Records verbose calls

theorem Outcome.ShownOn.records {console : Console} {obliged outcome : Outcome} {verbose : Bool}
    {calls : List LogCall} (h : obliged.ShownOn console outcome)
    (hlog : obliged.log = Log.shown verbose calls) : outcome.Records verbose calls := by
  have hwhole : Log.Records verbose calls obliged.log := Log.records_iff.2 hlog
  cases h with
  | taken =>
    exact ⟨⟨_, hwhole, List.prefix_refl _, fun _ => rfl⟩, hwhole.oneLine⟩
  | refused _ hexit hstart =>
    exact ⟨⟨_, hwhole, hstart, fun hother => absurd hexit (hother _)⟩,
      fun entry hmem => hwhole.oneLine entry (hstart.subset hmem)⟩

/-- It is enough that the verbose run is the quiet one with the calls for debugging before its
log. -/
theorem onlyAddsDebug_of_preceded {run : World → Bool → Outcome} {world : World}
    {calls : List LogCall}
    (hrun : run world true = (run world false).preceded (Log.shown true (Log.debugging calls)))
    (hnames : ∀ root label, (run world false).SameButNames world.area.filePath
      (world.renamed root label).area.filePath (run (world.renamed root label) false))
    (hrecords : ∀ verbose, (run world verbose).Records verbose calls) :
    OnlyAddsDebug run world calls := by
  refine ⟨?_, hnames, hrecords⟩
  have hquiet : (run world false).log.withoutDebug = (run world false).log := by
    obtain ⟨whole, hwhole, hstart, -⟩ := (hrecords false).shown
    rw [Log.records_iff.1 hwhole] at hstart
    exact Log.withoutDebug_of_prefix hstart
  have hlog : (run world false).log = (run world true).log.withoutDebug := by
    rw [hrun, Outcome.preceded, Log.withoutDebug_append, Log.withoutDebug_shown,
      Log.shown_quiet_debugging, hquiet, List.nil_append]
  rw [hrun] at hlog ⊢
  exact ⟨rfl, hlog, rfl, rfl, rfl, rfl⟩

/-- **Main theorem.** Verbose or quiet, a command ends with the same exit code or failure, requests,
files and summary, whatever its inputs, the collector's replies and the faults in packaging. Other
names for temporary files change no more than the name in the request for an offer. The quiet log is
the verbose one without its debug entries, and either has a line for each line of each call that is
not hidden, in order and under the call's level, up to where the console refuses something. All this
holds of sending only if the console takes the lines for debugging. If it does not, a verbose run
fails at the first one that is refused. -/
theorem verbosity_adds_debug_lines (console : Console) (world : World) (arguments : Arguments) :
    (∀ build, OnlyAddsDebug
      (fun world verbose => world.runBuildOn console { arguments with verbose } build) world
      (world.buildCalls arguments build)) ∧
    (∀ send fault, console.TakesDebug (world.sendCalls arguments send fault) → OnlyAddsDebug
      (fun world verbose => world.runSendUnderOn console { arguments with verbose } send fault)
      world (world.sendCalls arguments send fault)) ∧
    (∀ send fault, ¬ console.TakesDebug (world.sendCalls arguments send fault) →
      (world.runSendUnderOn console { arguments with verbose := true } send fault).EndsAtDebug
        console (world.sendCalls arguments send fault)) ∧
    ∀ send, world.runSendUnderOn console arguments send none =
      world.runSendOn console arguments send := by
  refine ⟨fun build => ?_, fun send fault htakes => ?_, fun send fault hnot => ?_, fun send => ?_⟩
  · have hrun : world.runBuildOn console { arguments with verbose := true } build =
        (world.runBuildOn console { arguments with verbose := false } build).preceded
          (Log.shown true (Log.debugging (world.buildCalls arguments build))) := by
      rw [World.debugging_buildCalls]
      rfl
    refine onlyAddsDebug_of_preceded hrun (fun root label => world.runBuildOn_renamed console
      { arguments with verbose := false } build root label) fun verbose => ?_
    exact (world.runBuildOn_shown console { arguments with verbose } build).records
      (world.runBuild_log arguments build verbose)
  · refine onlyAddsDebug_of_preceded (World.runSendUnderOn_preceded htakes true)
      (world.runSendUnderOn_renamed console arguments send fault) fun verbose => ?_
    exact (world.runSendUnderOn_shown console { arguments with verbose } send fault).records
      (world.runSendUnderOn_log arguments send fault verbose)
  · exact World.runSendUnderOn_endsAtDebug hnot
  · exact world.runSendUnderOn_none console arguments send

/-! ### A console that refuses a line -/

def closingTag : Text := "[/x]"

/-- A console that knows no tag but its own, and takes no line that closes another. -/
def tagConsole : Console where
  line entry :=
    let places := List.range entry.line.length
    (places.find? fun n => closingTag.isPrefixOf (entry.line.drop n)).map fun n =>
      ⟨"closing tag '[/x]' at position " ++ Text.ofNat n ++ " doesn't match any open tag"⟩
  table _ := none

/-- Scan results in a repository, and a collector that makes no offer and says why. -/
def World.unoffered (reason : String) : World :=
  { sampleIn repositoryEnviron with
    replies := [.response 500 (.ofBytes (reason.toList.map fun c => .ofNat c.toNat))] }

theorem not_takesDebug_unoffered : ¬ tagConsole.TakesDebug
    ((World.unoffered "[/x] not found").sendCalls sendingArguments World.sampleSend none) := by
  decide +kernel

/-- The same answer ends a verbose run only if it is no markup. -/
theorem sampleVerbosity_adds_debug_lines :
    (tagConsole.TakesDebug
        ((World.unoffered "not found").sendCalls sendingArguments World.sampleSend none) ∧
      ((World.unoffered "not found").runSendUnderOn tagConsole
        { sendingArguments with verbose := true } World.sampleSend none).Quiets
        ((World.unoffered "not found").runSendUnderOn tagConsole
          { sendingArguments with verbose := false } World.sampleSend none)) ∧
    ¬ tagConsole.TakesDebug
        ((World.unoffered "[/x] not found").sendCalls sendingArguments World.sampleSend none) ∧
      ((World.unoffered "[/x] not found").runSendUnderOn tagConsole
        { sendingArguments with verbose := true } World.sampleSend none).EndsAtDebug tagConsole
        ((World.unoffered "[/x] not found").sendCalls sendingArguments World.sampleSend none) := by
  have htakes : tagConsole.TakesDebug
      ((World.unoffered "not found").sendCalls sendingArguments World.sampleSend none) := by
    decide +kernel
  obtain ⟨-, hadds, -, -⟩ :=
    verbosity_adds_debug_lines tagConsole (World.unoffered "not found") sendingArguments
  obtain ⟨-, -, hends, -⟩ :=
    verbosity_adds_debug_lines tagConsole (World.unoffered "[/x] not found") sendingArguments
  exact ⟨⟨htakes, (hadds _ _ htakes).quiets⟩, not_takesDebug_unoffered,
    hends _ _ not_takesDebug_unoffered⟩

/-- The collector refuses to make an offer, and what a verbose run has to say about it is no
markup. -/
theorem debugLine_ends_verbose_run :
    ∃ error,
      ((World.unoffered "[/x] not found").runSendOn tagConsole
        { sendingArguments with verbose := true } World.sampleSend).exit =
          .error (.console error) ∧
      ((World.unoffered "[/x] not found").runSendOn tagConsole
        { sendingArguments with verbose := false } World.sampleSend).exit = .ok 1 := by
  obtain ⟨-, -, -, error, -, -, hexit, -⟩ :=
    World.runSendUnderOn_endsAtDebug not_takesDebug_unoffered
  rw [World.runSendUnderOn_none] at hexit
  exact ⟨error, hexit, World.exit_of_toOption (by decide +kernel)⟩

end ReportDelivery
