import ReportDelivery.Command.Run
import ReportDelivery.Proofs.Delivery.Console

/-! Commands on an obliging console, and on others.

On an obliging console nothing is refused, and a command has the plain form of `runBuild_def` and
`runSend_def`. A console that takes the log and the table of such a run (`Console.Accepts`) makes no
difference to it. On any other the run fails at the first thing that is refused, with the files as
they are in the end (`Outcome.ShownOn`). -/
namespace ReportDelivery

/-- The console takes what the run shows: its log, and its table if it has one. -/
structure Console.Accepts (console : Console) (outcome : Outcome) : Prop where
  log : console.Takes outcome.log
  table : ∀ rows, outcome.summary = some rows → console.table rows = none

/-- How a run goes on a console, by how it goes on an obliging one. -/
inductive Outcome.ShownOn (console : Console) (obliged : Outcome) : Outcome → Prop where
  | taken (haccepts : console.Accepts obliged) : ShownOn console obliged obliged
  | refused {outcome : Outcome} {error : ConsoleError} (hnot : ¬ console.Accepts obliged)
      (hexit : outcome.exit = .error (.console error)) (hlog : outcome.log <+: obliged.log)
      (hfiles : outcome.files = obliged.files) : ShownOn console obliged outcome

theorem Console.accepts_obliging (outcome : Outcome) : Console.obliging.Accepts outcome :=
  ⟨takes_obliging _, fun _ _ => rfl⟩

theorem Console.draw_cases (console : Console) (table : Option (List SummaryRow)) :
    (console.draw table = .ok () ∧ ∀ rows, table = some rows → console.table rows = none) ∨
      ∃ rows error, table = some rows ∧ console.table rows = some error ∧
        console.draw table = .error (.console error) := by
  cases table with
  | none => exact .inl ⟨rfl, nofun⟩
  | some rows =>
    rw [draw, Option.bind_some]
    cases htable : console.table rows with
    | none => exact .inl ⟨rfl, by rintro _ ⟨⟩; exact htable⟩
    | some error => exact .inr ⟨rows, error, rfl, htable, rfl⟩

namespace Outcome

variable {console : Console} {outcome obliged : Outcome}

theorem ShownOn.eq_of_accepts (h : obliged.ShownOn console outcome)
    (haccepts : console.Accepts obliged) : outcome = obliged := by
  cases h with
  | taken => rfl
  | refused hnot => exact absurd haccepts hnot

theorem finish_obliging (outcome : Outcome) (table : Option (List SummaryRow)) (lines : Log) :
    outcome.finish .obliging table lines =
      { outcome with log := outcome.log ++ lines, summary := table } := by
  rw [finish, Console.draw_obliging, Console.emit_obliging]
  rfl

theorem finish_shown (h : console.Takes outcome.log) (table : Option (List SummaryRow))
    (lines : Log) :
    (outcome.finish .obliging table lines).ShownOn console
      (outcome.finish console table lines) := by
  rw [finish_obliging, finish]
  rcases console.draw_cases table with ⟨hdraw, htable⟩ | ⟨rows, error, rfl, hrefused, hdraw⟩
  · rw [hdraw]
    by_cases htakes : console.Takes lines
    · rw [htakes.emit]
      exact .taken ⟨Console.takes_append.2 ⟨h, htakes⟩, htable⟩
    · obtain ⟨error, shown, hemit, hprefix⟩ := Console.emit_refused htakes
      rw [hemit]
      exact .refused (fun haccepts => htakes (Console.takes_append.1 haccepts.log).2) rfl
        ((List.prefix_append_right_inj _).2 hprefix) rfl
  · rw [hdraw]
    refine .refused (fun haccepts => ?_) rfl (List.prefix_append _ _) rfl
    cases hrefused.symm.trans (haccepts.table rows rfl)

end Outcome

namespace World

/-! ### On an obliging console -/

section
variable (world : World) (arguments : Arguments) (verbose : Bool)

theorem refuse_def (code : Nat) (message : Text) :
    world.refuse verbose code message = {
      exit := .ok code
      log := Log.entries verbose .error message
      files := world.files
      area := world.area } := by
  rw [refuse, refuseOn, Outcome.finish_obliging]
  rfl

@[simp] theorem refuse_exit (code : Nat) (message : Text) :
    (world.refuse verbose code message).exit = .ok code := by
  rw [refuse_def]

theorem writeReport_def (output : Setting Text) (report : Report) :
    world.writeReport verbose output report =
      match world.pathOf output, report.encoded with
      | .error failure, _ => world.crash failure
      | .ok _, .error error => world.crash (.ofDocument error)
      | .ok output, .ok content =>
        match world.files.write output (outputContent output content) with
        | (.ok _, files) => {
            exit := .ok 0
            log := Log.entries verbose .done ("Report written to: " ++ output)
            summary := some (Summary.rows report)
            files
            area := world.area }
        | (.error (.system error), files) =>
          { world with files }.refuse verbose 1
            ("Failed to write " ++ output ++ ": " ++ error.message)
        | (.error error, files) => { exit := .error (.file error), files, area := world.area } := by
  simp only [writeReport, writeReportOn, Outcome.finish_obliging]
  rfl

theorem runBuild_def (build : BuildArguments) :
    world.runBuild arguments build =
      match world.loadInputs arguments with
      | .error failure =>
        if failure.isInputFault then world.refuse arguments.verbose 2 failure.message
        else world.crash failure
      | .ok (scan, context) =>
        match scan.assembleReport arguments.settings context build.strict with
        | .error (.report error) => world.refuse arguments.verbose 1 error.message
        | .error failure => world.crash failure
        | .ok (report, _) => world.writeReport arguments.verbose build.output report := rfl

theorem afterDelivery_def (host : Text) (delivered : Except Failure Bool) (s : DeliveryState) :
    world.afterDelivery verbose host delivered s =
      let requests := some s.conversation.requests
      match delivered with
      | .error failure =>
        { exit := .error failure, log := s.log, requests, files := world.files, area := s.area }
      | .ok false => {
          exit := .ok 1
          log := s.log ++ Log.entries verbose .error (s.sessionError.getD uploadMessage)
          requests
          files := world.files
          area := s.area }
      | .ok true => {
          exit := .ok 0
          log := s.log ++ Log.entries verbose .done ("Report sent to " ++ host)
          summary := s.scan.report.map Summary.rows
          requests
          files := world.files
          area := s.area } := by
  rcases delivered with failure | (_ | _)
  · rfl
  all_goals simp only [afterDelivery, afterDeliveryOn, Outcome.finish_obliging]

theorem runSend_def (send : SendArguments) :
    world.runSend arguments send =
      match chooseApiKey (send.apiKey.bind Setting.value?) world.environ with
      | none => world.refuse arguments.verbose 2 missingKeyMessage
      | some apiKey =>
        match world.loadInputs arguments with
        | .error failure =>
          if failure.isInputFault then world.refuse arguments.verbose 2 failure.message
          else world.crash failure
        | .ok (scan, context) =>
          let host := chooseHost (send.host.bind Setting.value?) world.environ
          let client := Client.create apiKey host Client.defaultUserAgent send.seconds
          let start : DeliveryState :=
            { scan, area := world.area, conversation := { replies := world.replies } }
          let (delivered, s) :=
            deliverScan client arguments.verbose arguments.settings context none start
          world.afterDelivery arguments.verbose host delivered s := rfl

end

/-! ### On any console -/

section
variable (world : World) (console : Console) (arguments : Arguments) (verbose : Bool)

theorem refuseOn_shown (code : Nat) (message : Text) :
    (world.refuse verbose code message).ShownOn console
      (world.refuseOn console verbose code message) := by
  unfold refuse refuseOn
  refine Outcome.finish_shown ?_ _ _
  exact console.takes_nil

theorem crash_shown (failure : Failure) :
    (world.crash failure).ShownOn console (world.crash failure) :=
  .taken ⟨console.takes_nil, nofun⟩

theorem writeReportOn_shown (output : Setting Text) (report : Report) :
    (world.writeReport verbose output report).ShownOn console
      (world.writeReportOn console verbose output report) := by
  unfold writeReport writeReportOn
  split
  · exact world.crash_shown console _
  · exact world.crash_shown console _
  · split
    · refine Outcome.finish_shown ?_ _ _
      exact console.takes_nil
    · next error files _ => exact refuseOn_shown { world with files } console verbose 1 _
    · exact .taken ⟨console.takes_nil, nofun⟩

theorem runBuildOn_shown (build : BuildArguments) :
    (world.runBuild arguments build).ShownOn console
      (world.runBuildOn console arguments build) := by
  unfold runBuild runBuildOn
  split
  · split
    · exact world.refuseOn_shown console arguments.verbose 2 _
    · exact world.crash_shown console _
  · split
    · exact world.refuseOn_shown console arguments.verbose 1 _
    · exact world.crash_shown console _
    · exact world.writeReportOn_shown console arguments.verbose build.output _

theorem afterDeliveryOn_shown (host : Text) (delivered : Except Failure Bool) {s : DeliveryState}
    (h : console.Takes s.log) :
    (world.afterDelivery verbose host delivered s).ShownOn console
      (world.afterDeliveryOn console verbose host delivered s) := by
  unfold afterDelivery afterDeliveryOn
  split
  · exact .taken ⟨h, nofun⟩
  all_goals
    refine Outcome.finish_shown ?_ _ _
    exact h

/-- Sending, where the system does `fault` to the packaging of the report. -/
def runSendUnderOn (send : SendArguments) (fault : Option PackagingFault) : Outcome :=
  match chooseApiKey (send.apiKey.bind Setting.value?) world.environ with
  | none => world.refuseOn console arguments.verbose 2 missingKeyMessage
  | some apiKey =>
    match world.loadInputs arguments with
    | .error failure =>
      if failure.isInputFault then world.refuseOn console arguments.verbose 2 failure.message
      else world.crash failure
    | .ok (scan, context) =>
      let host := chooseHost (send.host.bind Setting.value?) world.environ
      let client := Client.create apiKey host Client.defaultUserAgent send.seconds
      let start : DeliveryState :=
        { scan, area := world.area, conversation := { replies := world.replies } }
      let (delivered, s) :=
        deliverScanOn console client arguments.verbose arguments.settings context fault start
      world.afterDeliveryOn console arguments.verbose host delivered s

theorem runSendUnderOn_none (send : SendArguments) :
    world.runSendUnderOn console arguments send none = world.runSendOn console arguments send := rfl

/-- What was said before stays in the log. -/
theorem prefix_afterDelivery (host : Text) (delivered : Except Failure Bool) (s : DeliveryState) :
    s.log <+: (world.afterDelivery verbose host delivered s).log := by
  rw [afterDelivery_def]
  rcases delivered with failure | (_ | _)
  · exact List.prefix_refl _
  · exact List.prefix_append _ _
  · exact List.prefix_append _ _

theorem files_afterDelivery (host : Text) (delivered : Except Failure Bool) (s : DeliveryState) :
    (world.afterDelivery verbose host delivered s).files = world.files := by
  rw [afterDelivery_def]
  rcases delivered with failure | (_ | _) <;> rfl

/-- After a delivery on the console, by one on an obliging console that started with nothing said.
-/
theorem afterDeliveryOn_run_shown (host : Text) {obliged run : Except Failure Bool × DeliveryState}
    (h : ShowsOn console [] obliged.2.log obliged run) :
    (world.afterDelivery verbose host obliged.1 obliged.2).ShownOn console
      (world.afterDeliveryOn console verbose host run.1 run.2) := by
  cases h with
  | taken htakes => exact world.afterDeliveryOn_shown console verbose host _ htakes
  | @refused error shown left hemit hlog _ =>
    have hprefix := world.prefix_afterDelivery verbose host obliged.1 obliged.2
    refine .refused (fun haccepts => ?_) rfl ?_
      (world.files_afterDelivery verbose host obliged.1 obliged.2).symm
    · obtain ⟨rest, hrest⟩ := hprefix
      have htakes := haccepts.log
      rw [← hrest] at htakes
      cases (Console.takes_append.1 htakes).1.emit.symm.trans hemit
    · show left.log <+: _
      rw [hlog, List.nil_append]
      have hshown : shown <+: obliged.2.log := by
        have hprefix := console.emit_prefix obliged.2.log
        rwa [hemit] at hprefix
      exact hshown.trans hprefix

theorem runSendUnderOn_shown (send : SendArguments) (fault : Option PackagingFault) :
    (world.runSendUnderOn .obliging arguments send fault).ShownOn console
      (world.runSendUnderOn console arguments send fault) := by
  unfold runSendUnderOn
  split
  · exact world.refuseOn_shown console arguments.verbose 2 missingKeyMessage
  · split
    · split
      · exact world.refuseOn_shown console arguments.verbose 2 _
      · exact world.crash_shown console _
    · next scan context _ =>
      let start : DeliveryState :=
        { scan, area := world.area, conversation := { replies := world.replies } }
      have hshows (client : Client) : ShowsOn console []
          (deliverScan client arguments.verbose arguments.settings context fault start).2.log
          (deliverScan client arguments.verbose arguments.settings context fault start)
          (deliverScanOn console client arguments.verbose arguments.settings context fault start) := by
        rw [deliverScan_log]
        exact deliverScanOn_shows console client arguments.verbose arguments.settings context fault
          start
      exact world.afterDeliveryOn_run_shown console arguments.verbose _ (hshows _)

theorem runSendOn_shown (send : SendArguments) :
    (world.runSend arguments send).ShownOn console (world.runSendOn console arguments send) :=
  world.runSendUnderOn_shown console arguments send none

end

end World
end ReportDelivery
