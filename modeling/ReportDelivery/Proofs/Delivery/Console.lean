import ReportDelivery.Proofs.Delivery.Verbosity

/-! Deliveries on any console.

All that a delivery shows is for debugging. If the console takes it, the delivery goes as on an
obliging one. Otherwise it fails at the first line that is refused, with what was shown before that
line in its log and the directories as they are in the end (`deliverScanOn_shows`). A quiet delivery
shows nothing, so it is the same on every console. -/
namespace ReportDelivery

/-- How a delivery that adds `lines` to the log goes on a console, by how it goes on an obliging
one. -/
inductive ShowsOn (console : Console) (log lines : Log)
    (obliged : Except Failure Bool × DeliveryState) :
    Except Failure Bool × DeliveryState → Prop where
  | taken (htakes : console.Takes lines) : ShowsOn console log lines obliged obliged
  | refused {error : ConsoleError} {shown : Log} {left : DeliveryState}
      (hemit : console.emit lines = (.error (.console error), shown))
      (hlog : left.log = log ++ shown) (harea : left.area = obliged.2.area) :
      ShowsOn console log lines obliged (.error (.console error), left)

/-- The directories are the same on every console. -/
theorem ShowsOn.area {console : Console} {log lines : Log}
    {obliged run : Except Failure Bool × DeliveryState}
    (h : ShowsOn console log lines obliged run) : run.2.area = obliged.2.area := by
  cases h with
  | taken => rfl
  | refused _ _ harea => exact harea

/-! ### One message -/

section
variable (console : Console) (verbose : Bool) (message : Text) (s : DeliveryState)

theorem DeliveryState.debugOn_cases :
    (console.Takes (Log.entries verbose .debug message) ∧
      s.debugOn console verbose message = (.ok (), s.debug verbose message)) ∨
    ∃ error shown,
      console.emit (Log.entries verbose .debug message) = (.error (.console error), shown) ∧
      s.debugOn console verbose message =
        (.error (.console error), { s with log := s.log ++ shown }) := by
  by_cases htakes : console.Takes (Log.entries verbose .debug message)
  · refine .inl ⟨htakes, ?_⟩
    rw [debugOn, htakes.emit]
    rfl
  · obtain ⟨error, shown, hemit, -⟩ := Console.emit_refused htakes
    refine .inr ⟨error, shown, hemit, ?_⟩
    rw [debugOn, hemit]

variable {console s} {log lines : Log}

/-- A delivery that has come to an answer shows a last message. -/
theorem shows_last (h : console.Takes lines) (hlog : s.log = log ++ lines) (answer : Bool) :
    ShowsOn console log (lines ++ Log.entries verbose .debug message)
      (.ok answer, s.debug verbose message)
      ((s.debugOn console verbose message).1.map fun _ => answer,
        (s.debugOn console verbose message).2) := by
  rcases s.debugOn_cases console verbose message with ⟨htakes, hdebug⟩ |
    ⟨error, shown, hemit, hdebug⟩
  · rw [hdebug]
    exact .taken (Console.takes_append.2 ⟨h, htakes⟩)
  · rw [hdebug]
    have hboth : console.emit (lines ++ Log.entries verbose .debug message) =
        (.error (.console error), lines ++ shown) := by
      rw [h.emit_append, hemit]
    refine .refused hboth ?_ rfl
    show s.log ++ shown = _
    rw [hlog, List.append_assoc]

end

/-! ### Deliveries -/

section
variable (console : Console) (client : Client) (verbose : Bool) (settings : Settings)
  (context : Option Repository) (fault : Option PackagingFault) (report : Report)
  (artifact : Artifact) (s : DeliveryState)

theorem deliverArtifactOn_shows :
    ShowsOn console s.log (Log.shown verbose (artifactCalls client report artifact s.conversation))
      (deliverArtifact client verbose report artifact s)
      (deliverArtifactOn console client verbose report artifact s) := by
  rw [deliverArtifact_def, deliverArtifactOn, artifactCalls]
  have hspoken : (s.debug verbose ("Report packaged at " ++ artifact.path)).conversation =
      s.conversation := rfl
  rcases hdeliver : client.deliver report.identity artifact s.conversation with
    ⟨result, identity, c⟩
  dsimp only
  rw [hspoken, hdeliver]
  dsimp only
  rw [Log.shown_cons]
  rcases s.debugOn_cases console verbose ("Report packaged at " ++ artifact.path) with
    ⟨htakes, hdebug⟩ | ⟨error, shown, hemit, hdebug⟩
  · rw [hdebug]
    dsimp only
    rw [hspoken, hdeliver]
    dsimp only
    rcases result with failure | _
    · cases failure with
      | report error =>
        rw [endCalls, Log.shown_singleton]
        exact shows_last verbose _ htakes rfl false
      | _ =>
        rw [endCalls, Log.shown_nil, List.append_nil]
        · exact .taken htakes
        · intro error herror
          cases herror
    · rw [endCalls, Log.shown_singleton]
      exact shows_last verbose _ htakes rfl true
  · rw [hdebug]
    refine .refused (Console.emit_append_of_error hemit _) rfl ?_
    rcases result with failure | _
    · cases failure <;> rfl
    · rfl

theorem deliverReportOn_shows :
    ShowsOn console s.log (Log.shown verbose (reportCalls client fault report s))
      (deliverReport client verbose fault report s)
      (deliverReportOn console client verbose fault report s) := by
  rw [deliverReport_def, deliverReportOn, reportCalls]
  rcases s.area.package fault report with ⟨stop | artifact, area⟩
  · cases stop with
    | unwritable | tooDeep => exact .taken (console.takes_nil)
    | packaging error directory =>
      rw [Log.shown_singleton]
      have hshows (area : TempArea) := shows_last (s := ({ s with area }).fail packagingMessage)
        verbose ("error creating report: " ++ error.message) console.takes_nil
        (List.append_nil s.log).symm false
      cases directory with
      | none => exact hshows area
      | some n => exact hshows (area.remove n)
  · exact deliverArtifactOn_shows console client verbose report artifact { s with area }

/-- **Deliveries on any console.** -/
theorem deliverScanOn_shows :
    ShowsOn console s.log (Log.shown verbose (deliveryCalls client settings context fault s))
      (deliverScan client verbose settings context fault s)
      (deliverScanOn console client verbose settings context fault s) := by
  rw [deliverScan_def, deliverScanOn, deliveryCalls]
  rcases s.scan.reportToSend settings context with failure | ⟨report, scan⟩
  · cases failure with
    | report error =>
      dsimp only
      rw [Log.shown_singleton]
      rcases s.debugOn_cases console verbose (identityMessage error) with ⟨htakes, hdebug⟩ |
        ⟨error, shown, hemit, hdebug⟩
      · rw [hdebug]
        exact .taken htakes
      · rw [hdebug]
        exact .refused hemit rfl rfl
    | _ => exact .taken (console.takes_nil)
  · exact deliverReportOn_shows console client verbose fault report { s with scan }

variable {console client verbose settings context fault s}

/-- On a console that takes what a delivery shows, it goes as on an obliging one. -/
theorem deliverScanOn_of_takes
    (h : console.Takes (Log.shown verbose (deliveryCalls client settings context fault s))) :
    deliverScanOn console client verbose settings context fault s =
      deliverScan client verbose settings context fault s := by
  generalize hrun : deliverScanOn console client verbose settings context fault s = run
  cases hrun ▸ deliverScanOn_shows console client verbose settings context fault s with
  | taken => rfl
  | refused hemit => cases h.emit.symm.trans hemit

/-- All that a delivery says is for debugging. -/
theorem debugging_deliveryCalls :
    Log.debugging (deliveryCalls client settings context fault s) =
      deliveryCalls client settings context fault s := by
  have hartifact (report : Report) (artifact : Artifact) (c : Conversation) :
      ∀ call ∈ artifactCalls client report artifact c, call.level = .debug := by
    unfold artifactCalls
    rcases client.deliver report.identity artifact c with ⟨result, identity, -⟩
    refine List.forall_mem_cons.2 ⟨rfl, ?_⟩
    unfold endCalls
    split
    · exact List.forall_mem_singleton.2 rfl
    · exact List.forall_mem_singleton.2 rfl
    · exact List.forall_mem_nil _
  refine Log.debugging_of_forall ?_
  unfold deliveryCalls
  split
  · unfold reportCalls
    split
    · exact hartifact _ _ _
    · exact List.forall_mem_singleton.2 rfl
    · exact List.forall_mem_nil _
    · exact List.forall_mem_nil _
  · exact List.forall_mem_singleton.2 rfl
  · exact List.forall_mem_nil _

/-- A quiet delivery shows nothing, so it is the same on every console. -/
theorem deliverScanOn_quiet :
    deliverScanOn console client false settings context fault s =
      deliverScan client false settings context fault s := by
  refine deliverScanOn_of_takes ?_
  rw [← debugging_deliveryCalls, Log.shown_quiet_debugging]
  exact console.takes_nil

variable (console client verbose settings context fault s)

theorem deliverReportOn_area :
    (deliverReportOn console client verbose fault report s).2.area =
      (deliverReport client verbose fault report s).2.area :=
  (deliverReportOn_shows console client verbose fault report s).area

end

end ReportDelivery
