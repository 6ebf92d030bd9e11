import ReportDelivery.Delivery.Deliver

/-! What a console shows.

Entries are shown up to the first one that is refused, so what is shown of a log is its start
(`emit_prefix`), and all of it if the console takes every entry (`Console.Takes`). An obliging
console takes everything, and a delivery on it has the plain form of `deliverScan_def`. -/
namespace ReportDelivery

namespace Console

variable {console : Console} {log others : Log}

/-- The console shows every entry of the log. -/
def Takes (console : Console) (log : Log) : Prop := ∀ entry ∈ log, console.line entry = none

theorem takes_nil (console : Console) : console.Takes [] := List.forall_mem_nil _

theorem takes_append : console.Takes (log ++ others) ↔ console.Takes log ∧ console.Takes others :=
  List.forall_mem_append

theorem takes_obliging (log : Log) : obliging.Takes log := fun _ _ => rfl

theorem emit_cons_of_none {entry : LogEntry} (h : console.line entry = none) (log : Log) :
    console.emit (entry :: log) = ((console.emit log).1, entry :: (console.emit log).2) := by
  rw [emit, h]

theorem emit_cons_of_some {entry : LogEntry} {error : ConsoleError}
    (h : console.line entry = some error) (log : Log) :
    console.emit (entry :: log) = (.error (.console error), []) := by
  rw [emit, h]

theorem Takes.emit (h : console.Takes log) : console.emit log = (.ok (), log) := by
  induction log with
  | nil => rfl
  | cons entry log ih =>
    obtain ⟨hentry, hlog⟩ := List.forall_mem_cons.1 h
    rw [emit_cons_of_none hentry, ih hlog]

@[simp] theorem emit_obliging (log : Log) : obliging.emit log = (.ok (), log) :=
  (takes_obliging log).emit

@[simp] theorem draw_obliging (table : Option (List SummaryRow)) :
    obliging.draw table = .ok () := by
  cases table <;> rfl

/-- A log is shown in one go or in two. -/
theorem emit_append (console : Console) (log others : Log) :
    console.emit (log ++ others) =
      match console.emit log with
      | (.ok _, shown) => ((console.emit others).1, shown ++ (console.emit others).2)
      | (.error failure, shown) => (.error failure, shown) := by
  induction log with
  | nil => rfl
  | cons entry log ih =>
    rw [List.cons_append]
    cases hentry : console.line entry with
    | some error => rw [emit_cons_of_some hentry, emit_cons_of_some hentry]
    | none =>
      rw [emit_cons_of_none hentry, emit_cons_of_none hentry, ih]
      rcases console.emit log with ⟨failure | _, shown⟩ <;> rfl

theorem emit_append_of_error {failure : Failure} {shown : Log}
    (h : console.emit log = (.error failure, shown)) (others : Log) :
    console.emit (log ++ others) = (.error failure, shown) := by
  rw [emit_append, h]

theorem Takes.emit_append (h : console.Takes log) (others : Log) :
    console.emit (log ++ others) =
      ((console.emit others).1, log ++ (console.emit others).2) := by
  rw [Console.emit_append, h.emit]

/-- What is shown of a log is its start. -/
theorem emit_prefix (console : Console) (log : Log) : (console.emit log).2 <+: log := by
  induction log with
  | nil => exact List.prefix_refl _
  | cons entry log ih =>
    cases hentry : console.line entry with
    | some error =>
      rw [emit_cons_of_some hentry]
      exact List.nil_prefix
    | none =>
      rw [emit_cons_of_none hentry]
      exact (List.prefix_cons_inj entry).2 ih

/-- A console that does not show a whole log fails at an entry that it refuses. -/
theorem emit_cases (console : Console) (log : Log) :
    console.Takes log ∨ ∃ before entry after error, log = before ++ entry :: after ∧
      console.Takes before ∧ console.line entry = some error ∧
      console.emit log = (.error (.console error), before) := by
  induction log with
  | nil => exact .inl (takes_nil console)
  | cons entry log ih =>
    cases hentry : console.line entry with
    | some error =>
      exact .inr ⟨[], entry, log, error, rfl, takes_nil console, hentry,
        emit_cons_of_some hentry log⟩
    | none =>
      rcases ih with htakes | ⟨before, refused, after, error, rfl, hbefore, hrefused, hemit⟩
      · exact .inl (List.forall_mem_cons.2 ⟨hentry, htakes⟩)
      · refine .inr ⟨entry :: before, refused, after, error, rfl,
          List.forall_mem_cons.2 ⟨hentry, hbefore⟩, hrefused, ?_⟩
        rw [emit_cons_of_none hentry, hemit]

/-- What a console shows of a log that it does not take. -/
theorem emit_refused (h : ¬ console.Takes log) :
    ∃ error shown, console.emit log = (.error (.console error), shown) ∧ shown <+: log := by
  rcases console.emit_cases log with htakes | ⟨shown, entry, after, error, rfl, -, -, hemit⟩
  · exact absurd htakes h
  · exact ⟨error, shown, hemit, List.prefix_append shown _⟩

end Console

/-! ### Deliveries on an obliging console -/

namespace DeliveryState

/-- The state once a message for debugging has been shown. -/
def debug (s : DeliveryState) (verbose : Bool) (message : Text) : DeliveryState :=
  { s with log := s.log ++ Log.entries verbose .debug message }

@[simp] theorem debugOn_obliging (s : DeliveryState) (verbose : Bool) (message : Text) :
    s.debugOn .obliging verbose message = (.ok (), s.debug verbose message) := by
  rw [debugOn, Console.emit_obliging]
  rfl

end DeliveryState

section
variable (client : Client) (verbose : Bool) (settings : Settings) (context : Option Repository)
  (fault : Option PackagingFault) (report : Report) (artifact : Artifact) (s : DeliveryState)

theorem deliverArtifact_def :
    deliverArtifact client verbose report artifact s =
      let s := s.debug verbose ("Report packaged at " ++ artifact.path)
      let (result, identity, conversation) :=
        client.deliver report.identity artifact s.conversation
      let s := { s.identify report identity with
        conversation, area := s.area.remove artifact.directory }
      match result with
      | .ok _ =>
        (.ok true, s.debug verbose
          ("Report delivered with signed id " ++ identity.signedId.display))
      | .error (.report error) =>
        (.ok false, (s.fail uploadMessage).debug verbose
          ("error sending report to collector: " ++ error.message))
      | .error failure => (.error failure, s) := by
  simp only [deliverArtifact, deliverArtifactOn, DeliveryState.debugOn_obliging]
  rfl

theorem deliverReport_def :
    deliverReport client verbose fault report s =
      let (packaged, area) := s.area.package fault report
      let s := { s with area }
      match packaged with
      | .ok artifact => deliverArtifact client verbose report artifact s
      | .error (.packaging error directory) =>
        let s := match directory with
          | some n => { s with area := s.area.remove n }
          | none => s
        (.ok false,
          (s.fail packagingMessage).debug verbose ("error creating report: " ++ error.message))
      | .error (.unwritable error) => (.error (.coercion error), s)
      | .error .tooDeep => (.error (.printing .tooDeep), s) := by
  simp only [deliverReport, deliverReportOn, DeliveryState.debugOn_obliging]
  rfl

theorem deliverScan_def :
    deliverScan client verbose settings context fault s =
      match s.scan.reportToSend settings context with
      | .ok (report, scan) => deliverReport client verbose fault report { s with scan }
      | .error (.report error) =>
        let message := identityMessage error
        (.ok false, (s.debug verbose message).fail message)
      | .error failure => (.error failure, s) := by
  simp only [deliverScan, deliverScanOn, DeliveryState.debugOn_obliging]
  rfl

end

end ReportDelivery
