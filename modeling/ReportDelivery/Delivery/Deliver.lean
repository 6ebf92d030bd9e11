import ReportDelivery.Collector.Upload
import ReportDelivery.Console
import ReportDelivery.Delivery.Packaging
import ReportDelivery.Report.Assembly

/-! Delivering a report: assemble it if need be, package it, upload it, announce it.

A scan must not fail because its report cannot be delivered. So problems with the repository's
identity, with packaging and with the collector end up in the session's error, and the answer says
whether the collector has the report. The package's directory is removed on every way out that
starts with a finished package or an expected failure to make one.

What is said on the way goes to a console. If it refuses a line, the delivery fails there, whatever
was to come. The functions without a console have an obliging one. -/
namespace ReportDelivery

/-- What a delivery works on and changes. -/
structure DeliveryState where
  scan : ScanData
  /-- Why the last delivery of this session failed. -/
  sessionError : Option Text := none
  area : TempArea
  conversation : Conversation
  log : Log := []

namespace DeliveryState

def debugOn (s : DeliveryState) (console : Console) (verbose : Bool) (message : Text) :
    Except Failure Unit × DeliveryState :=
  let (shown, lines) := console.emit (Log.entries verbose .debug message)
  (shown, { s with log := s.log ++ lines })

def fail (s : DeliveryState) (message : Text) : DeliveryState :=
  { s with sessionError := some message }

def identify (s : DeliveryState) (report : Report) (identity : Identity) : DeliveryState :=
  { s with scan := { s.scan with report := some { report with identity } } }

end DeliveryState

/-! ### Upload and announcement -/

def artifactNamePart : Text := "bearer_security_report"

def artifactContentType : Text := "application/json"

def artifactContentEncoding : Text := "gzip"

/-- The file with a report that is there. -/
def Artifact.uploadFile (artifact : Artifact) (content : Bytes) : UploadFile where
  path := artifact.path
  content := .ok content
  namePart := artifactNamePart
  contentType := artifactContentType
  contentEncoding := artifactContentEncoding

/-- Whether a failed upload is a problem of the collector or of the system. -/
def ClientError.isExpected : ClientError → Bool
  | .collector _ => true
  | .transport fault => fault.trouble = .system
  | .file (.system _) => true
  | .file _ => false

/-- Uploads the file and announces it under the identity it belongs to, which from the upload on
names the offer that was used. -/
def Client.deliver (client : Client) (identity : Identity) (artifact : Artifact)
    (c : Conversation) : Except Failure Unit × Identity × Conversation :=
  match artifact.content with
  | none => (.error (.report (.upload (.artifactMissing artifact.path))), identity, c)
  | some content =>
    match client.upload (artifact.uploadFile content) c with
    | (.error error, c) =>
      let failure : Failure :=
        if error.isExpected then .report (.upload (.failed artifact.path error))
        else .ofClient error
      (.error failure, identity, c)
    | (.ok offer, c) =>
      let identity := { identity with signedId := .str offer.signedId }
      match client.announce identity c with
      | (.error (.collector error), c) =>
        (.error (.report (.upload (.notification error))), identity, c)
      | (.error error, c) => (.error (.ofClient error), identity, c)
      | (.ok _, c) => (.ok (), identity, c)

/-! ### Delivery -/

def identityMessage (error : ReportError) : Text :=
  "Unable to calculate Metadata. " ++ error.message

def packagingMessage : Text := "Could not compress report."

def uploadMessage : Text := "Report upload failed."

/-- The report that is kept with the scan results, or a new one with a full identity. -/
def ScanData.reportToSend (scan : ScanData) (settings : Settings) (context : Option Repository) :
    Except Failure (Report × ScanData) :=
  match scan.report with
  | some report => .ok (report, scan)
  | none => scan.assembleReport settings context true

/-- The last steps, with the package at hand. -/
def deliverArtifactOn (console : Console) (client : Client) (verbose : Bool) (report : Report)
    (artifact : Artifact) (s : DeliveryState) : Except Failure Bool × DeliveryState :=
  match s.debugOn console verbose ("Report packaged at " ++ artifact.path) with
  | (.error failure, s) => (.error failure, { s with area := s.area.remove artifact.directory })
  | (.ok _, s) =>
    let (result, identity, conversation) :=
      client.deliver report.identity artifact s.conversation
    let s := { s.identify report identity with
      conversation, area := s.area.remove artifact.directory }
    match result with
    | .ok _ =>
      let (shown, s) := s.debugOn console verbose
        ("Report delivered with signed id " ++ identity.signedId.display)
      (shown.map fun _ => true, s)
    | .error (.report error) =>
      let (shown, s) := (s.fail uploadMessage).debugOn console verbose
        ("error sending report to collector: " ++ error.message)
      (shown.map fun _ => false, s)
    | .error failure => (.error failure, s)

/-- Packages the report and delivers the package. -/
def deliverReportOn (console : Console) (client : Client) (verbose : Bool)
    (fault : Option PackagingFault) (report : Report) (s : DeliveryState) :
    Except Failure Bool × DeliveryState :=
  let (packaged, area) := s.area.package fault report
  let s := { s with area }
  match packaged with
  | .ok artifact => deliverArtifactOn console client verbose report artifact s
  | .error (.packaging error directory) =>
    let s := match directory with
      | some n => { s with area := s.area.remove n }
      | none => s
    let (shown, s) := (s.fail packagingMessage).debugOn console verbose
      ("error creating report: " ++ error.message)
    (shown.map fun _ => false, s)
  | .error (.unwritable error) => (.error (.coercion error), s)
  | .error .tooDeep => (.error (.printing .tooDeep), s)

/-- Delivers the report of a scan: true when the collector has it. -/
def deliverScanOn (console : Console) (client : Client) (verbose : Bool) (settings : Settings)
    (context : Option Repository) (fault : Option PackagingFault) (s : DeliveryState) :
    Except Failure Bool × DeliveryState :=
  match s.scan.reportToSend settings context with
  | .ok (report, scan) => deliverReportOn console client verbose fault report { s with scan }
  | .error (.report error) =>
    let message := identityMessage error
    match s.debugOn console verbose message with
    | (.ok _, s) => (.ok false, s.fail message)
    | (.error failure, s) => (.error failure, s)
  | .error failure => (.error failure, s)

@[inherit_doc deliverArtifactOn]
def deliverArtifact (client : Client) (verbose : Bool) (report : Report) (artifact : Artifact)
    (s : DeliveryState) : Except Failure Bool × DeliveryState :=
  deliverArtifactOn .obliging client verbose report artifact s

@[inherit_doc deliverReportOn]
def deliverReport (client : Client) (verbose : Bool) (fault : Option PackagingFault)
    (report : Report) (s : DeliveryState) : Except Failure Bool × DeliveryState :=
  deliverReportOn .obliging client verbose fault report s

@[inherit_doc deliverScanOn]
def deliverScan (client : Client) (verbose : Bool) (settings : Settings)
    (context : Option Repository) (fault : Option PackagingFault) (s : DeliveryState) :
    Except Failure Bool × DeliveryState :=
  deliverScanOn .obliging client verbose settings context fault s

end ReportDelivery
