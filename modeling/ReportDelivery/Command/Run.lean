import ReportDelivery.Command.Arguments
import ReportDelivery.Command.FileSystem
import ReportDelivery.Delivery.Deliver

/-! The two commands.

`build` writes the report to a file and `send` delivers it to the collector. Exit code 2 means that
the inputs could not be used, 1 that the job failed, 0 that it is done. Everything a run reads and
changes is in `World` and `Outcome`.

A run shows its log and its table on a console, and fails where the console refuses something. The
functions without a console have an obliging one. A build prints its report with room for any
nesting (`Json.print`); a delivery may have less (`PackagingFault.shallow`). -/
namespace ReportDelivery

/-! ### Inputs and outputs -/

structure World where
  files : FileSystem
  environ : Environment
  homes : Homes
  area : TempArea
  /-- What the collector will answer. -/
  replies : List Reply

structure Outcome where
  exit : Except Failure Nat
  log : Log := []
  summary : Option (List SummaryRow) := none
  /-- The requests made; none if the command never got to a client. -/
  requests : Option (List Request) := none
  files : FileSystem
  area : TempArea

/-- Ends a run with a table, if there is one, and lines after it, unless the console refuses
something. -/
def Outcome.finish (outcome : Outcome) (console : Console) (table : Option (List SummaryRow))
    (lines : Log) : Outcome :=
  match console.draw table with
  | .error failure => { outcome with exit := .error failure }
  | .ok _ =>
    let (shown, log) := console.emit lines
    { outcome with
      exit := shown.bind fun _ => outcome.exit
      log := outcome.log ++ log
      summary := table }

/-- Whether a failure to load the inputs is the inputs' fault: the system refuses a file, or a
value in it cannot be used. -/
def Failure.isInputFault : Failure → Bool
  | .coercion (.numeral _) | .coercion .nanAsInteger | .coercion (.wrongPairLength _ _) => true
  | .json _ | .decoding _ | .encoding _ | .format _ | .file _ => true
  | _ => false

/-- The path that an option gives. -/
def World.pathOf (world : World) : Setting Text → Except Failure Text
  | .value path => world.homes.expand path
  | .emptied => .error .noPath

/-- The contents of the file that an option names, and the path as it was opened. -/
def World.readInput (world : World) (path : Setting Text) : Except Failure (Text × Bytes) := do
  let path ← world.pathOf path
  return (path, ← (world.files.read path).mapError .file)

def World.loadScan (world : World) (arguments : Arguments) : Except Failure ScanData := do
  let (path, content) ← world.readInput arguments.reportData
  ScanData.ofFile path content

/-- The context in the file that the arguments name, if they name one. -/
def World.readContext (world : World) (arguments : Arguments) :
    Except Failure (Option Repository) := do
  match arguments.gitContext with
  | none | some .emptied | some (.value []) => return none
  | some path =>
    let (path, content) ← world.readInput path
    return some (← Repository.ofFile path content)

def World.loadContext (world : World) (arguments : Arguments) :
    Except Failure (Option Repository) := do
  return Repository.applyOverrides (← world.readContext arguments) world.environ

def World.loadInputs (world : World) (arguments : Arguments) :
    Except Failure (ScanData × Option Repository) := do
  let scan ← world.loadScan arguments
  let context ← world.loadContext arguments
  return (scan, context)

/-- The timeout of a request. -/
def SendArguments.seconds (arguments : SendArguments) : Setting Seconds :=
  match arguments.timeout with
  | .value x => .value (.fraction x)
  | .emptied => .emptied

def Arguments.settings (arguments : Arguments) : Settings where
  target := arguments.target
  rulesVersion := arguments.rulesVersion

namespace World

/-- The outcome of a run that only tells what is wrong. -/
def refuseOn (world : World) (console : Console) (verbose : Bool) (code : Nat) (message : Text) :
    Outcome :=
  let outcome : Outcome := { exit := .ok code, files := world.files, area := world.area }
  outcome.finish console none (Log.entries verbose .error message)

def crash (world : World) (failure : Failure) : Outcome where
  exit := .error failure
  files := world.files
  area := world.area

/-! ### Building -/

/-- The content of the output file: compressed if the name asks for it. -/
def outputContent (output : Text) (content : Bytes) : Bytes :=
  if Path.suffix output = ".gz" then Gzip.compress content else content

/-- Writes an assembled report. -/
def writeReportOn (world : World) (console : Console) (verbose : Bool) (output : Setting Text)
    (report : Report) : Outcome :=
  match world.pathOf output, report.encoded with
  | .error failure, _ => world.crash failure
  | .ok _, .error error => world.crash (.ofDocument error)
  | .ok output, .ok content =>
    match world.files.write output (outputContent output content) with
    | (.ok _, files) =>
      let outcome : Outcome := { exit := .ok 0, files, area := world.area }
      outcome.finish console (some (Summary.rows report))
        (Log.entries verbose .done ("Report written to: " ++ output))
    | (.error (.system error), files) =>
      { world with files }.refuseOn console verbose 1
        ("Failed to write " ++ output ++ ": " ++ error.message)
    | (.error error, files) => { exit := .error (.file error), files, area := world.area }

def runBuildOn (world : World) (console : Console) (arguments : Arguments)
    (build : BuildArguments) : Outcome :=
  match world.loadInputs arguments with
  | .error failure =>
    if failure.isInputFault then world.refuseOn console arguments.verbose 2 failure.message
    else world.crash failure
  | .ok (scan, context) =>
    match scan.assembleReport arguments.settings context build.strict with
    | .error (.report error) => world.refuseOn console arguments.verbose 1 error.message
    | .error failure => world.crash failure
    | .ok (report, _) => world.writeReportOn console arguments.verbose build.output report

/-! ### Sending -/

def missingKeyMessage : Text := "Missing API key. Use --api-key or set BEARER_API_KEY."

/-- The outcome once delivery has ended. -/
def afterDeliveryOn (world : World) (console : Console) (verbose : Bool) (host : Text)
    (delivered : Except Failure Bool) (s : DeliveryState) : Outcome :=
  let outcome (exit : Except Failure Nat) : Outcome :=
    { exit, log := s.log, requests := some s.conversation.requests, files := world.files,
      area := s.area }
  match delivered with
  | .error failure => outcome (.error failure)
  | .ok false =>
    (outcome (.ok 1)).finish console none
      (Log.entries verbose .error (s.sessionError.getD uploadMessage))
  | .ok true =>
    (outcome (.ok 0)).finish console (s.scan.report.map Summary.rows)
      (Log.entries verbose .done ("Report sent to " ++ host))

def runSendOn (world : World) (console : Console) (arguments : Arguments) (send : SendArguments) :
    Outcome :=
  match chooseApiKey (send.apiKey.bind Setting.value?) world.environ with
  | none => world.refuseOn console arguments.verbose 2 missingKeyMessage
  | some apiKey =>
    match world.loadInputs arguments with
    | .error failure =>
      if failure.isInputFault then world.refuseOn console arguments.verbose 2 failure.message
      else world.crash failure
    | .ok (scan, context) =>
      let host := chooseHost (send.host.bind Setting.value?) world.environ
      let client := Client.create apiKey host Client.defaultUserAgent send.seconds
      let start : DeliveryState :=
        { scan, area := world.area, conversation := { replies := world.replies } }
      let (delivered, s) :=
        deliverScanOn console client arguments.verbose arguments.settings context none start
      world.afterDeliveryOn console arguments.verbose host delivered s

/-- Runs the command that the arguments ask for. -/
def runOn (world : World) (console : Console) (arguments : Arguments) : Outcome :=
  match arguments.verb with
  | .build build => world.runBuildOn console arguments build
  | .send send => world.runSendOn console arguments send

/-! ### On an obliging console -/

@[inherit_doc refuseOn]
def refuse (world : World) (verbose : Bool) (code : Nat) (message : Text) : Outcome :=
  world.refuseOn .obliging verbose code message

@[inherit_doc writeReportOn]
def writeReport (world : World) (verbose : Bool) (output : Setting Text) (report : Report) :
    Outcome :=
  world.writeReportOn .obliging verbose output report

def runBuild (world : World) (arguments : Arguments) (build : BuildArguments) : Outcome :=
  world.runBuildOn .obliging arguments build

@[inherit_doc afterDeliveryOn]
def afterDelivery (world : World) (verbose : Bool) (host : Text)
    (delivered : Except Failure Bool) (s : DeliveryState) : Outcome :=
  world.afterDeliveryOn .obliging verbose host delivered s

def runSend (world : World) (arguments : Arguments) (send : SendArguments) : Outcome :=
  world.runSendOn .obliging arguments send

@[inherit_doc runOn]
def run (world : World) (arguments : Arguments) : Outcome := world.runOn .obliging arguments

end World
end ReportDelivery
