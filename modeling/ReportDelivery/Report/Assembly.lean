import ReportDelivery.Path
import ReportDelivery.Report.Wire
import ReportDelivery.Scan.Data

/-! Assembling the report from scan results and what is known about the repository.

`Report.assemble` puts the parts together and refuses a part of the wrong kind; a part that is
empty or missing, whatever its kind, arrives empty. `ScanData.assembleReport` does the whole job
and keeps the report with the results. -/
namespace ReportDelivery

structure Settings where
  target : Setting Text
  rulesVersion : Setting Text := .value []

/-! ### Identity -/

def Repository.missingFields (context : Repository) : List RequiredField :=
  RequiredField.all.filter fun field => (context.field field).isEmpty

namespace Identity

/-- The identity of a repository about which everything required is known. -/
def full (scan : ScanData) (settings : Settings) (context : Option Repository) :
    Except Failure Identity := do
  match context with
  | none => .error (.report .notARepository)
  | some context =>
    match context.missingFields with
    | [] =>
      let foundLanguages ← scan.foundLanguages.toMembers.mapError Failure.coercion
      return {
        target := settings.target
        foundLanguages
        id := context.id
        host := context.host
        username := context.owner
        name := context.name
        fullName := context.fullName
        url := context.originUrl
        sha := context.commitHash
        currentBranch := context.branch
        defaultBranch := context.defaultBranch
        diffBaseBranch := context.baseBranch
        rulesVersion := settings.rulesVersion
        toolVersion := version
      }
    | missing => .error (.report (.incomplete missing))

/-- What is left of an identity without a repository: the target and its languages. -/
def degraded (scan : ScanData) (settings : Settings) : Except Failure Identity := do
  let foundLanguages ← scan.foundLanguages.toMembers.mapError Failure.coercion
  return { target := settings.target, foundLanguages }

/-- The full identity; unless it is `required`, the degraded one where it cannot be resolved. -/
def establish (required : Bool) (scan : ScanData) (settings : Settings)
    (context : Option Repository) : Except Failure Identity :=
  match full scan settings context with
  | .error (.report error) => if required then .error (.report error) else degraded scan settings
  | other => other

end Identity

/-! ### Parts -/

def listPart (field : String) (v : Value) : Except AssemblyError (List Value) :=
  match v with
  | .list items => .ok items
  | v => if v.isTruthy then .error (.listExpected field v.typeName) else .ok []

def wireItems? : Value → Option (List WireFinding)
  | .list items => items.mapM fun
    | .wire record => some record
    | _ => none
  | _ => none

def findingsPart (part : Section) (v : Value) : Except AssemblyError FindingGroups :=
  match v with
  | .object groups => groups.mapM fun (severity, items) =>
    match wireItems? items with
    | some items => .ok (severity, items)
    | none => .error (.malformedEntries part severity)
  | v => if v.isTruthy then .error (.mappingExpected part v.typeName) else .ok []

def Report.assemble (identity : Identity) (findings ignored : Value) (dataflow : Dataflow)
    (files : Value) : Except AssemblyError Report := do
  return {
    identity
    findings := ← findingsPart .findings findings
    ignored := ← findingsPart .ignored ignored
    dataTypes := ← listPart "data_types" dataflow.dataTypes
    components := ← listPart "components" dataflow.components
    errors := ← listPart "errors" dataflow.errors
    files := ← listPart "files" files
  }

/-- The name of a scanned file in the report; only text can name a file, unless the target is
empty and every name stands as it is. No file has a name under an emptied target. -/
def reportFile : Setting Text → Value → Except CoercionError Value
  | .value target, .str file => .ok (.str (Path.reportName target file))
  | .value target, v =>
    if (Path.withoutDotSlash target).isEmpty then .ok v
    else .error (.unable v.typeName .compareStart)
  | .emptied, _ => .error (.unable (Value.list []).typeName .compareStart)

/-! ### The whole -/

namespace ScanData

/-- Both sections of findings in wire form. -/
def wireFindings (scan : ScanData) : Except CoercionError (FindingGroups × FindingGroups) := do
  let findings ← FindingGroups.ofScan scan.findings
  let ignored ← FindingGroups.ofScan scan.ignored
  return (findings, ignored)

def dataflowRecord : Value → Except CoercionError Dataflow
  | .dataflow record => .ok record
  | v => .error (.unable v.typeName .giveDataTypes)

def buildReport (scan : ScanData) (settings : Settings) (context : Option Repository)
    (requireIdentity : Bool) : Except Failure Report := do
  let identity ← Identity.establish requireIdentity scan settings context
  let (findings, ignored) ←
    scan.wireFindings.mapError fun cause => .report (.assembly (.conversion cause))
  let files ← (listPart "files" scan.files).mapError Failure.ofAssembly
  let files ← (files.mapM (reportFile settings.target)).mapError Failure.coercion
  let dataflow ← (dataflowRecord scan.dataflow).mapError Failure.coercion
  (Report.assemble identity findings.asValue ignored.asValue dataflow (.list files)).mapError
    Failure.ofAssembly

/-- Builds the report and keeps it. A failure changes nothing. -/
def assembleReport (scan : ScanData) (settings : Settings) (context : Option Repository)
    (requireIdentity : Bool) : Except Failure (Report × ScanData) := do
  let report ← scan.buildReport settings context requireIdentity
  return (report, { scan with report := some report })

end ScanData
end ReportDelivery
