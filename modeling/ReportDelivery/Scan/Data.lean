import ReportDelivery.Report.Basic
import ReportDelivery.Scan.Repository

/-! The results of a scan, and the document they come in.

A scanner's members may hold anything; what the report needs of them is checked when it is
assembled. `ScanData.ofFile` is stricter: it refuses a document with a member of the wrong form. -/
namespace ReportDelivery

structure ScanData where
  foundLanguages : Value := .object []
  findings : Value := .object []
  ignored : Value := .object []
  dataflow : Value := .dataflow ⟨.list [], .list [], .list []⟩
  files : Value := .list []
  /-- The report assembled from these results, once there is one. -/
  report : Option Report := none

namespace ScanData

/-- The items of a list that holds objects only. -/
def objects? : Value → Option (List Members)
  | .list items => items.mapM fun
    | .object members => some members
    | _ => none
  | _ => none

/-- The groups of one section, every item an object. -/
def groupsOf (part : Section) (v : Value) : Except FormatError (List (Text × List Members)) :=
  match v with
  | .object groups => groups.mapM fun (severity, items) =>
    match objects? items with
    | some items => .ok (severity.display, items)
    | none => .error (.groupNotFindings part severity.display)
  | _ => .error (.groupsNotObject part)

/-- An infinite number among the members is not blamed on the document. -/
def readFinding (part : Section) (members : Members) : Except Failure Finding :=
  match FindingOf.ofMembers members with
  | .ok finding => .ok finding
  | .error .infinityAsInteger => .error (.coercion .infinityAsInteger)
  | .error cause => .error (.format (.badFinding part cause))

def readFindings (v : Value) : Except Failure Value := do
  let groups ← (groupsOf .findings v).mapError Failure.format
  let loaded ← groups.mapM fun (severity, items) => do
    let findings ← items.mapM (readFinding .findings)
    return (Value.str severity, Value.list (findings.map .finding))
  return .object loaded

def readIgnoredFinding (severity : Text) (members : Members) : Except Failure Value := do
  let ignoreMeta := Members.get members "ignore_meta"
  if !ignoreMeta.isTruthy then
    .error (.format (.noIgnoreMeta (Members.get members "fingerprint")))
  else
    match ignoreMeta with
    | .object record =>
      return .ignored (← readFinding .ignored members) (IgnoreMetaOf.ofMembers record)
    | _ => .error (.format (.ignoreMetaNotObject severity))

/-- Only severities with a finding are kept. -/
def readIgnored (v : Value) : Except Failure Value := do
  let groups ← (groupsOf .ignored v).mapError Failure.format
  let loaded ← groups.mapM fun (severity, items) => do
    return (Value.str severity, ← items.mapM (readIgnoredFinding severity))
  return .object ((loaded.filter fun group => !group.2.isEmpty).map fun (severity, items) =>
    (severity, .list items))

def readDataflowList (members : Members) (name : String) : Except FormatError Value :=
  match (Members.get members name).orElse (.list []) with
  | .list items => .ok (.list items)
  | v => .error (.dataflowMemberNotList name v.typeName)

def readDataflow (members : Members) : Except FormatError Dataflow := do
  return {
    dataTypes := ← readDataflowList members "data_types"
    components := ← readDataflowList members "components"
    errors := ← readDataflowList members "errors"
  }

def ofMembers (members : Members) : Except Failure ScanData := do
  let languages := (Members.get members "found_languages").orElse (.object [])
  match languages, (Members.get members "dataflow").orElse (.object []),
      (Members.get members "files").orElse (.list []) with
  | .object _, .object dataflow, .list files =>
    let findings ← readFindings ((Members.get members "findings").orElse (.object []))
    let ignored ← readIgnored ((Members.get members "ignored_findings").orElse (.object []))
    let dataflow ← (readDataflow dataflow).mapError Failure.format
    return {
      foundLanguages := languages, findings, ignored, dataflow := .dataflow dataflow
      files := .list (files.map fun file => .str file.display)
    }
  | .object _, .object _, _ => .error (.format .filesNotList)
  | .object _, _, _ => .error (.format .dataflowNotObject)
  | _, _, _ => .error (.format .languagesNotObject)

/-- The scan results in a file; `path` only names the file. -/
def ofFile (path : Text) (content : Bytes) : Except Failure ScanData := do
  match ← Json.readFile content with
  | .object members => ofMembers members
  | _ => .error (.format (.scanDataNotObject path))

end ScanData
end ReportDelivery
