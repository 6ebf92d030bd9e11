import ReportDelivery.Failure
import ReportDelivery.Record.Encode
import ReportDelivery.Report.Identity

/-! The report that is delivered, and its JSON document.

`Report.document` writes it and `Report.ofDocument` reads one. -/
namespace ReportDelivery

/-- Findings by severity, severities in order of first appearance. -/
abbrev FindingGroups := List (Value × List WireFinding)

structure Report where
  identity : Identity
  findings : FindingGroups
  ignored : FindingGroups
  dataTypes : List Value
  components : List Value
  errors : List Value
  files : List Value

namespace FindingGroups

def toValue (groups : FindingGroups) : Except CoercionError Value := do
  let members ← groups.mapM fun (severity, items) => do
    return (severity, Value.list (← items.mapM (·.toValue)))
  return .object members

def ofValue (v : Value) : Except CoercionError FindingGroups := do
  (← v.members .listMembers).mapM fun (severity, items) => do
    return (.str severity.display, ← (← items.toItems).mapM WireFindingOf.ofValue)

end FindingGroups

namespace Report

def toValue (report : Report) : Except CoercionError Value := do
  let findings ← FindingGroups.toValue report.findings
  let ignored ← FindingGroups.toValue report.ignored
  return .object [
    (.str "meta", report.identity.toValue),
    (.str "findings", findings),
    (.str "ignored_findings", ignored),
    (.str "data_types", .list report.dataTypes),
    (.str "components", .list report.components),
    (.str "errors", .list report.errors),
    (.str "files", .list report.files)]

def ofMembers (members : Members) : Except CoercionError Report := do
  let identity ← Identity.ofValue ((Members.get members "meta").orElse (.object []))
  let findings ← FindingGroups.ofValue ((Members.get members "findings").orElse (.object []))
  let ignored ← FindingGroups.ofValue ((Members.get members "ignored_findings").orElse (.object []))
  let dataTypes ← Members.items members "data_types"
  let components ← Members.items members "components"
  let errors ← Members.items members "errors"
  let files ← Members.items members "files"
  return {
    identity, findings, ignored, dataTypes, components, errors
    files := files.map fun file => .str file.display
  }

def ofValue (v : Value) : Except CoercionError Report := do
  ofMembers (← v.members .lookUp)

/-- The document of a report. -/
def document (report : Report) : Except DocumentError Text := do
  let v ← report.toValue.mapError DocumentError.unwritable
  (Json.print v).mapError DocumentError.unprintable

/-- The document in UTF-8. -/
def encoded (report : Report) : Except DocumentError Bytes := do
  (Utf8.encode (← report.document)).mapError DocumentError.unencodable

/-- The document in UTF-8, from a printer that has room for so many containers inside each other. -/
def encodedWithin (room : Nat) (report : Report) : Except DocumentError Bytes := do
  let v ← report.toValue.mapError DocumentError.unwritable
  let text ← (Json.printWithin room v).mapError DocumentError.unprintable
  (Utf8.encode text).mapError DocumentError.unencodable

/-- The report of a document. -/
def ofDocument (text : Text) : Except Failure Report := do
  match ← (Json.read text).mapError Failure.json with
  | .object members => (ofMembers members).mapError Failure.coercion
  | _ => .error (.format .reportNotObject)

end Report
end ReportDelivery
