import ReportDelivery.Value.Coerce

/-! Records from JSON values.

Members may be missing or of another type: a text member takes the text of whatever value it has,
an integer member its integer, a list member its items, and what is not truthy counts as missing.
Members the report does not interpret are kept as they are. -/
namespace ReportDelivery

namespace Members

/-- The text of a member, empty for a value that is not truthy. -/
def text (members : Members) (name : String) : Text :=
  ((get members name).orElse (.str [])).display

def int (members : Members) (name : String) : Except CoercionError Int :=
  ((get members name).orElse (.int 0)).toInt

def items (members : Members) (name : String) : Except CoercionError (List Value) :=
  ((get members name).orElse (.list [])).toItems

end Members

def SeverityMetaOf.ofValue (v : Value) : Except CoercionError SeverityMeta := do
  let members ← v.members .lookUp
  let dataCategories ← Members.items members "sensitive_data_categories"
  let dataCategoryWeighting ← Members.int members "sensitive_data_category_weighting"
  let ruleSeverityWeighting ← Members.int members "rule_severity_weighting"
  let triggerWeighting ← Members.int members "trigger_weighting"
  let displayExtras ← Members.items members "display_extras"
  return {
    ruleSeverity := Members.text members "rule_severity"
    dataCategories
    hasLocalDataTypes := Members.get members "has_local_data_types"
    dataCategoryWeighting
    ruleSeverityWeighting
    triggerWeighting
    displayExtras
  }

def IgnoreMetaOf.ofMembers (members : Members) : IgnoreMeta where
  ignoredAt := Members.text members "ignored_at"
  author := Members.get members "author"
  comment := Members.get members "comment"
  falsePositive := (Members.get members "false_positive").isTruthy

def IgnoreMetaOf.ofValue (v : Value) : Except CoercionError IgnoreMeta :=
  (v.members .lookUp).map ofMembers

def FindingOf.ofMembers (members : Members) : Except CoercionError Finding := do
  let lineNumber ← Members.int members "line_number"
  let severityMeta ←
    SeverityMetaOf.ofValue ((Members.get members "severity_meta").orElse (.object []))
  return {
    ruleId := Members.text members "id"
    title := Members.text members "title"
    severity := Members.text members "severity"
    filename := Members.text members "filename"
    lineNumber
    fingerprint := Members.text members "fingerprint"
    description := Members.text members "description"
    documentationUrl := Members.text members "documentation_url"
    fullFilename := Members.text members "full_filename"
    codeExtract := Members.text members "code_extract"
    severityMeta
  }

def FindingOf.ofValue (v : Value) : Except CoercionError Finding := do
  FindingOf.ofMembers (← v.members .lookUp)

/-- A wire finding carries the finding's own members and, where it is truthy, an ignore record. -/
def WireFindingOf.ofValue (v : Value) : Except CoercionError WireFinding := do
  let members ← v.members .lookUp
  let finding ← FindingOf.ofMembers members
  let ignoreMeta := Members.get members "ignore_meta"
  let ignoreMeta ←
    if ignoreMeta.isTruthy then (IgnoreMetaOf.ofValue ignoreMeta).map .ignoreMeta
    else pure .null
  return { finding := .finding finding, severityMeta := finding.severityMeta, ignoreMeta }

end ReportDelivery
