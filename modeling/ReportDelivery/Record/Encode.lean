import ReportDelivery.Value.Coerce

/-! Records as JSON values.

Members are written in a fixed order. A wire finding writes its finding's members at its own top
level, then replaces the severity record and adds the ignore record. -/
namespace ReportDelivery

def SeverityMetaOf.toValue (record : SeverityMeta) : Value :=
  .object [
    (.str "rule_severity", .str record.ruleSeverity),
    (.str "sensitive_data_categories", .list record.dataCategories),
    (.str "has_local_data_types", record.hasLocalDataTypes),
    (.str "sensitive_data_category_weighting", .int record.dataCategoryWeighting),
    (.str "rule_severity_weighting", .int record.ruleSeverityWeighting),
    (.str "trigger_weighting", .int record.triggerWeighting),
    (.str "display_extras", .list record.displayExtras)]

def IgnoreMetaOf.toMembers (record : IgnoreMeta) : Members := [
  (.str "ignored_at", .str record.ignoredAt),
  (.str "author", record.author),
  (.str "comment", record.comment),
  (.str "false_positive", .bool record.falsePositive)]

def FindingOf.toMembers (record : Finding) : Members := [
  (.str "id", .str record.ruleId),
  (.str "title", .str record.title),
  (.str "description", .str record.description),
  (.str "documentation_url", .str record.documentationUrl),
  (.str "severity", .str record.severity),
  (.str "filename", .str record.filename),
  (.str "full_filename", .str record.fullFilename),
  (.str "line_number", .int record.lineNumber),
  (.str "fingerprint", .str record.fingerprint),
  (.str "code_extract", .str record.codeExtract),
  (.str "severity_meta", record.severityMeta.toValue)]

mutual
/-- The members a value writes, if it is a record that can be written. -/
def Value.writtenMembers : Value → Except CoercionError Members
  | .ignoreMeta record => .ok record.toMembers
  | .finding record => .ok record.toMembers
  | .wire record => WireFindingOf.toMembers record
  | v => .error (.unable v.typeName .write)

def WireFindingOf.toMembers : WireFindingOf Value → Except CoercionError Members
  | ⟨finding, severityMeta, ignoreMeta⟩ => do
    let members ← finding.writtenMembers
    let members := Members.insert (.str "severity_meta") severityMeta.toValue members
    match ignoreMeta with
    | .null => return members
    | record =>
      return Members.insert (.str "ignore_meta") (.object (← record.writtenMembers)) members
end

def WireFindingOf.toValue (record : WireFinding) : Except CoercionError Value :=
  record.toMembers.map .object

end ReportDelivery
