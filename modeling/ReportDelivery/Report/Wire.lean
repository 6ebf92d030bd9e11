import ReportDelivery.Report.Basic

/-! The wire form of the findings that a scan holds.

Anything that gives a finding and an ignore record has a wire form. Every item gives one wire
finding, in place; severities without items are left out. -/
namespace ReportDelivery

namespace Value

def giveFinding : Value → Except CoercionError Value
  | .finding record => .ok (.finding record)
  | .ignored record _ => .ok (.finding record)
  | .wrapped given _ => .ok given
  | v => .error (.unable v.typeName .giveFinding)

def giveIgnoreMeta : Value → Except CoercionError Value
  | .finding _ => .ok .null
  | .ignored _ record => .ok (.ignoreMeta record)
  | .wrapped _ given => .ok given
  | v => .error (.unable v.typeName .giveIgnoreMeta)

def giveSeverityMeta : Value → Except CoercionError SeverityMeta
  | .finding record => .ok record.severityMeta
  | .wire record => .ok record.severityMeta
  | v => .error (.unable v.typeName .giveSeverityMeta)

/-- The wire finding of one item. -/
def toWire (item : Value) : Except CoercionError WireFinding := do
  let finding ← item.giveFinding
  let severityMeta ← finding.giveSeverityMeta
  let ignoreMeta ← item.giveIgnoreMeta
  return { finding, severityMeta, ignoreMeta }

end Value

namespace FindingGroups

def ofScan (groups : Value) : Except CoercionError FindingGroups := do
  let converted ← (← groups.members .listMembers).mapM fun (severity, items) => do
    return (severity, ← (← items.toItems).mapM Value.toWire)
  return converted.filter fun group => !group.2.isEmpty

/-- The groups as a value, for whoever checks values. -/
def asValue (groups : FindingGroups) : Value :=
  .object (groups.map fun (severity, items) => (severity, .list (items.map .wire)))

end FindingGroups
end ReportDelivery
