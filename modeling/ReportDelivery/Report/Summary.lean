import ReportDelivery.Report.Basic

/-! The summary of a report: a table with the number of findings under each severity, both of the
findings that count and of the ignored ones. -/
namespace ReportDelivery

/-- One line of the printed table: how many findings a severity has. -/
structure SummaryRow where
  severity : Text
  findings : Nat
  ignored : Nat
deriving DecidableEq

namespace Summary

def title : String := "Report Summary"

def columns : List String := ["Severity", "Findings", "Ignored"]

def count (groups : FindingGroups) (severity : Text) : Nat :=
  ((groups.find? fun group => group.1.display = severity).map (·.2.length)).getD 0

/-- Puts a text into an ascending list, unless it is there already. -/
def insertDistinct (t : Text) : List Text → List Text
  | [] => [t]
  | s :: rest =>
    if t = s then s :: rest
    else if t.le s then t :: s :: rest
    else s :: insertDistinct t rest

/-- The severities of either section, each once, in code point order. -/
def severities (report : Report) : List Text :=
  ((report.findings ++ report.ignored).map (·.1.display)).foldr insertDistinct []

def rows (report : Report) : List SummaryRow :=
  (severities report).map fun severity =>
    ⟨severity, count report.findings severity, count report.ignored severity⟩

end Summary

end ReportDelivery
