import ReportDelivery.Failure
import ReportDelivery.Log
import ReportDelivery.Report.Summary

/-! Where log entries and tables are shown.

A console takes lines, and the cells of a table, for markup. It may refuse what is no markup, and
then whoever wanted it shown fails; the lines before it have been shown. Which texts are markup is
up to the console. -/
namespace ReportDelivery

structure Console where
  /-- Why a line is refused; none if it is shown. -/
  line : LogEntry → Option ConsoleError
  /-- Why a table is refused; none if it is drawn. -/
  table : List SummaryRow → Option ConsoleError

namespace Console

/-- A console that takes everything. -/
def obliging : Console where
  line _ := none
  table _ := none

/-- Shows entries, up to the first one that is refused. -/
def emit (console : Console) : Log → Except Failure Unit × Log
  | [] => (.ok (), [])
  | entry :: rest =>
    match console.line entry with
    | some error => (.error (.console error), [])
    | none =>
      let (shown, log) := console.emit rest
      (shown, entry :: log)

/-- Draws a table, if there is one. -/
def draw (console : Console) (table : Option (List SummaryRow)) : Except Failure Unit :=
  match table.bind console.table with
  | some error => .error (.console error)
  | none => .ok ()

end Console
end ReportDelivery
