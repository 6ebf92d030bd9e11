import ReportDelivery.Proofs.Record.Decode
import ReportDelivery.Proofs.Report.Assembly

/-! Reports that write themselves.

A report has no document if one of its findings cannot write itself, and what the finding is made
of, however deep, tells whether it can (`Value.judges_writtenMembers`). In a report that was
assembled from findings all of them can, whatever its other parts hold: a value without a JSON form
or a lone surrogate is found later, when the report is printed and encoded. -/
namespace ReportDelivery

/-! ### Members that write themselves -/

/-- An ignore record, a finding, or a wire finding that is made of such values, however deep. -/
inductive Value.WritesItself : Value → Prop
  | ignoreMeta (record : IgnoreMeta) : WritesItself (.ignoreMeta record)
  | finding (record : Finding) : WritesItself (.finding record)
  | wire {record : WireFinding} (hfinding : WritesItself record.finding)
      (hignore : record.ignoreMeta ≠ .null → WritesItself record.ignoreMeta) :
      WritesItself (.wire record)

theorem Value.writesItself_wire {record : WireFinding} : (Value.wire record).WritesItself ↔
    record.finding.WritesItself ∧
      (record.ignoreMeta ≠ .null → record.ignoreMeta.WritesItself) :=
  ⟨by rintro (_ | _ | ⟨hfinding, hignore⟩); exact ⟨hfinding, hignore⟩, fun h => .wire h.1 h.2⟩

/-- A value was asked to write itself and could not. -/
def CoercionError.IsUnwritable (error : CoercionError) : Prop :=
  ∃ v : Value, ¬ v.WritesItself ∧ error = .unable v.typeName .write

namespace WireFindingOf

variable {finding ignoreMeta : Value} {severityMeta : SeverityMeta}

theorem toMembers_of_null : toMembers ⟨finding, severityMeta, .null⟩ =
    finding.writtenMembers.map (Members.insert (.str "severity_meta") severityMeta.toValue) := by
  show finding.writtenMembers >>= _ = _
  cases finding.writtenMembers <;> rfl

theorem toMembers_of_ne_null (h : ignoreMeta ≠ .null) :
    toMembers ⟨finding, severityMeta, ignoreMeta⟩ = finding.writtenMembers >>= fun members =>
      ignoreMeta.writtenMembers.map fun record => Members.insert (.str "ignore_meta")
        (.object record) (Members.insert (.str "severity_meta") severityMeta.toValue members) := by
  cases ignoreMeta with
  | null => exact absurd rfl h
  | _ => rfl

theorem judges_toMembers
    (hfinding : Judges finding.WritesItself CoercionError.IsUnwritable finding.writtenMembers)
    (hignore : ignoreMeta ≠ .null →
      Judges ignoreMeta.WritesItself CoercionError.IsUnwritable ignoreMeta.writtenMembers) :
    Judges (Value.wire ⟨finding, severityMeta, ignoreMeta⟩).WritesItself
      CoercionError.IsUnwritable (toMembers ⟨finding, severityMeta, ignoreMeta⟩) := by
  by_cases hnull : ignoreMeta = .null
  · subst hnull
    rw [toMembers_of_null]
    exact (hfinding.map _).of_iff (Value.writesItself_wire.trans (by simp)).symm
  · rw [toMembers_of_ne_null hnull]
    exact (hfinding.bind fun members => (hignore hnull).map _).of_iff
      (Value.writesItself_wire.trans (by simp [hnull])).symm

end WireFindingOf

/-- A value writes its members exactly if it writes itself. -/
theorem Value.judges_writtenMembers (v : Value) :
    Judges v.WritesItself CoercionError.IsUnwritable v.writtenMembers := by
  -- By the recursion of writing, which goes through wire findings as well.
  refine Value.writtenMembers.induct
    (fun v => Judges v.WritesItself CoercionError.IsUnwritable v.writtenMembers)
    (fun record => Judges (Value.wire record).WritesItself CoercionError.IsUnwritable
      record.toMembers) ?ignoreMeta ?finding ?wire ?other ?members v
  case ignoreMeta => exact fun record => .ok _ (.ignoreMeta record)
  case finding => exact fun record => .ok _ (.finding record)
  case wire =>
    intro record ih
    rw [Value.writtenMembers]
    exact ih
  case other =>
    intro v hignoreMeta hfinding hwire
    have hnot : ¬ v.WritesItself := by
      rintro (record | record | record)
      · exact hignoreMeta record rfl
      · exact hfinding record rfl
      · exact hwire _ rfl
    rw [Value.writtenMembers]
    · exact .error ⟨v, hnot, rfl⟩ hnot
    all_goals assumption
  case members =>
    intro finding severityMeta ignoreMeta hfinding hignore
    refine WireFindingOf.judges_toMembers hfinding fun hnull => ?_
    cases ignoreMeta with
    | null => exact absurd rfl hnull
    | _ => exact hignore

/-! ### Reports -/

/-- Every finding of the groups writes itself. -/
def FindingGroups.WriteThemselves (groups : FindingGroups) : Prop :=
  ∀ group ∈ groups, ∀ wire ∈ group.2, (Value.wire wire).WritesItself

/-- The report has no finding that cannot write itself. Its other parts are not asked. -/
structure Report.WritesItself (report : Report) : Prop where
  findings : report.findings.WriteThemselves
  ignored : report.ignored.WriteThemselves

theorem FindingGroups.judges_toValue (groups : FindingGroups) :
    Judges groups.WriteThemselves CoercionError.IsUnwritable groups.toValue := by
  have hwire (wire : WireFinding) :
      Judges (Value.wire wire).WritesItself CoercionError.IsUnwritable wire.toValue := by
    have hmembers := (Value.wire wire).judges_writtenMembers
    rw [Value.writtenMembers] at hmembers
    exact hmembers.map Value.object
  exact (Judges.mapM (fun group => (Judges.mapM hwire group.2).map
    fun items => (group.1, Value.list items)) groups).map Value.object

namespace Report

variable {report : Report}

theorem judges_toValue (report : Report) :
    Judges report.WritesItself CoercionError.IsUnwritable report.toValue :=
  ((FindingGroups.judges_toValue report.findings).bind fun _ =>
    (FindingGroups.judges_toValue report.ignored).map _).of_iff
      ⟨fun h => ⟨h.1, h.2⟩, fun h => ⟨h.findings, h.ignored⟩⟩

theorem WritesItself.encoded (h : report.WritesItself) (error : CoercionError) :
    report.encoded ≠ .error (.unwritable error) := by
  intro hencoded
  have hjudges := report.judges_toValue
  rcases encoded_error.1 hencoded with ⟨cause, hcause, -⟩ | ⟨-, -, ⟨-, -, ⟨⟩⟩ | ⟨-, -, -, -, ⟨⟩⟩⟩
  rw [hcause] at hjudges
  cases hjudges with
  | error _ hnot => exact hnot h

theorem encoded_of_not_writesItself (h : ¬ report.WritesItself) :
    ∃ error, error.IsUnwritable ∧ report.encoded = .error (.unwritable error) := by
  have hjudges := report.judges_toValue
  generalize hvalue : report.toValue = value at hjudges
  cases hjudges with
  | ok _ hwrites => exact absurd hwrites h
  | @error error hcause _ => exact ⟨error, hcause, encoded_error.2 (.inl ⟨error, hvalue, rfl⟩)⟩

end Report

/-! ### Findings of a scan -/

/-- A finding, with or without an ignore record. -/
inductive Value.IsFinding : Value → Prop
  | active (record : Finding) : IsFinding (.finding record)
  | ignored (record : Finding) (ignoreMeta : IgnoreMeta) : IsFinding (.ignored record ignoreMeta)

/-- The wire form of a finding. -/
inductive WireFindingOf.Writable : WireFinding → Prop
  | active (record : Finding) : Writable ⟨.finding record, record.severityMeta, .null⟩
  | ignored (record : Finding) (ignoreMeta : IgnoreMeta) :
      Writable ⟨.finding record, record.severityMeta, .ignoreMeta ignoreMeta⟩

theorem Value.IsFinding.toWire {item : Value} (h : item.IsFinding) {wire : WireFinding}
    (hwire : item.toWire = .ok wire) : wire.Writable := by
  cases h with
  | active record =>
    cases hwire
    exact .active record
  | ignored record ignoreMeta =>
    cases hwire
    exact .ignored record ignoreMeta

theorem WireFindingOf.Writable.writesItself {wire : WireFinding} (h : wire.Writable) :
    (Value.wire wire).WritesItself := by
  cases h with
  | active record => exact .wire (.finding record) fun hnull => absurd rfl hnull
  | ignored record ignoreMeta => exact .wire (.finding record) fun _ => .ignoreMeta ignoreMeta

namespace FindingGroups

def Writable (groups : FindingGroups) : Prop := ∀ group ∈ groups, ∀ wire ∈ group.2, wire.Writable

end FindingGroups

/-! ### Reports on findings -/

namespace Report

structure Writable (report : Report) : Prop where
  findings : report.findings.Writable
  ignored : report.ignored.Writable

theorem Writable.writesItself {report : Report} (h : report.Writable) : report.WritesItself :=
  ⟨fun group hgroup wire hwire => (h.findings group hgroup wire hwire).writesItself,
    fun group hgroup wire hwire => (h.ignored group hgroup wire hwire).writesItself⟩

/-- If the document is missing, then not because of a member that cannot write itself. -/
theorem Writable.encoded {report : Report} (h : report.Writable) (error : CoercionError) :
    report.encoded ≠ .error (.unwritable error) :=
  h.writesItself.encoded error

end Report

end ReportDelivery
