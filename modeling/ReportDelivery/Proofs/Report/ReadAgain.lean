import ReportDelivery.Proofs.Record.Decode
import ReportDelivery.Proofs.Report.RoundTrip

/-! Records read again.

Reading a record settles the kind of each of its members, whatever it came as: a text, an integer, a
list, an object or a truth value. What was settled is written as it is and is not missing where it is
empty or zero, so it is settled already when it is read again. `reading_normalizes`: a record that is
read from any value can be written, and what it writes is read as the same record. -/
namespace ReportDelivery

/-- The kinds of records that have a JSON form. -/
inductive RecordKind where
  | severityMeta
  | ignoreMeta
  | finding
  | wireFinding
  | identity
  | report

namespace RecordKind

def Record : RecordKind → Type
  | .severityMeta => SeverityMeta
  | .ignoreMeta => IgnoreMeta
  | .finding => Finding
  | .wireFinding => WireFinding
  | .identity => Identity
  | .report => Report

def read : (kind : RecordKind) → Value → Except CoercionError kind.Record
  | .severityMeta => SeverityMetaOf.ofValue
  | .ignoreMeta => IgnoreMetaOf.ofValue
  | .finding => FindingOf.ofValue
  | .wireFinding => WireFindingOf.ofValue
  | .identity => Identity.ofValue
  | .report => Report.ofValue

def write : (kind : RecordKind) → kind.Record → Except CoercionError Value
  | .severityMeta, record => .ok (SeverityMetaOf.toValue record)
  | .ignoreMeta, record => .ok (.object (IgnoreMetaOf.toMembers record))
  | .finding, record => .ok (.object (FindingOf.toMembers record))
  | .wireFinding, record => WireFindingOf.toValue record
  | .identity, record => .ok (Identity.toValue record)
  | .report, record => Report.toValue record

/-- The form in which a value of the kind is written. -/
def normalize (kind : RecordKind) (v : Value) : Except CoercionError Value := do
  kind.write (← kind.read v)

end RecordKind

/-! ### Findings -/

theorem FindingOf.ofValue_toMembers (record : Finding) :
    FindingOf.ofValue (.object record.toMembers) = .ok record := by
  have hread := record.ofMembers_append []
  rw [List.append_nil] at hread
  exact hread

/-- A wire finding that was read carries its finding's own severity record, and a record of why it
was ignored or none. -/
theorem WireFindingOf.ofValue_ok {v : Value} {record : WireFinding}
    (h : WireFindingOf.ofValue v = .ok record) : ∃ finding : Finding,
      record = ⟨.finding finding, finding.severityMeta, .null⟩ ∨
        ∃ ignored : IgnoreMeta,
          record = ⟨.finding finding, finding.severityMeta, .ignoreMeta ignored⟩ := by
  obtain ⟨members, -, h⟩ := bind_ok.1 h
  obtain ⟨finding, -, h⟩ := bind_ok.1 h
  refine ⟨finding, ?_⟩
  dsimp only at h
  split at h
  · obtain ⟨_, hignored, ⟨⟩⟩ := bind_ok.1 h
    obtain ⟨ignored, -, rfl⟩ := map_ok.1 hignored
    exact .inr ⟨ignored, rfl⟩
  · cases h
    exact .inl rfl

theorem WireFindingOf.read_again {v : Value} {record : WireFinding}
    (h : WireFindingOf.ofValue v = .ok record) :
    ∃ w, record.toValue = .ok w ∧ WireFindingOf.ofValue w = .ok record := by
  obtain ⟨finding, rfl | ⟨ignored, rfl⟩⟩ := WireFindingOf.ofValue_ok h
  · refine ⟨_, ?_, ofValue_active finding⟩
    rw [toValue, toMembers_active]
    rfl
  · refine ⟨_, ?_, ofValue_ignored finding ignored⟩
    rw [toValue, toMembers_ignored]
    rfl

namespace FindingGroups

/-- One severity with its findings, as it is read. -/
def readGroup (member : Value × Value) : Except CoercionError (Value × List WireFinding) := do
  return (.str member.1.display, ← (← member.2.toItems).mapM WireFindingOf.ofValue)

/-- One severity with its findings, as it is written. -/
def writeGroup (group : Value × List WireFinding) : Except CoercionError (Value × Value) := do
  return (group.1, .list (← group.2.mapM (·.toValue)))

theorem readGroup_again {member : Value × Value} {group : Value × List WireFinding}
    (h : readGroup member = .ok group) :
    ∃ written, writeGroup group = .ok written ∧ readGroup written = .ok group := by
  obtain ⟨items, -, h⟩ := bind_ok.1 h
  obtain ⟨records, hrecords, ⟨⟩⟩ := bind_ok.1 h
  obtain ⟨written, hwritten, hagain⟩ := mapM_again (fun _ _ => WireFindingOf.read_again) hrecords
  exact ⟨_, bind_ok.2 ⟨written, hwritten, rfl⟩,
    bind_ok.2 ⟨written, rfl, bind_ok.2 ⟨records, hagain, rfl⟩⟩⟩

theorem read_again {v : Value} {groups : FindingGroups} (h : ofValue v = .ok groups) :
    ∃ members, groups.toValue = .ok (.object members) ∧ ofValue (.object members) = .ok groups := by
  obtain ⟨members, -, hread⟩ := bind_ok.1 h
  obtain ⟨written, hwritten, hagain⟩ := mapM_again (fun _ _ => readGroup_again) hread
  exact ⟨written, bind_ok.2 ⟨written, hwritten, rfl⟩, bind_ok.2 ⟨written, rfl, hagain⟩⟩

end FindingGroups

/-! ### Identities and reports -/

/-- An identity that was read has texts for settings. -/
theorem Identity.ofValue_settled {v : Value} {identity : Identity}
    (h : Identity.ofValue v = .ok identity) : identity.settled = identity := by
  obtain ⟨members, -, h⟩ := bind_ok.1 h
  obtain ⟨foundLanguages, -, ⟨⟩⟩ := bind_ok.1 h
  rfl

/-- The parts of a report that was read were read themselves, and its files are texts. -/
theorem Report.ofValue_ok {v : Value} {report : Report} (h : Report.ofValue v = .ok report) :
    (∃ v, Identity.ofValue v = .ok report.identity) ∧
      (∃ v, FindingGroups.ofValue v = .ok report.findings) ∧
      (∃ v, FindingGroups.ofValue v = .ok report.ignored) ∧
      ∀ file ∈ report.files, ∃ t, file = .str t := by
  obtain ⟨root, -, h⟩ := bind_ok.1 h
  obtain ⟨identity, hidentity, h⟩ := bind_ok.1 h
  obtain ⟨findings, hfindings, h⟩ := bind_ok.1 h
  obtain ⟨ignored, hignored, h⟩ := bind_ok.1 h
  obtain ⟨dataTypes, -, h⟩ := bind_ok.1 h
  obtain ⟨components, -, h⟩ := bind_ok.1 h
  obtain ⟨errors, -, h⟩ := bind_ok.1 h
  obtain ⟨files, -, ⟨⟩⟩ := bind_ok.1 h
  exact ⟨⟨_, hidentity⟩, ⟨_, hfindings⟩, ⟨_, hignored⟩, by simp⟩

theorem Report.read_again {v : Value} {report : Report} (h : Report.ofValue v = .ok report) :
    ∃ w, report.toValue = .ok w ∧ Report.ofValue w = .ok report := by
  obtain ⟨⟨_, hidentity⟩, ⟨_, hfindings⟩, ⟨_, hignored⟩, hfiles⟩ := Report.ofValue_ok h
  obtain ⟨findings, hfindingsWritten, hfindingsAgain⟩ := FindingGroups.read_again hfindings
  obtain ⟨ignored, hignoredWritten, hignoredAgain⟩ := FindingGroups.read_again hignored
  refine ⟨_, toValue_eq hfindingsWritten hignoredWritten, ?_⟩
  have hread := ofMembers_members hfindingsAgain hignoredAgain hfiles
  rw [settled, Identity.ofValue_settled hidentity] at hread
  exact hread

/-! ### The main theorem -/

/-- **Main theorem.** A record of any kind, read from whatever value, can be written; what it writes
is read as the record again, and is in the form it would be written in. -/
theorem reading_normalizes (kind : RecordKind) {v : Value} {record : kind.Record}
    (h : kind.read v = .ok record) :
    ∃ w, kind.write record = .ok w ∧ kind.read w = .ok record ∧ kind.normalize v = .ok w ∧
      kind.normalize w = .ok w := by
  have hagain : ∃ w, kind.write record = .ok w ∧ kind.read w = .ok record := by
    cases kind with
    | severityMeta => exact ⟨_, rfl, SeverityMetaOf.ofValue_toValue record⟩
    | ignoreMeta => exact ⟨_, rfl, congrArg Except.ok (IgnoreMetaOf.ofMembers_toMembers record)⟩
    | finding => exact ⟨_, rfl, FindingOf.ofValue_toMembers record⟩
    | wireFinding => exact WireFindingOf.read_again h
    | identity =>
      refine ⟨_, rfl, (Identity.ofValue_toValue record).trans ?_⟩
      rw [Identity.ofValue_settled h]
      rfl
    | report => exact Report.read_again h
  obtain ⟨w, hwrite, hread⟩ := hagain
  exact ⟨w, hwrite, hread, bind_ok.2 ⟨record, h, hwrite⟩, bind_ok.2 ⟨record, hread, hwrite⟩⟩

/-- A report with members of other types: text for lists, a list of pairs for an object, numerals and
nothing at all. -/
def oddReport : Value := .object [
  (.str "meta", .object [(.str "target", .int 3), (.str "sha", .null),
    (.str "found_languages", .list [.list [.str "go", .int 2], .list [.null, .int 1],
      .list [.str "go", .float .nan]])]),
  (.str "findings", .object [
    (.str "high", .list [.object [(.str "id", .int 7), (.str "line_number", .str " 1_2 "),
      (.str "severity_meta", .object [(.str "sensitive_data_categories", .str "ab"),
        (.str "trigger_weighting", .bool true)]),
      (.str "ignore_meta", .object [(.str "false_positive", .str "no")])]]),
    (.str "low", .str "")]),
  (.str "files", .object [(.str "a", .null)])]

theorem oddReport_normalizes : ∃ report w,
    RecordKind.report.read oddReport = .ok report ∧ RecordKind.report.write report = .ok w ∧
      RecordKind.report.read w = .ok report ∧ RecordKind.report.normalize oddReport = .ok w ∧
      RecordKind.report.normalize w = .ok w := by
  obtain ⟨report, hread⟩ := ok_of_toBool (x := Report.ofValue oddReport) (by decide +kernel)
  obtain ⟨w, hwrite, hagain, hnormal⟩ := reading_normalizes .report hread
  exact ⟨report, w, hread, hwrite, hagain, hnormal⟩

end ReportDelivery
