import ReportDelivery.Proofs.Json.RoundTrip
import ReportDelivery.Proofs.Record.RoundTrip
import ReportDelivery.Report.Basic

/-! Written reports read back.

A report is written member by member, each in a form that its reader takes as it is, and the value
is JSON, so the document can be printed and gives the value back. Only a setting that was emptied
comes back as another one: it is written as a list without items, and a member that is not truthy
reads as the empty text. -/
namespace ReportDelivery

/-! ### Groups of findings -/

namespace FindingGroups

/-- Severities are different texts, and every record has the form it is written in. -/
structure Plain (groups : FindingGroups) : Prop where
  texts : ∀ group ∈ groups, ∃ t, group.1 = .str t
  distinct : (groups.map (·.1)).Nodup
  records : ∀ group ∈ groups, ∀ record ∈ group.2, record.Plain

/-- A value that a record writes and is read from. -/
def Writes (record : WireFinding) (v : Value) : Prop :=
  record.toValue = .ok v ∧ v.IsJson ∧ WireFindingOf.ofValue v = .ok record

/-- A group as a member: the severity, and a list of what the records write. -/
def WritesGroup (group : Value × List WireFinding) (member : Value × Value) : Prop :=
  ∃ severity items, group.1 = .str severity ∧ member = (.str severity, .list items) ∧
    List.Forall₂ Writes group.2 items

theorem Plain.writes {groups : FindingGroups} (h : groups.Plain) :
    ∃ members, List.Forall₂ WritesGroup groups members := by
  refine exists_forall₂ fun group hgroup => ?_
  obtain ⟨severity, hseverity⟩ := h.texts group hgroup
  obtain ⟨items, hitems⟩ := exists_forall₂ (R := Writes) fun record hrecord =>
    (h.records group hgroup record hrecord).roundTrip
  exact ⟨_, severity, items, hseverity, rfl, hitems⟩

variable {groups : FindingGroups} {members : Members}

theorem toValue_of_writes (h : List.Forall₂ WritesGroup groups members) :
    toValue groups = .ok (.object members) := by
  refine bind_ok.2 ⟨members, mapM_ok.2 (h.imp ?_), rfl⟩
  rintro ⟨_, records⟩ _ ⟨severity, items, rfl, rfl, hitems⟩
  exact bind_ok.2 ⟨items, mapM_ok.2 (hitems.imp fun _ _ hw => hw.1), rfl⟩

theorem ofValue_of_writes (h : List.Forall₂ WritesGroup groups members) :
    ofValue (.object members) = .ok groups := by
  refine bind_ok.2 ⟨members, rfl, mapM_ok.2 (List.Forall₂.flip (h.imp ?_))⟩
  rintro ⟨_, records⟩ _ ⟨severity, items, rfl, rfl, hitems⟩
  refine bind_ok.2 ⟨items, rfl, bind_ok.2 ⟨records, mapM_ok.2 ?_, rfl⟩⟩
  exact List.Forall₂.flip (hitems.imp fun _ _ hw => hw.2.2)

theorem isJson_of_writes (h : List.Forall₂ WritesGroup groups members)
    (hdistinct : (groups.map (·.1)).Nodup) : (Value.object members).IsJson := by
  have hkeys : Members.keys members = groups.map (·.1) := by
    refine forall₂_map_eq ?_ h
    rintro ⟨_, records⟩ _ ⟨severity, items, rfl, rfl, -⟩
    rfl
  refine .object ⟨?_, by rw [hkeys]; exact hdistinct⟩ ?_
  · intro key hkey
    rw [hkeys] at hkey
    obtain ⟨group, hgroup, rfl⟩ := List.mem_map.1 hkey
    obtain ⟨-, -, severity, items, hseverity, -, -⟩ := forall₂_mem_right h.flip hgroup
    exact ⟨severity, hseverity⟩
  · intro member hmember
    obtain ⟨group, -, severity, items, -, rfl, hitems⟩ := forall₂_mem_right h hmember
    refine .list fun v hv => ?_
    obtain ⟨record, -, hw⟩ := forall₂_mem_right hitems hv
    exact hw.2.1

/-- Groups of findings are written as an object, and read from it. -/
theorem Plain.roundTrip (h : groups.Plain) :
    ∃ members, toValue groups = .ok (.object members) ∧ (Value.object members).IsJson ∧
      ofValue (.object members) = .ok groups := by
  obtain ⟨members, hmembers⟩ := h.writes
  exact ⟨members, toValue_of_writes hmembers, isJson_of_writes hmembers h.distinct,
    ofValue_of_writes hmembers⟩

end FindingGroups

/-! ### Identities -/

namespace Setting

/-- The text a setting reads back as. -/
def settled (setting : Setting Text) : Setting Text := .value (setting.value?.getD [])

theorem settled_eq_iff (setting : Setting Text) :
    setting.settled = setting ↔ ∃ t, setting = .value t := by
  cases setting with
  | value t => exact ⟨fun _ => ⟨t, rfl⟩, fun _ => rfl⟩
  | emptied => exact ⟨nofun, nofun⟩

@[simp] theorem display_orElse (setting : Setting Text) :
    .value (setting.toValue.orElse (.str [])).display = setting.settled := by
  cases setting with
  | value t => exact congrArg Setting.value (Value.display_orElse t)
  | emptied => rfl

theorem toValue_isJson (setting : Setting Text) : setting.toValue.IsJson := by
  cases setting with
  | value t => exact .str t
  | emptied => exact .list (by simp)

end Setting

namespace Identity

/-- What the collector says and what the scan found are JSON values. -/
structure Plain (identity : Identity) : Prop where
  foundLanguages : (Value.object identity.foundLanguages).IsJson
  signedId : identity.signedId.IsJson
  error : identity.error.IsJson

/-- The identity with texts for settings that were emptied. -/
def settled (identity : Identity) : Identity :=
  { identity with
    target := identity.target.settled
    rulesVersion := identity.rulesVersion.settled }

theorem ofValue_toValue (identity : Identity) :
    ofValue identity.toValue = .ok identity.settled := by
  simp [ofValue, toValue, Value.members, Value.toMembers, settled]

theorem Plain.toValue {identity : Identity} (h : identity.Plain) : identity.toValue.IsJson := by
  refine .object (Members.named_ofStrings ["id", "host", "username", "name", "full_name", "url",
    "target", "sha", "current_branch", "default_branch", "diff_base_branch",
    "bearer_rules_version", "bearer_version", "found_languages", "signed_id", "error"]
    rfl (by decide)) ?_
  simp [Value.IsJson.str, Setting.toValue_isJson, h.foundLanguages, h.signedId, h.error]

end Identity

/-! ### Reports -/

namespace Report

/-- What a report is made of: parts in the form they are written in. -/
structure Plain (report : Report) : Prop where
  identity : report.identity.Plain
  findings : report.findings.Plain
  ignored : report.ignored.Plain
  dataTypes : (Value.list report.dataTypes).IsJson
  components : (Value.list report.components).IsJson
  errors : (Value.list report.errors).IsJson
  files : ∀ file ∈ report.files, ∃ t, file = .str t

/-- The report with texts for settings that were emptied. -/
def settled (report : Report) : Report := { report with identity := report.identity.settled }

theorem settled_eq_iff (report : Report) :
    report.settled = report ↔ (∃ t, report.identity.target = .value t) ∧
      ∃ t, report.identity.rulesVersion = .value t := by
  rw [← Setting.settled_eq_iff, ← Setting.settled_eq_iff]
  constructor
  · intro h
    exact ⟨congrArg (·.identity.target) h, congrArg (·.identity.rulesVersion) h⟩
  · rintro ⟨htarget, hrules⟩
    simp only [settled, Identity.settled, htarget, hrules]

theorem map_display_files {files : List Value} (h : ∀ file ∈ files, ∃ t, file = .str t) :
    files.map (fun file => .str file.display) = files := by
  have hsame : files.map (fun file => Value.str file.display) = files.map id := by
    refine List.map_congr_left ?_
    intro file hfile
    obtain ⟨t, rfl⟩ := h file hfile
    rfl
  rw [hsame, List.map_id]

/-- The members a report writes, given those that its findings write. -/
def members (report : Report) (findings ignored : Members) : Members := [
  (.str "meta", report.identity.toValue),
  (.str "findings", .object findings),
  (.str "ignored_findings", .object ignored),
  (.str "data_types", .list report.dataTypes),
  (.str "components", .list report.components),
  (.str "errors", .list report.errors),
  (.str "files", .list report.files)]

section
variable {report : Report} {findings ignored : Members}

theorem toValue_eq (hfindings : report.findings.toValue = .ok (.object findings))
    (hignored : report.ignored.toValue = .ok (.object ignored)) :
    report.toValue = .ok (.object (report.members findings ignored)) :=
  bind_ok.2 ⟨_, hfindings, bind_ok.2 ⟨_, hignored, rfl⟩⟩

/-- The members are read as the report if both maps of findings are read back. -/
theorem ofMembers_members (hfindings : FindingGroups.ofValue (.object findings) = .ok report.findings)
    (hignored : FindingGroups.ofValue (.object ignored) = .ok report.ignored)
    (hfiles : ∀ file ∈ report.files, ∃ t, file = .str t) :
    ofMembers (report.members findings ignored) = .ok report.settled := by
  have hidentity : report.identity.toValue.orElse (.object []) = report.identity.toValue :=
    Value.object_orElse _
  simp [ofMembers, members, hidentity, Identity.ofValue_toValue, hfindings, hignored,
    map_display_files hfiles, Report.settled]

end

/-- The members a report writes, and the report they are read as. -/
theorem Plain.roundTrip {report : Report} (h : report.Plain) :
    ∃ members, report.toValue = .ok (.object members) ∧ (Value.object members).IsJson ∧
      ofMembers members = .ok report.settled := by
  obtain ⟨findings, hfindings, hfindingsJson, hfindingsBack⟩ := h.findings.roundTrip
  obtain ⟨ignored, hignored, hignoredJson, hignoredBack⟩ := h.ignored.roundTrip
  refine ⟨report.members findings ignored, toValue_eq hfindings hignored, ?_,
    ofMembers_members hfindingsBack hignoredBack h.files⟩
  refine .object (Members.named_ofStrings ["meta", "findings", "ignored_findings", "data_types",
    "components", "errors", "files"] rfl (by decide)) ?_
  have hfiles : (Value.list report.files).IsJson := by
    refine .list fun file hfile => ?_
    obtain ⟨t, rfl⟩ := h.files file hfile
    exact .str t
  simp [members, h.identity.toValue, hfindingsJson, hignoredJson, h.dataTypes, h.components,
    h.errors, hfiles]

/-- **Writing and reading.** The document of a report is read as the report again, with texts for
settings that were emptied. -/
theorem Plain.document {report : Report} (h : report.Plain) :
    ∃ text, report.document = .ok text ∧ ofDocument text = .ok report.settled := by
  obtain ⟨members, hvalue, hjson, hback⟩ := h.roundTrip
  obtain ⟨text, hprint, hread⟩ := Json.read_print hjson
  refine ⟨text, ?_, ?_⟩
  · simp [Report.document, hvalue, hprint]
  · simp [ofDocument, hread, hback]

/-! ### Documents in bytes -/

theorem encoded_ok {report : Report} {bytes : Bytes} : report.encoded = .ok bytes ↔
    ∃ text, report.document = .ok text ∧ Utf8.encode text = .ok bytes := by
  rw [encoded, bind_ok]
  simp only [mapError_ok]

/-- The three ways in which a report has no document in bytes. -/
theorem encoded_error {report : Report} {error : DocumentError} :
    report.encoded = .error error ↔
      (∃ cause, report.toValue = .error cause ∧ .unwritable cause = error) ∨
      ∃ v, report.toValue = .ok v ∧
        ((∃ cause, Json.print v = .error cause ∧ .unprintable cause = error) ∨
          ∃ text, Json.print v = .ok text ∧
            ∃ cause, Utf8.encode text = .error cause ∧ .unencodable cause = error) := by
  simp only [encoded, document, bind_assoc, bind_error, mapError_error, mapError_ok]

end Report
end ReportDelivery
