import ReportDelivery.Proofs.Report.Assembly

/-! Documents of reports.

A report comes from a file's scan results or from a document. Either way it has the form it is
written in, so its document can be printed and reading the document gives the report again. With
that the findings of a file arrive at whoever reads the report: `findings_delivered`. -/
namespace ReportDelivery

/-! ### Reports that are read -/

theorem Identity.ofValue_plain {v : Value} (hv : v.IsJson) {identity : Identity}
    (h : Identity.ofValue v = .ok identity)
    (hnames : Members.TextKeys identity.foundLanguages) : identity.Plain := by
  obtain ⟨members, hmembers, hread⟩ := bind_ok.1 h
  obtain rfl := Value.members_ok.1 hmembers
  obtain ⟨foundLanguages, hlanguages, ⟨⟩⟩ := bind_ok.1 hread
  exact ⟨((hv.get _).orElse Value.isJson_empty).toMembers hlanguages hnames, hv.get _, hv.get _⟩

theorem FindingGroups.ofValue_plain {v : Value} (hv : v.IsJson) {groups : FindingGroups}
    (h : FindingGroups.ofValue v = .ok groups) : groups.Plain := by
  obtain ⟨members, hmembers, hread⟩ := bind_ok.1 h
  obtain rfl := Value.members_ok.1 hmembers
  have htexts : ∀ member ∈ members, ∃ t, member.1 = .str t := fun member hmember =>
    hv.named.texts member.1 (Members.mem_keys hmember)
  have hgroups := (List.forall₂_and_left _ _).2 ⟨htexts, mapM_ok.1 hread⟩
  have hkeys : groups.map (·.1) = members.map (·.1) := by
    refine forall₂_map_eq ?_ hgroups
    rintro ⟨_, items⟩ group ⟨⟨severity, rfl⟩, hgroup⟩
    obtain ⟨_, -, hgroup⟩ := bind_ok.1 hgroup
    obtain ⟨_, -, ⟨⟩⟩ := bind_ok.1 hgroup
    rfl
  refine ⟨?_, ?_, ?_⟩
  · intro group hgroup
    obtain ⟨_, -, -, hread⟩ := forall₂_mem_right hgroups hgroup
    obtain ⟨_, -, hread⟩ := bind_ok.1 hread
    obtain ⟨_, -, ⟨⟩⟩ := bind_ok.1 hread
    exact ⟨_, rfl⟩
  · rw [hkeys]
    exact hv.named.distinct
  · intro group hgroup record hrecord
    obtain ⟨member, hmember, -, hread⟩ := forall₂_mem_right hgroups hgroup
    obtain ⟨items, hitems, hread⟩ := bind_ok.1 hread
    obtain ⟨records, hrecords, ⟨⟩⟩ := bind_ok.1 hread
    obtain ⟨item, hitem, hrecordRead⟩ := forall₂_mem_right (mapM_ok.1 hrecords) hrecord
    have hlist := (hv.values member hmember).toItems hitems
    exact WireFindingOf.ofValue_plain (hlist.items item hitem) hrecordRead

namespace Report

theorem ofMembers_plain {members : Members} (hv : (Value.object members).IsJson) {report : Report}
    (h : ofMembers members = .ok report)
    (hnames : Members.TextKeys report.identity.foundLanguages) : report.Plain := by
  have hpart (name : String) : ((Members.get members name).orElse (.object [])).IsJson :=
    (hv.get name).orElse Value.isJson_empty
  obtain ⟨identity, hidentity, h⟩ := bind_ok.1 h
  obtain ⟨findings, hfindings, h⟩ := bind_ok.1 h
  obtain ⟨ignored, hignored, h⟩ := bind_ok.1 h
  obtain ⟨dataTypes, hdataTypes, h⟩ := bind_ok.1 h
  obtain ⟨components, hcomponents, h⟩ := bind_ok.1 h
  obtain ⟨errors, herrors, h⟩ := bind_ok.1 h
  obtain ⟨files, hfiles, ⟨⟩⟩ := bind_ok.1 h
  exact {
    identity := Identity.ofValue_plain (hpart _) hidentity hnames
    findings := FindingGroups.ofValue_plain (hpart _) hfindings
    ignored := FindingGroups.ofValue_plain (hpart _) hignored
    dataTypes := Members.items_isJson hv hdataTypes
    components := Members.items_isJson hv hcomponents
    errors := Members.items_isJson hv herrors
    files := by simp
  }

theorem ofDocument_plain {text : Text} {report : Report} (h : ofDocument text = .ok report)
    (hnames : Members.TextKeys report.identity.foundLanguages) : report.Plain := by
  obtain ⟨v, hread, h⟩ := bind_ok.1 h
  have hjson : v.IsJson := Json.read_isJson (mapError_ok.1 hread)
  split at h
  · exact ofMembers_plain hjson (mapError_ok.1 h) hnames
  · cases h

/-- Neither the target nor the rules version was emptied. -/
def TextSettings (report : Report) : Prop :=
  (∃ t, report.identity.target = .value t) ∧ ∃ t, report.identity.rulesVersion = .value t

theorem ofMembers_identity {members : Members} {report : Report}
    (h : ofMembers members = .ok report) :
    Identity.ofValue ((Members.get members "meta").orElse (.object [])) = .ok report.identity := by
  obtain ⟨identity, hidentity, h⟩ := bind_ok.1 h
  obtain ⟨_, -, h⟩ := bind_ok.1 h
  obtain ⟨_, -, h⟩ := bind_ok.1 h
  obtain ⟨_, -, h⟩ := bind_ok.1 h
  obtain ⟨_, -, h⟩ := bind_ok.1 h
  obtain ⟨_, -, h⟩ := bind_ok.1 h
  obtain ⟨_, -, ⟨⟩⟩ := bind_ok.1 h
  exact hidentity

/-- Settings that are texts are reported as texts. -/
theorem textSettings_of_builds {scan : ScanData} {settings : Settings} {report : Report}
    (h : ScanData.Builds scan settings report) (htarget : ∃ t, settings.target = .value t)
    (hrules : ∃ t, settings.rulesVersion = .value t) : report.TextSettings := by
  refine ⟨by rw [h.identity.target]; exact htarget, ?_⟩
  rcases h.identity.rulesVersion with heq | hnone
  · rw [heq]
    exact hrules
  · exact ⟨[], hnone⟩

/-- No document says that a setting was emptied. -/
theorem ofDocument_textSettings {text : Text} {report : Report}
    (h : ofDocument text = .ok report) : report.TextSettings := by
  obtain ⟨v, -, h⟩ := bind_ok.1 h
  split at h
  · obtain ⟨_, -, hidentity⟩ := bind_ok.1 (ofMembers_identity (mapError_ok.1 h))
    obtain ⟨_, -, hfields⟩ := bind_ok.1 hidentity
    cases hreport : report.identity
    rw [hreport] at hfields
    cases hfields
    rw [TextSettings, hreport]
    exact ⟨⟨_, rfl⟩, ⟨_, rfl⟩⟩
  · cases h

/-! ### Reports that are written -/

/-- A report that the program can hold: assembled from a file's scan results, with any settings and
any context, or read from a document that names its languages by texts. -/
inductive Obtained : Report → Prop
  | assembled {path : Text} {content : Bytes} {scan kept : ScanData} {settings : Settings}
      {context : Option Repository} {strict : Bool} {report : Report}
      (hload : ScanData.ofFile path content = .ok scan)
      (hassemble : scan.assembleReport settings context strict = .ok (report, kept)) :
      Obtained report
  | read {text : Text} {report : Report} (hread : ofDocument text = .ok report)
      (hnames : Members.TextKeys report.identity.foundLanguages) : Obtained report

theorem Obtained.plain {report : Report} (h : report.Obtained) : report.Plain := by
  cases h with
  | assembled hload hassemble =>
    obtain ⟨root, -, hroot, hloads⟩ := ScanData.ofFile_ok hload
    exact (ScanData.assembleReport_ok hassemble).plain hloads hroot
  | read hread hnames => exact ofDocument_plain hread hnames

/-- **Main theorem.** Whatever report the program holds, its document is printed, and reading the
document gives the report with texts for settings that were emptied. So it gives the report itself,
and printing that gives the same document, if neither setting was emptied; and no report that was
read has an emptied setting. -/
theorem document_roundTrip {report : Report} (h : report.Obtained) :
    ∃ text back, report.document = .ok text ∧ ofDocument text = .ok back ∧
      back = report.settled ∧ (back = report ↔ report.TextSettings) ∧
      (report.TextSettings → back.document = .ok text) ∧
      (∀ t, ofDocument t = .ok report → report.TextSettings) := by
  obtain ⟨text, hdocument, hread⟩ := h.plain.document
  refine ⟨text, report.settled, hdocument, hread, rfl, report.settled_eq_iff, ?_,
    fun _ => ofDocument_textSettings⟩
  intro htexts
  rw [report.settled_eq_iff.2 htexts]
  exact hdocument

/-- A file with a finding, a severity without one, and an ignored finding. -/
def sampleFile : Bytes :=
  ("\x7b\"found_languages\": \x7b\"Go\": 2.5\x7d, \"files\": [\"./a.go\"], " ++
    "\"findings\": \x7b\"low\": [], " ++
    "\"high\": [\x7b\"id\": \"r1\", \"line_number\": \"7\", \"ignore_meta\": 1\x7d]\x7d, " ++
    "\"ignored_findings\": \x7b\"low\": [\x7b\"title\": null, " ++
    "\"ignore_meta\": \x7b\"author\": [\"\\u00e9\"]\x7d\x7d]\x7d\x7d").toList.map
      fun c => .ofNat c.toNat

/-- What loading a file and assembling the report give. -/
def reportOfFile (content : Bytes) (settings : Settings) : Except Failure (Report × ScanData) := do
  (← ScanData.ofFile "scan.json" content).assembleReport settings none false

theorem reportOfFile_ok (content : Bytes) (settings : Settings)
    (h : (reportOfFile content settings).toBool = true) :
    ∃ scan report kept, ScanData.ofFile "scan.json" content = .ok scan ∧
      scan.assembleReport settings none false = .ok (report, kept) := by
  obtain ⟨⟨report, kept⟩, hreport⟩ := ok_of_toBool h
  obtain ⟨scan, hload, hassemble⟩ := bind_ok.1 hreport
  exact ⟨scan, report, kept, hload, hassemble⟩

theorem sampleFile_reported :
    ∃ scan report kept, ScanData.ofFile "scan.json" sampleFile = .ok scan ∧
      scan.assembleReport ⟨.value ".", .value []⟩ none false = .ok (report, kept) :=
  reportOfFile_ok _ _ (by decide +kernel)

theorem sampleReport_roundTrip :
    ∃ scan report kept text, ScanData.ofFile "scan.json" sampleFile = .ok scan ∧
      scan.assembleReport ⟨.value ".", .value []⟩ none false = .ok (report, kept) ∧
      report.document = .ok text ∧ ofDocument text = .ok report := by
  obtain ⟨scan, report, kept, hload, hassemble⟩ := sampleFile_reported
  obtain ⟨text, back, hdocument, hread, -, hsame, -, -⟩ :=
    document_roundTrip (.assembled hload hassemble)
  have htexts := textSettings_of_builds (ScanData.assembleReport_ok hassemble) ⟨_, rfl⟩ ⟨_, rfl⟩
  rw [hsame.2 htexts] at hread
  exact ⟨scan, report, kept, text, hload, hassemble, hdocument, hread⟩

/-- A target that was emptied comes back as the empty text. -/
theorem emptiedTarget_not_restored :
    ∃ scan report kept text back,
      ScanData.ofFile "scan.json" [0x7b, 0x7d] = .ok scan ∧
      scan.assembleReport ⟨.emptied, .value []⟩ none false = .ok (report, kept) ∧
      report.document = .ok text ∧ ofDocument text = .ok back ∧ back ≠ report := by
  obtain ⟨scan, report, kept, hload, hassemble⟩ :=
    reportOfFile_ok [0x7b, 0x7d] ⟨.emptied, .value []⟩ (by decide +kernel)
  obtain ⟨text, hdocument, hread⟩ := (Obtained.assembled hload hassemble).plain.document
  refine ⟨scan, report, kept, text, report.settled, hload, hassemble, hdocument, hread, ?_⟩
  intro hsame
  obtain ⟨t, ht⟩ := (report.settled_eq_iff.1 hsame).1
  rw [(ScanData.assembleReport_ok hassemble).identity.target] at ht
  cases ht

end Report

/-! ### Findings from the file to the reader -/

/-- **Main theorem.** The findings of a file that is accepted arrive at whoever reads the report's
document: the severities that have an item, in the file's order, each with all of its items in
order, reported findings without an ignore record and ignored ones with the one of their item. -/
theorem findings_delivered {path : Text} {content : Bytes} {scan kept : ScanData}
    {settings : Settings} {context : Option Repository} {strict : Bool} {report : Report}
    (hload : ScanData.ofFile path content = .ok scan)
    (hassemble : scan.assembleReport settings context strict = .ok (report, kept)) :
    ∃ root text back, Json.readFile content = .ok (.object root) ∧
      report.document = .ok text ∧ Report.ofDocument text = .ok back ∧ back.Carries root := by
  obtain ⟨root, hroot, hjson, hloads⟩ := ScanData.ofFile_ok hload
  have hbuilds := ScanData.assembleReport_ok hassemble
  have hcarries := hbuilds.carries hloads
  obtain ⟨text, hdocument, hread⟩ := (hbuilds.plain hloads hjson).document
  exact ⟨root, text, report.settled, hroot, hdocument, hread, hcarries.findings, hcarries.ignored⟩

theorem sampleFindings_delivered :
    ∃ scan report kept root text back,
      ScanData.ofFile "scan.json" Report.sampleFile = .ok scan ∧
      scan.assembleReport ⟨.value ".", .value []⟩ none false = .ok (report, kept) ∧
      Json.readFile Report.sampleFile = .ok (.object root) ∧
      report.document = .ok text ∧ Report.ofDocument text = .ok back ∧ back.Carries root := by
  obtain ⟨scan, report, kept, hload, hassemble⟩ := Report.sampleFile_reported
  obtain ⟨root, text, back, hroot, hdocument, hread, hcarries⟩ :=
    findings_delivered hload hassemble
  exact ⟨scan, report, kept, root, text, back, hload, hassemble, hroot, hdocument, hread, hcarries⟩

end ReportDelivery
