import ReportDelivery.Proofs.Report.RoundTrip
import ReportDelivery.Proofs.Scan.Loading
import ReportDelivery.Report.Assembly

/-! What an assembled report holds.

Every item of a section becomes one wire finding, in place, and severities without items are left
out; nothing else happens to the findings between the scan results and the report. The other parts
are the scan's lists, and the identity is the full one or what is left of it without a repository. -/
namespace ReportDelivery

/-! ### Wire findings of items -/

/-- The members of an item, reported as a finding without an ignore record. -/
inductive ReportsFinding : Value → WireFinding → Prop
  | intro {members : Members} {finding : Finding}
      (hfinding : FindingOf.ofMembers members = .ok finding) :
      ReportsFinding (.object members) ⟨.finding finding, finding.severityMeta, .null⟩

/-- The members of an item, reported as a finding with the ignore record that is among them. -/
inductive ReportsIgnored : Value → WireFinding → Prop
  | intro {members others : Members} {finding : Finding}
      (hfinding : FindingOf.ofMembers members = .ok finding)
      (hignore : Members.get members "ignore_meta" = .object others) :
      ReportsIgnored (.object members)
        ⟨.finding finding, finding.severityMeta, .ignoreMeta (IgnoreMetaOf.ofMembers others)⟩

/-- A group keeps its severity, the number of its items and their order. -/
def ReportsGroup (Reports : Value → WireFinding → Prop) (group : Value × Value)
    (reported : Value × List WireFinding) : Prop :=
  ∃ severity items, group = (.str severity, .list items) ∧ reported.1 = .str severity ∧
    List.Forall₂ Reports items reported.2

/-- A section of a report has the severities of the file's section that have an item, in their
order, each with all of its items. -/
def ReportsSection (Reports : Value → WireFinding → Prop) (groups : Members)
    (reported : FindingGroups) : Prop :=
  List.Forall₂ (ReportsGroup Reports) groups.filled reported

/-- A report has the findings of a document, and none but them. -/
structure Report.Carries (report : Report) (root : Members) : Prop where
  findings : ∃ groups, ScanData.GroupsAt root "findings" groups ∧
    ReportsSection ReportsFinding groups report.findings
  ignored : ∃ groups, ScanData.GroupsAt root "ignored_findings" groups ∧
    ReportsSection ReportsIgnored groups report.ignored

theorem reportsFinding_of_loads {item record : Value} {wire : WireFinding}
    (h : ScanData.LoadsFinding item record) (hwire : record.toWire = .ok wire) :
    ReportsFinding item wire := by
  cases h with
  | intro hfinding =>
    cases hwire
    exact .intro hfinding

theorem reportsIgnored_of_loads {item record : Value} {wire : WireFinding}
    (h : ScanData.LoadsIgnored item record) (hwire : record.toWire = .ok wire) :
    ReportsIgnored item wire := by
  cases h with
  | intro hfinding hignore =>
    cases hwire
    exact .intro hfinding hignore

theorem wireItems?_eq_some {v : Value} {items : List WireFinding} :
    wireItems? v = some items ↔ v = .list (items.map .wire) := by
  cases v with
  | list all =>
    rw [wireItems?, Value.list.injEq]
    refine mapM_eq_some fun v record => ?_
    cases v <;> simp
  | _ => exact ⟨nofun, nofun⟩

namespace FindingGroups

/-- Loaded groups, made into wire form. -/
theorem ofScan_ok (Loads : Value → Value → Prop) (Reports : Value → WireFinding → Prop)
    (hstep : ∀ item record wire, Loads item record → Value.toWire record = .ok wire →
      Reports item wire)
    {groups members : Members} (hload : List.Forall₂ (ScanData.LoadsGroup Loads) groups members)
    {reported : FindingGroups} (h : ofScan (.object members) = .ok reported) :
    ReportsSection Reports groups reported := by
  obtain ⟨_, ⟨⟩, h⟩ := bind_ok.1 h
  obtain ⟨converted, hconverted, ⟨⟩⟩ := bind_ok.1 h
  have hall : List.Forall₂ (ReportsGroup Reports) groups converted := by
    refine forall₂_trans ?_ hload (mapM_ok.1 hconverted)
    rintro _ _ reported ⟨severity, items, records, rfl, rfl, hitems⟩ hreported
    obtain ⟨_, ⟨⟩, hreported⟩ := bind_ok.1 hreported
    obtain ⟨wires, hwires, ⟨⟩⟩ := bind_ok.1 hreported
    refine ⟨severity, items, rfl, rfl, forall₂_trans ?_ hitems (mapM_ok.1 hwires)⟩
    exact hstep _ _ _
  refine forall₂_filter ?_ hall
  rintro _ ⟨_, wires⟩ ⟨severity, items, rfl, -, hitems⟩
  cases hitems <;> rfl

theorem findingsPart_asValue (part : Section) (groups : FindingGroups) :
    findingsPart part groups.asValue = .ok groups := by
  refine mapM_ok.2 ?_
  rw [List.forall₂_map_left_iff, List.forall₂_same]
  intro group _
  have hitems : wireItems? (.list (group.2.map .wire)) = some group.2 := wireItems?_eq_some.2 rfl
  simp only [hitems]

end FindingGroups

theorem listPart_error {field : String} {v : Value} {cause : AssemblyError}
    (h : listPart field v = .error cause) : cause = .listExpected field v.typeName := by
  unfold listPart at h
  split at h
  · cases h
  · split at h
    · cases h
      rfl
    · cases h

/-- Groups in wire form are accepted, so what is refused is one of the lists. -/
theorem assemble_asValue_error {identity : Identity} {findings ignored : FindingGroups}
    {dataflow : Dataflow} {files : Value} {cause : AssemblyError}
    (h : Report.assemble identity findings.asValue ignored.asValue dataflow files = .error cause) :
    ∃ field typeName, cause = .listExpected field typeName := by
  rw [Report.assemble, FindingGroups.findingsPart_asValue, FindingGroups.findingsPart_asValue,
    ok_bind, ok_bind] at h
  rcases bind_error.1 h with hpart | ⟨dataTypes, -, h⟩
  · exact ⟨_, _, listPart_error hpart⟩
  rcases bind_error.1 h with hpart | ⟨components, -, h⟩
  · exact ⟨_, _, listPart_error hpart⟩
  rcases bind_error.1 h with hpart | ⟨errors, -, h⟩
  · exact ⟨_, _, listPart_error hpart⟩
  rcases bind_error.1 h with hpart | ⟨files, -, h⟩
  · exact ⟨_, _, listPart_error hpart⟩
  cases h

/-! ### The identity -/

namespace Identity

/-- What the full identity and what is left of it have in common. -/
structure Established (scan : ScanData) (settings : Settings) (identity : Identity) : Prop where
  foundLanguages : scan.foundLanguages.toMembers = .ok identity.foundLanguages
  target : identity.target = settings.target
  rulesVersion : identity.rulesVersion = settings.rulesVersion ∨ identity.rulesVersion = .value []
  signedId : identity.signedId = .null
  error : identity.error = .null

variable {scan : ScanData} {settings : Settings} {context : Option Repository}
  {identity : Identity}

theorem full_ok (h : full scan settings context = .ok identity) :
    Established scan settings identity := by
  unfold full at h
  cases context with
  | none => cases h
  | some context =>
    dsimp only at h
    split at h
    · obtain ⟨foundLanguages, hlanguages, ⟨⟩⟩ := bind_ok.1 h
      exact ⟨mapError_ok.1 hlanguages, rfl, .inl rfl, rfl, rfl⟩
    · cases h

theorem degraded_ok (h : degraded scan settings = .ok identity) :
    Established scan settings identity := by
  obtain ⟨foundLanguages, hlanguages, ⟨⟩⟩ := bind_ok.1 h
  exact ⟨mapError_ok.1 hlanguages, rfl, .inr rfl, rfl, rfl⟩

theorem establish_ok {required : Bool}
    (h : establish required scan settings context = .ok identity) :
    Established scan settings identity := by
  unfold establish at h
  split at h
  · split at h
    · cases h
    · exact degraded_ok h
  · exact full_ok h

end Identity

/-! ### The report -/

namespace ScanData

variable {scan : ScanData} {settings : Settings} {context : Option Repository} {strict : Bool}
  {report : Report}

/-- Where the parts of a report come from. -/
structure Builds (scan : ScanData) (settings : Settings) (report : Report) : Prop where
  identity : Identity.Established scan settings report.identity
  findings : FindingGroups.ofScan scan.findings = .ok report.findings
  ignored : FindingGroups.ofScan scan.ignored = .ok report.ignored
  dataflow : ∃ dataflow, scan.dataflow = .dataflow dataflow ∧
    listPart "data_types" dataflow.dataTypes = .ok report.dataTypes ∧
    listPart "components" dataflow.components = .ok report.components ∧
    listPart "errors" dataflow.errors = .ok report.errors
  files : ∃ files, listPart "files" scan.files = .ok files ∧
    files.mapM (reportFile settings.target) = .ok report.files

theorem dataflowRecord_ok {v : Value} {dataflow : Dataflow}
    (h : dataflowRecord v = .ok dataflow) : v = .dataflow dataflow := by
  cases v with
  | dataflow record =>
    cases h
    rfl
  | _ => cases h

theorem buildReport_ok (h : scan.buildReport settings context strict = .ok report) :
    Builds scan settings report := by
  obtain ⟨identity, hidentity, h⟩ := bind_ok.1 h
  obtain ⟨⟨findings, ignored⟩, hwire, h⟩ := bind_ok.1 h
  obtain ⟨files, hfiles, h⟩ := bind_ok.1 h
  obtain ⟨named, hnamed, h⟩ := bind_ok.1 h
  obtain ⟨dataflow, hdataflow, h⟩ := bind_ok.1 h
  obtain ⟨_, hfindings, hwire⟩ := bind_ok.1 (mapError_ok.1 hwire)
  obtain ⟨_, hignored, ⟨⟩⟩ := bind_ok.1 hwire
  have hassemble := mapError_ok.1 h
  rw [Report.assemble, FindingGroups.findingsPart_asValue, FindingGroups.findingsPart_asValue]
    at hassemble
  obtain ⟨_, ⟨⟩, hassemble⟩ := bind_ok.1 hassemble
  obtain ⟨_, ⟨⟩, hassemble⟩ := bind_ok.1 hassemble
  obtain ⟨_, hdataTypes, hassemble⟩ := bind_ok.1 hassemble
  obtain ⟨_, hcomponents, hassemble⟩ := bind_ok.1 hassemble
  obtain ⟨_, herrors, hassemble⟩ := bind_ok.1 hassemble
  obtain ⟨_, ⟨⟩, ⟨⟩⟩ := bind_ok.1 hassemble
  exact {
    identity := Identity.establish_ok hidentity
    findings := hfindings
    ignored := hignored
    dataflow := ⟨dataflow, dataflowRecord_ok (mapError_ok.1 hdataflow), hdataTypes, hcomponents,
      herrors⟩
    files := ⟨files, mapError_ok.1 hfiles, mapError_ok.1 hnamed⟩
  }

theorem assembleReport_ok {kept : ScanData}
    (h : scan.assembleReport settings context strict = .ok (report, kept)) :
    Builds scan settings report := by
  obtain ⟨_, hbuild, ⟨⟩⟩ := bind_ok.1 h
  exact buildReport_ok hbuild

/-- The findings of a report on a file's scan results are the file's. -/
theorem Builds.carries {root : Members} (h : Builds scan settings report)
    (hload : Loads root scan) : report.Carries root := by
  obtain ⟨groups, members, hgroups, hmembers, hloads⟩ := hload.findings
  obtain ⟨others, ignored, hothers, hignored, hignoredLoads⟩ := hload.ignored
  have hfindingsScan := h.findings
  have hignoredScan := h.ignored
  rw [hmembers] at hfindingsScan
  rw [hignored] at hignoredScan
  have hfindings := FindingGroups.ofScan_ok LoadsFinding ReportsFinding
    (fun _ _ _ => reportsFinding_of_loads) hloads hfindingsScan
  -- The empty groups are gone already, and leaving them out once more changes nothing.
  have hsection := FindingGroups.ofScan_ok LoadsIgnored ReportsIgnored
    (fun _ _ _ => reportsIgnored_of_loads) hignoredLoads hignoredScan
  rw [ReportsSection, Members.filled, Members.filled, List.filter_filter] at hsection
  simp only [Bool.and_self] at hsection
  exact ⟨⟨groups, hgroups, hfindings⟩, ⟨others, hothers, hsection⟩⟩

end ScanData

/-! ### The form of its parts -/

theorem ReportsFinding.plain {item : Value} {wire : WireFinding} (h : ReportsFinding item wire)
    (hitem : item.IsJson) : wire.Plain := by
  cases h with
  | intro hfinding => exact .active (FindingOf.ofMembers_isJson hitem hfinding)

theorem ReportsIgnored.plain {item : Value} {wire : WireFinding} (h : ReportsIgnored item wire)
    (hitem : item.IsJson) : wire.Plain := by
  cases h with
  | intro hfinding hignore =>
    have hothers := hitem.get "ignore_meta"
    rw [hignore] at hothers
    exact .ignored (FindingOf.ofMembers_isJson hitem hfinding)
      (IgnoreMetaOf.ofMembers_isJson hothers)

theorem ReportsSection.plain {Reports : Value → WireFinding → Prop} {groups : Members}
    {reported : FindingGroups} (h : ReportsSection Reports groups reported)
    (hgroups : (Value.object groups).IsJson)
    (hrecords : ∀ {item wire}, Reports item wire → item.IsJson → wire.Plain) :
    reported.Plain := by
  have hkeys : reported.map (·.1) = groups.filled.map (·.1) := by
    refine forall₂_map_eq ?_ h
    rintro _ ⟨_, wires⟩ ⟨severity, items, rfl, rfl, -⟩
    rfl
  refine ⟨?_, ?_, ?_⟩
  · intro group hgroup
    obtain ⟨_, -, severity, items, -, hseverity, -⟩ := forall₂_mem_right h hgroup
    exact ⟨severity, hseverity⟩
  · rw [hkeys]
    exact hgroups.named.distinct.sublist (List.filter_sublist.map _)
  · intro group hgroup wire hwire
    obtain ⟨_, hmember, severity, items, rfl, -, hitems⟩ := forall₂_mem_right h hgroup
    obtain ⟨item, hitem, hreports⟩ := forall₂_mem_right hitems hwire
    have hlist : (Value.list items).IsJson := hgroups.values _ (List.mem_of_mem_filter hmember)
    exact hrecords hreports (hlist.items item hitem)

theorem reportFile_ok {target : Setting Text} {file named : Value}
    (h : reportFile target file = .ok named) (hfile : ∃ t, file = .str t) :
    ∃ t, named = .str t := by
  obtain ⟨t, rfl⟩ := hfile
  cases target with
  | value target =>
    cases h
    exact ⟨_, rfl⟩
  | emptied => cases h

/-- A report on a file's scan results can be written and read back. -/
theorem ScanData.Builds.plain {root : Members} {scan : ScanData} {settings : Settings}
    {report : Report} (h : Builds scan settings report) (hload : Loads root scan)
    (hroot : (Value.object root).IsJson) : report.Plain := by
  have hgroups {name : String} {groups : Members} (hat : GroupsAt root name groups) :
      (Value.object groups).IsJson := by
    rw [← hat]
    exact (hroot.get name).orElse Value.isJson_empty
  obtain ⟨⟨findings, hfindings, hfindingsSection⟩, ⟨ignored, hignored, hignoredSection⟩⟩ :=
    h.carries hload
  obtain ⟨languages, hlanguages, hlanguagesJson⟩ := hload.foundLanguages
  obtain ⟨dataflow, hdataflow, hdataTypes, hcomponents, herrors⟩ := h.dataflow
  obtain ⟨dataTypes, components, errors, hrecord, hdataTypesJson, hcomponentsJson, herrorsJson⟩ :=
    hload.dataflow
  obtain ⟨files, hfiles, hnamed⟩ := h.files
  obtain ⟨loaded, hloaded, htexts⟩ := hload.files
  have hfound := h.identity.foundLanguages
  rw [hlanguages] at hfound
  cases hfound
  cases hdataflow.symm.trans hrecord
  cases hdataTypes
  cases hcomponents
  cases herrors
  rw [hloaded] at hfiles
  cases hfiles
  refine {
    identity := ⟨hlanguagesJson, ?_, ?_⟩
    findings := hfindingsSection.plain (hgroups hfindings) ReportsFinding.plain
    ignored := hignoredSection.plain (hgroups hignored) ReportsIgnored.plain
    dataTypes := hdataTypesJson
    components := hcomponentsJson
    errors := herrorsJson
    files := ?_
  }
  · rw [h.identity.signedId]
    exact .null
  · rw [h.identity.error]
    exact .null
  · intro named hmem
    obtain ⟨file, hfile, hname⟩ := forall₂_mem_right (mapM_ok.1 hnamed) hmem
    exact reportFile_ok hname (htexts file hfile)

end ReportDelivery
