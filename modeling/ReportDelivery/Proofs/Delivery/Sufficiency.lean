import ReportDelivery.Proofs.Delivery.Packaging
import ReportDelivery.Proofs.Delivery.Protocol
import ReportDelivery.Proofs.Report.Diagnostics
import ReportDelivery.Proofs.Report.Document

/-! What loading checks is enough for what follows.

Scan results that were loaded have a wire form for every finding, lists where lists belong, and
languages that are a mapping. So assembling the report fails for nothing but the identity, and
packaging it for nothing but a lone surrogate. An emptied target is the exception: no file has a name
under it. -/
namespace ReportDelivery

/-! ### Parts of the report -/

namespace FindingGroups

/-- Loaded groups have a wire form if their items do. -/
theorem ofScan_of_loads {Loads : Value → Value → Prop}
    (hwire : ∀ {item record}, Loads item record → ∃ wire, Value.toWire record = .ok wire)
    {groups members : Members} (h : List.Forall₂ (ScanData.LoadsGroup Loads) groups members) :
    ∃ reported, ofScan (.object members) = .ok reported := by
  have hgroup : ∀ member ∈ members, ∃ converted : Value × List WireFinding,
      (do return (member.1, ← (← member.2.toItems).mapM Value.toWire)) =
        (Except.ok converted : Except CoercionError _) := by
    intro member hmember
    obtain ⟨_, -, severity, items, records, -, rfl, hitems⟩ := forall₂_mem_right h hmember
    obtain ⟨wires, hwires⟩ := exists_forall₂ fun record hrecord =>
      have ⟨_, _, hload⟩ := forall₂_mem_right hitems hrecord
      hwire hload
    exact ⟨_, bind_ok.2 ⟨records, rfl, bind_ok.2 ⟨wires, mapM_ok.2 hwires, rfl⟩⟩⟩
  obtain ⟨converted, hconverted⟩ := exists_forall₂ hgroup
  exact ⟨_, bind_ok.2 ⟨members, rfl, bind_ok.2 ⟨converted, mapM_ok.2 hconverted, rfl⟩⟩⟩

end FindingGroups

namespace ScanData

variable {root : Members} {scan : ScanData} {settings : Settings} {context : Option Repository}
  {strict : Bool} {failure : Failure}

theorem Loads.wireFindings (h : Loads root scan) : ∃ wire, scan.wireFindings = .ok wire := by
  obtain ⟨_, members, -, hmembers, hloads⟩ := h.findings
  obtain ⟨_, others, -, hothers, hignored⟩ := h.ignored
  obtain ⟨findings, hfindings⟩ := FindingGroups.ofScan_of_loads
    (by rintro item _ ⟨_⟩; exact ⟨_, rfl⟩) hloads
  obtain ⟨ignored, hignoredWire⟩ := FindingGroups.ofScan_of_loads
    (by rintro item _ ⟨_, _⟩; exact ⟨_, rfl⟩) hignored
  rw [← hmembers] at hfindings
  rw [← hothers] at hignoredWire
  exact ⟨_, bind_ok.2 ⟨findings, hfindings, bind_ok.2 ⟨ignored, hignoredWire, rfl⟩⟩⟩

theorem Loads.languages (h : Loads root scan) :
    ∃ languages, scan.foundLanguages.toMembers = .ok languages := by
  obtain ⟨languages, hlanguages, -⟩ := h.foundLanguages
  rw [hlanguages]
  exact ⟨languages, rfl⟩

end ScanData

/-! ### Names of files -/

/-- The target is a text, or there is no file to name under it. -/
def Settings.Names (settings : Settings) (scan : ScanData) : Prop :=
  (∃ t, settings.target = .value t) ∨ scan.files = .list []

/-- What naming a file under an emptied target fails with. -/
def Failure.unnamed : Failure := .coercion (.unable (Value.list []).typeName .compareStart)

namespace ScanData

variable {root : Members} {scan : ScanData} {settings : Settings} {context : Option Repository}
  {strict : Bool} {failure : Failure}

theorem Loads.named (h : Loads root scan) {files : List Value} (hfiles : scan.files = .list files) :
    (settings.Names scan → ∃ named, files.mapM (reportFile settings.target) = .ok named) ∧
    (¬ settings.Names scan →
      (files.mapM (reportFile settings.target)).mapError Failure.coercion = .error .unnamed) := by
  obtain ⟨files', hfiles', htexts⟩ := h.files
  obtain rfl := Value.list.inj (hfiles.symm.trans hfiles')
  rw [Settings.Names, hfiles]
  cases settings.target with
  | value target =>
    refine ⟨fun _ => ?_, fun hnot => absurd (.inl ⟨target, rfl⟩) hnot⟩
    obtain ⟨named, hnamed⟩ := exists_forall₂ (R := fun file name =>
      reportFile (.value target) file = .ok name) fun file hfile => by
        obtain ⟨t, rfl⟩ := htexts file hfile
        exact ⟨_, rfl⟩
    exact ⟨named, mapM_ok.2 hnamed⟩
  | emptied =>
    cases files with
    | nil => exact ⟨fun _ => ⟨[], rfl⟩, fun hnot => absurd (.inr rfl) hnot⟩
    | cons file files =>
      refine ⟨?_, fun _ => rfl⟩
      rintro (⟨t, ⟨⟩⟩ | ⟨⟨⟩⟩)

/-! ### The report -/

/-- The report follows from the identity, if the files have names. -/
theorem Loads.buildReport (h : Loads root scan) (hnames : settings.Names scan) :
    ∃ finish : Identity → Report, ∀ context strict,
      scan.buildReport settings context strict =
        (Identity.establish strict scan settings context).map finish := by
  obtain ⟨⟨findings, ignored⟩, hwire⟩ := h.wireFindings
  obtain ⟨dataTypes, components, errors, hdataflow, -⟩ := h.dataflow
  obtain ⟨files, hfiles, -⟩ := h.files
  obtain ⟨named, hnamed⟩ := (h.named hfiles).1 hnames
  refine ⟨fun identity => ⟨identity, findings, ignored, dataTypes, components, errors, named⟩,
    fun context strict => ?_⟩
  unfold ScanData.buildReport
  cases Identity.establish strict scan settings context with
  | error failure => rfl
  | ok identity =>
    simp only [ok_bind, hwire, mapError_of_ok, hfiles, listPart, hnamed, hdataflow, dataflowRecord,
      Report.assemble, FindingGroups.findingsPart_asValue, map_of_ok]
    rfl

theorem Loads.buildReport_unnamed (h : Loads root scan) (hnames : ¬ settings.Names scan)
    {identity : Identity}
    (hidentity : Identity.establish strict scan settings context = .ok identity) :
    scan.buildReport settings context strict = .error .unnamed := by
  obtain ⟨wire, hwire⟩ := h.wireFindings
  obtain ⟨files, hfiles, -⟩ := h.files
  unfold ScanData.buildReport
  simp only [hidentity, ok_bind, hwire, mapError_of_ok, hfiles, listPart,
    (h.named hfiles).2 hnames]
  rfl

theorem assembleReport_error : scan.assembleReport settings context strict = .error failure ↔
    scan.buildReport settings context strict = .error failure := by
  simp only [assembleReport, bind_error, pure_ne_error, and_false, exists_false, or_false]

end ScanData

namespace Identity

variable {scan : ScanData} {settings : Settings} {context : Option Repository} {languages : Members}

theorem establish_true : establish true scan settings context = full scan settings context := by
  unfold establish
  split
  · next hfull => rw [hfull, if_pos rfl]
  · rfl

/-- Without a repository there is still a target and its languages. -/
theorem establish_false (hlanguages : scan.foundLanguages.toMembers = .ok languages) :
    ∃ identity, establish false scan settings context = .ok identity := by
  have hdegraded : ∃ identity, degraded scan settings = .ok identity := by
    rw [degraded, hlanguages]
    exact ⟨_, rfl⟩
  unfold establish
  split
  · exact hdegraded
  · next hother =>
    rcases exists_ok_or_error (full scan settings context) with hfull | ⟨failure, hfull⟩
    · exact hfull
    · rcases full_error hlanguages hfull with rfl | ⟨missing, rfl⟩
      · exact absurd hfull (hother _)
      · exact absurd hfull (hother _)

/-- An identity fails to be established if it is required and the full one is not to be had. -/
theorem establish_error {required : Bool} {failure : Failure}
    (hlanguages : scan.foundLanguages.toMembers = .ok languages) :
    establish required scan settings context = .error failure ↔
      required = true ∧ full scan settings context = .error failure := by
  cases required with
  | true => rw [establish_true, and_iff_right rfl]
  | false =>
    obtain ⟨identity, hidentity⟩ : ∃ identity, establish false scan settings context =
      .ok identity := establish_false hlanguages
    rw [hidentity]
    exact ⟨nofun, by rintro ⟨⟨⟩, -⟩⟩

end Identity

namespace ScanData

variable {root : Members} {scan : ScanData} {settings : Settings} {context : Option Repository}
  {strict : Bool} {failure : Failure}

/-- What is left that can keep a report from being assembled: the identity, and then a name. -/
theorem Loads.assembleReport_error (h : Loads root scan) :
    scan.assembleReport settings context strict = .error failure ↔
      (strict = true ∧ Identity.full scan settings context = .error failure) ∨
        (∃ identity, Identity.establish strict scan settings context = .ok identity) ∧
          ¬ settings.Names scan ∧ failure = .unnamed := by
  obtain ⟨languages, hlanguages⟩ := h.languages
  rw [ScanData.assembleReport_error, ← Identity.establish_error hlanguages]
  rcases exists_ok_or_error (Identity.establish strict scan settings context) with
    ⟨identity, hidentity⟩ | ⟨problem, hproblem⟩
  · by_cases hnames : settings.Names scan
    · obtain ⟨finish, hbuild⟩ := h.buildReport hnames
      rw [hbuild, hidentity]
      exact ⟨nofun, by rintro (⟨⟨⟩⟩ | ⟨-, hnot, -⟩); exact absurd hnames hnot⟩
    · rw [h.buildReport_unnamed hnames hidentity, hidentity]
      constructor
      · rintro ⟨⟩
        exact .inr ⟨⟨identity, rfl⟩, hnames, rfl⟩
      · rintro (⟨⟨⟩⟩ | ⟨-, -, rfl⟩)
        rfl
  · rw [hproblem]
    have hbuild : scan.buildReport settings context strict = .error problem :=
      bind_error.2 (.inl hproblem)
    rw [hbuild]
    constructor
    · rintro ⟨⟩
      exact .inl rfl
    · rintro (⟨⟨⟩⟩ | ⟨⟨identity, ⟨⟩⟩, -⟩)
      rfl

end ScanData

/-! ### Packaging -/

namespace TempArea

/-- How packaging goes if the system does not interfere: only a lone surrogate stops it, and the
directory, which is there already, is named. -/
theorem package_none (area : TempArea) {report : Report} (h : report.Plain) :
    ((∃ stop, (area.package none report).1 = .error stop) ↔ report.HoldsSurrogate) ∧
    ∀ stop, (area.package none report).1 = .error stop → ∃ problem, stop =
      .packaging (.writing (area.filePath area.add.1) (.encoding problem)
        (area.directoryPath area.add.1)) (some area.add.1) := by
  rcases exists_ok_or_error report.encoded with ⟨bytes, hbytes⟩ | ⟨error, herror⟩
  · obtain ⟨artifact, hmade, -⟩ := area.package_encoded hbytes
    rw [hmade]
    exact ⟨iff_of_false (by rintro ⟨stop, ⟨⟩⟩) fun hholds => hholds.encoded hbytes, nofun⟩
  · obtain ⟨hholds, problem, rfl⟩ := h.encoded_error herror
    have hstopped : (area.package none report).1 =
        .error (.packaging (.writing (area.filePath area.add.1) (.encoding problem)
          (area.directoryPath area.add.1)) (some area.add.1)) := by
      simp only [package, writeArtifact, PackagingFault.encoded, herror]
      rfl
    rw [hstopped]
    exact ⟨iff_of_true ⟨_, rfl⟩ hholds, by rintro _ ⟨⟩; exact ⟨problem, rfl⟩⟩

end TempArea

/-! ### The main theorem -/

/-- **Main theorem.** For results that were loaded, and a target that names their files, a report is
always assembled unless the identity is required, and then it fails exactly as resolving the identity
does: there is no repository, or fields are missing. No part of the report is ever at fault. Under an
emptied target the first file ends the job. Packaging what was assembled is stopped by a lone
surrogate in the document and by nothing else, and the failure names the directory. -/
theorem loaded_results_suffice {path : Text} {content : Bytes} {scan : ScanData}
    (hload : ScanData.ofFile path content = .ok scan) (settings : Settings)
    (context : Option Repository) :
    (settings.Names scan →
      (∃ report kept, scan.assembleReport settings context false = .ok (report, kept)) ∧
      ∀ failure, scan.assembleReport settings context true = .error failure ↔
        Identity.full scan settings context = .error failure) ∧
    (∀ failure, Identity.full scan settings context = .error failure →
      failure = .report .notARepository ∨ ∃ missing, failure = .report (.incomplete missing)) ∧
    (∀ strict error, scan.assembleReport settings context strict ≠
      .error (.report (.assembly error))) ∧
    (¬ settings.Names scan → ∀ strict identity,
      Identity.establish strict scan settings context = .ok identity →
        scan.assembleReport settings context strict = .error .unnamed) ∧
    ∀ strict report kept, scan.assembleReport settings context strict = .ok (report, kept) →
      ∀ area : TempArea,
        ((∃ stop, (area.package none report).1 = .error stop) ↔ report.HoldsSurrogate) ∧
        ∀ stop, (area.package none report).1 = .error stop → ∃ problem, stop =
          .packaging (.writing (area.filePath area.add.1) (.encoding problem)
            (area.directoryPath area.add.1)) (some area.add.1) := by
  obtain ⟨root, -, -, hloads⟩ := ScanData.ofFile_ok hload
  obtain ⟨languages, hlanguages⟩ := hloads.languages
  refine ⟨fun hnames => ⟨?_, fun failure => ?_⟩, fun failure => Identity.full_error hlanguages,
    fun strict error hassemble => ?_, fun hnames strict identity hidentity => ?_,
    fun strict report kept hassemble area =>
      area.package_none (Report.Obtained.assembled hload hassemble).plain⟩
  · rcases exists_ok_or_error (scan.assembleReport settings context false) with
      ⟨⟨report, kept⟩, hassemble⟩ | ⟨failure, hfailure⟩
    · exact ⟨report, kept, hassemble⟩
    · rcases hloads.assembleReport_error.1 hfailure with ⟨⟨⟩, -⟩ | ⟨-, hnot, -⟩
      exact absurd hnames hnot
  · rw [hloads.assembleReport_error]
    constructor
    · rintro (⟨-, hfull⟩ | ⟨-, hnot, -⟩)
      · exact hfull
      · exact absurd hnames hnot
    · exact fun hfull => .inl ⟨rfl, hfull⟩
  · rcases hloads.assembleReport_error.1 hassemble with ⟨-, hfull⟩ | ⟨-, -, ⟨⟩⟩
    rcases Identity.full_error hlanguages hfull with ⟨⟨⟩⟩ | ⟨missing, ⟨⟩⟩
  · exact hloads.assembleReport_error.2 (.inr ⟨⟨identity, hidentity⟩, hnames, rfl⟩)

/-- Scan results with one file, whose name is half of a surrogate pair. -/
def surrogateFile : Bytes :=
  "\x7b\"files\": [\"\\ud800\"]\x7d".toList.map fun c => .ofNat c.toNat

theorem surrogateFile_reported :
    ∃ scan report kept, ScanData.ofFile "scan.json" surrogateFile = .ok scan ∧
      scan.assembleReport ⟨.value ".", .value []⟩ none false = .ok (report, kept) ∧
      report.HoldsSurrogate := by
  obtain ⟨scan, report, kept, hload, hassemble⟩ :=
    Report.reportOfFile_ok surrogateFile ⟨.value ".", .value []⟩ (by decide +kernel)
  have hreport : Report.reportOfFile surrogateFile ⟨.value ".", .value []⟩ = .ok (report, kept) :=
    bind_ok.2 ⟨scan, hload, hassemble⟩
  refine ⟨scan, report, kept, hload, hassemble, ?_⟩
  obtain ⟨failure, hfails⟩ := error_of_toBool
    (x := do
      let result ← Report.reportOfFile surrogateFile ⟨.value ".", .value []⟩
      result.1.encoded.mapError Failure.ofDocument) (by decide +kernel)
  rw [hreport, ok_bind] at hfails
  obtain ⟨error, herror, -⟩ := mapError_error.1 hfails
  exact ((Report.Obtained.assembled hload hassemble).plain.encoded_error herror).1

/-- Without a repository the file gives a report, unless the identity is required, and the report
cannot be packaged. -/
theorem sampleSurrogate_suffices :
    ∃ scan report kept stop, ScanData.ofFile "scan.json" surrogateFile = .ok scan ∧
      scan.assembleReport ⟨.value ".", .value []⟩ none false = .ok (report, kept) ∧
      scan.assembleReport ⟨.value ".", .value []⟩ none true = .error (.report .notARepository) ∧
      report.HoldsSurrogate ∧ (sampleStart.area.package none report).1 = .error stop ∧
      ∃ problem, stop = .packaging (.writing "/tmp/reports0/security-0.json.gz" (.encoding problem)
        "/tmp/reports0") (some 0) := by
  obtain ⟨scan, report, kept, hload, hassemble, hholds⟩ := surrogateFile_reported
  obtain ⟨hnamed, -, -, -, hpackage⟩ :=
    loaded_results_suffice hload ⟨.value ".", .value []⟩ none
  obtain ⟨-, hrequired⟩ := hnamed (.inl ⟨_, rfl⟩)
  obtain ⟨hiff, hstop⟩ := hpackage false report kept hassemble sampleStart.area
  obtain ⟨stop, hstopped⟩ := hiff.2 hholds
  exact ⟨scan, report, kept, stop, hload, hassemble, (hrequired _).2 rfl, hholds, hstopped,
    hstop stop hstopped⟩

/-- Scan results with one file. -/
def namedFile : Bytes := "\x7b\"files\": [\"a\"]\x7d".toList.map fun c => .ofNat c.toNat

/-- With an emptied target no report comes of it, although no identity is required. -/
theorem emptiedTarget_not_sufficient :
    ∃ scan, ScanData.ofFile "scan.json" namedFile = .ok scan ∧
      scan.assembleReport ⟨.emptied, .value []⟩ none false = .error .unnamed := by
  obtain ⟨scan, hload⟩ := ok_of_toBool (x := ScanData.ofFile "scan.json" namedFile)
    (by decide +kernel)
  obtain ⟨failure, hfails⟩ := error_of_toBool
    (x := Report.reportOfFile namedFile ⟨.emptied, .value []⟩) (by decide +kernel)
  rw [Report.reportOfFile, hload, ok_bind] at hfails
  obtain ⟨root, -, -, hloads⟩ := ScanData.ofFile_ok hload
  rcases hloads.assembleReport_error.1 hfails with ⟨⟨⟩, -⟩ | ⟨-, -, rfl⟩
  exact ⟨scan, hload, hfails⟩

end ReportDelivery
