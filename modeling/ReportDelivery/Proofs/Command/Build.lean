import ReportDelivery.Proofs.Command.Console
import ReportDelivery.Proofs.Command.FileSystem
import ReportDelivery.Proofs.Delivery.Packaging
import ReportDelivery.Proofs.Path.NormalForm
import ReportDelivery.Proofs.Report.Document

/-! Whatever is written can be read back.

A report is written in two places: packaged for delivery, and by a build in the file that its
arguments name. `written_reports_read_back` says that either file gives the report again, through
the reader that belongs to its form. -/
namespace ReportDelivery

/-! ### Outputs -/

/-- The report in an output file: compressed if the name says so. -/
def Report.ofOutput (output : Text) (content : Bytes) : Except Failure Report :=
  if Path.suffix output = ".gz" then Report.ofGzip content else Report.ofFile content

/-- The file is compressed if its name is something and `.gz` (`Path.suffix_endsIn`). -/
theorem World.outputContent_of_gz {stem output : Text} {content : Bytes}
    (hname : Path.IsComponent (stem ++ .char '.' :: "gz")) (hstem : stem ≠ [])
    (houtput : Path.EndsIn (stem ++ .char '.' :: "gz") output) :
    outputContent output content = Gzip.compress content := by
  have hsuffix : Path.suffix output = ".gz" :=
    Path.suffix_endsIn hname hstem (by decide) (by decide) houtput
  rw [outputContent, if_pos hsuffix]

theorem Report.Plain.ofOutput {report : Report} (h : report.Plain) {bytes : Bytes}
    (hbytes : report.encoded = .ok bytes) (output : Text) :
    Report.ofOutput output (World.outputContent output bytes) = .ok report.settled := by
  unfold Report.ofOutput World.outputContent
  split
  · exact h.ofGzip hbytes
  · exact h.ofFile hbytes

namespace World

variable {world : World} {arguments : Arguments} {build : BuildArguments}

theorem writeReport_ok {verbose : Bool} {output : Setting Text} {report : Report}
    (h : (world.writeReport verbose output report).exit = .ok 0) :
    ∃ path bytes, world.pathOf output = .ok path ∧ report.encoded = .ok bytes ∧
      (world.writeReport verbose output report).files.read path =
        .ok (outputContent path bytes) := by
  rw [writeReport_def] at h ⊢
  split at h
  · cases h
  · cases h
  · next path bytes hpath hbytes =>
    split at h
    · next files hwrite =>
      exact ⟨path, bytes, hpath, hbytes, FileSystem.read_write hwrite⟩
    · rw [refuse_exit] at h
      cases h
    · cases h

/-- A build that succeeds has loaded its inputs, assembled the report and written it. -/
theorem runBuild_ok (h : (world.runBuild arguments build).exit = .ok 0) :
    ∃ scan context report kept, world.loadInputs arguments = .ok (scan, context) ∧
      scan.assembleReport arguments.settings context build.strict = .ok (report, kept) ∧
      world.runBuild arguments build =
        world.writeReport arguments.verbose build.output report := by
  rw [runBuild_def] at h ⊢
  split at h
  · split at h
    · rw [refuse_exit] at h
      cases h
    · cases h
  · next scan context hinputs =>
    split at h
    · rw [refuse_exit] at h
      cases h
    · cases h
    · next report kept hassemble =>
      exact ⟨scan, context, report, kept, hinputs, hassemble, rfl⟩

theorem loadInputs_ok {scan : ScanData} {context : Option Repository}
    (h : world.loadInputs arguments = .ok (scan, context)) :
    ∃ path content, ScanData.ofFile path content = .ok scan := by
  obtain ⟨scan', hscan, h⟩ := bind_ok.1 h
  obtain ⟨context', -, hresult⟩ := bind_ok.1 h
  obtain ⟨rfl, -⟩ := Prod.mk.inj (Except.ok.inj hresult)
  obtain ⟨⟨path, content⟩, -, hload⟩ := bind_ok.1 hscan
  exact ⟨path, content, hload⟩

/-- A build that succeeded: it assembled `report` from its inputs, and at `output`, where it was to
write, there is a file with `content`. -/
structure Built (world : World) (arguments : Arguments) (build : BuildArguments) (report : Report)
    (output : Text) (content : Bytes) : Prop where
  assembled : ∃ scan context kept, world.loadInputs arguments = .ok (scan, context) ∧
    scan.assembleReport arguments.settings context build.strict = .ok (report, kept)
  named : world.pathOf build.output = .ok output
  written : (world.runBuild arguments build).files.read output = .ok content

theorem Built.obtained {report : Report} {output : Text} {content : Bytes}
    (h : world.Built arguments build report output content) : report.Obtained := by
  obtain ⟨scan, context, kept, hinputs, hassemble⟩ := h.assembled
  obtain ⟨path, content, hload⟩ := loadInputs_ok hinputs
  exact .assembled hload hassemble

/-- The file that a successful build leaves is read as the report, with texts for settings that
were emptied. -/
theorem runBuild_read_back (h : (world.runBuild arguments build).exit = .ok 0) :
    ∃ report output content, world.Built arguments build report output content ∧
      Report.ofOutput output content = .ok report.settled := by
  obtain ⟨scan, context, report, kept, hinputs, hassemble, hrun⟩ := runBuild_ok h
  rw [hrun] at h
  obtain ⟨output, bytes, hpath, hbytes, hfile⟩ := writeReport_ok h
  have hbuilt : world.Built arguments build report output (outputContent output bytes) :=
    ⟨⟨scan, context, kept, hinputs, hassemble⟩, hpath, hrun ▸ hfile⟩
  exact ⟨report, output, _, hbuilt, hbuilt.obtained.plain.ofOutput hbytes output⟩

end World

/-! ### The main theorem -/

/-- **Main theorem.** No document holds a control character, so reading one as text with line ends
of any kind changes nothing. The file that packaging leaves is read as the report, unless the file
disappeared. The file that a successful build leaves is read as the report that the build assembled.
In both cases a setting that was emptied is read as the empty text, and only then is the report
another one. -/
theorem written_reports_read_back :
    (∀ report : Report, report.Obtained →
      (∀ text, report.document = .ok text → text.Visible ∧ text.unifyLineEnds = text) ∧
      (∀ (area : TempArea) fault artifact, (area.package fault report).1 = .ok artifact →
        (artifact.content = none ∧ fault = some .loseFile) ∨
        ∃ content, artifact.content = some content ∧
          Report.ofGzip content = .ok report.settled) ∧
      (report.settled = report ↔ report.TextSettings)) ∧
    ∀ (world : World) arguments build, (world.runBuild arguments build).exit = .ok 0 →
      ∃ report output content, world.Built arguments build report output content ∧
        Report.ofOutput output content = .ok report.settled ∧
        (report.settled = report ↔ report.TextSettings) := by
  refine ⟨fun report hreport => ⟨?_, ?_, report.settled_eq_iff⟩, ?_⟩
  · intro text hdocument
    exact ⟨Report.visible_document hdocument, Report.unifyLineEnds_document hdocument⟩
  · intro area fault artifact hpackage
    cases TempArea.package_ok hpackage with
    | lost _ _ hfault => exact .inl ⟨rfl, hfault⟩
    | kept _ _ _ hbytes => exact .inr ⟨_, rfl, hreport.plain.ofGzip hbytes⟩
  · intro world arguments build hexit
    obtain ⟨report, output, content, hbuilt, hread⟩ := World.runBuild_read_back hexit
    exact ⟨report, output, content, hbuilt, hread, report.settled_eq_iff⟩

namespace World

/-- Before the first temporary directory is made, every number is new. -/
theorem fresh_nil : ∀ n ∈ ([] : List Nat), n < 0 := List.forall_mem_nil _

/-- A working directory with one file of scan results. -/
def sample (content : Bytes) : World where
  files := { nodes := [([Path.bytes "scan.json"], .file content)] }
  environ := []
  homes := { own := "/root" }
  area := { root := "/tmp", label := Text.ofNat, fresh := fresh_nil }
  replies := []

def sampleBuild : BuildArguments := ⟨.value "out/report.json.gz", false⟩

def sampleArguments (target : Setting Text) : Arguments where
  reportData := .value "scan.json"
  target
  gitContext := none
  rulesVersion := .value []
  verbose := false
  verb := .build sampleBuild

theorem readInput_sample (content : Bytes) :
    (sample content).readInput (.value "scan.json") = .ok ("scan.json", content) := by
  rfl

theorem loadInputs_sample {content : Bytes} {scan : ScanData} (target : Setting Text)
    (h : ScanData.ofFile "scan.json" content = .ok scan) :
    (sample content).loadInputs (sampleArguments target) = .ok (scan, none) :=
  bind_ok.2 ⟨scan, bind_ok.2 ⟨_, readInput_sample content, h⟩, rfl⟩

theorem exit_of_toOption {outcome : Outcome} {code : Nat} (h : outcome.exit.toOption = some code) :
    outcome.exit = .ok code := by
  cases hexit : outcome.exit with
  | error failure =>
    rw [hexit] at h
    cases h
  | ok code =>
    rw [hexit] at h
    cases h
    rfl

end World

theorem sampleReport_read_back :
    ∃ report output content artifact packed,
      (World.sample Report.sampleFile).Built (World.sampleArguments (.value "."))
        World.sampleBuild report output content ∧
      Report.ofOutput output content = .ok report ∧
      ((World.sample Report.sampleFile).area.package none report).1 = .ok artifact ∧
      artifact.content = some packed ∧ Report.ofGzip packed = .ok report := by
  have hexit : ((World.sample Report.sampleFile).runBuild (World.sampleArguments (.value "."))
      World.sampleBuild).exit = .ok 0 := World.exit_of_toOption (by decide +kernel)
  obtain ⟨hwritten, hbuild⟩ := written_reports_read_back
  obtain ⟨report, output, content, hbuilt, hread, hsame⟩ := hbuild _ _ _ hexit
  obtain ⟨scan, context, kept, hinputs, hassemble⟩ := hbuilt.assembled
  have htexts : report.TextSettings :=
    Report.textSettings_of_builds (ScanData.assembleReport_ok hassemble) ⟨_, rfl⟩ ⟨_, rfl⟩
  rw [hsame.2 htexts] at hread
  -- The build encoded the same report, so packaging it gives a file as well.
  obtain ⟨scan', context', report', kept', hinputs', hassemble', hrun⟩ := World.runBuild_ok hexit
  obtain ⟨rfl, rfl⟩ := Prod.mk.inj (Except.ok.inj (hinputs.symm.trans hinputs'))
  obtain ⟨rfl, -⟩ := Prod.mk.inj (Except.ok.inj (hassemble.symm.trans hassemble'))
  rw [hrun] at hexit
  obtain ⟨_, bytes, -, hbytes, -⟩ := World.writeReport_ok hexit
  have hpackage : ((World.sample Report.sampleFile).area.package none report).1 =
      .ok ⟨0, "/tmp/reports0/security-0.json.gz", some (Gzip.compress bytes)⟩ := by
    simp only [TempArea.package, TempArea.writeArtifact, PackagingFault.encoded, hbytes]
    rfl
  obtain ⟨-, hartifact, -⟩ := hwritten report hbuilt.obtained
  rcases hartifact _ _ _ hpackage with ⟨hlost, -⟩ | ⟨packed, hcontent, hback⟩
  · cases hlost
  · rw [hsame.2 htexts] at hback
    exact ⟨report, output, content, _, packed, hbuilt, hread, hpackage, hcontent, hback⟩

/-- A build with an emptied target writes a report that is read as another one. -/
theorem emptiedTarget_not_read_back :
    ∃ report output content back,
      ((World.sample [0x7b, 0x7d]).runBuild (World.sampleArguments .emptied)
        World.sampleBuild).exit = .ok 0 ∧
      (World.sample [0x7b, 0x7d]).Built (World.sampleArguments .emptied) World.sampleBuild
        report output content ∧
      Report.ofOutput output content = .ok back ∧ back ≠ report := by
  have hexit : ((World.sample [0x7b, 0x7d]).runBuild (World.sampleArguments .emptied)
      World.sampleBuild).exit = .ok 0 := World.exit_of_toOption (by decide +kernel)
  obtain ⟨report, output, content, hbuilt, hread⟩ := World.runBuild_read_back hexit
  refine ⟨report, output, content, report.settled, hexit, hbuilt, hread, ?_⟩
  intro hsame
  obtain ⟨scan, context, kept, -, hassemble⟩ := hbuilt.assembled
  obtain ⟨t, ht⟩ := (report.settled_eq_iff.1 hsame).1
  rw [(ScanData.assembleReport_ok hassemble).identity.target] at ht
  cases ht

end ReportDelivery
