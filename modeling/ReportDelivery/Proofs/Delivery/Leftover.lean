import ReportDelivery.Proofs.Delivery.Directories

/-! Failures to package that are announced, and the two that are not.

Whoever asks for a package removes its directory, and learns from the package or from the error
which one it is. Assembling a report asks of a finding only that it is in wire form, so it may be
made of anything, and what cannot write itself stops the writing of the file. So does a document
that is nested too deep for the printer. No error tells about the directory then.
`packaging_announced` says that these are the only ways for a directory to be left over, and exactly
when they are taken. -/
namespace ReportDelivery

/-! ### Packaging -/

/-- Any report is one that is assembled: nobody looks at what its findings are made of. -/
theorem Report.assemble_parts (report : Report) :
    Report.assemble report.identity report.findings.asValue report.ignored.asValue
      ⟨.list report.dataTypes, .list report.components, .list report.errors⟩
      (.list report.files) = .ok report := by
  simp only [assemble, FindingGroups.findingsPart_asValue, listPart]
  rfl

/-- Whether packaging gets to write the file. -/
def reachesWriting : Option PackagingFault → Bool
  | some (.makeDirectory _) | some (.makeFile _) => false
  | _ => true

/-- The directory is made, the file is begun, and a finding cannot write itself. -/
structure Stuck (fault : Option PackagingFault) (report : Report) : Prop where
  reaches : reachesWriting fault = true
  unwritable : ¬ report.WritesItself

/-- Why a file that was begun is given up. -/
inductive StopsWriting (fault : Option PackagingFault) (report : Report) : WriteFault → Prop
  | printing {error : Json.PrintError} (hencoded : report.encoded = .error (.unprintable error)) :
      StopsWriting fault report (.printing error)
  | encoding {error : Utf8.EncodeError}
      (hencoded : report.encoded = .error (.unencodable error)) :
      StopsWriting fault report (.encoding error)
  | system {message : Text} (hfault : fault = some (.write message)) :
      StopsWriting fault report (.system (.other message))

namespace TempArea

variable {area : TempArea} {fault : Option PackagingFault} {report : Report}

/-- The ways packaging is announced to go. Every error but the first tells which directory was made,
in its text and by its number, and the package is inside that directory. -/
inductive Announces (area : TempArea) (fault : Option PackagingFault) (report : Report) :
    Except PackagingStop Artifact → TempArea → Prop
  | noDirectory {message : Text} (hfault : fault = some (.makeDirectory message)) :
      Announces area fault report (.error (.packaging (.directory (.other message)) none)) area
  | noFile {message : Text} (hfault : fault = some (.makeFile message)) :
      Announces area fault report
        (.error (.packaging (.file (.other message) (area.directoryPath area.made))
          (some area.made))) area.add.2
  | notWritten {cause : WriteFault} (hreaches : reachesWriting fault = true)
      (hcause : StopsWriting fault report cause) :
      Announces area fault report
        (.error (.packaging (.writing (area.filePath area.made) cause
          (area.directoryPath area.made)) (some area.made))) area.add.2
  | made {content : Option Bytes} (hreaches : reachesWriting fault = true)
      (hpacks : Packs fault report ⟨area.made, area.filePath area.made, content⟩) :
      Announces area fault report (.ok ⟨area.made, area.filePath area.made, content⟩) area.add.2

theorem package_of_reaches (h : reachesWriting fault = true) (report : Report) :
    area.package fault report =
      (area.add.2.writeArtifact area.add.1 fault report, area.add.2) := by
  cases fault with
  | none => rfl
  | some fault =>
    cases fault with
    | makeDirectory | makeFile => cases h
    | shallow | write | loseFile => rfl

theorem package_of_stuck (area : TempArea) (h : Stuck fault report) :
    ∃ error, error.IsUnwritable ∧
      area.package fault report = (.error (.unwritable error), area.add.2) := by
  obtain ⟨hreaches, hunwritable⟩ := h
  obtain ⟨error, hcause, hencoded⟩ := Report.encoded_of_not_writesItself hunwritable
  refine ⟨error, hcause, ?_⟩
  have hpackaged : PackagingFault.encoded fault report = .error (.unwritable error) := by
    rcases report.packaged_cases fault with ⟨hsame, -⟩ | ⟨-, room, v, -, hvalue, -⟩
    · rw [hsame, hencoded]
    · have hjudges := report.judges_toValue
      rw [hvalue] at hjudges
      cases hjudges with
      | ok _ hwrites => exact absurd hwrites hunwritable
  rw [package_of_reaches hreaches]
  unfold writeArtifact
  split
  · cases hreaches
  · rw [hpackaged]

theorem announces_of_writesItself (hreaches : reachesWriting fault = true)
    (hwrites : report.WritesItself) (hroom : ¬ report.TooDeep fault) :
    Announces area fault report (area.package fault report).1 (area.package fault report).2 := by
  have hsame : PackagingFault.encoded fault report = report.encoded := by
    rcases report.packaged_cases fault with ⟨hsame, -⟩ | ⟨-, hdeep⟩
    · exact hsame
    · exact absurd hdeep hroom
  rw [package_of_reaches hreaches]
  dsimp only
  unfold writeArtifact
  split
  · cases hreaches
  · rw [hsame]
    split
    · next error hencoded => exact absurd hencoded (hwrites.encoded error)
    · next hencoded => exact absurd hencoded report.encoded_ne_tooDeep
    · next error hencoded => exact .notWritten hreaches (.printing hencoded)
    · next error hencoded => exact .notWritten hreaches (.encoding hencoded)
    · next bytes hbytes =>
      split
      · next message => exact .notWritten rfl (.system rfl)
      · exact .made rfl (.lost _ _ rfl)
      · next hnotWrite hnotLose =>
        exact .made ‹reachesWriting fault = true› (.kept _ _ hnotLose hbytes)

theorem announces_of_not_stuck (area : TempArea) (h : ¬ Stuck fault report)
    (hroom : ¬ report.TooDeep fault) :
    Announces area fault report (area.package fault report).1 (area.package fault report).2 := by
  by_cases hreaches : reachesWriting fault = true
  · have hwrites : report.WritesItself :=
      Classical.byContradiction fun hwrites => h ⟨hreaches, hwrites⟩
    exact announces_of_writesItself hreaches hwrites hroom
  · unfold reachesWriting at hreaches
    split at hreaches
    · exact .noDirectory rfl
    · exact .noFile rfl
    · exact absurd rfl hreaches

/-- The directory is refused in one case, and no other error is without a directory. -/
theorem Announces.directory_iff {result : Except PackagingStop Artifact} {left : TempArea}
    (h : Announces area fault report result left) :
    (∃ error, result = .error (.packaging error none)) ↔
      ∃ message, fault = some (.makeDirectory message) := by
  cases h with
  | noDirectory hfault => exact iff_of_true ⟨_, rfl⟩ ⟨_, hfault⟩
  | noFile hfault => exact iff_of_false nofun (by rw [hfault]; exact nofun)
  | notWritten hreaches | made hreaches =>
    refine iff_of_false nofun ?_
    rintro ⟨message, rfl⟩
    cases hreaches

/-- A package is inside its directory. -/
theorem filePath_inside (area : TempArea) (n : Nat) :
    ∃ name, area.filePath n = area.directoryPath n ++ Text.ofString "/" ++ name := by
  refine ⟨"security-" ++ area.label n ++ ".json.gz", ?_⟩
  simp only [filePath, List.append_assoc]
  rfl

end TempArea

/-! ### Deliveries -/

theorem area_deliverArtifact (client : Client) (verbose : Bool) (report : Report)
    (artifact : Artifact) (s : DeliveryState) :
    (deliverArtifact client verbose report artifact s).2.area =
      s.area.remove artifact.directory := by
  obtain ⟨_, _, _, _, _, hdeliver, -, -, harea, -⟩ :=
    deliverArtifact_spec client verbose report artifact s
  rw [hdeliver, harea]

section
variable (console : Console) (client : Client) (verbose : Bool) {fault : Option PackagingFault}
  {report : Report}

/-- A delivery removes the directory of every package, and of every announced error. -/
theorem deliverReportOn_of_not_stuck (h : ¬ Stuck fault report) (hroom : ¬ report.TooDeep fault)
    (s : DeliveryState) :
    (deliverReportOn console client verbose fault report s).2.area.existing = s.area.existing := by
  have hannounces := s.area.announces_of_not_stuck h hroom
  rw [deliverReportOn_area, deliverReport_def]
  generalize s.area.package fault report = packaged at hannounces
  obtain ⟨result, area⟩ := packaged
  cases hannounces with
  | noDirectory => rfl
  | noFile | notWritten => exact s.area.remove_add
  | @made content =>
    have harea := area_deliverArtifact client verbose report
      ⟨s.area.made, s.area.filePath s.area.made, content⟩ { s with area := s.area.add.2 }
    exact (congrArg TempArea.existing harea).trans s.area.remove_add

/-- The directory is left over, the session's error says nothing, and the failure is not one of a
report. -/
theorem deliverReportOn_of_stuck (h : Stuck fault report) (s : DeliveryState) :
    ∃ error, error.IsUnwritable ∧ deliverReportOn console client verbose fault report s =
      (.error (.coercion error), { s with area := s.area.add.2 }) := by
  obtain ⟨error, hcause, hpackage⟩ := s.area.package_of_stuck h
  refine ⟨error, hcause, ?_⟩
  unfold deliverReportOn
  rw [hpackage]

end

/-! ### The main theorem -/

/-- **Main theorem.** Any report is assembled, and packaging it uses a new directory. It gives a
package inside that directory or fails as announced: without a directory exactly if the system did
not make one, and else with the directory that was made. There are two exceptions. Once the file is
begun, a finding that cannot write itself, and a document that is nested too deep for the printer,
end packaging with an error that names no directory. So deliveries leave the directories as they
were, on every console, except in these cases, in which the new one stays. -/
theorem packaging_announced (area : TempArea) (fault : Option PackagingFault) (report : Report) :
    (∃ findings ignored dataflow files,
      Report.assemble report.identity findings ignored dataflow files = .ok report) ∧
    area.made ∉ area.existing ∧
    area.add.2.existing = area.existing ++ [area.made] ∧
    (∃ name, area.filePath area.made =
      area.directoryPath area.made ++ Text.ofString "/" ++ name) ∧
    (¬ Stuck fault report → ¬ report.TooDeep fault →
      TempArea.Announces area fault report (area.package fault report).1
        (area.package fault report).2 ∧
      ∀ console client verbose s, s.area = area →
        (deliverReportOn console client verbose fault report s).2.area.existing = area.existing) ∧
    (Stuck fault report →
      (∃ error, error.IsUnwritable ∧
        area.package fault report = (.error (.unwritable error), area.add.2)) ∧
      ∀ console client verbose s, s.area = area →
        ∃ error, error.IsUnwritable ∧ deliverReportOn console client verbose fault report s =
          (.error (.coercion error), { s with area := area.add.2 })) ∧
    (report.TooDeep fault →
      area.package fault report = (.error .tooDeep, area.add.2) ∧
      ∀ console client verbose s, s.area = area →
        deliverReportOn console client verbose fault report s =
          (.error (.printing .tooDeep), { s with area := area.add.2 })) ∧
    ((∃ error, (area.package fault report).1 = .error (.packaging error none)) ↔
      ∃ message, fault = some (.makeDirectory message)) := by
  refine ⟨⟨_, _, _, _, report.assemble_parts⟩, ?_, rfl, area.filePath_inside area.made,
    fun h hroom => ⟨?_, ?_⟩, fun h => ⟨?_, ?_⟩, fun h => ⟨?_, ?_⟩, ?_⟩
  · exact fun hold => absurd (area.fresh _ hold) (Nat.lt_irrefl _)
  · exact area.announces_of_not_stuck h hroom
  · rintro console client verbose s rfl
    exact deliverReportOn_of_not_stuck console client verbose h hroom s
  · exact area.package_of_stuck h
  · rintro console client verbose s rfl
    exact deliverReportOn_of_stuck console client verbose h s
  · exact area.package_of_tooDeep h
  · rintro console client verbose s rfl
    exact deliverReportOn_of_tooDeep console client verbose h s
  · by_cases h : Stuck fault report
    · obtain ⟨error, -, hpackage⟩ := area.package_of_stuck h
      rw [hpackage]
      refine iff_of_false nofun ?_
      rintro ⟨message, rfl⟩
      cases h.reaches
    · by_cases hdeep : report.TooDeep fault
      · rw [area.package_of_tooDeep hdeep]
        obtain ⟨room, -, rfl, -⟩ := hdeep
        exact iff_of_false nofun nofun
      · exact (area.announces_of_not_stuck h hdeep).directory_iff

/-! ### Directories that are removed or left over -/

/-- Nothing is wrong with the findings, but a data type is not JSON. -/
def setReport : Report where
  identity := { target := .value "." }
  findings := []
  ignored := []
  dataTypes := [.set []]
  components := []
  errors := []
  files := []

/-- The object should be an ignore record. -/
def strangeReport : Report :=
  { setReport with
    findings := [(.str "high",
      [⟨.finding sampleFinding, sampleFinding.severityMeta, .object []⟩])] }

theorem strangeReport_stuck : Stuck (some .loseFile) strangeReport := by
  refine ⟨rfl, fun hwrites => ?_⟩
  have hwire := hwrites.findings _ (List.mem_singleton.2 rfl) _ (List.mem_singleton.2 rfl)
  cases (Value.writesItself_wire.1 hwire).2 nofun

theorem sampleReports_packaged :
    ¬ Stuck none setReport ∧ ¬ setReport.TooDeep none ∧ Stuck (some .loseFile) strangeReport ∧
      (deliverReportOn .obliging sampleClient true none setReport sampleStart).2.area.existing = [] ∧
      (deliverReportOn .obliging sampleClient true (some .loseFile) strangeReport
        sampleStart).2.area.existing = [0] ∧
      ∃ report, report.TooDeep (some (.shallow 985)) ∧
        (deliverReportOn .obliging sampleClient true (some (.shallow 985)) report
          sampleStart).2.area.existing = [0] := by
  have hset : ¬ Stuck none setReport := fun h =>
    h.unwritable ⟨List.forall_mem_nil _, List.forall_mem_nil _⟩
  have hroom : ¬ setReport.TooDeep none := by
    rintro ⟨room, v, hfault, -⟩
    cases hfault
  obtain ⟨-, -, -, -, hannounced, -⟩ := packaging_announced sampleStart.area none setReport
  obtain ⟨-, -, hadded, -, -, hstuck, -⟩ :=
    packaging_announced sampleStart.area (some .loseFile) strangeReport
  obtain ⟨error, -, hdeliver⟩ :=
    (hstuck strangeReport_stuck).2 .obliging sampleClient true sampleStart rfl
  obtain ⟨report, -, -, hdeep⟩ := sendsTooDeep_deepScan 985
  obtain ⟨-, -, -, -, -, -, htooDeep, -⟩ :=
    packaging_announced sampleStart.area (some (.shallow 985)) report
  refine ⟨hset, hroom, strangeReport_stuck,
    (hannounced hset hroom).2 .obliging sampleClient true sampleStart rfl, ?_, report, hdeep, ?_⟩
  · rw [hdeliver]
    exact hadded
  · rw [(htooDeep hdeep).2 .obliging sampleClient true sampleStart rfl]
    exact hadded

/-- A finding from elsewhere, with an object where an ignore record should be. -/
def strangeScan : ScanData where
  findings := .object [(.str "high", .list [
    .wrapped (.finding sampleFinding) (.object [(.str "ignored_at", .str "2024-01-01")])])]

/-- Its report is assembled. Packaging it is neither a success nor an announced failure, and its
delivery leaves a directory where there was none. -/
theorem strangeFinding_not_announced :
    ∃ report kept s',
      strangeScan.assembleReport sampleSettings (some sampleContext) true = .ok (report, kept) ∧
      (sampleStart.area.package none report).1 =
        .error (.unwritable (.unable "dict" .write)) ∧
      deliverScan sampleClient true sampleSettings (some sampleContext) none
          { sampleStart with scan := strangeScan } =
        (.error (.coercion (.unable "dict" .write)), s') ∧
      sampleStart.area.existing = [] ∧ s'.area.existing = [0] ∧
      s'.sessionError = sampleStart.sessionError ∧ s'.conversation.requests = [] :=
  ⟨_, _, _, rfl, rfl, rfl, rfl, rfl, rfl, rfl⟩

end ReportDelivery
