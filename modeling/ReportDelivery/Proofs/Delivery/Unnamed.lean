import ReportDelivery.Proofs.Report.Degradation

/-! Problems with assembling a report, and the one that is not reported.

A scanner hands in findings, dataflow and files that may be anything. `assembly_problems_reported`:
either there is a report, or a problem that a delivery puts into the session's error. Naming the
files is the exception. Nothing guards it, and a file that is no text has no name. The theorem says
exactly when assembling gets to such a file. -/
namespace ReportDelivery

/-! ### Naming files -/

/-- The file has no name under the target. -/
def Unnamable (target : Text) (file : Value) : Prop :=
  Path.withoutDotSlash target ≠ [] ∧ ∀ name, file ≠ .str name

/-- What naming such a file fails with. -/
def Failure.unnamedFile (file : Value) : Failure := .coercion (.unable file.typeName .compareStart)

section
variable {target : Text} {file : Value}

theorem reportFile_of_not_text (h : ∀ t, file ≠ .str t) :
    reportFile (.value target) file =
      if (Path.withoutDotSlash target).isEmpty then .ok file
      else .error (.unable file.typeName .compareStart) := by
  cases file with
  | str t => exact absurd rfl (h t)
  | _ => rfl

theorem reportFile_of_not_unnamable (h : ¬ Unnamable target file) :
    ∃ named, reportFile (.value target) file = .ok named := by
  by_cases htext : ∀ t, file ≠ .str t
  · have hempty : Path.withoutDotSlash target = [] := by
      by_contra hbase
      exact h ⟨hbase, htext⟩
    exact ⟨file, by rw [reportFile_of_not_text htext, hempty]; rfl⟩
  · push Not at htext
    obtain ⟨t, rfl⟩ := htext
    exact ⟨_, rfl⟩

theorem reportFile_of_unnamable (h : Unnamable target file) :
    reportFile (.value target) file = .error (.unable file.typeName .compareStart) := by
  obtain ⟨hbase, htext⟩ := h
  rw [reportFile_of_not_text htext, if_neg (by simpa using hbase)]

end

/-! ### Assembling -/

namespace ScanData

/-- The results have languages that are a mapping, and a record of dataflow. What the record, the
findings and the files hold may be anything. -/
structure Declared (scan : ScanData) : Prop where
  languages : ∃ languages, scan.foundLanguages = .object languages
  dataflow : ∃ dataflow, scan.dataflow = .dataflow dataflow

/-- Assembling gets to a file without a name: there is an identity, all findings have a wire form,
the files are a list, and the ones before it have names. -/
structure GetsTo (scan : ScanData) (settings : Settings) (target : Text)
    (context : Option Repository) (strict : Bool) (file : Value) : Prop where
  identity : ∃ identity, Identity.establish strict scan settings context = .ok identity
  wire : ∃ wire, scan.wireFindings = .ok wire
  files : ∃ before after, scan.files = .list (before ++ file :: after) ∧
    ∀ earlier ∈ before, ¬ Unnamable target earlier
  unnamable : Unnamable target file

section
variable {scan : ScanData} {settings : Settings} {target : Text} {context : Option Repository}
  {strict : Bool} {file : Value} {files : List Value} {failure : Failure}

theorem name_files_error {error : CoercionError} :
    files.mapM (reportFile (.value target)) = .error error ↔
      StopsAt (fun file => ¬ Unnamable target file)
        (fun file => Unnamable target file ∧ .unable file.typeName .compareStart = error)
        files := by
  refine mapM_error.trans (stopsAt_congr (fun file => ?_) fun file => ?_)
  · by_cases h : Unnamable target file
    · rw [reportFile_of_unnamable h]
      exact iff_of_false nofun fun hnot => hnot h
    · exact iff_of_true (reportFile_of_not_unnamable h) h
  · by_cases h : Unnamable target file
    · rw [reportFile_of_unnamable h, and_iff_right h, Except.error.injEq]
    · obtain ⟨named, hnamed⟩ := reportFile_of_not_unnamable h
      rw [hnamed]
      exact iff_of_false nofun fun hboth => h hboth.1

theorem files_of_listPart (h : listPart "files" scan.files = .ok files) (hsome : files ≠ []) :
    scan.files = .list files := by
  unfold listPart at h
  split at h
  · next hfiles =>
    cases h
    exact hfiles
  · split at h
    · cases h
    · cases h
      exact absurd rfl hsome

theorem GetsTo.buildReport (htarget : settings.target = .value target)
    (h : GetsTo scan settings target context strict file) :
    scan.buildReport settings context strict = .error (.unnamedFile file) := by
  obtain ⟨⟨identity, hidentity⟩, ⟨wire, hwire⟩, ⟨before, after, hfiles, hbefore⟩, hfile⟩ := h
  have hnames : (before ++ file :: after).mapM (reportFile (.value target)) =
      .error (.unable file.typeName .compareStart) :=
    name_files_error.2 ⟨before, file, after, rfl, hbefore, hfile, rfl⟩
  rw [buildReport_eq, hidentity, ok_bind, reportUnder, hwire, hfiles, htarget]
  simp only [mapError_of_ok, ok_bind, listPart, hnames]
  rfl

/-- Whatever else goes wrong is a problem of the report. -/
theorem Declared.buildReport_error (h : Declared scan) (htarget : settings.target = .value target)
    (hfails : scan.buildReport settings context strict = .error failure) :
    (∃ error, failure = .report error) ∨
      ∃ file, GetsTo scan settings target context strict file := by
  obtain ⟨⟨languages, hlanguages⟩, ⟨dataflow, hdataflow⟩⟩ := h
  have hmembers : scan.foundLanguages.toMembers = .ok languages := by rw [hlanguages]; rfl
  rw [buildReport_eq] at hfails
  rcases bind_error.1 hfails with hidentity | ⟨identity, hidentity, hfails⟩
  · obtain ⟨-, hfull⟩ := (Identity.establish_error hmembers).1 hidentity
    rcases Identity.full_error hmembers hfull with rfl | ⟨missing, rfl⟩ <;> exact .inl ⟨_, rfl⟩
  rcases bind_error.1 hfails with hwire | ⟨wire, hwire, hfails⟩
  · obtain ⟨cause, -, rfl⟩ := mapError_error.1 hwire
    exact .inl ⟨_, rfl⟩
  rcases bind_error.1 hfails with hfiles | ⟨files, hfiles, hfails⟩
  · obtain ⟨cause, hcause, rfl⟩ := mapError_error.1 hfiles
    cases listPart_error hcause
    exact .inl ⟨_, rfl⟩
  rcases bind_error.1 hfails with hnames | ⟨named, -, hfails⟩
  · obtain ⟨cause, hcause, -⟩ := mapError_error.1 hnames
    rw [htarget] at hcause
    obtain ⟨before, file, after, rfl, hbefore, hfile, -⟩ := name_files_error.1 hcause
    have hlist : scan.files = .list (before ++ file :: after) :=
      files_of_listPart (mapError_ok.1 hfiles) (by simp)
    exact .inr ⟨file, ⟨identity, hidentity⟩, ⟨wire, mapError_ok.1 hwire⟩,
      ⟨before, after, hlist, hbefore⟩, hfile⟩
  · rcases bind_error.1 hfails with hflow | ⟨record, -, hassemble⟩
    · rw [hdataflow] at hflow
      cases hflow
    · obtain ⟨cause, hcause, rfl⟩ := mapError_error.1 hassemble
      obtain ⟨field, typeName, rfl⟩ := assemble_asValue_error hcause
      exact .inl ⟨_, rfl⟩

theorem GetsTo.assembleReport (htarget : settings.target = .value target)
    (h : GetsTo scan settings target context strict file) :
    scan.assembleReport settings context strict = .error (.unnamedFile file) :=
  assembleReport_error.2 (h.buildReport htarget)

end
end ScanData

/-! ### The main theorem -/

/-- **Main theorem.** Let the results be declared and the target a text. Where assembling gets to a
file without a name, it fails with a problem that is none of a report, and a delivery that needs the
report lets the problem out and changes nothing. Otherwise there is a report or a problem of one,
whatever the findings, the dataflow and the files hold, and the delivery answers no and keeps the
problem as the session's error. -/
theorem assembly_problems_reported {scan : ScanData} (hdeclared : scan.Declared)
    {settings : Settings} {target : Text} (htarget : settings.target = .value target)
    (context : Option Repository) :
    (∀ strict,
      (∀ file, scan.GetsTo settings target context strict file →
        scan.assembleReport settings context strict = .error (.unnamedFile file)) ∧
      ((∀ file, ¬ scan.GetsTo settings target context strict file) →
        (∃ report kept, scan.assembleReport settings context strict = .ok (report, kept)) ∨
          ∃ error, scan.assembleReport settings context strict = .error (.report error))) ∧
    ∀ client verbose fault (s : DeliveryState), s.scan = scan → scan.report = none →
      (∀ file, scan.GetsTo settings target context true file →
        deliverScan client verbose settings context fault s = (.error (.unnamedFile file), s)) ∧
      ∀ error, scan.assembleReport settings context true = .error (.report error) →
        deliverScan client verbose settings context fault s =
          (.ok false, (s.debug verbose (identityMessage error)).fail (identityMessage error)) := by
  refine ⟨fun strict => ⟨fun file hfile => hfile.assembleReport htarget, fun hnone => ?_⟩, ?_⟩
  · rcases exists_ok_or_error (scan.assembleReport settings context strict) with
      ⟨⟨report, kept⟩, hok⟩ | ⟨failure, hfails⟩
    · exact .inl ⟨report, kept, hok⟩
    · rcases hdeclared.buildReport_error htarget (ScanData.assembleReport_error.1 hfails) with
        ⟨error, rfl⟩ | ⟨file, hfile⟩
      · exact .inr ⟨error, hfails⟩
      · exact absurd hfile (hnone file)
  · rintro client verbose fault s rfl hheld
    have hsend := ScanData.reportToSend_of_none hheld settings context
    refine ⟨fun file hfile => ?_, fun error herror => ?_⟩
    · rw [deliverScan_def, hsend, hfile.assembleReport htarget]
      rfl
    · rw [deliverScan_def, hsend, herror]

/-- A number among the files. -/
def numberedScan : ScanData := { oneFileScan with files := .list [.str "./a.go", .int 1] }

/-- The file before the number has a name, so assembling gets to the number. It does not where the
findings already have no wire form. Then a delivery answers no and says why. -/
theorem sampleProblems_reported :
    numberedScan.Declared ∧
      numberedScan.GetsTo sampleSettings "." (some sampleContext) true (.int 1) ∧
      deliverScan sampleClient true sampleSettings (some sampleContext) none
          { sampleStart with scan := numberedScan } =
        (.error (.unnamedFile (.int 1)), { sampleStart with scan := numberedScan }) ∧
      ∃ s', deliverScan sampleClient true sampleSettings (some sampleContext) none
          { sampleStart with scan := { numberedScan with findings := .list [.int 1] } } =
        (.ok false, s') ∧ s'.sessionError = some (identityMessage
          (.assembly (.conversion (.unable "list" .listMembers)))) := by
  have hdeclared : numberedScan.Declared := ⟨⟨_, rfl⟩, ⟨_, rfl⟩⟩
  have htarget : sampleSettings.target = .value "." := rfl
  have hgets : numberedScan.GetsTo sampleSettings "." (some sampleContext) true (.int 1) := by
    refine ⟨⟨_, rfl⟩, ⟨_, rfl⟩, ⟨[.str "./a.go"], [], rfl, fun file hfile => ?_⟩, nofun, nofun⟩
    rw [List.mem_singleton.1 hfile]
    exact fun h => h.2 _ rfl
  obtain ⟨-, hdeliver⟩ := assembly_problems_reported hdeclared htarget (some sampleContext)
  have hlisted : { numberedScan with findings := .list [.int 1] }.Declared := ⟨⟨_, rfl⟩, ⟨_, rfl⟩⟩
  obtain ⟨-, hother⟩ := assembly_problems_reported hlisted htarget (some sampleContext)
  exact ⟨hdeclared, hgets, (hdeliver sampleClient true none _ rfl rfl).1 (.int 1) hgets, _,
    (hother sampleClient true none _ rfl rfl).2 _ rfl, rfl⟩

/-- The number's problem leaves a delivery, which neither answers nor keeps it. -/
theorem numberedFile_not_reported :
    numberedScan.assembleReport sampleSettings (some sampleContext) true =
        .error (.coercion (.unable "int" .compareStart)) ∧
      numberedScan.assembleReport sampleSettings none false =
        .error (.coercion (.unable "int" .compareStart)) ∧
      deliverScan sampleClient true sampleSettings (some sampleContext) none
          { sampleStart with scan := numberedScan } =
        (.error (.coercion (.unable "int" .compareStart)),
          { sampleStart with scan := numberedScan }) :=
  ⟨rfl, rfl, rfl⟩

end ReportDelivery
