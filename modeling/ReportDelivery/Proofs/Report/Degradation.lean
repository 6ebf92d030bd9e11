import ReportDelivery.Proofs.Delivery.Repeated
import ReportDelivery.Proofs.Delivery.Sufficiency

/-! Reports with and without a repository.

Where a repository is not known well enough, a report is refused if the identity is required, and
otherwise it has a degraded identity. `assembly_differs_in_identity` says that this is all the
difference: the rest of the report, or the reason why there is none, is what any complete context
would give. There is no identity in between, and an attempt that fails leaves the results as they
were. -/
namespace ReportDelivery

/-! ### The report under an identity -/

/-- The report under another identity. -/
def Report.under (report : Report) (identity : Identity) : Report := { report with identity }

theorem Report.assemble_under (identity other : Identity) (findings ignored : Value)
    (dataflow : Dataflow) (files : Value) :
    Report.assemble identity findings ignored dataflow files =
      (Report.assemble other findings ignored dataflow files).map (·.under identity) := by
  simp only [Report.assemble, map_of_bind]
  rfl

namespace ScanData

variable {scan : ScanData} {settings : Settings} {context : Option Repository} {strict : Bool}

/-- The report on the results, once there is an identity. -/
def reportUnder (scan : ScanData) (settings : Settings) (identity : Identity) :
    Except Failure Report := do
  let (findings, ignored) ←
    scan.wireFindings.mapError fun cause => .report (.assembly (.conversion cause))
  let files ← (listPart "files" scan.files).mapError Failure.ofAssembly
  let files ← (files.mapM (reportFile settings.target)).mapError Failure.coercion
  let dataflow ← (dataflowRecord scan.dataflow).mapError Failure.coercion
  (Report.assemble identity findings.asValue ignored.asValue dataflow (.list files)).mapError
    Failure.ofAssembly

/-- The identity is established before anything else is looked at. -/
theorem buildReport_eq : scan.buildReport settings context strict =
    Identity.establish strict scan settings context >>= scan.reportUnder settings := rfl

/-- No other part of the report depends on the identity, and no failure does. -/
theorem reportUnder_under (identity other : Identity) :
    scan.reportUnder settings identity =
      (scan.reportUnder settings other).map (·.under identity) := by
  simp only [reportUnder, map_of_bind, Report.assemble_under identity other, mapError_of_map]

/-! ### The results after assembling -/

/-- A report, and the results with it. -/
def keeping (scan : ScanData) (report : Report) : Report × ScanData :=
  (report, { scan with report := some report })

/-- What an attempt to assemble the report leaves of the results. -/
def afterAssembly (scan : ScanData) (settings : Settings) (context : Option Repository)
    (strict : Bool) : ScanData :=
  match scan.assembleReport settings context strict with
  | .ok (_, kept) => kept
  | .error _ => scan

theorem assembleReport_of_establish {identity : Identity}
    (h : Identity.establish strict scan settings context = .ok identity) :
    scan.assembleReport settings context strict =
      (scan.reportUnder settings identity).map scan.keeping := by
  rw [assembleReport, buildReport_eq, h, ok_bind]
  cases scan.reportUnder settings identity <;> rfl

/-- Only the place for the report is written, and only if there is one. -/
theorem afterAssembly_eq : scan.afterAssembly settings context strict =
    { scan with
      report := ((scan.assembleReport settings context strict).toOption.map (·.1)).or
        scan.report } := by
  unfold afterAssembly
  cases hassemble : scan.assembleReport settings context strict with
  | error failure => rfl
  | ok result =>
    obtain ⟨_, -, ⟨⟩⟩ := bind_ok.1 hassemble
    rfl

end ScanData

/-! ### Identities -/

namespace Identity

variable {scan : ScanData} {settings : Settings} {context : Option Repository} {strict : Bool}
  {identity : Identity} {languages : Members} {failure : Failure}

/-- The identity of no repository: the target and its languages, and nothing else. -/
def ofTarget (settings : Settings) (languages : Members) : Identity where
  target := settings.target
  foundLanguages := languages

theorem establish_of_full (h : full scan settings context = .ok identity) :
    establish strict scan settings context = .ok identity := by
  rw [establish, h]

theorem establish_of_full_error (hlanguages : scan.foundLanguages.toMembers = .ok languages)
    (h : full scan settings context = .error failure) :
    establish false scan settings context = .ok (ofTarget settings languages) := by
  rw [establish, h]
  rcases full_error hlanguages h with rfl | ⟨missing, rfl⟩ <;>
  · rw [degraded, hlanguages]
    rfl

theorem full_of_incomplete
    (h : ∀ repository, context = some repository → repository.missingFields ≠ []) :
    ∃ failure, full scan settings context = .error failure := by
  cases context with
  | none => exact ⟨_, rfl⟩
  | some repository => exact ⟨_, full_of_missing (h repository rfl)⟩

/-- An identity that a report may have: a repository's, about which everything required is known,
or else no repository's. -/
inductive Whole (settings : Settings) (languages : Members) (context : Option Repository)
    (strict : Bool) : Identity → Prop
  | known {repository : Repository} (hcontext : context = some repository)
      (hcomplete : repository.missingFields = []) :
      Whole settings languages context strict (ofContext settings languages repository)
  | degraded (hcontext : ∀ repository, context = some repository → repository.missingFields ≠ [])
      (hstrict : strict = false) :
      Whole settings languages context strict (ofTarget settings languages)

theorem establish_whole (hlanguages : scan.foundLanguages.toMembers = .ok languages)
    (h : establish strict scan settings context = .ok identity) :
    Whole settings languages context strict identity := by
  by_cases hknown : ∃ repository, context = some repository ∧ repository.missingFields = []
  · obtain ⟨repository, rfl, hcomplete⟩ := hknown
    rw [establish_of_full (full_of_complete hlanguages hcomplete)] at h
    cases h
    exact .known rfl hcomplete
  · have hincomplete : ∀ repository, context = some repository → repository.missingFields ≠ [] :=
      fun repository hcontext hcomplete => hknown ⟨repository, hcontext, hcomplete⟩
    obtain ⟨failure, hfull⟩ : ∃ failure, full scan settings context = .error failure :=
      full_of_incomplete hincomplete
    cases strict with
    | true =>
      rw [establish_true] at h
      cases h.symm.trans hfull
    | false =>
      rw [establish_of_full_error hlanguages hfull] at h
      cases h
      exact .degraded hincomplete rfl

end Identity

/-! ### The main theorem -/

/-- **Main theorem.** For results whose languages are a mapping: if the repository is identified, it
makes no difference whether that is required. Otherwise a required identity fails the report before
anything else can, whatever the other results hold. An identity that is not required is then the
target and its languages, and the rest of the outcome is that of any complete context. So every
identity is a whole one. Assembling changes nothing but the place for the report, and after a
failure not even that, nor does a delivery that needed the report. -/
theorem assembly_differs_in_identity {scan : ScanData} {languages : Members}
    (hlanguages : scan.foundLanguages = .object languages) (settings : Settings)
    (context : Option Repository) :
    ((∃ identity, Identity.full scan settings context = .ok identity) →
      scan.assembleReport settings context true = scan.assembleReport settings context false) ∧
    (∀ failure, Identity.full scan settings context = .error failure →
      (failure = .report .notARepository ∨ ∃ missing, failure = .report (.incomplete missing)) ∧
      (∀ findings ignored dataflow files,
        { scan with findings, ignored, dataflow, files }.assembleReport settings context true =
          .error failure) ∧
      ∀ repository : Repository, repository.missingFields = [] → ∀ strict,
        scan.assembleReport settings context false =
          (scan.assembleReport settings (some repository) strict).map fun (report, _) =>
            scan.keeping (report.under (.ofTarget settings languages))) ∧
    (∀ strict report kept, scan.assembleReport settings context strict = .ok (report, kept) →
      report.identity.Whole settings languages context strict) ∧
    (∀ strict, scan.afterAssembly settings context strict =
      { scan with
        report := ((scan.assembleReport settings context strict).toOption.map (·.1)).or
          scan.report }) ∧
    ∀ (attempt : Attempt) failure, attempt.settings = settings → attempt.context = context →
      scan.report = none → scan.assembleReport settings context true = .error failure →
      attempt.after scan = scan.afterAssembly settings context true ∧ attempt.made scan = [] := by
  have hmembers : scan.foundLanguages.toMembers = .ok languages := by rw [hlanguages]; rfl
  refine ⟨?_, ?_, ?_, fun strict => ScanData.afterAssembly_eq, ?_⟩
  · rintro ⟨identity, hfull⟩
    rw [ScanData.assembleReport_of_establish (Identity.establish_of_full hfull),
      ScanData.assembleReport_of_establish (Identity.establish_of_full hfull)]
  · intro failure hfull
    refine ⟨Identity.full_error hmembers hfull, fun findings ignored dataflow files => ?_,
      fun repository hcomplete strict => ?_⟩
    · refine ScanData.assembleReport_error.2 (bind_error.2 (.inl ?_))
      rw [Identity.establish_true]
      exact hfull
    · have hidentity : Identity.full scan settings (some repository) =
          .ok (.ofContext settings languages repository) :=
        Identity.full_of_complete hmembers hcomplete
      rw [ScanData.assembleReport_of_establish (Identity.establish_of_full_error hmembers hfull),
        ScanData.assembleReport_of_establish (Identity.establish_of_full hidentity), map_of_map,
        ScanData.reportUnder_under _ (.ofContext settings languages repository), map_of_map]
      rfl
  · intro strict report kept hassemble
    obtain ⟨_, hbuild, ⟨⟩⟩ := bind_ok.1 hassemble
    rw [ScanData.buildReport_eq] at hbuild
    obtain ⟨identity, hidentity, hunder⟩ := bind_ok.1 hbuild
    rw [ScanData.reportUnder_under identity identity] at hunder
    obtain ⟨_, -, rfl⟩ := map_ok.1 hunder
    exact Identity.establish_whole hmembers hidentity
  · rintro attempt failure rfl rfl hnone hfails
    have hsend : scan.reportToSend attempt.settings attempt.context = .error failure := by
      rw [ScanData.reportToSend_of_none hnone]
      exact hfails
    rw [ScanData.afterAssembly, hfails]
    exact Attempt.step_error hsend

/-- Results of a scan of one file, in one language. -/
def oneFileScan : ScanData where
  foundLanguages := .object [(.str "go", .int 3)]
  files := .list [.str "./a.go"]

/-- The same results with data types that are no list. -/
def brokenScan : ScanData := { oneFileScan with dataflow := .dataflow ⟨.str "none", .null, .null⟩ }

/-- A branch alone identifies no repository. Without a required identity there is the report of a
complete context but for the identity, or the problem that a complete context does not solve. -/
theorem sampleScans_degrade :
    Identity.full oneFileScan sampleSettings (some branchContext) =
        .error (.report (.incomplete [.defaultBranch, .commit, .originUrl])) ∧
      (∃ report kept whole keptWhole,
        oneFileScan.assembleReport sampleSettings (some branchContext) false = .ok (report, kept) ∧
        oneFileScan.assembleReport sampleSettings (some sampleContext) true =
          .ok (whole, keptWhole) ∧
        report.files = whole.files ∧ report.identity.foundLanguages = [(.str "go", .int 3)] ∧
        report.identity.currentBranch = [] ∧ whole.identity.currentBranch = "topic") ∧
      brokenScan.assembleReport sampleSettings (some branchContext) true =
        .error (.report (.incomplete [.defaultBranch, .commit, .originUrl])) ∧
      brokenScan.assembleReport sampleSettings (some branchContext) false =
        .error (.report (.assembly (.listExpected "data_types" "str"))) := by
  have hfull : Identity.full oneFileScan sampleSettings (some branchContext) =
      .error (.report (.incomplete [.defaultBranch, .commit, .originUrl])) := rfl
  have hcomplete : sampleContext.missingFields = [] := rfl
  have hone : oneFileScan.foundLanguages = .object [(.str "go", .int 3)] := rfl
  have hbroken : brokenScan.foundLanguages = .object [(.str "go", .int 3)] := rfl
  obtain ⟨-, hdegrades, -⟩ :=
    assembly_differs_in_identity hone sampleSettings (some branchContext)
  obtain ⟨-, hother, hreport⟩ := hdegrades _ hfull
  refine ⟨hfull, ?_, hother _ _ _ _, ?_⟩
  · obtain ⟨⟨whole, keptWhole⟩, hwhole⟩ :=
      ok_of_toBool (x := oneFileScan.assembleReport sampleSettings (some sampleContext) true)
        (by decide +kernel)
    have hdegraded := hreport sampleContext hcomplete true
    rw [hwhole] at hdegraded
    obtain ⟨-, -, hwholes, -⟩ :=
      assembly_differs_in_identity hone sampleSettings (some sampleContext)
    refine ⟨_, _, whole, keptWhole, hdegraded, hwhole, rfl, rfl, rfl, ?_⟩
    have hidentity := hwholes true whole keptWhole hwhole
    generalize whole.identity = identity at hidentity ⊢
    cases hidentity with
    | known hcontext =>
      cases hcontext
      rfl
    | degraded _ hstrict => cases hstrict
  · obtain ⟨-, hdegrades, -⟩ :=
      assembly_differs_in_identity hbroken sampleSettings (some branchContext)
    obtain ⟨-, -, hreport⟩ := hdegrades _ hfull
    rw [hreport sampleContext hcomplete true]
    rfl

end ReportDelivery
