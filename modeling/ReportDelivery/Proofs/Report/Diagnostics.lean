import ReportDelivery.Proofs.Outcome
import ReportDelivery.Proofs.Record.RoundTrip
import ReportDelivery.Proofs.Scan.Repository
import ReportDelivery.Proofs.Text.Blank
import ReportDelivery.Report.Assembly

/-! What keeps a repository from being identified, and what to do about it.

An identity needs a value for every required field, from the environment or from the context. What
is missing is named, field by field, with the variable that supplies it. `diagnostics_exact` says
that the names are the right ones, and that setting these variables and no others is enough. -/
namespace ReportDelivery

/-! ### Messages -/

namespace RequiredField

/-- The message about a field names the variable that supplies it, and no other one. -/
theorem envVariable_infix_message (field other : RequiredField) :
    Text.ofString other.envVariable <:+: field.message ↔ other = field := by
  -- All pairs at once, so that the evaluation shares the messages.
  have hpairs : ∀ field ∈ all, ∀ other ∈ all,
      (Text.ofString other.envVariable <:+: field.message ↔ other = field) := by
    decide +kernel
  exact hpairs field field.mem_all other other.mem_all

theorem oneLine_message (field : RequiredField) :
    field.message ≠ [] ∧ Text.OneLine field.message := by
  have hmessages : ∀ field ∈ all, field.message ≠ [] ∧ Text.OneLine field.message := by
    decide +kernel
  exact hmessages field field.mem_all

end RequiredField

theorem ReportError.lines_incomplete (missing : List RequiredField) :
    (ReportError.incomplete missing).message.lines = missing.map (·.message) := by
  refine Text.lines_join fun part hpart => ?_
  obtain ⟨field, -, rfl⟩ := List.mem_map.1 hpart
  exact field.oneLine_message

/-! ### Values of fields -/

namespace Repository

variable {known : Option Repository} {context before after : Repository}
  {environ environ' : Environment} {missing : List RequiredField}

/-- The environment or the context has a value for the field. -/
def Supplied (known : Option Repository) (environ : Environment) (field : RequiredField) : Prop :=
  override environ field ≠ [] ∨ ∃ context, known = some context ∧ context.field field ≠ []

/-- The fields without a value, each once and in the order in which they are reported. -/
structure Lacks (known : Option Repository) (environ : Environment)
    (missing : List RequiredField) : Prop where
  ordered : missing.Sublist RequiredField.all
  exact : ∀ field, field ∈ missing ↔ ¬ Supplied known environ field

/-- The second environment has content in the variables of the given fields. The other variables are
as in the first one. -/
structure Supplies (fields : List RequiredField) (environ environ' : Environment) : Prop where
  content : ∀ field ∈ fields, (environ'.get field.envVariable).hasContent = true
  others : ∀ name, (∀ field ∈ fields, name ≠ field.envVariable) →
    environ'.get name = environ.get name

theorem override_eq_nil {field : RequiredField} :
    override environ field = [] ↔ (environ.get field.envVariable).hasContent = false :=
  Text.strip_eq_nil

/-- Once the overrides are applied, the fields with a value are those that were supplied. -/
theorem field_ne_nil (h : applyOverrides known environ = some context) {field : RequiredField} :
    context.field field ≠ [] ↔ Supplied known environ field := by
  rw [applyOverrides_field h, Supplied]
  split
  · next hblank =>
    cases known with
    | none =>
      have hempty : (({} : Repository).field field) = [] := by cases field <;> rfl
      simp [hblank, hempty]
    | some own => simp [hblank]
  · next hcontent => simp [hcontent]

theorem missingFields_lacks (h : applyOverrides known environ = some context) :
    Lacks known environ context.missingFields where
  ordered := List.filter_sublist
  exact field := by
    rw [missingFields, List.mem_filter, ← field_ne_nil h, not_not, List.isEmpty_iff]
    exact and_iff_right field.mem_all

theorem Lacks.eq_nil_iff (h : Lacks known environ missing) :
    missing = [] ↔ ∀ field, Supplied known environ field := by
  rw [List.eq_nil_iff_forall_not_mem]
  exact forall_congr' fun field => by rw [h.exact, not_not]

/-- A field that is not supplied is left with the value from the first environment. -/
theorem Supplies.override_eq (h : Supplies missing environ environ') {field : RequiredField}
    (hfield : field ∉ missing) : override environ' field = override environ field := by
  refine congrArg Text.strip (h.others _ fun other hother heq => hfield ?_)
  rw [RequiredField.envVariable_injective heq]
  exact hother

theorem Supplies.override_ne_nil (h : Supplies missing environ environ') {field : RequiredField}
    (hfield : field ∈ missing) : override environ' field ≠ [] := by
  intro hblank
  cases (h.content field hfield).symm.trans (override_eq_nil.1 hblank)

/-- Supplying what is missing gives a context with the new values. Nothing else changes in it. -/
theorem Supplies.applyOverrides (h : Supplies missing environ environ')
    (hlacks : Lacks known environ missing)
    (hbefore : applyOverrides known environ = some before) :
    ∃ after, Repository.applyOverrides known environ' = some after ∧ after.missingFields = [] ∧
      after.SameApart before ∧ ∀ field, after.field field =
        if field ∈ missing then (environ'.get field.envVariable).strip else before.field field := by
  have hsupplied (field : RequiredField) : Supplied known environ' field := by
    by_cases hfield : field ∈ missing
    · exact .inl (h.override_ne_nil hfield)
    · rw [Supplied, h.override_eq hfield]
      exact not_not.1 fun hnot => hfield ((hlacks.exact field).2 hnot)
  cases hafter : Repository.applyOverrides known environ' with
  | none =>
    obtain ⟨rfl, hblank⟩ := applyOverrides_eq_none.1 hafter
    rcases hsupplied .branch with hcontent | ⟨context, ⟨⟩, -⟩
    exact absurd (hblank _) hcontent
  | some after =>
    refine ⟨after, rfl, (missingFields_lacks hafter).eq_nil_iff.2 hsupplied,
      (applyOverrides_sameApart hafter).trans (applyOverrides_sameApart hbefore).symm,
      fun field => ?_⟩
    rw [applyOverrides_field hafter]
    by_cases hfield : field ∈ missing
    · rw [if_pos hfield, if_neg (h.override_ne_nil hfield)]
      rfl
    · rw [if_neg hfield, h.override_eq hfield, applyOverrides_field hbefore]

end Repository

/-! ### Identities -/

namespace Identity

variable {scan : ScanData} {settings : Settings} {context : Repository} {languages : Members}
  {missing : List RequiredField}

/-- The identity that a context describes. -/
def ofContext (settings : Settings) (languages : Members) (context : Repository) : Identity where
  target := settings.target
  foundLanguages := languages
  id := context.id
  host := context.host
  username := context.owner
  name := context.name
  fullName := context.fullName
  url := context.originUrl
  sha := context.commitHash
  currentBranch := context.branch
  defaultBranch := context.defaultBranch
  diffBaseBranch := context.baseBranch
  rulesVersion := settings.rulesVersion
  toolVersion := version

theorem full_some : full scan settings (some context) =
    if context.missingFields = [] then
      (scan.foundLanguages.toMembers.mapError Failure.coercion).map (ofContext settings · context)
    else .error (.report (.incomplete context.missingFields)) := by
  unfold full
  dsimp only
  split
  · next hnil =>
    rw [if_pos hnil]
    cases scan.foundLanguages.toMembers <;> rfl
  · next hne => rw [if_neg hne]

theorem full_of_complete (hlanguages : scan.foundLanguages.toMembers = .ok languages)
    (h : context.missingFields = []) :
    full scan settings (some context) = .ok (ofContext settings languages context) := by
  rw [full_some, if_pos h, hlanguages]
  rfl

theorem full_of_missing (h : context.missingFields ≠ []) : full scan settings (some context) =
    .error (.report (.incomplete context.missingFields)) := by
  rw [full_some, if_neg h]

/-- The only problem with the identity of a repository is that required fields are missing. -/
theorem full_report_error {error : ReportError}
    (h : full scan settings (some context) = .error (.report error)) :
    error = .incomplete context.missingFields := by
  rw [full_some] at h
  split at h
  · cases hlanguages : scan.foundLanguages.toMembers <;> rw [hlanguages] at h <;> cases h
  · cases h
    rfl

/-- Languages that are a mapping leave nothing else that can fail. -/
theorem full_error {known : Option Repository} {failure : Failure}
    (hlanguages : scan.foundLanguages.toMembers = .ok languages)
    (h : full scan settings known = .error failure) :
    failure = .report .notARepository ∨ ∃ missing, failure = .report (.incomplete missing) := by
  cases known with
  | none => exact .inl (Except.error.inj h).symm
  | some context =>
    by_cases hnil : context.missingFields = []
    · cases (full_of_complete hlanguages hnil).symm.trans h
    · exact .inr ⟨_, (Except.error.inj ((full_of_missing hnil).symm.trans h)).symm⟩

/-! ### Identities after overrides -/

open Repository

variable {known : Option Repository} {environ environ' : Environment}

theorem full_ok_iff (hlanguages : scan.foundLanguages.toMembers = .ok languages) :
    (∃ identity, full scan settings (applyOverrides known environ) = .ok identity) ↔
      ∀ field, Supplied known environ field := by
  cases hcontext : applyOverrides known environ with
  | none =>
    refine ⟨by rintro ⟨identity, ⟨⟩⟩, fun hall => ?_⟩
    obtain ⟨rfl, hblank⟩ := applyOverrides_eq_none.1 hcontext
    rcases hall .branch with hcontent | ⟨context, ⟨⟩, -⟩
    exact absurd (hblank _) hcontent
  | some context =>
    rw [← (missingFields_lacks hcontext).eq_nil_iff]
    constructor
    · rintro ⟨identity, hidentity⟩
      by_contra hmissing
      cases hidentity.symm.trans (full_of_missing hmissing)
    · exact fun hnil => ⟨_, full_of_complete hlanguages hnil⟩

theorem full_notARepository_iff :
    full scan settings (applyOverrides known environ) = .error (.report .notARepository) ↔
      applyOverrides known environ = none := by
  cases applyOverrides known environ with
  | none => exact ⟨fun _ => rfl, fun _ => rfl⟩
  | some context =>
    refine ⟨fun h => ?_, nofun⟩
    cases full_report_error h

theorem full_lacks (hcontext : applyOverrides known environ ≠ none)
    (hnot : ¬ ∀ field, Supplied known environ field) :
    ∃ missing, Lacks known environ missing ∧
      full scan settings (applyOverrides known environ) =
        .error (.report (.incomplete missing)) := by
  obtain ⟨context, hsome⟩ := Option.ne_none_iff_exists'.1 hcontext
  have hlacks := missingFields_lacks hsome
  rw [hsome]
  exact ⟨_, hlacks, full_of_missing (mt hlacks.eq_nil_iff.1 hnot)⟩

theorem full_of_supplies
    (h : full scan settings (applyOverrides known environ) =
      .error (.report (.incomplete missing)))
    (hsupplies : Supplies missing environ environ')
    (hlanguages : scan.foundLanguages.toMembers = .ok languages) :
    ∃ before after, applyOverrides known environ = some before ∧
      full scan settings (applyOverrides known environ') =
        .ok (ofContext settings languages after) ∧
      after.SameApart before ∧ ∀ field, after.field field =
        if field ∈ missing then (environ'.get field.envVariable).strip else before.field field := by
  cases hbefore : applyOverrides known environ with
  | none =>
    rw [hbefore] at h
    cases h
  | some before =>
    rw [hbefore] at h
    cases full_report_error h
    obtain ⟨after, hafter, hnil, hsame, hfields⟩ :=
      hsupplies.applyOverrides (missingFields_lacks hbefore) hbefore
    rw [hafter]
    exact ⟨before, after, rfl, full_of_complete hlanguages hnil, hsame, hfields⟩

end Identity

/-! ### The main theorem -/

section
open Repository

/-- **Main theorem.** A repository is identified exactly if every required field has a value, from
the environment or the context, and is no repository exactly if there is no context and all variables
are blank. Otherwise the fields without a value are listed, and the message has one line for each,
which names the field's own variable alone. With content in these variables the identity has the new
values, stripped, beside the old ones. Applying an environment twice is applying it once, and only
fields that have a variable change. -/
theorem diagnostics_exact (scan : ScanData) (settings : Settings) (known : Option Repository)
    (environ : Environment) :
    (∀ languages, scan.foundLanguages.toMembers = .ok languages →
      ((∃ identity, Identity.full scan settings (applyOverrides known environ) = .ok identity) ↔
        ∀ field, Supplied known environ field)) ∧
    (Identity.full scan settings (applyOverrides known environ) = .error (.report .notARepository) ↔
      known = none ∧ ∀ field : RequiredField,
        (environ.get field.envVariable).hasContent = false) ∧
    (¬ (known = none ∧ ∀ field : RequiredField,
        (environ.get field.envVariable).hasContent = false) →
      (¬ ∀ field, Supplied known environ field) →
      ∃ missing, Lacks known environ missing ∧
        Identity.full scan settings (applyOverrides known environ) =
          .error (.report (.incomplete missing)) ∧
        (ReportError.incomplete missing).message.lines = missing.map (·.message)) ∧
    (∀ field other : RequiredField,
      Text.ofString other.envVariable <:+: field.message ↔ other = field) ∧
    (∀ missing environ' languages,
      Identity.full scan settings (applyOverrides known environ) =
        .error (.report (.incomplete missing)) →
      Supplies missing environ environ' → scan.foundLanguages.toMembers = .ok languages →
      ∃ before after, applyOverrides known environ = some before ∧
        Identity.full scan settings (applyOverrides known environ') =
          .ok (.ofContext settings languages after) ∧
        after.SameApart before ∧ ∀ field, after.field field =
          if field ∈ missing then (environ'.get field.envVariable).strip
          else before.field field) ∧
    applyOverrides (applyOverrides known environ) environ = applyOverrides known environ ∧
    ∀ context, applyOverrides known environ = some context → context.SameApart (known.getD {}) := by
  have hnone : applyOverrides known environ = none ↔
      known = none ∧ ∀ field : RequiredField,
        (environ.get field.envVariable).hasContent = false := by
    simp only [applyOverrides_eq_none, override_eq_nil]
  refine ⟨fun languages => Identity.full_ok_iff, Identity.full_notARepository_iff.trans hnone, ?_,
    RequiredField.envVariable_infix_message, fun missing environ' languages =>
      Identity.full_of_supplies, applyOverrides_idem known environ,
    fun context => applyOverrides_sameApart⟩
  intro hknown hnot
  obtain ⟨missing, hlacks, hfull⟩ := Identity.full_lacks (mt hnone.1 hknown) hnot
  exact ⟨missing, hlacks, hfull, ReportError.lines_incomplete missing⟩

/-- A context that tells the branch only. -/
def branchContext : Repository := { branch := "topic", name := "shop" }

/-- The commit is set, with white space around it, and the default branch is blank. -/
def commitEnviron : Environment :=
  [("BEARER_COMMIT", " c0ffee\n"), ("BEARER_DEFAULT_BRANCH", " ")]

def repairedEnviron : Environment :=
  ("BEARER_DEFAULT_BRANCH", "main ") :: ("BEARER_REPOSITORY_URL", "https://git.test/r") ::
    commitEnviron

theorem repairedEnviron_supplies :
    Supplies [.defaultBranch, .originUrl] commitEnviron repairedEnviron where
  content := by decide +kernel
  others name hname := by
    have hbranch : name ≠ "BEARER_DEFAULT_BRANCH" := hname .defaultBranch (by decide)
    have horigin : name ≠ "BEARER_REPOSITORY_URL" := hname .originUrl (by decide)
    simp [repairedEnviron, Environment.get, ofString_inj, hbranch.symm, horigin.symm]

/-- Two variables are missing, and with content in them the repository is identified. -/
theorem sampleDiagnostics_exact :
    ∃ missing after,
      Identity.full {} ⟨.value ".", .value []⟩
        (applyOverrides (some branchContext) commitEnviron) =
          .error (.report (.incomplete missing)) ∧
      missing = [.defaultBranch, .originUrl] ∧
      Identity.full {} ⟨.value ".", .value []⟩
        (applyOverrides (some branchContext) repairedEnviron) =
          .ok (.ofContext ⟨.value ".", .value []⟩ [] after) ∧
      after = { branchContext with
        commitHash := "c0ffee", defaultBranch := "main", originUrl := "https://git.test/r" } := by
  obtain ⟨hidentified, -, hlacking, -, hrepaired, -⟩ :=
    diagnostics_exact {} ⟨.value ".", .value []⟩ (some branchContext) commitEnviron
  have hnot : ¬ ∀ field, Supplied (some branchContext) commitEnviron field := by
    intro hall
    obtain ⟨identity, h⟩ := (hidentified [] rfl).2 hall
    cases h
  obtain ⟨missing, -, hmissing, -⟩ := hlacking (by rintro ⟨⟨⟩, -⟩) hnot
  obtain rfl : missing = [.defaultBranch, .originUrl] := by
    cases hmissing
    rfl
  obtain ⟨before, after, ⟨⟩, hafter, hsame, hfields⟩ :=
    hrepaired _ repairedEnviron [] hmissing repairedEnviron_supplies rfl
  refine ⟨_, after, hmissing, rfl, hafter, SameApart.eq ?_ fun field => (hfields field).trans ?_⟩
  · exact hsame.trans ⟨rfl, rfl, rfl, rfl, rfl, rfl⟩
  · cases field <;> decide +kernel

end
end ReportDelivery
