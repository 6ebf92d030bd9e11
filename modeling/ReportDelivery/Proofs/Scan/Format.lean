import ReportDelivery.Proofs.Json.LineEnds
import ReportDelivery.Proofs.Scan.Refusal
import ReportDelivery.Proofs.Value.Form

/-! The format of scan results.

`load_accepts_format`: a file is loaded exactly if its text is a JSON object of the format, and the
results are then what the object's members are converted to. Nothing else in the object counts. -/
namespace ReportDelivery

/-! ### The format -/

namespace Members

/-- What is asked of a severity record. -/
structure SeverityForm (members : Members) : Prop where
  categories : (get members "sensitive_data_categories").Optional Value.IsSequence
  displayExtras : (get members "display_extras").Optional Value.IsSequence
  weightings : ∀ name ∈ weightings, (get members name).Optional Value.IsInteger

/-- What is asked of a finding. -/
structure FindingForm (members : Members) : Prop where
  lineNumber : (get members "line_number").Optional Value.IsInteger
  severityMeta : (get members "severity_meta").Optional (Value.ObjectOf SeverityForm)

/-- An ignored finding says why it is ignored. -/
structure IgnoredForm (members : Members) : Prop extends FindingForm members where
  ignoreMeta : ∃ record : Members, get members "ignore_meta" = .object record ∧ record ≠ []

/-- What is asked of a dataflow record. -/
def DataflowForm (members : Members) : Prop :=
  ∀ name ∈ ["data_types", "components", "errors"], (get members name).Optional Value.IsList

/-- What is asked of scan results. -/
structure ScanForm (root : Members) : Prop where
  languages : (get root "found_languages").Optional Value.IsObject
  findings : (get root "findings").Optional (Value.Groups FindingForm)
  ignored : (get root "ignored_findings").Optional (Value.Groups IgnoredForm)
  dataflow : (get root "dataflow").Optional (Value.ObjectOf DataflowForm)
  files : (get root "files").Optional Value.IsList

end Members

/-! ### The conversion -/

/-- The severity record that the members give. -/
def SeverityMetaOf.converted (members : Members) : SeverityMeta where
  ruleSeverity := Members.text members "rule_severity"
  dataCategories := (Members.get members "sensitive_data_categories").elements
  hasLocalDataTypes := Members.get members "has_local_data_types"
  dataCategoryWeighting := (Members.get members "sensitive_data_category_weighting").integer
  ruleSeverityWeighting := (Members.get members "rule_severity_weighting").integer
  triggerWeighting := (Members.get members "trigger_weighting").integer
  displayExtras := (Members.get members "display_extras").elements

/-- The finding that the members give. -/
def FindingOf.converted (members : Members) : Finding where
  ruleId := Members.text members "id"
  title := Members.text members "title"
  severity := Members.text members "severity"
  filename := Members.text members "filename"
  lineNumber := (Members.get members "line_number").integer
  fingerprint := Members.text members "fingerprint"
  description := Members.text members "description"
  documentationUrl := Members.text members "documentation_url"
  fullFilename := Members.text members "full_filename"
  codeExtract := Members.text members "code_extract"
  severityMeta := .converted (Members.get members "severity_meta").fields

namespace Members

/-- An ignored finding with the reason that its members give. -/
def ignoredFinding (members : Members) : Value :=
  .ignored (.converted members) (.ofMembers (get members "ignore_meta").fields)

/-- Every item of every group converted, in the order of the groups and of their items. -/
def convertGroups (convert : Members → Value) (groups : Members) : Members :=
  groups.map fun group => (group.1, .list (group.2.elements.map fun item => convert item.fields))

end Members

/-- The dataflow record that the members give. -/
def DataflowOf.converted (members : Members) : Dataflow where
  dataTypes := .list (Members.get members "data_types").elements
  components := .list (Members.get members "components").elements
  errors := .list (Members.get members "errors").elements

/-- The scan results that the members of a document give. Ignored groups without an item are left
out. -/
def ScanData.converted (root : Members) : ScanData where
  foundLanguages := .object (Members.get root "found_languages").fields
  findings := .object ((Members.get root "findings").fields.convertGroups
    fun item => .finding (.converted item))
  ignored := .object ((Members.get root "ignored_findings").fields.filled.convertGroups
    Members.ignoredFinding)
  dataflow := .dataflow (.converted (Members.get root "dataflow").fields)
  files := .list ((Members.get root "files").elements.map fun file => .str file.display)

/-! ### Records -/

section
variable {members : Members}

theorem Members.int_yields (members : Members) (name : String) :
    Yields ((get members name).Optional Value.IsInteger) (get members name).integer
      (int members name) :=
  (Value.toInt_yields _).congr (Value.optional_iff ⟨0, rfl⟩).symm fun _ => Value.integer_orElse _

theorem Members.items_yields (h : (Value.object members).IsJson) (name : String) :
    Yields ((get members name).Optional Value.IsSequence) (get members name).elements
      (items members name) :=
  (Value.toItems_yields ((h.get name).orElse (.list (by simp)))).congr
    (Value.optional_iff (.list [])).symm fun _ => Value.elements_orElse _

theorem Members.severityForm_nil : SeverityForm [] :=
  ⟨Value.optional_null, Value.optional_null, fun _ _ => Value.optional_null⟩

theorem SeverityMetaOf.ofValue_yields {v : Value} (hv : v.IsJson) :
    Yields (v.ObjectOf Members.SeverityForm) (converted v.fields) (ofValue v) := by
  unfold ofValue
  refine Value.members_yields fun members hmembers => ?_
  have hitems := Members.items_yields (hmembers ▸ hv)
  have hint := Members.int_yields members
  refine Yields.congr ((hitems _).bind fun _ => (hint _).bind fun _ => (hint _).bind fun _ =>
    (hint _).bind fun _ => (hitems _).bind fun _ => .ok _) ?_ fun _ => rfl
  constructor
  · rintro ⟨hcategories, hcategory, hrule, htrigger, hextras, -⟩
    exact ⟨hcategories, hextras, by simp [Members.weightings, hcategory, hrule, htrigger]⟩
  · rintro ⟨hcategories, hextras, hweightings⟩
    simp only [Members.weightings, List.forall_mem_cons] at hweightings
    obtain ⟨hcategory, hrule, htrigger, -⟩ := hweightings
    exact ⟨hcategories, hcategory, hrule, htrigger, hextras, trivial⟩

theorem FindingOf.ofMembers_yields (h : (Value.object members).IsJson) :
    Yields members.FindingForm (converted members) (ofMembers members) := by
  have hrecord := SeverityMetaOf.ofValue_yields ((h.get "severity_meta").orElse Value.isJson_empty)
  have hmeta := hrecord.congr
    (Value.optional_iff (Value.objectOf_object.2 Members.severityForm_nil)).symm fun _ =>
      congrArg SeverityMetaOf.converted (Value.fields_orElse _)
  unfold ofMembers
  refine Yields.congr ((Members.int_yields members "line_number").bind fun _ =>
    hmeta.bind fun _ => .ok _) ?_ fun _ => rfl
  exact ⟨fun ⟨hline, hmeta, _⟩ => ⟨hline, hmeta⟩, fun ⟨hline, hmeta⟩ => ⟨hline, hmeta, trivial⟩⟩

end

/-! ### Sections -/

namespace Value

/-- The members of every item. -/
def itemFields (v : Value) : List Members := v.elements.map fields

theorem itemFields_list (items : List Members) :
    (list (items.map object)).itemFields = items := by
  rw [itemFields, elements, List.map_map]
  exact List.map_id items

theorem groups_object {Form : Members → Prop} {groups : Members} :
    (object groups).Groups Form ↔ ∀ group ∈ groups, group.2.ListOf Form :=
  objectOf_object

theorem groups_nil {Form : Members → Prop} : (object []).Groups Form :=
  groups_object.2 (List.forall_mem_nil _)

/-- The shape of the groups, and the form of every item. -/
theorem groups_iff {Form : Members → Prop} {v : Value} :
    v.Groups Form ↔ (v.Groups fun _ => True) ∧
      ∀ group ∈ v.fields, ∀ item ∈ group.2.itemFields, Form item := by
  constructor
  · rintro ⟨groups, rfl, hgroups⟩
    refine ⟨groups_object.2 fun group hgroup => ?_, fun group hgroup => ?_⟩
    all_goals obtain ⟨items, hitems, hform⟩ := hgroups group hgroup
    · exact ⟨items, hitems, fun _ _ => trivial⟩
    · rw [hitems, itemFields_list]
      exact hform
  · rintro ⟨⟨groups, rfl, hgroups⟩, hform⟩
    refine groups_object.2 fun group hgroup => ?_
    obtain ⟨items, hitems, -⟩ := hgroups group hgroup
    have hgroup := hform group hgroup
    rw [hitems, itemFields_list] at hgroup
    exact ⟨items, hitems, hgroup⟩

end Value

namespace ScanData

theorem readFinding_yields {part : Section} {members : Members}
    (h : (Value.object members).IsJson) :
    Yields members.FindingForm (FindingOf.converted members) (readFinding part members) :=
  fun finding => readFinding_ok.trans (FindingOf.ofMembers_yields h finding)

theorem readIgnoredFinding_yields {severity : Text} {members : Members}
    (h : (Value.object members).IsJson) :
    Yields members.IgnoredForm members.ignoredFinding (readIgnoredFinding severity members) := by
  unfold readIgnoredFinding Members.ignoredFinding
  dsimp only
  split
  · next hfalse =>
    refine .error _ fun hform => ?_
    obtain ⟨record, hrecord, hne⟩ := hform.ignoreMeta
    rw [hrecord] at hfalse
    simp [Value.isTruthy, hne] at hfalse
  · next htrue =>
    split
    · next record hrecord =>
      rw [hrecord] at htrue ⊢
      refine Yields.congr ((readFinding_yields h).bind fun _ => .ok _) ?_ fun _ => rfl
      have hne : record ≠ [] := by simpa [Value.isTruthy] using htrue
      exact ⟨fun hform => ⟨hform.1, record, hrecord, hne⟩, fun hform => ⟨hform.1, trivial⟩⟩
    · next hother =>
      refine .error _ fun hform => ?_
      obtain ⟨record, hrecord, -⟩ := hform.ignoreMeta
      exact hother record hrecord

/-- The shape of the groups, whatever the items are. -/
theorem groupsOf_yields (part : Section) (v : Value) :
    Yields (v.Groups fun _ => True)
      (v.fields.map fun group => (group.1.display, group.2.itemFields)) (groupsOf part v) := by
  cases v with
  | object groups =>
    refine Yields.congr (Yields.mapM fun group _ => ?_) Value.groups_object.symm fun _ => rfl
    obtain ⟨severity, items⟩ := group
    dsimp only
    rcases hitems : objects? items with _ | members
    · refine .error _ fun hform => ?_
      obtain ⟨members, hmembers, -⟩ := hform
      rw [objects?_eq_some.2 hmembers] at hitems
      cases hitems
    · obtain rfl := objects?_eq_some.1 hitems
      rw [Value.itemFields_list]
      exact (Yields.ok _).congr (iff_of_true trivial ⟨members, rfl, fun _ _ => trivial⟩)
        fun _ => rfl
  | _ => exact .error _ nofun

theorem isJson_item {v : Value} (hv : v.IsJson) (hgroups : v.Groups fun _ => True)
    {group : Value × Value} (hgroup : group ∈ v.fields) {item : Members}
    (hitem : item ∈ group.2.itemFields) : (Value.object item).IsJson := by
  obtain ⟨groups, rfl, hshape⟩ := hgroups
  obtain ⟨items, hitems, -⟩ := hshape group hgroup
  rw [hitems, Value.itemFields_list] at hitem
  have hjson := hv.values group hgroup
  rw [hitems] at hjson
  exact hjson.items _ (List.mem_map_of_mem hitem)

/-- Groups are read item by item. -/
theorem groups_yields {β γ : Type} (part : Section) {v : Value} (hv : v.IsJson)
    {load : Text × List Members → Except Failure γ}
    (read : Text → Members → Except Failure β) (finish : Text → List β → γ)
    (hload : ∀ group, load group = do return finish group.1 (← group.2.mapM (read group.1)))
    {Form : Members → Prop} {result : Members → β}
    (hread : ∀ severity item, (Value.object item).IsJson →
      Yields (Form item) (result item) (read severity item)) :
    Yields (v.Groups Form)
      (v.fields.map fun group => finish group.1.display (group.2.itemFields.map result))
      ((groupsOf part v).mapError Failure.format >>= fun groups => groups.mapM load) := by
  refine Yields.congr (((groupsOf_yields part v).mapError Failure.format).bind fun hgroups => ?_)
    Value.groups_iff.symm fun _ => rfl
  rw [List.mapM_map]
  refine Yields.mapM fun group hgroup => ?_
  dsimp only [Function.comp_apply]
  rw [hload]
  exact Yields.congr ((Yields.mapM fun item hitem =>
    hread _ item (isJson_item hv hgroups hgroup hitem)).bind fun _ => .ok _)
    (and_iff_left trivial) fun _ => rfl

/-- A severity is the text that names its group. -/
theorem str_display {v : Value} (hv : v.IsJson) {group : Value × Value}
    (hgroup : group ∈ v.fields) : Value.str group.1.display = group.1 := by
  cases v with
  | object groups =>
    obtain ⟨t, ht⟩ := hv.named.texts group.1 (Members.mem_keys hgroup)
    rw [ht]
    rfl
  | _ => cases hgroup

theorem readFindings_yields {v : Value} (hv : v.IsJson) :
    Yields (v.Groups Members.FindingForm)
      (.object (v.fields.convertGroups fun item => .finding (.converted item)))
      (readFindings v) := by
  have hgroups := groups_yields .findings hv (fun _ => readFinding .findings)
    (fun severity findings => (Value.str severity, Value.list (findings.map .finding)))
    (fun _ => rfl) fun _ _ hitem => readFinding_yields hitem
  have hread : readFindings v = Except.map Value.object _ := (map_of_bind _ _ _).symm
  rw [hread]
  refine (hgroups.map Value.object).congr Iff.rfl fun _ => congrArg Value.object ?_
  refine List.map_congr_left fun group hgroup => ?_
  rw [str_display hv hgroup, Value.itemFields, List.map_map, List.map_map]
  rfl

theorem readIgnored_yields {v : Value} (hv : v.IsJson) :
    Yields (v.Groups Members.IgnoredForm)
      (.object (v.fields.filled.convertGroups Members.ignoredFinding)) (readIgnored v) := by
  have hgroups := groups_yields .ignored hv readIgnoredFinding
    (fun severity loaded => (Value.str severity, loaded))
    (fun _ => rfl) fun _ _ hitem => readIgnoredFinding_yields hitem
  have hread : readIgnored v = Except.map (fun loaded => Value.object _) _ :=
    (map_of_bind _ _ _).symm
  rw [hread]
  refine (hgroups.map _).congr Iff.rfl fun hform => congrArg Value.object ?_
  rw [List.filter_map, List.map_map, Members.filled, Members.convertGroups]
  -- The groups that are kept after loading are those that had an item before it.
  have hkept : v.fields.filter ((fun loaded => !loaded.2.isEmpty) ∘ fun group =>
      (Value.str group.1.display, group.2.itemFields.map Members.ignoredFinding)) =
      v.fields.filter (·.2.isTruthy) := by
    refine List.filter_congr fun group hgroup => ?_
    obtain ⟨groups, rfl, hshape⟩ := hform
    obtain ⟨items, hitems, -⟩ := hshape group hgroup
    simp [hitems, Value.itemFields_list, Value.isTruthy]
  rw [hkept]
  refine List.map_congr_left fun group hgroup => ?_
  rw [Function.comp_apply, str_display hv (List.mem_of_mem_filter hgroup), Value.itemFields,
    List.map_map]
  rfl

/-! ### Documents -/

theorem readDataflowList_yields (members : Members) (name : String) :
    Yields ((Members.get members name).Optional Value.IsList)
      (.list (Members.get members name).elements) (readDataflowList members name) := by
  refine Yields.congr ?_ (Value.optional_iff ⟨[], rfl⟩).symm fun _ =>
    congrArg Value.list (Value.elements_orElse _)
  unfold readDataflowList
  cases (Members.get members name).orElse (.list []) with
  | list items => exact (Yields.ok _).congr (iff_of_true trivial ⟨items, rfl⟩) fun _ => rfl
  | _ => exact .error _ nofun

theorem readDataflow_yields (members : Members) :
    Yields members.DataflowForm (DataflowOf.converted members) (readDataflow members) := by
  have hlist := readDataflowList_yields members
  unfold readDataflow
  refine Yields.congr ((hlist _).bind fun _ => (hlist _).bind fun _ => (hlist _).bind fun _ =>
    .ok _) ?_ fun _ => rfl
  simp [Members.DataflowForm]

section
variable {root : Members}

theorem dataflowForm_nil : Members.DataflowForm [] := fun _ _ => Value.optional_null

/-- The parts that are checked first have the form that they should have. -/
theorem shaped_of_scanForm (h : root.ScanForm) : Shaped root where
  languages := (Value.optional_iff ⟨[], rfl⟩).1 h.languages
  dataflow := by
    obtain ⟨dataflow, hdataflow, -⟩ :=
      (Value.optional_iff (Value.objectOf_object.2 dataflowForm_nil)).1 h.dataflow
    exact ⟨dataflow, hdataflow⟩
  files := (Value.optional_iff ⟨[], rfl⟩).1 h.files

theorem ofMembers_yields (hroot : (Value.object root).IsJson) :
    Yields root.ScanForm (converted root) (ofMembers root) := by
  have hpart (name : String) : ((Members.get root name).orElse (.object [])).IsJson :=
    (hroot.get name).orElse Value.isJson_empty
  by_cases hshaped : Shaped root
  · obtain ⟨⟨languages, hlanguages⟩, ⟨dataflow, hdataflow⟩, ⟨files, hfiles⟩⟩ := hshaped
    unfold ofMembers
    rw [hlanguages, hdataflow, hfiles]
    refine Yields.congr ((readFindings_yields (hpart "findings")).bind fun _ =>
      (readIgnored_yields (hpart "ignored_findings")).bind fun _ =>
        ((readDataflow_yields dataflow).mapError Failure.format).bind fun _ => .ok _) ?_ fun _ => ?_
    · rw [← Value.optional_iff Value.groups_nil, ← Value.optional_iff Value.groups_nil]
      constructor
      · rintro ⟨hfindings, hignored, hflow, -⟩
        exact {
          languages := (Value.optional_iff ⟨[], rfl⟩).2 ⟨languages, hlanguages⟩
          findings := hfindings
          ignored := hignored
          dataflow := (Value.optional_iff (Value.objectOf_object.2 dataflowForm_nil)).2
            ⟨dataflow, hdataflow, hflow⟩
          files := (Value.optional_iff ⟨[], rfl⟩).2 ⟨files, hfiles⟩
        }
      · intro hform
        have hflow :=
          (Value.optional_iff (Value.objectOf_object.2 dataflowForm_nil)).1 hform.dataflow
        rw [hdataflow] at hflow
        exact ⟨hform.findings, hform.ignored, Value.objectOf_object.1 hflow, trivial⟩
    · rw [converted, ← Value.fields_orElse (Members.get root "found_languages"), hlanguages,
        ← Value.fields_orElse (Members.get root "dataflow"), hdataflow,
        ← Value.elements_orElse (Members.get root "files"), hfiles, Value.fields_orElse,
        Value.fields_orElse]
      rfl
  · obtain ⟨error, herror⟩ := ofMembers_of_not_shaped hshaped
    rw [herror]
    exact .error _ fun hform => hshaped (shaped_of_scanForm hform)

end
end ScanData

/-- **Main theorem.** A file is loaded exactly if it is UTF-8 text, whatever its line ends, and the
text is a JSON object of the format. The results are then what the members are converted to. -/
theorem load_accepts_format (path : Text) (content : Bytes) (scan : ScanData) :
    ScanData.ofFile path content = .ok scan ↔
      ∃ (text : Text) (root : Members), Utf8.decode content = .ok text ∧
        Json.read text = .ok (.object root) ∧ root.ScanForm ∧ scan = .converted root := by
  constructor
  · intro h
    obtain ⟨v, hread, h⟩ := bind_ok.1 h
    obtain ⟨text, htext, hread⟩ := bind_ok.1 hread
    have hjson := Json.read_unifyLineEnds.1 (mapError_ok.1 hread)
    split at h
    · next root _ =>
      obtain ⟨hform, hscan⟩ := (ScanData.ofMembers_yields (Json.read_isJson hjson) scan).1 h
      exact ⟨text, root, mapError_ok.1 htext, hjson, hform, hscan⟩
    · cases h
  · rintro ⟨text, root, htext, hjson, hform, hscan⟩
    have hread : Json.readFile content = .ok (.object root) :=
      bind_ok.2 ⟨text, mapError_ok.2 htext, mapError_ok.2 (Json.read_unifyLineEnds.2 hjson)⟩
    exact bind_ok.2 ⟨.object root, hread,
      (ScanData.ofMembers_yields (Json.read_isJson hjson) scan).2 ⟨hform, hscan⟩⟩

/-- A group that nothing is ignored in is no part of the results. -/
example : (ScanData.converted
    [(.str "ignored_findings", .object [(.str "low", .list [])])]).ignored = .object [] := rfl

end ReportDelivery
