import ReportDelivery.Proofs.Record.Decode
import ReportDelivery.Scan.Data

/-! What scan results hold when they come from a file.

Groups are loaded one by one and their items one by one, in order. A reported finding is loaded
without an ignore record, whether or not its item carries one, and an ignored finding with the one
that its item carries; of the ignored groups only those with an item are kept. -/
namespace ReportDelivery

/-- The groups that hold an item. -/
def Members.filled (groups : Members) : Members := groups.filter (·.2.isTruthy)

namespace ScanData

/-! ### Sections -/

/-- The members of an item, read as a finding. -/
inductive LoadsFinding : Value → Value → Prop
  | intro {members : Members} {finding : Finding}
      (hfinding : FindingOf.ofMembers members = .ok finding) :
      LoadsFinding (.object members) (.finding finding)

/-- The members of an item, read as a finding and as the reason to ignore it. -/
inductive LoadsIgnored : Value → Value → Prop
  | intro {members others : Members} {finding : Finding}
      (hfinding : FindingOf.ofMembers members = .ok finding)
      (hignore : Members.get members "ignore_meta" = .object others) :
      LoadsIgnored (.object members) (.ignored finding (IgnoreMetaOf.ofMembers others))

/-- A group keeps its severity and the order of its items. -/
def LoadsGroup (Loads : Value → Value → Prop) (group loaded : Value × Value) : Prop :=
  ∃ severity items records, group = (.str severity, .list items) ∧
    loaded = (.str severity, .list records) ∧ List.Forall₂ Loads items records

theorem LoadsGroup.filled {Loads : Value → Value → Prop} {group loaded : Value × Value}
    (h : LoadsGroup Loads group loaded) : group.2.isTruthy = loaded.2.isTruthy := by
  obtain ⟨severity, items, records, rfl, rfl, hitems⟩ := h
  cases hitems <;> rfl

theorem objects?_eq_some {v : Value} {items : List Members} :
    objects? v = some items ↔ v = .list (items.map .object) := by
  cases v with
  | list all =>
    rw [objects?, Value.list.injEq]
    refine mapM_eq_some fun v members => ?_
    cases v <;> simp
  | _ => exact ⟨nofun, nofun⟩

/-- A section has a text for every severity and objects for its items. -/
theorem groupsOf_ok {part : Section} {v : Value} (hv : v.IsJson)
    {groups : List (Text × List Members)} (h : groupsOf part v = .ok groups) :
    v = .object (groups.map fun group => (.str group.1, .list (group.2.map .object))) := by
  cases v with
  | object members =>
    refine congrArg Value.object ?_
    have htexts : ∀ member ∈ members, ∃ t, member.1 = .str t := fun member hmember =>
      hv.named.texts member.1 (Members.mem_keys hmember)
    have hgroups := forall₂_map_eq (f := id)
      (g := fun group : Text × List Members =>
        (Value.str group.1, Value.list (group.2.map .object))) ?_
      ((List.forall₂_and_left _ _).2 ⟨htexts, mapM_ok.1 h⟩)
    · rw [hgroups, List.map_id]
    · rintro ⟨_, items⟩ group ⟨⟨severity, rfl⟩, hgroup⟩
      dsimp only at hgroup
      split at hgroup
      · next items hitems =>
        cases hgroup
        exact congrArg (Prod.mk _) (objects?_eq_some.1 hitems).symm
      · cases hgroup
  | _ => cases h

theorem readFinding_ok {part : Section} {members : Members} {finding : Finding} :
    readFinding part members = .ok finding ↔ FindingOf.ofMembers members = .ok finding := by
  unfold readFinding
  cases h : FindingOf.ofMembers members with
  | ok other => exact ⟨by rintro ⟨⟩; rfl, by rintro ⟨⟩; rfl⟩
  | error error => cases error <;> exact ⟨nofun, nofun⟩

theorem readFindings_ok {v loaded : Value} (hv : v.IsJson) (h : readFindings v = .ok loaded) :
    ∃ groups members, v = .object groups ∧ loaded = .object members ∧
      List.Forall₂ (LoadsGroup LoadsFinding) groups members := by
  obtain ⟨groups, hgroups, h⟩ := bind_ok.1 h
  obtain ⟨members, hmembers, ⟨⟩⟩ := bind_ok.1 h
  refine ⟨_, members, groupsOf_ok hv (mapError_ok.1 hgroups), rfl, ?_⟩
  rw [List.forall₂_map_left_iff]
  refine (mapM_ok.1 hmembers).imp ?_
  rintro ⟨severity, items⟩ member hmember
  obtain ⟨findings, hfindings, ⟨⟩⟩ := bind_ok.1 hmember
  refine ⟨severity, _, _, rfl, rfl, ?_⟩
  rw [List.forall₂_map_left_iff, List.forall₂_map_right_iff]
  exact (mapM_ok.1 hfindings).imp fun _ _ hread => .intro (readFinding_ok.1 hread)

theorem readIgnoredFinding_ok {severity : Text} {members : Members} {loaded : Value}
    (h : readIgnoredFinding severity members = .ok loaded) :
    LoadsIgnored (.object members) loaded := by
  unfold readIgnoredFinding at h
  dsimp only at h
  split at h
  · cases h
  · split at h
    · next others hothers =>
      obtain ⟨finding, hfinding, ⟨⟩⟩ := bind_ok.1 h
      exact .intro (readFinding_ok.1 hfinding) hothers
    · cases h

theorem readIgnored_ok {v loaded : Value} (hv : v.IsJson) (h : readIgnored v = .ok loaded) :
    ∃ groups members, v = .object groups ∧ loaded = .object members ∧
      List.Forall₂ (LoadsGroup LoadsIgnored) (Members.filled groups) members := by
  obtain ⟨groups, hgroups, h⟩ := bind_ok.1 h
  obtain ⟨members, hmembers, ⟨⟩⟩ := bind_ok.1 h
  refine ⟨_, _, groupsOf_ok hv (mapError_ok.1 hgroups), rfl, ?_⟩
  have hall : List.Forall₂ (LoadsGroup LoadsIgnored)
      (groups.map fun group => (Value.str group.1, Value.list (group.2.map .object)))
      (members.map fun group => (group.1, Value.list group.2)) := by
    rw [List.forall₂_map_left_iff, List.forall₂_map_right_iff]
    refine (mapM_ok.1 hmembers).imp ?_
    rintro ⟨severity, items⟩ member hmember
    obtain ⟨records, hrecords, ⟨⟩⟩ := bind_ok.1 hmember
    refine ⟨severity, _, _, rfl, rfl, ?_⟩
    rw [List.forall₂_map_left_iff]
    exact (mapM_ok.1 hrecords).imp fun _ _ hread => readIgnoredFinding_ok hread
  have hfilled := forall₂_filter (q := (·.2.isTruthy)) LoadsGroup.filled hall
  rw [List.filter_map (l := members)] at hfilled
  exact hfilled

/-! ### Documents -/

/-- The groups of a section, under its name in the document or no groups if it is missing. -/
def GroupsAt (root : Members) (name : String) (groups : Members) : Prop :=
  (Members.get root name).orElse (.object []) = .object groups

/-- Scan results as a document's members give them. -/
structure Loads (root : Members) (scan : ScanData) : Prop where
  foundLanguages : ∃ languages, scan.foundLanguages = .object languages ∧
    (Value.object languages).IsJson
  findings : ∃ groups members, GroupsAt root "findings" groups ∧ scan.findings = .object members ∧
    List.Forall₂ (LoadsGroup LoadsFinding) groups members
  ignored : ∃ groups members, GroupsAt root "ignored_findings" groups ∧
    scan.ignored = .object members ∧
    List.Forall₂ (LoadsGroup LoadsIgnored) (Members.filled groups) members
  dataflow : ∃ dataTypes components errors,
    scan.dataflow = .dataflow ⟨.list dataTypes, .list components, .list errors⟩ ∧
    (Value.list dataTypes).IsJson ∧ (Value.list components).IsJson ∧ (Value.list errors).IsJson
  files : ∃ files, scan.files = .list files ∧ ∀ file ∈ files, ∃ t, file = .str t

theorem readDataflowList_ok {members : Members} (hjson : (Value.object members).IsJson)
    {name : String} {v : Value} (h : readDataflowList members name = .ok v) :
    ∃ items, v = .list items ∧ (Value.list items).IsJson := by
  unfold readDataflowList at h
  split at h
  · next items hitems =>
    cases h
    refine ⟨items, rfl, ?_⟩
    rw [← hitems]
    exact (hjson.get name).orElse (.list (by simp))
  · cases h

theorem readDataflow_ok {members : Members} (hjson : (Value.object members).IsJson)
    {dataflow : Dataflow} (h : readDataflow members = .ok dataflow) :
    ∃ dataTypes components errors,
      dataflow = ⟨.list dataTypes, .list components, .list errors⟩ ∧
      (Value.list dataTypes).IsJson ∧ (Value.list components).IsJson ∧
      (Value.list errors).IsJson := by
  obtain ⟨_, hdataTypes, h⟩ := bind_ok.1 h
  obtain ⟨_, hcomponents, h⟩ := bind_ok.1 h
  obtain ⟨_, herrors, ⟨⟩⟩ := bind_ok.1 h
  obtain ⟨dataTypes, rfl, hdataTypesJson⟩ := readDataflowList_ok hjson hdataTypes
  obtain ⟨components, rfl, hcomponentsJson⟩ := readDataflowList_ok hjson hcomponents
  obtain ⟨errors, rfl, herrorsJson⟩ := readDataflowList_ok hjson herrors
  exact ⟨dataTypes, components, errors, rfl, hdataTypesJson, hcomponentsJson, herrorsJson⟩

theorem ofMembers_ok {root : Members} (hroot : (Value.object root).IsJson) {scan : ScanData}
    (h : ofMembers root = .ok scan) : Loads root scan := by
  have hpart (name : String) : ((Members.get root name).orElse (.object [])).IsJson :=
    (hroot.get name).orElse Value.isJson_empty
  unfold ofMembers at h
  dsimp only at h
  split at h
  · next languages members files hlanguages hdataflow hfiles =>
    obtain ⟨findings, hfindings, h⟩ := bind_ok.1 h
    obtain ⟨ignored, hignored, h⟩ := bind_ok.1 h
    obtain ⟨dataflow, hflow, ⟨⟩⟩ := bind_ok.1 h
    have hmembers : (Value.object members).IsJson := hdataflow ▸ hpart "dataflow"
    obtain ⟨dataTypes, components, errors, rfl, hjson⟩ :=
      readDataflow_ok hmembers (mapError_ok.1 hflow)
    exact {
      foundLanguages := ⟨languages, hlanguages, hlanguages ▸ hpart "found_languages"⟩
      findings := readFindings_ok (hpart _) hfindings
      ignored := readIgnored_ok (hpart _) hignored
      dataflow := ⟨dataTypes, components, errors, rfl, hjson⟩
      files := ⟨_, rfl, by simp⟩
    }
  · cases h
  · cases h
  · cases h

/-- A file that is accepted holds one object, and the results are as its members give them. -/
theorem ofFile_ok {path : Text} {content : Bytes} {scan : ScanData}
    (h : ofFile path content = .ok scan) :
    ∃ root, Json.readFile content = .ok (.object root) ∧ (Value.object root).IsJson ∧
      Loads root scan := by
  obtain ⟨v, hread, h⟩ := bind_ok.1 h
  obtain ⟨text, -, htext⟩ := bind_ok.1 hread
  have hjson : v.IsJson := Json.read_isJson (mapError_ok.1 htext)
  split at h
  · next root => exact ⟨root, hread, hjson, ofMembers_ok hjson h⟩
  · cases h

end ScanData
end ReportDelivery
