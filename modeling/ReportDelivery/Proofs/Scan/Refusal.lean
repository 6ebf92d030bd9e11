import ReportDelivery.Proofs.Scan.Loading

/-! What keeps a file from being loaded.

Bytes that are no text, text that is no JSON, and JSON of the wrong form are refused as malformed.
One more failure is possible: an infinity where a finding needs an integer is not blamed on the
document. `ofFile_overflows` says which files end in it. The loader reaches such a finding, which
means that the shapes checked before are right and every item before it is loaded. -/
namespace ReportDelivery

/-- The bytes are no text, the text is no JSON, or the JSON does not have the expected form. -/
inductive Failure.IsMalformed : Failure → Prop
  | decoding (error : Utf8.DecodeError) : IsMalformed (.decoding error)
  | json (error : Json.ReadError) : IsMalformed (.json error)
  | format (error : FormatError) : IsMalformed (.format error)

theorem Json.readFile_error {content : Bytes} {failure : Failure}
    (h : readFile content = .error failure) : failure.IsMalformed := by
  rcases bind_error.1 h with h | ⟨text, -, h⟩
  · obtain ⟨error, -, rfl⟩ := mapError_error.1 h
    exact .decoding error
  · obtain ⟨error, -, rfl⟩ := mapError_error.1 h
    exact .json error

theorem Repository.ofFile_error {path : Text} {content : Bytes} {failure : Failure}
    (h : ofFile path content = .error failure) : failure.IsMalformed := by
  rcases bind_error.1 h with h | ⟨v, -, h⟩
  · exact Json.readFile_error h
  · split at h
    · cases h
    · cases h
      exact .format _

/-! ### Infinities -/

theorem Value.toInt_error_infinity {v : Value} :
    v.toInt = .error .infinityAsInteger ↔ ∃ negative, v = .float (.infinity negative) := by
  constructor
  · intro h
    cases v with
    | float x =>
      cases x with
      | infinity negative => exact ⟨negative, rfl⟩
      | _ => cases h
    | str t =>
      obtain ⟨error, -, herror⟩ := mapError_error.1 h
      cases herror
    | _ => cases h
  · rintro ⟨negative, rfl⟩
    rfl

namespace Members

variable {members : Members} {name : String}

/-- The member is an infinite number. -/
def Infinite (members : Members) (name : String) : Prop :=
  ∃ negative, get members name = .float (.infinity negative)

theorem int_error_infinity :
    int members name = .error .infinityAsInteger ↔ Infinite members name := by
  rw [int, Value.toInt_error_infinity, Infinite]
  refine exists_congr fun negative => ?_
  unfold Value.orElse
  split
  · rfl
  · next hfalse =>
    refine iff_of_false (by rintro ⟨⟩) fun h => hfalse ?_
    rw [h]
    rfl

theorem items_error_ne_infinity : items members name ≠ .error .infinityAsInteger := by
  unfold items Value.toItems
  split <;> exact nofun

/-- The weightings of a severity record, in the order in which they are read. -/
def weightings : List String :=
  ["sensitive_data_category_weighting", "rule_severity_weighting", "trigger_weighting"]

/-- Among the weightings the first that is no integer is an infinity, and what is read before them
can be read. -/
def SeverityOverflows (members : Members) : Prop :=
  (∃ categories, items members "sensitive_data_categories" = .ok categories) ∧
    StopsAt (fun name => ∃ i, int members name = .ok i) (Infinite members) weightings

/-- Reading a finding fails at an infinity: its line number is one, or the line number can be read
and the severity record fails at one. -/
def FindingOverflows (members : Members) : Prop :=
  Infinite members "line_number" ∨ (∃ i, int members "line_number" = .ok i) ∧
    ∃ record, (get members "severity_meta").orElse (.object []) = .object record ∧
      SeverityOverflows record

end Members

theorem Value.members_error_ne_infinity {ability : Ability} {v : Value} :
    v.members ability ≠ .error .infinityAsInteger := by
  unfold Value.members
  split <;> exact nofun

theorem SeverityMetaOf.ofValue_overflows {v : Value} :
    SeverityMetaOf.ofValue v = .error .infinityAsInteger ↔
      ∃ members : Members, v = .object members ∧ members.SeverityOverflows := by
  simp only [SeverityMetaOf.ofValue, bind_error, pure_ne_error, Value.members_error_ne_infinity,
    Value.members_ok, Members.items_error_ne_infinity, Members.int_error_infinity,
    Members.SeverityOverflows, Members.weightings, stopsAt_cons, not_stopsAt_nil, false_or,
    and_false, exists_false, exists_and_right]

theorem FindingOf.ofMembers_overflows {members : Members} :
    FindingOf.ofMembers members = .error .infinityAsInteger ↔ members.FindingOverflows := by
  simp only [FindingOf.ofMembers, bind_error, pure_ne_error, Members.int_error_infinity,
    SeverityMetaOf.ofValue_overflows, Members.FindingOverflows, and_false, exists_false, or_false,
    exists_and_right]

namespace ScanData

/-! ### Items -/

variable {part : Section} {severity : Text} {members root : Members} {v : Value}
  {failure : Failure}

/-- What reading an item may fail with. -/
theorem readFinding_error (h : readFinding part members = .error failure) :
    failure.IsMalformed ∨ failure = .coercion .infinityAsInteger := by
  unfold readFinding at h
  split at h
  · cases h
  · cases h
    exact .inr rfl
  · cases h
    exact .inl (.format _)

theorem readFinding_overflows :
    readFinding part members = .error (.coercion .infinityAsInteger) ↔
      members.FindingOverflows := by
  rw [← FindingOf.ofMembers_overflows, readFinding]
  split
  · next finding hread => simp [hread]
  · next hread => simp [hread]
  · next cause hother hread =>
    rw [hread]
    exact ⟨nofun, fun h => absurd (Except.error.inj h) hother⟩

theorem readIgnoredFinding_error (h : readIgnoredFinding severity members = .error failure) :
    failure.IsMalformed ∨ failure = .coercion .infinityAsInteger := by
  unfold readIgnoredFinding at h
  dsimp only at h
  split at h
  · cases h
    exact .inl (.format _)
  · split at h
    · rcases bind_error.1 h with hread | ⟨finding, -, ⟨⟩⟩
      exact readFinding_error hread
    · cases h
      exact .inl (.format _)

/-- The item says why it is ignored, and reading its finding fails at an infinity. -/
def IgnoredOverflows (members : Members) : Prop :=
  (∃ record : Members, Members.get members "ignore_meta" = .object record ∧ record ≠ []) ∧
    members.FindingOverflows

theorem readIgnoredFinding_overflows :
    readIgnoredFinding severity members = .error (.coercion .infinityAsInteger) ↔
      IgnoredOverflows members := by
  unfold readIgnoredFinding IgnoredOverflows
  dsimp only
  split
  · next hfalse =>
    refine iff_of_false (by rintro ⟨⟩) ?_
    rintro ⟨⟨record, hrecord, hne⟩, -⟩
    rw [hrecord] at hfalse
    simp [Value.isTruthy, hne] at hfalse
  · next htrue =>
    split
    · next record hrecord =>
      have hne : record ≠ [] := by
        rintro rfl
        simp [hrecord, Value.isTruthy] at htrue
      simp only [bind_error, pure_ne_error, and_false, exists_false, or_false,
        readFinding_overflows, hrecord, Value.object.injEq, exists_eq_left', hne, ne_eq,
        not_false_eq_true, true_and]
    · next hother =>
      refine iff_of_false (by rintro ⟨⟩) ?_
      rintro ⟨⟨record, hrecord, -⟩, -⟩
      exact hother record hrecord

/-! ### Sections -/

/-- The items of all groups with their severities, in the order in which they are read. -/
def groupItems (groups : List (Text × List Members)) : List (Text × Members) :=
  groups.flatMap fun group => group.2.map (group.1, ·)

/-- Groups that are read item by item fail as the first item does that fails. -/
theorem mapM_groups_error {β γ : Type} {load : Text × List Members → Except Failure γ}
    (read : Text → Members → Except Failure β) (finish : Text → List β → γ)
    (hload : ∀ group, load group = do return finish group.1 (← group.2.mapM (read group.1)))
    {groups : List (Text × List Members)} :
    groups.mapM load = .error failure ↔
      StopsAt (fun item => ∃ b, read item.1 item.2 = .ok b)
        (fun item => read item.1 item.2 = .error failure) (groupItems groups) := by
  rw [← mapM_error (f := fun item : Text × Members => read item.1 item.2)]
  induction groups with
  | nil => exact ⟨nofun, nofun⟩
  | cons group groups ih =>
    have hitems : groupItems (group :: groups) = group.2.map (group.1, ·) ++ groupItems groups := rfl
    rw [hitems, List.mapM_append, List.mapM_map, List.mapM_cons, hload]
    simp only [bind_error, pure_ne_error, bind_ok, ih, and_false, exists_false, or_false]
    refine or_congr Iff.rfl ?_
    constructor
    · rintro ⟨-, ⟨loaded, hloaded, -⟩, hrest⟩
      exact ⟨loaded, hloaded, hrest⟩
    · rintro ⟨loaded, hloaded, hrest⟩
      exact ⟨_, ⟨loaded, hloaded, rfl⟩, hrest⟩

/-- Loading a section fails because of its shape, or as its first item does that fails. -/
theorem readFindings_error : readFindings v = .error failure ↔
    (∃ error, groupsOf .findings v = .error error ∧ .format error = failure) ∨
      ∃ groups, groupsOf .findings v = .ok groups ∧
        StopsAt (fun item => ∃ finding, readFinding .findings item.2 = .ok finding)
          (fun item => readFinding .findings item.2 = .error failure) (groupItems groups) := by
  rw [readFindings, bind_error, mapError_error]
  simp only [mapError_ok, bind_error, pure_ne_error, and_false, exists_false, or_false]
  refine or_congr Iff.rfl (exists_congr fun groups => and_congr_right fun _ => ?_)
  exact mapM_groups_error (fun _ => readFinding .findings)
    (fun severity findings => (Value.str severity, Value.list (findings.map .finding))) fun _ => rfl

theorem readIgnored_error : readIgnored v = .error failure ↔
    (∃ error, groupsOf .ignored v = .error error ∧ .format error = failure) ∨
      ∃ groups, groupsOf .ignored v = .ok groups ∧
        StopsAt (fun item => ∃ loaded, readIgnoredFinding item.1 item.2 = .ok loaded)
          (fun item => readIgnoredFinding item.1 item.2 = .error failure) (groupItems groups) := by
  rw [readIgnored, bind_error, mapError_error]
  simp only [mapError_ok, bind_error, pure_ne_error, and_false, exists_false, or_false]
  refine or_congr Iff.rfl (exists_congr fun groups => and_congr_right fun _ => ?_)
  exact mapM_groups_error readIgnoredFinding (fun severity loaded => (Value.str severity, loaded))
    fun _ => rfl

/-! ### Documents -/

/-- The parts that are checked before any finding is read have the form they should have. -/
structure Shaped (root : Members) : Prop where
  languages : ∃ languages, (Members.get root "found_languages").orElse (.object []) =
    .object languages
  dataflow : ∃ dataflow, (Members.get root "dataflow").orElse (.object []) = .object dataflow
  files : ∃ files, (Members.get root "files").orElse (.list []) = .list files

/-- What a document has under the name of a section. -/
def sectionOf (root : Members) (part : Section) : Value :=
  (Members.get root part.name).orElse (.object [])

/-- Loading the document gets to a finding that cannot be read because of an infinity. -/
inductive Overflows (root : Members) : Prop
  | findings {groups : List (Text × List Members)} (hshaped : Shaped root)
      (hgroups : groupsOf .findings (sectionOf root .findings) = .ok groups)
      (hitems : StopsAt (fun item => ∃ finding, FindingOf.ofMembers item.2 = .ok finding)
        (fun item => item.2.FindingOverflows) (groupItems groups)) : Overflows root
  | ignored {loaded : Value} {groups : List (Text × List Members)} (hshaped : Shaped root)
      (hfindings : readFindings (sectionOf root .findings) = .ok loaded)
      (hgroups : groupsOf .ignored (sectionOf root .ignored) = .ok groups)
      (hitems : StopsAt (fun item => ∃ loaded, readIgnoredFinding item.1 item.2 = .ok loaded)
        (fun item => IgnoredOverflows item.2) (groupItems groups)) : Overflows root

theorem ofMembers_of_not_shaped (h : ¬ Shaped root) :
    ∃ error, ofMembers root = .error (.format error) := by
  unfold ofMembers
  dsimp only
  split
  · next hlanguages hdataflow hfiles =>
    exact absurd ⟨⟨_, hlanguages⟩, ⟨_, hdataflow⟩, ⟨_, hfiles⟩⟩ h
  all_goals exact ⟨_, rfl⟩

/-- After the shapes, the sections are loaded one after the other, and then the dataflow. -/
theorem Shaped.ofMembers_eq (h : Shaped root) :
    ∃ (dataflow : Members) (finish : Value → Value → Dataflow → ScanData),
      ofMembers root = do
        let findings ← readFindings (sectionOf root .findings)
        let ignored ← readIgnored (sectionOf root .ignored)
        return finish findings ignored (← (readDataflow dataflow).mapError Failure.format) := by
  obtain ⟨⟨languages, hlanguages⟩, ⟨dataflow, hdataflow⟩, ⟨files, hfiles⟩⟩ := h
  unfold ofMembers
  rw [hlanguages, hdataflow, hfiles]
  exact ⟨dataflow, _, rfl⟩

/-- What loading a document may fail with. -/
theorem ofMembers_error (h : ofMembers root = .error failure) :
    failure.IsMalformed ∨ failure = .coercion .infinityAsInteger := by
  by_cases hshaped : Shaped root
  · obtain ⟨dataflow, finish, hload⟩ := hshaped.ofMembers_eq
    rw [hload] at h
    rcases bind_error.1 h with h | ⟨findings, -, h⟩
    · rcases readFindings_error.1 h with ⟨error, -, rfl⟩ | ⟨groups, -, hitems⟩
      · exact .inl (.format error)
      · obtain ⟨item, -, hitem⟩ := hitems.exists_mem
        exact readFinding_error hitem
    rcases bind_error.1 h with h | ⟨ignored, -, h⟩
    · rcases readIgnored_error.1 h with ⟨error, -, rfl⟩ | ⟨groups, -, hitems⟩
      · exact .inl (.format error)
      · obtain ⟨item, -, hitem⟩ := hitems.exists_mem
        exact readIgnoredFinding_error hitem
    rcases bind_error.1 h with h | ⟨record, -, ⟨⟩⟩
    obtain ⟨error, -, rfl⟩ := mapError_error.1 h
    exact .inl (.format error)
  · obtain ⟨error, hload⟩ := ofMembers_of_not_shaped hshaped
    obtain rfl := Except.error.inj (hload.symm.trans h)
    exact .inl (.format error)

theorem ofMembers_overflows :
    ofMembers root = .error (.coercion .infinityAsInteger) ↔ Overflows root := by
  have hreported : readFindings (sectionOf root .findings) =
      .error (.coercion .infinityAsInteger) ↔ ∃ groups,
        groupsOf .findings (sectionOf root .findings) = .ok groups ∧
        StopsAt (fun item => ∃ finding, FindingOf.ofMembers item.2 = .ok finding)
          (fun item => item.2.FindingOverflows) (groupItems groups) := by
    simp only [readFindings_error, readFinding_ok, readFinding_overflows, reduceCtorEq, and_false,
      exists_false, false_or]
  have hignored : readIgnored (sectionOf root .ignored) =
      .error (.coercion .infinityAsInteger) ↔ ∃ groups,
        groupsOf .ignored (sectionOf root .ignored) = .ok groups ∧
        StopsAt (fun item => ∃ loaded, readIgnoredFinding item.1 item.2 = .ok loaded)
          (fun item => IgnoredOverflows item.2) (groupItems groups) := by
    simp only [readIgnored_error, readIgnoredFinding_overflows, reduceCtorEq, and_false,
      exists_false, false_or]
  by_cases hshaped : Shaped root
  · obtain ⟨dataflow, finish, hload⟩ := hshaped.ofMembers_eq
    rw [hload]
    simp only [bind_error, pure_ne_error, mapError_error, reduceCtorEq, and_false, exists_false,
      or_false, hreported, hignored]
    constructor
    · rintro (⟨groups, hgroups, hitems⟩ | ⟨loaded, hfindings, groups, hgroups, hitems⟩)
      · exact .findings hshaped hgroups hitems
      · exact .ignored hshaped hfindings hgroups hitems
    · rintro (⟨-, hgroups, hitems⟩ | ⟨-, hfindings, hgroups, hitems⟩)
      · exact .inl ⟨_, hgroups, hitems⟩
      · exact .inr ⟨_, hfindings, _, hgroups, hitems⟩
  · obtain ⟨error, hload⟩ := ofMembers_of_not_shaped hshaped
    rw [hload]
    refine ⟨nofun, ?_⟩
    rintro (⟨hother, -, -⟩ | ⟨hother, -, -, -⟩) <;> exact absurd hother hshaped

/-! ### Files -/

variable {path : Text} {content : Bytes}

/-- **What loading may fail with.** A file that is not loaded is malformed, or loading it got to an
infinity where a finding needs an integer. -/
theorem ofFile_error (h : ofFile path content = .error failure) :
    failure.IsMalformed ∨ failure = .coercion .infinityAsInteger := by
  rcases bind_error.1 h with h | ⟨v, -, h⟩
  · exact .inl (Json.readFile_error h)
  · split at h
    · exact ofMembers_error h
    · cases h
      exact .inl (.format _)

theorem ofFile_overflows :
    ofFile path content = .error (.coercion .infinityAsInteger) ↔
      ∃ root, Json.readFile content = .ok (.object root) ∧ Overflows root := by
  constructor
  · intro h
    rcases bind_error.1 h with h | ⟨v, hread, h⟩
    · cases Json.readFile_error h
    · split at h
      · next root => exact ⟨root, hread, ofMembers_overflows.1 h⟩
      · cases h
  · rintro ⟨root, hread, hoverflows⟩
    exact bind_error.2 (.inr ⟨_, hread, ofMembers_overflows.2 hoverflows⟩)

end ScanData
end ReportDelivery
