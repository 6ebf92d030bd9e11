import ReportDelivery.Proofs.Report.Assembly

/-! The parts of a report and what they come from.

The sources of a report may be anything. `assembly_loses_nothing`: a report is assembled exactly if
every source that is not empty has the form of its part, and then every source arrives whole, in
order and with its empty groups. Otherwise the problem names the first part that is at fault, and of
a map of findings the first severity. Only a severity that is no text may make a difference: if the
interpreter cannot show it, then this is what is reported (`longSeverity_not_reported`). -/
namespace ReportDelivery

/-! ### Parts -/

/-- The parts of a report that are plain lists. -/
inductive Report.Listing where
  | dataTypes
  | components
  | errors
  | files

def Report.Listing.name : Listing → String
  | .dataTypes => "data_types"
  | .components => "components"
  | .errors => "errors"
  | .files => "files"

/-- The parts of a report besides its identity. -/
inductive Report.Part where
  | groups (part : Section)
  | listing (part : Listing)

/-- A list of findings in wire form. -/
def Value.IsWireList (v : Value) : Prop := ∃ items : List WireFinding, v = .list (items.map .wire)

namespace Report.Part

/-- The order in which the parts are looked at. -/
def all : List Part :=
  [.groups .findings, .groups .ignored, .listing .dataTypes, .listing .components,
    .listing .errors, .listing .files]

/-- A map of findings has a list of wire findings under every severity; any other part is a list. -/
def Fits : Part → Value → Prop
  | .groups _, v =>
    ∃ members : Members, v = .object members ∧ ∀ member ∈ members, member.2.IsWireList
  | .listing _, v => ∃ items, v = .list items

/-- Whatever is empty or missing is accepted. -/
def Accepts (part : Part) (v : Value) : Prop := v.isTruthy = true → part.Fits v

/-- The part without anything in it. -/
def empty : Part → Value
  | .groups _ => .object []
  | .listing _ => .list []

/-- What is wrong with a source, in words. -/
inductive Refuses (limits : Value → Option Json.PrintError) : Part → Value → Text → Prop
  | noMapping {part : Section} {v : Value} (htruthy : v.isTruthy = true)
      (hmapping : ∀ members, v ≠ .object members) :
      Refuses limits (.groups part) v
        ("report field '" ++ part.name ++ "' expected a mapping, got " ++ v.typeName)
  | badEntries {part : Section} {before after : Members} {severity items : Value}
      (hbefore : ∀ member ∈ before, member.2.IsWireList) (hitems : ¬ items.IsWireList)
      (hshown : Failure.ofShowing limits severity = none) :
      Refuses limits (.groups part) (.object (before ++ (severity, items) :: after))
        ("report field '" ++ part.name ++ "' has malformed entries for severity '"
          ++ severity.display ++ "'")
  | noList {part : Listing} {v : Value} (htruthy : v.isTruthy = true)
      (hlist : ∀ items, v ≠ .list items) :
      Refuses limits (.listing part) v
        ("report field '" ++ part.name ++ "' expected a list, got " ++ v.typeName)

/-- There is something wrong with a map of findings, and the severity to be named for it cannot be
shown. -/
inductive Unshowable (limits : Value → Option Json.PrintError) :
    Part → Value → Json.PrintError → Prop
  | severity {part : Section} {before after : Members} {severity items : Value}
      {fault : Json.PrintError} (hbefore : ∀ member ∈ before, member.2.IsWireList)
      (hitems : ¬ items.IsWireList) (hfault : Failure.ofShowing limits severity = some fault) :
      Unshowable limits (.groups part) (.object (before ++ (severity, items) :: after)) fault

end Report.Part

/-- What a report is assembled from. -/
structure Sources where
  findings : Value
  ignored : Value
  dataflow : Dataflow
  files : Value

namespace Sources

/-- What a part comes from. -/
def of (sources : Sources) : Report.Part → Value
  | .groups .findings => sources.findings
  | .groups .ignored => sources.ignored
  | .listing .dataTypes => sources.dataflow.dataTypes
  | .listing .components => sources.dataflow.components
  | .listing .errors => sources.dataflow.errors
  | .listing .files => sources.files

/-- The parts put together, or what is wrong with them. -/
def combine (sources : Sources) (identity : Identity) : Except AssemblyError Report :=
  Report.assemble identity sources.findings sources.ignored sources.dataflow sources.files

/-- The report, or what the attempt ends with where showing values has the given limits. -/
def assemble (sources : Sources) (limits : Value → Option Json.PrintError) (identity : Identity) :
    Except Failure Report :=
  (sources.combine identity).mapError (Failure.ofAssemblyUnder limits)

end Sources

/-- A part as a value like the one that it came from. -/
def Report.value (report : Report) : Report.Part → Value
  | .groups .findings => report.findings.asValue
  | .groups .ignored => report.ignored.asValue
  | .listing .dataTypes => .list report.dataTypes
  | .listing .components => .list report.components
  | .listing .errors => .list report.errors
  | .listing .files => .list report.files

/-! ### Looking at one source -/

theorem Failure.ofAssemblyUnder_malformed {limits : Value → Option Json.PrintError}
    {part : Section} {severity : Value} :
    ofAssemblyUnder limits (.malformedEntries part severity) =
      (ofShowing limits severity).elim
        (.report (.assembly (.malformedEntries part severity))) .printing := by
  rw [ofAssemblyUnder]
  cases ofShowing limits severity <;> rfl

section
variable {v : Value} {members : Members}

theorem findingsPart_object {part : Section} {groups : FindingGroups} :
    findingsPart part (.object members) = .ok groups ↔ groups.asValue = .object members := by
  constructor
  · intro h
    refine congrArg Value.object ((forall₂_map_eq (f := id) ?_ (mapM_ok.1 h)).trans (List.map_id _))
    rintro ⟨severity, items⟩ group hgroup
    dsimp only at hgroup
    split at hgroup
    · next records hrecords =>
      cases hgroup
      exact congrArg (Prod.mk _) (wireItems?_eq_some.1 hrecords).symm
    · cases hgroup
  · intro h
    rw [← h]
    exact FindingGroups.findingsPart_asValue part groups

/-- A map of findings fails at the first severity that has no list of wire findings. -/
theorem findingsPart_object_error {part : Section} {error : AssemblyError} :
    findingsPart part (.object members) = .error error ↔
      StopsAt (fun member : Value × Value => member.2.IsWireList)
        (fun member => ¬ member.2.IsWireList ∧ .malformedEntries part member.1 = error)
        members := by
  have hlist {v : Value} : v.IsWireList ↔ ∃ items, wireItems? v = some items := by
    simp only [wireItems?_eq_some, Value.IsWireList]
  refine mapM_error.trans (stopsAt_congr ?_ ?_) <;> rintro ⟨severity, items⟩ <;>
    rw [hlist] <;> dsimp only <;> split
  · next records hrecords => exact iff_of_true ⟨_, rfl⟩ ⟨records, hrecords⟩
  · next hnone => simp [hnone]
  · next records hrecords => simp [hrecords]
  · next hnone => simp [hnone]

theorem findingsPart_other {part : Section} (h : ∀ members, v ≠ .object members) :
    findingsPart part v =
      if v.isTruthy then .error (.mappingExpected part v.typeName) else .ok [] := by
  unfold findingsPart
  split
  · next members => exact absurd rfl (h members)
  · rfl

theorem listPart_other {field : String} (h : ∀ items, v ≠ .list items) :
    listPart field v = if v.isTruthy then .error (.listExpected field v.typeName) else .ok [] := by
  unfold listPart
  split
  · next items => exact absurd rfl (h items)
  · rfl

/-- The groups that a map of lists of wire findings stands for. -/
theorem FindingGroups.exists_asValue :
    (∃ groups : FindingGroups, groups.asValue = .object members) ↔
      ∀ member ∈ members, member.2.IsWireList := by
  constructor
  · rintro ⟨groups, ⟨⟩⟩ member hmember
    obtain ⟨group, -, rfl⟩ := List.mem_map.1 hmember
    exact ⟨group.2, rfl⟩
  · intro h
    obtain ⟨groups, hgroups⟩ := exists_forall₂
      (R := fun member (group : Value × List WireFinding) =>
        (group.1, Value.list (group.2.map .wire)) = member)
      fun member hmember => by
        obtain ⟨items, hitems⟩ := h member hmember
        exact ⟨(member.1, items), by rw [← hitems]⟩
    exact ⟨groups, congrArg Value.object
      ((forall₂_map_eq (f := id) (fun h => h) hgroups).trans (List.map_id _))⟩

end

namespace Report.Part

variable {part : Part} {v w : Value} {members : Members} {message : Text}

/-- Looking at the source of one part. -/
def check : Part → Value → Except AssemblyError Value
  | .groups part, v => (findingsPart part v).map FindingGroups.asValue
  | .listing part, v => (listPart part.name v).map .list

/-- Nothing is wrong with an empty map. -/
theorem accepts_object {part : Section} :
    (groups part).Accepts (.object members) ↔ ∀ member ∈ members, member.2.IsWireList := by
  constructor
  · intro h
    cases members with
    | nil => exact List.forall_mem_nil _
    | cons member members =>
      obtain ⟨_, ⟨⟩, hall⟩ := h rfl
      exact hall
  · exact fun h _ => ⟨members, rfl, h⟩

/-- A source of another form than its part passes if it is empty. -/
theorem accepts_other (h : ¬ part.Fits v) : part.Accepts v ↔ v.isTruthy = false := by
  rw [Accepts, ← Bool.not_eq_true]
  exact ⟨fun haccepts htruthy => h (haccepts htruthy), fun hfalse htruthy => absurd htruthy hfalse⟩

section
variable {cause : AssemblyError}

/-- Looking at a source of another form than its part. -/
theorem check_groups {part : Section} (h : ∀ members, v ≠ .object members) :
    (groups part).check v =
      if v.isTruthy then .error (.mappingExpected part v.typeName)
      else .ok (groups part).empty := by
  rw [check, findingsPart_other h]
  split <;> rfl

@[inherit_doc check_groups]
theorem check_listing {part : Report.Listing} (h : ∀ items, v ≠ .list items) :
    (listing part).check v =
      if v.isTruthy then .error (.listExpected part.name v.typeName)
      else .ok (listing part).empty := by
  rw [check, listPart_other h]
  split <;> rfl

theorem check_ok_of_other (h : ¬ part.Fits v)
    (hcheck : part.check v = if v.isTruthy then .error cause else .ok part.empty) :
    part.check v = .ok w ↔ part.Accepts v ∧ w = v.orElse part.empty := by
  rw [accepts_other h, hcheck, Value.orElse]
  split
  · next htruthy => simp [htruthy]
  · next hfalse => simp [hfalse, eq_comm]

theorem check_error_of_other {error : AssemblyError}
    (hcheck : part.check v = if v.isTruthy then .error cause else .ok part.empty) :
    part.check v = .error error ↔ v.isTruthy = true ∧ cause = error := by
  rw [hcheck]
  split
  · next htruthy => simp [htruthy]
  · next hfalse => simp [hfalse]

end

theorem check_ok : part.check v = .ok w ↔ part.Accepts v ∧ w = v.orElse part.empty := by
  cases part with
  | groups part =>
    by_cases hmapping : ∃ members, v = .object members
    · obtain ⟨members, rfl⟩ := hmapping
      rw [check, map_ok, empty, Value.object_orElse, accepts_object,
        ← FindingGroups.exists_asValue]
      simp only [findingsPart_object]
      constructor
      · rintro ⟨groups, hgroups, rfl⟩
        exact ⟨⟨groups, hgroups⟩, hgroups⟩
      · rintro ⟨⟨groups, hgroups⟩, rfl⟩
        exact ⟨groups, hgroups, hgroups⟩
    · have hother : ∀ members, v ≠ .object members := fun members h => hmapping ⟨members, h⟩
      have hfits : ¬ (groups part).Fits v := by
        rintro ⟨members, h, -⟩
        exact hother members h
      exact check_ok_of_other hfits (check_groups hother)
  | listing part =>
    by_cases hlist : ∃ items, v = .list items
    · obtain ⟨items, rfl⟩ := hlist
      rw [empty, Value.list_orElse, eq_comm]
      exact ⟨fun h => ⟨fun _ => ⟨items, rfl⟩, (Except.ok.inj h)⟩, fun h => congrArg Except.ok h.2⟩
    · have hother : ∀ items, v ≠ .list items := fun items h => hlist ⟨items, h⟩
      have hfits : ¬ (listing part).Fits v := hlist
      exact check_ok_of_other hfits (check_listing hother)

/-- What is wrong with a source. -/
inductive Faulty : Part → Value → AssemblyError → Prop
  | noMapping {part : Section} {v : Value} (htruthy : v.isTruthy = true)
      (hmapping : ∀ members, v ≠ .object members) :
      Faulty (.groups part) v (.mappingExpected part v.typeName)
  | badEntries {part : Section} {before after : Members} {severity items : Value}
      (hbefore : ∀ member ∈ before, member.2.IsWireList) (hitems : ¬ items.IsWireList) :
      Faulty (.groups part) (.object (before ++ (severity, items) :: after))
        (.malformedEntries part severity)
  | noList {part : Listing} {v : Value} (htruthy : v.isTruthy = true)
      (hlist : ∀ items, v ≠ .list items) :
      Faulty (.listing part) v (.listExpected part.name v.typeName)

theorem check_error {error : AssemblyError} :
    part.check v = .error error ↔ part.Faulty v error := by
  cases part with
  | groups part =>
    by_cases hmapping : ∃ members, v = .object members
    · obtain ⟨members, rfl⟩ := hmapping
      rw [check, map_error, findingsPart_object_error]
      constructor
      · rintro ⟨before, ⟨severity, items⟩, after, rfl, hbefore, hitems, rfl⟩
        exact .badEntries hbefore hitems
      · intro h
        cases h with
        | noMapping _ hmapping => exact absurd rfl (hmapping members)
        | badEntries hbefore hitems => exact ⟨_, _, _, rfl, hbefore, hitems, rfl⟩
    · have hother : ∀ members, v ≠ .object members := fun members h => hmapping ⟨members, h⟩
      rw [check_error_of_other (check_groups hother)]
      constructor
      · rintro ⟨htruthy, rfl⟩
        exact .noMapping htruthy hother
      · intro h
        cases h with
        | noMapping htruthy _ => exact ⟨htruthy, rfl⟩
        | badEntries => exact absurd rfl (hother _)
  | listing part =>
    by_cases hlist : ∃ items, v = .list items
    · obtain ⟨items, rfl⟩ := hlist
      refine iff_of_false nofun fun h => ?_
      cases h with
      | noList _ hlist => exact absurd rfl (hlist items)
    · have hother : ∀ items, v ≠ .list items := fun items h => hlist ⟨items, h⟩
      rw [check_error_of_other (check_listing hother)]
      constructor
      · rintro ⟨htruthy, rfl⟩
        exact .noList htruthy hother
      · intro h
        cases h with
        | noList htruthy _ => exact ⟨htruthy, rfl⟩

section
variable {limits : Value → Option Json.PrintError}

/-- A problem is told in its own words, unless it cannot be told. -/
theorem faulty_told :
    (∃ error, part.Faulty v error ∧
      (∃ told, Failure.ofAssemblyUnder limits error = .report (.assembly told) ∧
        told.message = message)) ↔
      part.Refuses limits v message := by
  constructor
  · rintro ⟨error, hfaulty, told, htold, rfl⟩
    cases hfaulty with
    | noMapping htruthy hmapping =>
      cases htold
      exact .noMapping htruthy hmapping
    | @badEntries _ _ _ severity _ hbefore hitems =>
      rw [Failure.ofAssemblyUnder_malformed] at htold
      cases hshown : Failure.ofShowing limits severity with
      | none =>
        rw [hshown] at htold
        cases htold
        exact .badEntries hbefore hitems hshown
      | some fault =>
        rw [hshown] at htold
        cases htold
    | noList htruthy hlist =>
      cases htold
      exact .noList htruthy hlist
  · intro h
    cases h with
    | noMapping htruthy hmapping => exact ⟨_, .noMapping htruthy hmapping, _, rfl, rfl⟩
    | @badEntries part _ _ severity _ hbefore hitems hshown =>
      refine ⟨_, .badEntries hbefore hitems, .malformedEntries part severity, ?_, rfl⟩
      rw [Failure.ofAssemblyUnder_malformed, hshown]
      rfl
    | noList htruthy hlist => exact ⟨_, .noList htruthy hlist, _, rfl, rfl⟩

theorem faulty_unshowable {fault : Json.PrintError} :
    (∃ error, part.Faulty v error ∧ Failure.ofAssemblyUnder limits error = .printing fault) ↔
      part.Unshowable limits v fault := by
  constructor
  · rintro ⟨error, hfaulty, hfault⟩
    cases hfaulty with
    | noMapping => cases hfault
    | @badEntries _ _ _ severity _ hbefore hitems =>
      rw [Failure.ofAssemblyUnder_malformed] at hfault
      cases hshown : Failure.ofShowing limits severity with
      | none =>
        rw [hshown] at hfault
        cases hfault
      | some other =>
        rw [hshown] at hfault
        cases hfault
        exact .severity hbefore hitems hshown
    | noList => cases hfault
  · rintro ⟨hbefore, hitems, hfault⟩
    refine ⟨_, .badEntries hbefore hitems, ?_⟩
    rw [Failure.ofAssemblyUnder_malformed, hfault]
    rfl

end

end Report.Part

namespace Sources

variable {sources : Sources} {identity : Identity} {report : Report} {error : AssemblyError}
  {limits : Value → Option Json.PrintError}

/-- A report is assembled of what its parts come to. -/
theorem combine_ok (h : sources.combine identity = .ok report) :
    report.identity = identity ∧
      ∀ part : Report.Part, part.check (sources.of part) = .ok (report.value part) := by
  obtain ⟨findings, hfindings, h⟩ := bind_ok.1 h
  obtain ⟨ignored, hignored, h⟩ := bind_ok.1 h
  obtain ⟨dataTypes, hdataTypes, h⟩ := bind_ok.1 h
  obtain ⟨components, hcomponents, h⟩ := bind_ok.1 h
  obtain ⟨errors, herrors, h⟩ := bind_ok.1 h
  obtain ⟨files, hfiles, ⟨⟩⟩ := bind_ok.1 h
  refine ⟨rfl, fun part => ?_⟩
  rcases part with (_ | _) | (_ | _ | _ | _)
  · exact map_ok.2 ⟨findings, hfindings, rfl⟩
  · exact map_ok.2 ⟨ignored, hignored, rfl⟩
  · exact map_ok.2 ⟨dataTypes, hdataTypes, rfl⟩
  · exact map_ok.2 ⟨components, hcomponents, rfl⟩
  · exact map_ok.2 ⟨errors, herrors, rfl⟩
  · exact map_ok.2 ⟨files, hfiles, rfl⟩

/-- The first part that is not accepted settles how assembling fails. -/
theorem combine_error : sources.combine identity = .error error ↔
    StopsAt (fun part : Report.Part => part.Accepts (sources.of part))
      (fun part => part.Faulty (sources.of part) error) Report.Part.all := by
  have hpasses (part : Report.Part) : (∃ w, part.check (sources.of part) = .ok w) ↔
      part.Accepts (sources.of part) := by
    simp [Report.Part.check_ok]
  simp only [← hpasses, ← Report.Part.check_error]
  simp only [combine, Report.assemble, bind_error, pure_ne_error, Report.Part.all, stopsAt_cons,
    not_stopsAt_nil, Report.Part.check, Report.Listing.name, of, exists_map_ok, map_error,
    exists_and_right, and_false, exists_false, or_false]

theorem combine_error_such {P : AssemblyError → Prop} :
    (∃ error, sources.combine identity = .error error ∧ P error) ↔
      StopsAt (fun part : Report.Part => part.Accepts (sources.of part))
        (fun part => ∃ error, part.Faulty (sources.of part) error ∧ P error) Report.Part.all := by
  simp only [combine_error]
  constructor
  · rintro ⟨error, ⟨before, part, after, hall, hbefore, hpart⟩, herror⟩
    exact ⟨before, part, after, hall, hbefore, error, hpart, herror⟩
  · rintro ⟨before, part, after, hall, hbefore, error, hpart, herror⟩
    exact ⟨error, ⟨before, part, after, hall, hbefore, hpart⟩, herror⟩

/-- Some problem is reported in these words, if and only if the first part that is not accepted is
refused in them. -/
theorem assemble_message {message : Text} :
    (∃ error, sources.assemble limits identity = .error (.report (.assembly error)) ∧
      error.message = message) ↔
      StopsAt (fun part : Report.Part => part.Accepts (sources.of part))
        (fun part => part.Refuses limits (sources.of part) message) Report.Part.all := by
  simp only [← Report.Part.faulty_told]
  rw [← combine_error_such]
  simp only [assemble, mapError_error]
  constructor
  · rintro ⟨told, ⟨error, herror, htold⟩, hmessage⟩
    exact ⟨error, herror, told, htold, hmessage⟩
  · rintro ⟨error, herror, told, htold, hmessage⟩
    exact ⟨told, ⟨error, herror, htold⟩, hmessage⟩

theorem assemble_printing {fault : Json.PrintError} :
    sources.assemble limits identity = .error (.printing fault) ↔
      StopsAt (fun part : Report.Part => part.Accepts (sources.of part))
        (fun part => part.Unshowable limits (sources.of part) fault) Report.Part.all := by
  simp only [← Report.Part.faulty_unshowable]
  rw [← combine_error_such, assemble, mapError_error]

theorem assemble_error_cases {failure : Failure}
    (h : sources.assemble limits identity = .error failure) :
    (∃ error, failure = .report (.assembly error)) ∨ ∃ fault, failure = .printing fault := by
  obtain ⟨cause, -, rfl⟩ := mapError_error.1 h
  cases cause with
  | malformedEntries part severity =>
    rw [Failure.ofAssemblyUnder_malformed]
    cases Failure.ofShowing limits severity with
    | none => exact .inl ⟨_, rfl⟩
    | some fault => exact .inr ⟨fault, rfl⟩
  | conversion | listExpected | mappingExpected => exact .inl ⟨_, rfl⟩

/-- Every severity is a text. -/
def NamedByText (sources : Sources) : Prop :=
  ∀ part members, sources.of (.groups part) = .object members →
    ∀ member ∈ members, ∃ t, member.1 = .str t

theorem NamedByText.not_printing (h : sources.NamedByText) {fault : Json.PrintError} :
    sources.assemble limits identity ≠ .error (.printing fault) := by
  intro hfault
  obtain ⟨part, -, hpart⟩ := (assemble_printing.1 hfault).exists_mem
  generalize hsource : sources.of part = v at hpart
  cases hpart with
  | @severity part _ _ severity items _ _ _ hunshown =>
    obtain ⟨t, rfl⟩ := h part _ hsource (severity, items) (by simp)
    cases hunshown

end Sources

/-! ### The main theorem -/

/-- **Main theorem.** Whatever the sources are, a report is assembled exactly if each of them has
the form of its part or is empty. Then it has the identity that was given, every part is like its
source, and the part of an empty source is empty. Otherwise assembling fails, and the problem says
what is wrong with the first part that is not accepted; of a map of findings it names the first
severity that has anything but a list of wire findings. If that severity cannot be shown, then this
is what assembling fails with instead. There is no other failure, and none but the first kind if the
severities are texts. -/
theorem assembly_loses_nothing (limits : Value → Option Json.PrintError) (sources : Sources)
    (identity : Identity) :
    ((∃ report, sources.assemble limits identity = .ok report) ↔
      ∀ part : Report.Part, part.Accepts (sources.of part)) ∧
    (∀ report, sources.assemble limits identity = .ok report →
      report.identity = identity ∧
        ∀ part, report.value part = (sources.of part).orElse part.empty) ∧
    (∀ message,
      (∃ error, sources.assemble limits identity = .error (.report (.assembly error)) ∧
        error.message = message) ↔
        StopsAt (fun part : Report.Part => part.Accepts (sources.of part))
          (fun part => part.Refuses limits (sources.of part) message) Report.Part.all) ∧
    (∀ fault, sources.assemble limits identity = .error (.printing fault) ↔
      StopsAt (fun part : Report.Part => part.Accepts (sources.of part))
        (fun part => part.Unshowable limits (sources.of part) fault) Report.Part.all) ∧
    ∀ failure, sources.assemble limits identity = .error failure →
      (∃ error, failure = .report (.assembly error)) ∨
        (∃ fault, failure = .printing fault) ∧ ¬ sources.NamedByText := by
  refine ⟨⟨?_, fun haccepts => ?_⟩, fun report hreport => ?_, fun message =>
    Sources.assemble_message, fun fault => Sources.assemble_printing, fun failure hfails => ?_⟩
  · rintro ⟨report, hreport⟩ part
    exact (Report.Part.check_ok.1 ((Sources.combine_ok (mapError_ok.1 hreport)).2 part)).1
  · rcases exists_ok_or_error (sources.combine identity) with ⟨report, hreport⟩ | ⟨error, herror⟩
    · exact ⟨report, mapError_ok.2 hreport⟩
    · obtain ⟨part, -, hpart⟩ := (Sources.combine_error.1 herror).exists_mem
      have hchecked := Report.Part.check_ok.2 ⟨haccepts part, rfl⟩
      rw [Report.Part.check_error.2 hpart] at hchecked
      cases hchecked
  · obtain ⟨hidentity, hparts⟩ := Sources.combine_ok (mapError_ok.1 hreport)
    exact ⟨hidentity, fun part => (Report.Part.check_ok.1 (hparts part)).2⟩
  · rcases Sources.assemble_error_cases hfails with hreported | ⟨fault, rfl⟩
    · exact .inl hreported
    · exact .inr ⟨⟨fault, rfl⟩, fun hnamed => hnamed.not_printing hfails⟩

/-- A number in the place of a finding. -/
def misfiled (severity : Value) : Sources where
  findings := .object [(severity, .list [.int 1])]
  ignored := .object []
  dataflow := ⟨.list [], .list [], .list []⟩
  files := .list []

theorem misfiled_not_reported {limits : Value → Option Json.PrintError} {severity : Value}
    {fault : Json.PrintError} (hfault : Failure.ofShowing limits severity = some fault) :
    ¬ (Report.Part.groups .findings).Accepts ((misfiled severity).of (.groups .findings)) ∧
      ∀ identity, (misfiled severity).assemble limits identity = .error (.printing fault) := by
  have hnone : ¬ (Value.list [.int 1]).IsWireList := by
    rintro ⟨_ | _, ⟨⟩⟩
  refine ⟨fun haccepts => ?_, fun identity => ?_⟩
  · exact hnone (Report.Part.accepts_object.1 haccepts _ (List.mem_singleton.2 rfl))
  · exact Sources.assemble_printing.2 (stopsAt_cons.2 (.inl
      (.severity (List.forall_mem_nil _) hnone hfault)))

/-- A number of one digit more than can be shown. -/
def longNumber : Int := 10 ^ digitLimit

theorem ofShowing_longNumber :
    Failure.ofShowing Failure.digitsTooMany (.int longNumber) = some .integerTooLong := by
  have hlong : digitLimit < (Text.ofNat (10 ^ digitLimit)).length := by
    refine Nat.lt_of_not_le fun hfits => ?_
    have hlt := (Text.length_ofNat_le (by decide)).1 hfits
    exact Nat.lt_irrefl _ ((Nat.pow_lt_pow_iff_right (by decide)).1 hlt)
  have hshown : (Value.int longNumber).isShowable = false := by
    simpa [Value.isShowable, Value.integers, longNumber, Int.natAbs_pow] using hlong
  simp only [Failure.ofShowing, Failure.digitsTooMany, hshown, Bool.false_eq_true, if_false]

/-- The severity is such a number. So the findings are not accepted, and still no problem of the
report is what assembling fails with. -/
theorem longSeverity_not_reported :
    ¬ (Report.Part.groups .findings).Accepts
        ((misfiled (.int longNumber)).of (.groups .findings)) ∧
      ∀ identity, (misfiled (.int longNumber)).assemble Failure.digitsTooMany identity =
        .error (.printing .integerTooLong) :=
  misfiled_not_reported ofShowing_longNumber

example (identity : Identity) :
    Sources.assemble
        ⟨.object [(.str "high", .list []), (.str "low", .tuple [])], .str "",
          ⟨.int 1, .null, .null⟩, .list []⟩ Failure.digitsTooMany identity =
      .error (.report (.assembly (.malformedEntries .findings (.str "low")))) := rfl

end ReportDelivery
