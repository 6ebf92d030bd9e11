import ReportDelivery.Proofs.Record.RoundTrip
import ReportDelivery.Proofs.Value.Coerce

/-! Records read from JSON values.

Whatever JSON value a record is read from, the record can be written again: its integers are short
enough and the members that it keeps as they are come from the value. -/
namespace ReportDelivery

/-! ### Members -/

namespace Members

variable {members : Members} (h : (Value.object members).IsJson)
include h

theorem int_readable {name : String} {i : Int} (hi : int members name = .ok i) : Readable i :=
  ((h.get name).orElse (.int (by decide))).toInt hi

theorem items_isJson {name : String} {items : List Value}
    (hitems : Members.items members name = .ok items) : (Value.list items).IsJson :=
  ((h.get name).orElse (.list (by simp))).toItems hitems

end Members

/-! ### Records -/

/-- A value with members is an object. -/
theorem Value.members_ok {ability : Ability} {v : Value} {members : Members} :
    v.members ability = .ok members ↔ v = .object members := by
  constructor
  · intro h
    cases v with
    | object others =>
      cases h
      rfl
    | _ => cases h
  · rintro rfl
    rfl

theorem SeverityMetaOf.ofValue_isJson {v : Value} (hv : v.IsJson) {record : SeverityMeta}
    (h : SeverityMetaOf.ofValue v = .ok record) : record.IsJson := by
  obtain ⟨members, hmembers, hread⟩ := bind_ok.1 h
  obtain rfl := Value.members_ok.1 hmembers
  obtain ⟨dataCategories, hcategories, h⟩ := bind_ok.1 hread
  obtain ⟨dataCategoryWeighting, hcategory, h⟩ := bind_ok.1 h
  obtain ⟨ruleSeverityWeighting, hrule, h⟩ := bind_ok.1 h
  obtain ⟨triggerWeighting, htrigger, h⟩ := bind_ok.1 h
  obtain ⟨displayExtras, hextras, ⟨⟩⟩ := bind_ok.1 h
  exact ⟨Members.items_isJson hv hcategories, hv.get _, Members.int_readable hv hcategory,
    Members.int_readable hv hrule, Members.int_readable hv htrigger,
    Members.items_isJson hv hextras⟩

theorem IgnoreMetaOf.ofMembers_isJson {members : Members} (h : (Value.object members).IsJson) :
    (IgnoreMetaOf.ofMembers members).IsJson :=
  ⟨h.get "author", h.get "comment"⟩

theorem FindingOf.ofMembers_isJson {members : Members} (hv : (Value.object members).IsJson)
    {record : Finding} (h : FindingOf.ofMembers members = .ok record) : record.IsJson := by
  obtain ⟨lineNumber, hline, h⟩ := bind_ok.1 h
  obtain ⟨severityMeta, hmeta, ⟨⟩⟩ := bind_ok.1 h
  exact ⟨Members.int_readable hv hline,
    SeverityMetaOf.ofValue_isJson ((hv.get _).orElse Value.isJson_empty) hmeta⟩

theorem WireFindingOf.ofValue_plain {v : Value} (hv : v.IsJson) {record : WireFinding}
    (h : WireFindingOf.ofValue v = .ok record) : record.Plain := by
  obtain ⟨members, hmembers, hread⟩ := bind_ok.1 h
  obtain rfl := Value.members_ok.1 hmembers
  obtain ⟨finding, hfinding, h⟩ := bind_ok.1 hread
  have hplain := FindingOf.ofMembers_isJson hv hfinding
  dsimp only at h
  split at h
  · obtain ⟨_, hignore, ⟨⟩⟩ := bind_ok.1 h
    obtain ⟨ignored, hignored, rfl⟩ := map_ok.1 hignore
    obtain ⟨others, hothers, rfl⟩ := map_ok.1 hignored
    have hobject := hv.get "ignore_meta"
    rw [Value.members_ok.1 hothers] at hobject
    exact .ignored hplain (IgnoreMetaOf.ofMembers_isJson hobject)
  · cases h
    exact .active hplain

end ReportDelivery
