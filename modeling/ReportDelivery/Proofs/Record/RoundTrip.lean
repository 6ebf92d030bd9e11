import ReportDelivery.Proofs.Outcome
import ReportDelivery.Proofs.Value.Plain
import ReportDelivery.Record.Decode
import ReportDelivery.Record.Encode

/-! Written records read back.

A record writes every member under a name of its own, in a form that the reader takes as it is: a
text for a text, a list for a list, an integer for an integer, and for an empty or zero one the
value that a missing member stands for. So each record comes back as it was. The severity record of
a wire finding is written in place of the finding's own, so it comes back if the two agree. -/
namespace ReportDelivery

/-! ### Members by name -/

theorem ofString_inj {a b : String} : Text.ofString a = Text.ofString b ↔ a = b := by
  constructor
  · intro h
    have hchars : a.toList = b.toList := by
      refine List.map_injective_iff.2 ?_ h
      intro c d hcd
      exact CodePoint.char.inj hcd
    exact String.toList_inj.1 hchars
  · rintro rfl
    rfl

namespace Members

variable (name key : String) (v : Value) (members : Members)

@[simp] theorem get_nil : get [] key = .null := rfl

/-- Looking one name up among members that were written under others. -/
@[simp] theorem get_ofString_cons :
    get ((.str (Text.ofString name), v) :: members) key =
      if name = key then v else get members key := by
  simp only [get_cons, ofString_inj]

@[simp] theorem text_cons :
    text ((.str (Text.ofString name), v) :: members) key =
      if name = key then (v.orElse (.str [])).display else text members key := by
  simp only [text, get_ofString_cons]
  split <;> rfl

@[simp] theorem int_cons :
    int ((.str (Text.ofString name), v) :: members) key =
      if name = key then (v.orElse (.int 0)).toInt else int members key := by
  simp only [int, get_ofString_cons]
  split <;> rfl

@[simp] theorem items_cons :
    items ((.str (Text.ofString name), v) :: members) key =
      if name = key then (v.orElse (.list [])).toItems else items members key := by
  simp only [items, get_ofString_cons]
  split <;> rfl

/-- Members under names that are written down as different ones. -/
theorem named_ofStrings {members : Members} (names : List String)
    (hkeys : keys members = names.map fun name => .str (Text.ofString name))
    (hdistinct : names.Nodup) : Named members := by
  refine ⟨?_, ?_⟩
  · intro key hkey
    rw [hkeys] at hkey
    obtain ⟨name, -, rfl⟩ := List.mem_map.1 hkey
    exact ⟨_, rfl⟩
  · rw [hkeys]
    refine hdistinct.map ?_
    intro a b hab
    exact ofString_inj.1 (Value.str.inj hab)

end Members

namespace Value

@[simp] theorem display_orElse (t : Text) : ((str t).orElse (.str [])).display = t := by
  cases t <;> rfl

@[simp] theorem toInt_orElse (i : Int) : ((int i).orElse (.int 0)).toInt = .ok i := by
  by_cases h : i = 0 <;> simp [orElse, isTruthy, toInt, h]

@[simp] theorem toItems_orElse (items : List Value) :
    ((list items).orElse (.list [])).toItems = .ok items := by
  cases items <;> rfl

@[simp] theorem object_orElse (members : Members) :
    (object members).orElse (.object []) = .object members := by
  cases members <;> rfl

theorem list_orElse (items : List Value) :
    (list items).orElse (.list []) = .list items := by
  cases items <;> rfl

end Value

/-! ### Severity records -/

namespace SeverityMetaOf

theorem ofValue_toValue (record : SeverityMeta) : ofValue record.toValue = .ok record := by
  simp [toValue, ofValue, Value.members]

@[simp] theorem toValue_orElse (record : SeverityMeta) :
    record.toValue.orElse (.object []) = record.toValue := Value.object_orElse _

/-- Members that the report does not interpret are JSON values, and integers can be read. -/
structure IsJson (record : SeverityMeta) : Prop where
  dataCategories : (Value.list record.dataCategories).IsJson
  hasLocalDataTypes : record.hasLocalDataTypes.IsJson
  dataCategoryWeighting : Readable record.dataCategoryWeighting
  ruleSeverityWeighting : Readable record.ruleSeverityWeighting
  triggerWeighting : Readable record.triggerWeighting
  displayExtras : (Value.list record.displayExtras).IsJson

theorem IsJson.toValue {record : SeverityMeta} (h : record.IsJson) : record.toValue.IsJson := by
  refine .object (Members.named_ofStrings ["rule_severity", "sensitive_data_categories",
    "has_local_data_types", "sensitive_data_category_weighting", "rule_severity_weighting",
    "trigger_weighting", "display_extras"] rfl (by decide)) ?_
  simp [Value.IsJson.str, Value.IsJson.int, h.dataCategories, h.hasLocalDataTypes,
    h.dataCategoryWeighting, h.ruleSeverityWeighting, h.triggerWeighting, h.displayExtras]

end SeverityMetaOf

/-! ### Ignore records -/

namespace IgnoreMetaOf

theorem ofMembers_toMembers (record : IgnoreMeta) : ofMembers record.toMembers = record := by
  simp [toMembers, ofMembers, Value.isTruthy]

structure IsJson (record : IgnoreMeta) : Prop where
  author : record.author.IsJson
  comment : record.comment.IsJson

theorem IsJson.toMembers {record : IgnoreMeta} (h : record.IsJson) :
    (Value.object record.toMembers).IsJson := by
  refine .object (Members.named_ofStrings ["ignored_at", "author", "comment", "false_positive"]
    rfl (by decide)) ?_
  simp [IgnoreMetaOf.toMembers, Value.IsJson.str, Value.IsJson.bool, h.author, h.comment]

end IgnoreMetaOf

/-! ### Findings -/

namespace FindingOf

/-- Members that the finding does not write may stand behind its own. -/
theorem ofMembers_append (record : Finding) (others : Members) :
    ofMembers (record.toMembers ++ others) = .ok record := by
  simp [toMembers, ofMembers, SeverityMetaOf.ofValue_toValue]

theorem get_append (record : Finding) (others : Members) :
    Members.get (record.toMembers ++ others) "ignore_meta" = Members.get others "ignore_meta" := by
  simp [toMembers]

structure IsJson (record : Finding) : Prop where
  lineNumber : Readable record.lineNumber
  severityMeta : record.severityMeta.IsJson

/-- The names a finding's members are written under. -/
def names : List String := ["id", "title", "description", "documentation_url", "severity",
  "filename", "full_filename", "line_number", "fingerprint", "code_extract", "severity_meta"]

theorem keys_toMembers (record : Finding) :
    Members.keys record.toMembers = names.map fun name => .str (Text.ofString name) := rfl

theorem IsJson.values {record : Finding} (h : record.IsJson) :
    ∀ member ∈ record.toMembers, member.2.IsJson := by
  simp [toMembers, Value.IsJson.str, Value.IsJson.int, h.lineNumber, h.severityMeta.toValue]

end FindingOf

/-! ### Wire findings -/

namespace WireFindingOf

/-- The wire form of a finding that is reported, or of one that is ignored. -/
inductive Plain : WireFinding → Prop
  | active {finding : Finding} (hfinding : finding.IsJson) :
    Plain ⟨.finding finding, finding.severityMeta, .null⟩
  | ignored {finding : Finding} {record : IgnoreMeta} (hfinding : finding.IsJson)
      (hrecord : record.IsJson) :
    Plain ⟨.finding finding, finding.severityMeta, .ignoreMeta record⟩

/-- The severity record is the finding's own already. -/
theorem insert_severityMeta (finding : Finding) :
    Members.insert (.str "severity_meta") finding.severityMeta.toValue finding.toMembers =
      finding.toMembers := by
  simp [FindingOf.toMembers, Members.insert, Members.sameKey_str, ofString_inj]

theorem toMembers_active (finding : Finding) :
    toMembers ⟨.finding finding, finding.severityMeta, .null⟩ = .ok finding.toMembers :=
  congrArg Except.ok (insert_severityMeta finding)

theorem toMembers_ignored (finding : Finding) (record : IgnoreMeta) :
    toMembers ⟨.finding finding, finding.severityMeta, .ignoreMeta record⟩ =
      .ok (finding.toMembers ++ [(.str "ignore_meta", .object record.toMembers)]) := by
  have hinsert : Members.insert (.str "ignore_meta") (.object record.toMembers)
      finding.toMembers = finding.toMembers ++ [(.str "ignore_meta", .object record.toMembers)] := by
    simp [FindingOf.toMembers, Members.insert, Members.sameKey_str, ofString_inj]
  rw [← hinsert, ← insert_severityMeta]
  rfl

theorem ofValue_active (finding : Finding) :
    ofValue (.object finding.toMembers) =
      .ok ⟨.finding finding, finding.severityMeta, .null⟩ := by
  have hfinding := finding.ofMembers_append []
  have hmissing := finding.get_append []
  rw [List.append_nil] at hfinding hmissing
  simp [ofValue, Value.members, hfinding, hmissing, Value.isTruthy]

theorem ofValue_ignored (finding : Finding) (record : IgnoreMeta) :
    ofValue (.object (finding.toMembers ++ [(.str "ignore_meta", .object record.toMembers)])) =
      .ok ⟨.finding finding, finding.severityMeta, .ignoreMeta record⟩ := by
  have htruthy : (Value.object record.toMembers).isTruthy = true := rfl
  simp [ofValue, Value.members, FindingOf.ofMembers_append, FindingOf.get_append, htruthy,
    IgnoreMetaOf.ofValue, IgnoreMetaOf.ofMembers_toMembers]

/-- A wire finding is written, and read from what it writes. -/
theorem Plain.roundTrip {record : WireFinding} (h : record.Plain) :
    ∃ v, record.toValue = .ok v ∧ v.IsJson ∧ ofValue v = .ok record := by
  cases h with
  | @active finding hfinding =>
    refine ⟨.object finding.toMembers, ?_, ?_, ofValue_active finding⟩
    · rw [toValue, toMembers_active]
      rfl
    · exact .object (Members.named_ofStrings _ finding.keys_toMembers (by decide)) hfinding.values
  | @ignored finding ignoreMeta hfinding hrecord =>
    refine ⟨_, ?_, ?_, ofValue_ignored finding ignoreMeta⟩
    · rw [toValue, toMembers_ignored]
      rfl
    · refine .object (Members.named_ofStrings (FindingOf.names ++ ["ignore_meta"]) ?_ (by decide)) ?_
      · rw [List.map_append, ← finding.keys_toMembers]
        exact List.map_append
      · intro member hmember
        rcases List.mem_append.1 hmember with hown | hlast
        · exact hfinding.values member hown
        · rw [List.mem_singleton.1 hlast]
          exact hrecord.toMembers

end WireFindingOf
end ReportDelivery
