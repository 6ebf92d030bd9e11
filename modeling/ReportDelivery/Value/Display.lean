import ReportDelivery.Value.Basic

/-! Values as diagnostics and text members show them.

A text shows itself; inside a container or record it is quoted. Numbers show the shortest text
that reads back, but an integer of more than `digitLimit` digits cannot be shown (`isShowable`). -/
namespace ReportDelivery.Value

/-- `open`, the parts separated by commas, and `close`. -/
def enclosed (opening : Text) (parts : List Text) (closing : Text) : Text :=
  opening ++ Text.join ", " parts ++ closing

/-- A record shows its name and each member by name. -/
def recordText (name : Text) (members : List (Text × Text)) : Text :=
  enclosed (name ++ "(") (members.map fun (n, v) => n ++ "=" ++ v) ")"

def boolText (b : Bool) : Text := if b then "True" else "False"

mutual
/-- A value as it stands inside another one. -/
def shown : Value → Text
  | .null => "None"
  | .bool b => boolText b
  | .int i => .ofInt i
  | .float x => x.text
  | .str t => t.quoted
  | .list items => enclosed "[" (shownAll items) "]"
  | .tuple [item] => "(" ++ shown item ++ ",)"
  | .tuple items => enclosed "(" (shownAll items) ")"
  | .set [] => "set()"
  | .set items => enclosed "\x7b" (shownAll items) "\x7d"
  | .object members => enclosed "\x7b" (shownMembers members) "\x7d"
  | .ignoreMeta record => shownIgnoreMeta record
  | .finding record => shownFinding record
  | .ignored base record =>
    recordText "IgnoredFinding"
      [("finding", shownFinding base), ("ignore_meta", shownIgnoreMeta record)]
  | .wire ⟨base, severityMeta, record⟩ =>
    recordText "SaasFinding"
      [("finding", shown base), ("severity_meta", shownSeverityMeta severityMeta),
        ("ignore_meta", shown record)]
  | .dataflow ⟨dataTypes, components, errors⟩ =>
    recordText "Dataflow"
      [("data_types", shown dataTypes), ("components", shown components), ("errors", shown errors)]
  | .wrapped _ _ => "<Wrapped object>"

def shownAll : List Value → List Text
  | [] => []
  | item :: items => shown item :: shownAll items

def shownMembers : List (Value × Value) → List Text
  | [] => []
  | (key, value) :: members => (shown key ++ ": " ++ shown value) :: shownMembers members

def shownSeverityMeta : SeverityMetaOf Value → Text
  | ⟨ruleSeverity, dataCategories, hasLocalDataTypes, dataCategoryWeighting,
      ruleSeverityWeighting, triggerWeighting, displayExtras⟩ =>
    recordText "SeverityMeta"
      [("rule_severity", ruleSeverity.quoted),
        ("sensitive_data_categories", enclosed "[" (shownAll dataCategories) "]"),
        ("has_local_data_types", shown hasLocalDataTypes),
        ("sensitive_data_category_weighting", .ofInt dataCategoryWeighting),
        ("rule_severity_weighting", .ofInt ruleSeverityWeighting),
        ("trigger_weighting", .ofInt triggerWeighting),
        ("display_extras", enclosed "[" (shownAll displayExtras) "]")]

def shownIgnoreMeta : IgnoreMetaOf Value → Text
  | ⟨ignoredAt, author, comment, falsePositive⟩ =>
    recordText "IgnoreMeta"
      [("ignored_at", ignoredAt.quoted), ("author", shown author), ("comment", shown comment),
        ("false_positive", boolText falsePositive)]

def shownFinding : FindingOf Value → Text
  | ⟨ruleId, title, severity, filename, lineNumber, fingerprint, description, documentationUrl,
      fullFilename, codeExtract, severityMeta⟩ =>
    recordText "Finding"
      [("rule_id", ruleId.quoted), ("title", title.quoted), ("severity", severity.quoted),
        ("filename", filename.quoted), ("line_number", .ofInt lineNumber),
        ("fingerprint", fingerprint.quoted), ("description", description.quoted),
        ("documentation_url", documentationUrl.quoted), ("full_filename", fullFilename.quoted),
        ("code_extract", codeExtract.quoted), ("severity_meta", shownSeverityMeta severityMeta)]
end

/-- The text of a value: itself for a text. -/
def display : Value → Text
  | .str t => t
  | v => shown v

/-! ### What cannot be shown -/

mutual
/-- The integers in what a value shows. -/
def integers : Value → List Int
  | .int i => [i]
  | .list items => integersAll items
  | .tuple items => integersAll items
  | .set items => integersAll items
  | .object members => integersMembers members
  | .ignoreMeta record => integersIgnoreMeta record
  | .finding record => integersFinding record
  | .ignored base record => integersFinding base ++ integersIgnoreMeta record
  | .wire ⟨base, severityMeta, record⟩ =>
    integers base ++ integersSeverityMeta severityMeta ++ integers record
  | .dataflow ⟨dataTypes, components, errors⟩ =>
    integers dataTypes ++ integers components ++ integers errors
  | _ => []

def integersAll : List Value → List Int
  | [] => []
  | item :: items => integers item ++ integersAll items

def integersMembers : List (Value × Value) → List Int
  | [] => []
  | (key, value) :: members => integers key ++ integers value ++ integersMembers members

def integersSeverityMeta : SeverityMetaOf Value → List Int
  | ⟨_, dataCategories, hasLocalDataTypes, dataCategoryWeighting, ruleSeverityWeighting,
      triggerWeighting, displayExtras⟩ =>
    [dataCategoryWeighting, ruleSeverityWeighting, triggerWeighting] ++
      integersAll dataCategories ++ integers hasLocalDataTypes ++ integersAll displayExtras

def integersIgnoreMeta : IgnoreMetaOf Value → List Int
  | ⟨_, author, comment, _⟩ => integers author ++ integers comment

def integersFinding : FindingOf Value → List Int
  | ⟨_, _, _, _, lineNumber, _, _, _, _, _, severityMeta⟩ =>
    lineNumber :: integersSeverityMeta severityMeta
end

/-- No integer in what the value shows is too long. -/
def isShowable (v : Value) : Bool :=
  v.integers.all fun i => (Text.ofNat i.natAbs).length ≤ digitLimit

end ReportDelivery.Value
