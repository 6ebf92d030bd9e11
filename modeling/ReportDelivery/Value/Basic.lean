import ReportDelivery.Numeric.Numeral
import ReportDelivery.Numeric.Shortest

/-! Values that scan results are made of.

Scanners hand over JSON, and members the report does not interpret keep whatever value they have.
Between the scanner and the report the same containers also carry finished records, so one type
holds the JSON values, two containers JSON lacks, and the records of `FindingOf` and its kin.
The records are given over the type of their opaque members and tied to `Value` here. -/
namespace ReportDelivery

/-- How a finding's severity came about. -/
structure SeverityMetaOf (α : Type) where
  ruleSeverity : Text
  dataCategories : List α
  hasLocalDataTypes : α
  dataCategoryWeighting : Int
  ruleSeverityWeighting : Int
  triggerWeighting : Int
  displayExtras : List α

/-- Why and by whom a finding was ignored. -/
structure IgnoreMetaOf (α : Type) where
  ignoredAt : Text
  author : α
  comment : α
  falsePositive : Bool

/-- One place in the scanned code where a rule applies. -/
structure FindingOf (α : Type) where
  ruleId : Text
  title : Text
  severity : Text
  filename : Text
  lineNumber : Int
  fingerprint : Text
  description : Text
  documentationUrl : Text
  fullFilename : Text
  codeExtract : Text
  severityMeta : SeverityMetaOf α

/-- A finding as the collector receives it. Its `finding` is a value that writes the finding's
members; `ignoreMeta` is null unless the finding was ignored. -/
structure WireFindingOf (α : Type) where
  finding : α
  severityMeta : SeverityMetaOf α
  ignoreMeta : α

/-- What the scan learned about data in the code. -/
structure DataflowOf (α : Type) where
  dataTypes : α
  components : α
  errors : α

inductive Value where
  | null
  | bool (b : Bool)
  | int (i : Int)
  | float (x : Binary64)
  | str (t : Text)
  | list (items : List Value)
  | tuple (items : List Value)
  | set (items : List Value)
  /-- Members in insertion order, no two with the same key. -/
  | object (members : List (Value × Value))
  | ignoreMeta (record : IgnoreMetaOf Value)
  | finding (record : FindingOf Value)
  | ignored (finding : FindingOf Value) (record : IgnoreMetaOf Value)
  | wire (record : WireFindingOf Value)
  | dataflow (record : DataflowOf Value)
  /-- Something from outside that answers with a finding and an ignore record and is neither. -/
  | wrapped (finding : Value) (ignoreMeta : Value)

abbrev SeverityMeta := SeverityMetaOf Value
abbrev IgnoreMeta := IgnoreMetaOf Value
abbrev Finding := FindingOf Value
abbrev WireFinding := WireFindingOf Value
abbrev Dataflow := DataflowOf Value
abbrev Members := List (Value × Value)

namespace Value

instance : Inhabited Value := ⟨.null⟩
instance : Coe Text Value := ⟨.str⟩

/-- What diagnostics call the kind of a value. -/
def typeName : Value → String
  | .null => "NoneType"
  | .bool _ => "bool"
  | .int _ => "int"
  | .float _ => "float"
  | .str _ => "str"
  | .list _ => "list"
  | .tuple _ => "tuple"
  | .set _ => "set"
  | .object _ => "dict"
  | .ignoreMeta _ => "IgnoreMeta"
  | .finding _ => "Finding"
  | .ignored _ _ => "IgnoredFinding"
  | .wire _ => "SaasFinding"
  | .dataflow _ => "Dataflow"
  | .wrapped _ _ => "Wrapped"

/-- False for null, false, zero and everything empty; true for any record. -/
def isTruthy : Value → Bool
  | .null => false
  | .bool b => b
  | .int i => i != 0
  | .float x => !x.isZero
  | .str t => !t.isEmpty
  | .list items => !items.isEmpty
  | .tuple items => !items.isEmpty
  | .set items => !items.isEmpty
  | .object members => !members.isEmpty
  | _ => true

/-- The value, or `default` in place of a value that is not truthy. -/
def orElse (v default : Value) : Value := if v.isTruthy then v else default

/-! ### Keys -/

/-- An integer where the number is one, so that `1`, `1.0` and true are one key. -/
inductive Number where
  | whole (i : Int)
  | other (x : Binary64)

def number? : Value → Option Number
  | .bool b => some (.whole (if b then 1 else 0))
  | .int i => some (.whole i)
  | .float x => some (match x.toInt? with
    | some i => .whole i
    | none => .other x)
  | _ => none

def Number.same : Number → Number → Bool
  | .whole i, .whole j => i == j
  | .other x, .other y => x.sameValue y
  | _, _ => false

mutual
/-- Whether two values are one and the same key. -/
def sameKey : Value → Value → Bool
  | .null, .null => true
  | .str s, .str t => s == t
  | .tuple xs, .tuple ys => sameKeys xs ys
  | v, w => match v.number?, w.number? with
    | some a, some b => a.same b
    | _, _ => false

def sameKeys : List Value → List Value → Bool
  | [], [] => true
  | x :: xs, y :: ys => sameKey x y && sameKeys xs ys
  | _, _ => false
end

mutual
/-- The type that keeps a value from being a key, if one does: a container that can change,
possibly inside a tuple or record. -/
def unhashable? : Value → Option String
  | .list _ => some "list"
  | .set _ => some "set"
  | .object _ => some "dict"
  | .tuple items => firstUnhashable? items
  | .ignoreMeta m => (unhashable? m.author).or (unhashable? m.comment)
  | .finding _ => some "list"
  | .ignored _ _ => some "list"
  | .wire _ => some "list"
  | .dataflow d =>
    (unhashable? d.dataTypes).or ((unhashable? d.components).or (unhashable? d.errors))
  | _ => none

def firstUnhashable? : List Value → Option String
  | [] => none
  | x :: xs => (unhashable? x).or (firstUnhashable? xs)
end

end Value

/-! ### Members -/

namespace Members

/-- The value stored under `key`. -/
def get? (members : Members) (key : Value) : Option Value :=
  (members.find? fun member => member.1.sameKey key).map (·.2)

/-- The value under a name, null where there is none. -/
def get (members : Members) (name : String) : Value :=
  (members.get? (.str name)).getD .null

/-- A key keeps its first place and spelling; its last value counts. -/
def insert (key value : Value) : Members → Members
  | [] => [(key, value)]
  | member :: rest =>
    if member.1.sameKey key then (member.1, value) :: rest
    else member :: insert key value rest

def keys (members : Members) : List Value := members.map (·.1)

end Members
end ReportDelivery
