import ReportDelivery.Value.Display

/-! What a value is worth where an integer, a list or an object is asked for.

The rules are generous: an integer may come as a fraction, a truth value or a numeral, a list as
anything that has items, an object as a list of pairs. What fits no rule is a `CoercionError`. -/
namespace ReportDelivery

/-- What is asked of a value that only some types can do. -/
inductive Ability where
  | lookUp
  | listMembers
  | write
  | giveFinding
  | giveIgnoreMeta
  | giveSeverityMeta
  | giveDataTypes
  | compareStart

def Ability.name : Ability → String
  | .lookUp => "get"
  | .listMembers => "items"
  | .write => "to_dict"
  | .giveFinding => "get_finding"
  | .giveIgnoreMeta => "get_ignore_meta"
  | .giveSeverityMeta => "severity_meta"
  | .giveDataTypes => "data_types"
  | .compareStart => "startswith"

inductive CoercionError where
  | numeral (error : NumeralError)
  | nanAsInteger
  | infinityAsInteger
  | notNumeric (typeName : String)
  | notIterable (typeName : String)
  /-- The item at an index of a would-be object has no items itself. -/
  | notAPair (index : Nat)
  | wrongPairLength (index length : Nat)
  | unhashableKey (typeName : String)
  | unable (typeName : String) (ability : Ability)

def CoercionError.message : CoercionError → Text
  | .numeral error => error.message
  | .nanAsInteger => "cannot convert float NaN to integer"
  | .infinityAsInteger => "cannot convert float infinity to integer"
  | .notNumeric typeName =>
    "int() argument must be a string, a bytes-like object or a real number, not '" ++ typeName
      ++ "'"
  | .notIterable typeName => "'" ++ typeName ++ "' object is not iterable"
  | .notAPair index =>
    "cannot convert dictionary update sequence element #" ++ Text.ofNat index ++ " to a sequence"
  | .wrongPairLength index length =>
    "dictionary update sequence element #" ++ Text.ofNat index ++ " has length "
      ++ Text.ofNat length ++ "; 2 is required"
  | .unhashableKey typeName => "unhashable type: '" ++ typeName ++ "'"
  | .unable typeName ability =>
    "'" ++ typeName ++ "' object has no attribute '" ++ ability.name ++ "'"

namespace Value

/-- A fraction is cut toward zero; text is read as a numeral. -/
def toInt : Value → Except CoercionError Int
  | .int i => .ok i
  | .bool b => .ok (if b then 1 else 0)
  | .float .nan => .error .nanAsInteger
  | .float (.infinity _) => .error .infinityAsInteger
  | .float (.finite negative k _) =>
    .ok (if negative then -(Binary64.whole k : Int) else Binary64.whole k)
  | .str t => t.readInt.mapError .numeral
  | v => .error (.notNumeric v.typeName)

/-- The items of a container, the keys of an object, the characters of a text. -/
def items? : Value → Option (List Value)
  | .list items => some items
  | .tuple items => some items
  | .set items => some items
  | .object members => some (Members.keys members)
  | .str t => some (t.map fun c => .str [c])
  | _ => none

def toItems (v : Value) : Except CoercionError (List Value) :=
  match v.items? with
  | some items => .ok items
  | none => .error (.notIterable v.typeName)

/-- Pairs are stored one by one, so a repeated key keeps its place and takes the later value. -/
def insertPairs (index : Nat) (members : Members) : List Value → Except CoercionError Members
  | [] => .ok members
  | item :: rest =>
    match item.items? with
    | none => .error (.notAPair index)
    | some [key, value] =>
      match key.unhashable? with
      | some typeName => .error (.unhashableKey typeName)
      | none => insertPairs (index + 1) (Members.insert key value members) rest
    | some parts => .error (.wrongPairLength index parts.length)

def toMembers : Value → Except CoercionError Members
  | .object members => .ok members
  | v => do insertPairs 0 [] (← v.toItems)

/-- The members of an object; any other value lacks `ability`. -/
def members (ability : Ability) : Value → Except CoercionError Members
  | .object members => .ok members
  | v => .error (.unable v.typeName ability)

end Value
end ReportDelivery
