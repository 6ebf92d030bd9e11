import ReportDelivery.Value.Basic

/-! Printing values as JSON text.

Items are separated by `", "` and a key from its value by `": "`. Only the quote, the backslash and
the characters below U+0020 are escaped, so the text holds no line end. A tuple is printed as an
array; sets and records have no JSON form, nor has an integer of more than `digitLimit` digits.

`print` has room for any value. `printWithin` is the printer where containers can stand inside each
other only so deep, as in an interpreter that limits recursion; both agree on what is not nested
deeper. -/
namespace ReportDelivery.Json

/-- A value, or a key, of a type that JSON does not know, an integer that is too long, or, where
there is little room, a value that is nested too deep. -/
inductive PrintError where
  | value (typeName : String)
  | key (typeName : String)
  | integerTooLong
  | tooDeep

def PrintError.message : PrintError → Text
  | .value typeName => "Object of type " ++ typeName ++ " is not JSON serializable"
  | .key typeName => "keys must be str, int, float, bool or None, not " ++ typeName
  | .integerTooLong =>
    "Exceeds the limit (" ++ Text.ofNat digitLimit
      ++ " digits) for integer string conversion; use sys.set_int_max_str_digits() to increase the "
      ++ "limit"
  | .tooDeep => "maximum recursion depth exceeded while encoding a JSON object"

def escape : CodePoint → Text
  | .char '"' => "\\\""
  | .char '\\' => "\\\\"
  | .char '\n' => "\\n"
  | .char '\r' => "\\r"
  | .char '\t' => "\\t"
  | .char '\x08' => "\\b"
  | .char '\x0c' => "\\f"
  | c => if c.toNat < 0x20 then "\\u" ++ Text.ofHex 4 c.toNat else [c]

def printString (t : Text) : Text := .char '"' :: t.flatMap escape ++ [.char '"']

def printFloat : Binary64 → Text
  | .nan => "NaN"
  | .infinity negative => if negative then "-Infinity" else "Infinity"
  | .finite negative k _ => Binary64.finiteText negative k

/-- An integer has at most as many digits as can be read. -/
def printInt (i : Int) : Except PrintError Text :=
  if digitLimit < (Text.ofNat i.natAbs).length then .error .integerTooLong else .ok (.ofInt i)

def printBool (b : Bool) : Text := if b then "true" else "false"

/-- A key that is no text is written as the text of its value. -/
def printKey : Value → Except PrintError Text
  | .str t => .ok (printString t)
  | .null => .ok (printString "null")
  | .bool b => .ok (printString (printBool b))
  | .int i => (printInt i).map printString
  | .float x => .ok (printString (printFloat x))
  | v => .error (.key v.typeName)

mutual
/-- Prints a value, with room for however many containers inside each other. -/
def print : Value → Except PrintError Text
  | .null => .ok "null"
  | .bool b => .ok (printBool b)
  | .int i => printInt i
  | .float x => .ok (printFloat x)
  | .str t => .ok (printString t)
  | .list items => return "[" ++ Text.join ", " (← printAll items) ++ "]"
  | .tuple items => return "[" ++ Text.join ", " (← printAll items) ++ "]"
  | .object members => return "\x7b" ++ Text.join ", " (← printMembers members) ++ "\x7d"
  | v => .error (.value v.typeName)

def printAll : List Value → Except PrintError (List Text)
  | [] => .ok []
  | item :: items => return (← print item) :: (← printAll items)

def printMembers : List (Value × Value) → Except PrintError (List Text)
  | [] => .ok []
  | (key, v) :: members => do
    let member := (← printKey key) ++ ": " ++ (← print v)
    return member :: (← printMembers members)
end

mutual
/-- Prints a value where there is room for so many containers inside each other. -/
def printWithin (room : Nat) : Value → Except PrintError Text
  | .list items =>
    if room = 0 then .error .tooDeep
    else return "[" ++ Text.join ", " (← printAllWithin (room - 1) items) ++ "]"
  | .tuple items =>
    if room = 0 then .error .tooDeep
    else return "[" ++ Text.join ", " (← printAllWithin (room - 1) items) ++ "]"
  | .object members =>
    if room = 0 then .error .tooDeep
    else return "\x7b" ++ Text.join ", " (← printMembersWithin (room - 1) members) ++ "\x7d"
  | v => print v

def printAllWithin (room : Nat) : List Value → Except PrintError (List Text)
  | [] => .ok []
  | item :: items => return (← printWithin room item) :: (← printAllWithin room items)

def printMembersWithin (room : Nat) : List (Value × Value) → Except PrintError (List Text)
  | [] => .ok []
  | (key, v) :: members => do
    let member := (← printKey key) ++ ": " ++ (← printWithin room v)
    return member :: (← printMembersWithin room members)
end

end ReportDelivery.Json
