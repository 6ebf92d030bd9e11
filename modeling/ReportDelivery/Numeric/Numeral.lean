import ReportDelivery.Text.Blank
import ReportDelivery.Text.DecimalDigit
import ReportDelivery.Text.Quoted
import ReportDelivery.Numeric.Binary64

/-! Numbers written by people: digits of any script, white space around, single underscores
between digits.

`Text.readInt` reads an integer of at most `digitLimit` digits; `Text.readDecimal?` a decimal
number, an infinity or a NaN. -/
namespace ReportDelivery

/-- The most digits an integer may be written with. -/
def digitLimit : Nat := 4300

inductive NumeralError where
  /-- More digits than `digitLimit`. -/
  | tooLong (digits : Nat)
  | invalid (literal : Text)

/-- The diagnosis shows at most 200 code points of the quoted literal. -/
def NumeralError.message : NumeralError → Text
  | .tooLong digits =>
    "Exceeds the limit (" ++ .ofNat digitLimit
      ++ " digits) for integer string conversion: value has " ++ .ofNat digits
      ++ " digits; use sys.set_int_max_str_digits() to increase the limit"
  | .invalid literal =>
    "invalid literal for int() with base 10: " ++ (Text.quoted literal).take 200

/-! ### Digits -/

/-- Digits in a base, lowest first, joined two by two into digits in the square of the base. -/
def joinDigits (base : Nat) : List Nat → List Nat
  | low :: high :: rest => (low + base * high) :: joinDigits base rest
  | digits => digits

/-- The number with the given digits, lowest first. They are joined in as many rounds as asked for
before they are summed up, so that few products of long numbers are left. -/
def ofDigits (base : Nat) : (rounds : Nat) → List Nat → Nat
  | 0, digits => digits.foldr (fun digit n => digit + base * n) 0
  | rounds + 1, digits => ofDigits (base * base) rounds (joinDigits base digits)

theorem foldr_joinDigits (base : Nat) (digits : List Nat) :
    (joinDigits base digits).foldr (fun digit n => digit + base * base * n) 0 =
      digits.foldr (fun digit n => digit + base * n) 0 := by
  fun_induction joinDigits base digits with
  | case1 low high rest ih =>
    simp only [List.foldr_cons, ih]
    rw [Nat.mul_add, Nat.add_assoc, Nat.mul_assoc]
  | case2 digits h =>
    match digits with
    | [] => rfl
    | [digit] => simp
    | low :: high :: rest => exact absurd rfl (h low high rest)

/-- The number of rounds does not matter. -/
theorem ofDigits_eq_foldr (base rounds : Nat) (digits : List Nat) :
    ofDigits base rounds digits = digits.foldr (fun digit n => digit + base * n) 0 := by
  induction rounds generalizing base digits with
  | zero => rfl
  | succ rounds ih => rw [ofDigits, ih, foldr_joinDigits]

namespace Text

/-- The value of a row of ASCII digits. -/
def digitsValue (digits : Text) : Nat :=
  ofDigits 10 digits.length.log2 (digits.reverse.map fun c => c.digit?.getD 0)

/-- ASCII characters stay, white space becomes a space, a digit of any script becomes an ASCII
digit; anything else becomes `?`, which no number holds, and ends the text. -/
def asciiForm : Text → Text
  | [] => []
  | c :: rest =>
    if c.toNat < 0x7F then c :: asciiForm rest
    else if c.isBlank then .char ' ' :: asciiForm rest
    else match decimalDigit? c with
      | some d => .char (Char.ofNat (48 + d)) :: asciiForm rest
      | none => [.char '?']

/-- Text in ASCII is read as it stands. -/
def numeralForm (t : Text) : Text :=
  if t.all (·.toNat < 0x80) then t else asciiForm t

/-- The sign, true for minus, and what follows it. -/
def splitSign : Text → Bool × Text
  | .char '-' :: rest => (true, rest)
  | .char '+' :: rest => (false, rest)
  | t => (false, t)

/-- No underscore is first, last, or next to another one. -/
def wellSpaced : Text → Bool
  | [] => true
  | [c] => c != .char '_'
  | .char '_' :: _ => false
  | _ :: .char '_' :: .char '_' :: _ => false
  | _ :: .char '_' :: rest => wellSpaced rest && !rest.isEmpty
  | _ :: rest => wellSpaced rest

def readInt (t : Text) : Except NumeralError Int :=
  let (negative, body) := splitSign ((numeralForm t).dropWhile CodePoint.isAsciiBlank)
  let isPart := fun c : CodePoint => c.isDigit || c = .char '_'
  let part := body.takeWhile isPart
  let digits := part.filter CodePoint.isDigit
  if !wellSpaced part then .error (.invalid t)
  else if digitLimit < digits.length then .error (.tooLong digits.length)
  else if digits.isEmpty || !(body.dropWhile isPart).all CodePoint.isAsciiBlank then
    .error (.invalid t)
  else .ok (if negative then -(digitsValue digits : Int) else digitsValue digits)

/-- Every underscore stands between two digits. -/
def underscoresBetweenDigits (t : Text) : Bool :=
  (t.zip (t.drop 1)).all (fun (a, b) =>
      (b != .char '_' || a.isDigit) && (a != .char '_' || b.isDigit)) &&
    t.head? != some (.char '_') && t.getLast? != some (.char '_')

/-- The exponent after `e`: an optional sign and digits up to the end. -/
def readExponent? (t : Text) : Option Int :=
  let (negative, digits) := splitSign t
  if digits.isEmpty || !digits.all CodePoint.isDigit then none
  else some (if negative then -(digitsValue digits : Int) else digitsValue digits)

def lowerAscii (t : Text) : Text :=
  t.map fun
    | .char c => .char c.toLower
    | c => c

/-- Digits with an optional point and exponent, at least one digit before the exponent. -/
def readUnsigned? (negative : Bool) (t : Text) : Option Binary64 :=
  let whole := t.takeWhile CodePoint.isDigit
  let rest := t.dropWhile CodePoint.isDigit
  let (fraction, rest) := match rest with
    | .char '.' :: more => (more.takeWhile CodePoint.isDigit, more.dropWhile CodePoint.isDigit)
    | _ => ([], rest)
  if whole.isEmpty && fraction.isEmpty then none
  else
    let exponent? := match rest with
      | [] => some 0
      | .char 'e' :: more => readExponent? more
      | .char 'E' :: more => readExponent? more
      | _ => none
    exponent?.map fun exponent =>
      .ofDecimal negative (digitsValue (whole ++ fraction)) (exponent - fraction.length)

def readDecimal? (t : Text) : Option Binary64 :=
  let s := trimEnd CodePoint.isAsciiBlank ((numeralForm t).dropWhile CodePoint.isAsciiBlank)
  if !underscoresBetweenDigits s then none
  else
    let (negative, body) := splitSign (s.filter (· != .char '_'))
    let word := lowerAscii body
    if word = Text.ofString "inf" || word = Text.ofString "infinity" then some (.infinity negative)
    else if word = Text.ofString "nan" then some .nan
    else readUnsigned? negative body

end Text
end ReportDelivery
