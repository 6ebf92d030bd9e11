import ReportDelivery.Value.Basic

/-! Reading JSON text.

The grammar is JSON's, with `NaN`, `Infinity` and `-Infinity` as further numbers. A repeated
member keeps its first place and takes its last value. A number with a fraction or an exponent is
a float and any other an integer. A lone surrogate escape is read as that surrogate.

Every function here takes the text from some place on and returns what it read with the text that
follows, or stops with the text that starts at the offending place. -/
namespace ReportDelivery.Json

inductive Problem where
  | valueExpected
  | nameExpected
  | colonExpected
  | commaExpected
  | extraData
  | unterminatedString
  | controlCharacter
  | badEscape
  | badUnicodeEscape
  | byteOrderMark
deriving DecidableEq

inductive Stop where
  | at (problem : Problem) (rest : Text)
  | integerTooLong (digits : Nat)

def stop {α : Type} (problem : Problem) (rest : Text) : Except Stop α := .error (.at problem rest)

def isBlank : CodePoint → Bool
  | .char c => c = ' ' || c = '\t' || c = '\n' || c = '\r'
  | .surrogate _ => false

def skipBlank (t : Text) : Text := t.dropWhile isBlank

/-- What follows `word`, where the text starts with it. -/
def after? (word : String) (t : Text) : Option Text :=
  let w := Text.ofString word
  if w.isPrefixOf t then some (t.drop w.length) else none

/-! ### Strings -/

/-- The character that a one-character escape names. -/
def escaped? : CodePoint → Option Char
  | .char '"' => some '"'
  | .char '\\' => some '\\'
  | .char '/' => some '/'
  | .char 'b' => some '\x08'
  | .char 'f' => some '\x0c'
  | .char 'n' => some '\n'
  | .char 'r' => some '\r'
  | .char 't' => some '\t'
  | _ => none

/-- The number that four hexadecimal digits write, provided something follows them. -/
def unit? (a b c d : CodePoint) (rest : Text) : Option Nat :=
  if rest.isEmpty then none
  else do
    return (((← a.hexDigit?) * 16 + (← b.hexDigit?)) * 16 + (← c.hexDigit?)) * 16 + (← d.hexDigit?)

def isHigh (unit : Nat) : Bool := 0xD800 ≤ unit && unit < 0xDC00

def isLow (unit : Nat) : Bool := 0xDC00 ≤ unit && unit < 0xE000

/-- The character beyond U+FFFF that two surrogates stand for. -/
def joined (high low : Nat) : CodePoint :=
  .ofNat (0x10000 + (high - 0xD800) * 0x400 + (low - 0xDC00))

/-- What a string is written with: code points, and 16-bit numbers as escapes. -/
inductive Part where
  | plain (c : CodePoint)
  | unit (n : Nat)

/-- A high surrogate escape joins with a low one right after it; any other stands for itself. -/
def joinParts : List Part → Text
  | [] => []
  | .plain c :: rest => c :: joinParts rest
  | .unit high :: .unit low :: rest =>
    if isHigh high && isLow low then joined high low :: joinParts rest
    else .ofNat high :: joinParts (.unit low :: rest)
  | .unit n :: rest => .ofNat n :: joinParts rest

/-- The body of a string up to its closing quote. `opening` is the text from the opening quote on,
`done` what is read so far, last part first. -/
def stringFrom (opening : Text) (done : List Part) : Text → Except Stop (Text × Text)
  | [] => stop .unterminatedString opening
  | .char '"' :: rest => .ok (joinParts done.reverse, rest)
  | [.char '\\'] => stop .unterminatedString opening
  | .char '\\' :: .char 'u' :: a :: b :: c :: d :: rest =>
    match unit? a b c d rest with
    | some n => stringFrom opening (.unit n :: done) rest
    | none => stop .badUnicodeEscape (.char 'u' :: a :: b :: c :: d :: rest)
  | .char '\\' :: e :: rest =>
    match escaped? e with
    | some c => stringFrom opening (.plain c :: done) rest
    | none =>
      if e = .char 'u' then stop .badUnicodeEscape (e :: rest)
      else stop .badEscape (.char '\\' :: e :: rest)
  | c :: rest =>
    if c.toNat < 0x20 then stop .controlCharacter (c :: rest)
    else stringFrom opening (.plain c :: done) rest

/-- The string whose opening quote stands before `body`. -/
def string (body : Text) : Except Stop (Text × Text) := stringFrom (.char '"' :: body) [] body

/-! ### Numbers -/

/-- The digits before point and exponent: a lone zero, or digits that start with another one. -/
def wholeDigits (t : Text) : Text :=
  match t with
  | .char '0' :: _ => ['0']
  | _ => t.takeWhile CodePoint.isDigit

/-- The digits after a point, if it has any. -/
def fractionDigits : Text → Option (Text × Text)
  | .char '.' :: rest =>
    let digits := rest.takeWhile CodePoint.isDigit
    if digits.isEmpty then none else some (digits, rest.dropWhile CodePoint.isDigit)
  | _ => none

/-- The exponent after an `e` of either case, if it has digits. -/
def exponentPart : Text → Option (Int × Text)
  | .char c :: rest =>
    if c = 'e' || c = 'E' then
      let (negative, body) := Text.splitSign rest
      let digits := body.takeWhile CodePoint.isDigit
      let size : Int := Text.digitsValue digits
      if digits.isEmpty then none
      else some (if negative then -size else size, body.dropWhile CodePoint.isDigit)
    else none
  | _ => none

/-- A number without its sign. A point or `e` that is not followed by digits is not part of it. -/
def unsignedNumber (negative : Bool) (start t : Text) : Except Stop (Value × Text) :=
  let whole := wholeDigits t
  let rest := t.drop whole.length
  if whole.isEmpty then stop .valueExpected start
  else
    match fractionDigits rest, exponentPart rest with
    | none, none =>
      if digitLimit < whole.length then .error (.integerTooLong whole.length)
      else
        let size : Int := Text.digitsValue whole
        .ok (.int (if negative then -size else size), rest)
    | none, some (exponent, rest) =>
      .ok (.float (.ofDecimal negative (Text.digitsValue whole) exponent), rest)
    | some (fraction, rest), _ =>
      let (exponent, rest) := (exponentPart rest).getD (0, rest)
      .ok (.float (.ofDecimal negative (Text.digitsValue (whole ++ fraction))
        (exponent - fraction.length)), rest)

def number (t : Text) : Except Stop (Value × Text) :=
  match t with
  | .char '-' :: rest => unsignedNumber true t rest
  | _ => unsignedNumber false t t

/-- What is neither string, object nor array. -/
def word (t : Text) : Except Stop (Value × Text) :=
  match after? "null" t, after? "true" t, after? "false" t with
  | some rest, _, _ => .ok (.null, rest)
  | _, some rest, _ => .ok (.bool true, rest)
  | _, _, some rest => .ok (.bool false, rest)
  | _, _, _ =>
    match after? "NaN" t, after? "Infinity" t, after? "-Infinity" t with
    | some rest, _, _ => .ok (.float .nan, rest)
    | _, some rest, _ => .ok (.float (.infinity false), rest)
    | _, _, some rest => .ok (.float (.infinity true), rest)
    | _, _, _ => number t

/-! ### Values

The fuel bounds the number of calls that are open at once; `fuelFor` is more than any text
can use. -/

mutual
def value : (fuel : Nat) → Text → Except Stop (Value × Text)
  | 0, t => stop .valueExpected t
  | fuel + 1, t =>
    match t with
    | .char '"' :: rest => do
      let (s, rest) ← string rest
      return (.str s, rest)
    | .char '[' :: rest =>
      match skipBlank rest with
      | .char ']' :: rest => .ok (.list [], rest)
      | rest => elements fuel [] rest
    | .char '\x7b' :: rest =>
      match skipBlank rest with
      | .char '\x7d' :: rest => .ok (.object [], rest)
      | rest => members fuel [] rest
    | _ => word t

/-- The elements from here on; `done` holds the earlier ones, last one first. -/
def elements : (fuel : Nat) → (done : List Value) → Text → Except Stop (Value × Text)
  | 0, _, t => stop .valueExpected t
  | fuel + 1, done, t => do
    let (v, rest) ← value fuel t
    match skipBlank rest with
    | .char ']' :: rest => return (.list (v :: done).reverse, rest)
    | .char ',' :: rest => elements fuel (v :: done) (skipBlank rest)
    | rest => stop .commaExpected rest

/-- The members from here on; `done` holds the earlier ones. -/
def members : (fuel : Nat) → (done : Members) → Text → Except Stop (Value × Text)
  | 0, _, t => stop .valueExpected t
  | fuel + 1, done, t =>
    match t with
    | .char '"' :: rest => do
      let (key, rest) ← string rest
      match skipBlank rest with
      | .char ':' :: rest =>
        let (v, rest) ← value fuel (skipBlank rest)
        let done := Members.insert (.str key) v done
        match skipBlank rest with
        | .char '\x7d' :: rest => return (.object done, rest)
        | .char ',' :: rest => members fuel done (skipBlank rest)
        | rest => stop .commaExpected rest
      | rest => stop .colonExpected rest
    | t => stop .nameExpected t
end

def fuelFor (t : Text) : Nat := 2 * t.length + 2

/-- One value with blanks around it and nothing else. -/
def document (t : Text) : Except Stop Value :=
  if t.head? = some (.char '\uFEFF') then stop .byteOrderMark t
  else do
    let (v, rest) ← value (fuelFor t) (skipBlank t)
    match skipBlank rest with
    | [] => return v
    | rest => stop .extraData rest

/-! ### Errors with their place -/

inductive ReadError where
  /-- Line and column count from one, the offset from zero, all in code points. -/
  | invalid (problem : Problem) (line column offset : Nat)
  | integerTooLong (digits : Nat)

def Stop.located (whole : Text) : Stop → ReadError
  | .at problem rest =>
    let offset := whole.length - rest.length
    let before := whole.take offset
    let column := (before.reverse.takeWhile (· ≠ .char '\n')).length + 1
    .invalid problem (before.count (.char '\n') + 1) column offset
  | .integerTooLong digits => .integerTooLong digits

def read (t : Text) : Except ReadError Value := (document t).mapError (·.located t)

def Problem.message : Problem → String
  | .valueExpected => "Expecting value"
  | .nameExpected => "Expecting property name enclosed in double quotes"
  | .colonExpected => "Expecting ':' delimiter"
  | .commaExpected => "Expecting ',' delimiter"
  | .extraData => "Extra data"
  | .unterminatedString => "Unterminated string starting at"
  | .controlCharacter => "Invalid control character at"
  | .badEscape => "Invalid \\escape"
  | .badUnicodeEscape => "Invalid \\uXXXX escape"
  | .byteOrderMark => "Unexpected UTF-8 BOM (decode using utf-8-sig)"

def ReadError.message : ReadError → Text
  | .invalid problem line column offset =>
    problem.message ++ ": line " ++ Text.ofNat line ++ " column " ++ .ofNat column ++ " (char "
      ++ .ofNat offset ++ ")"
  | .integerTooLong digits => (NumeralError.tooLong digits).message

end ReportDelivery.Json
