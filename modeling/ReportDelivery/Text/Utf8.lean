import ReportDelivery.Text.Basic

/-! UTF-8.

`segments` cuts bytes into encoded characters and the shortest spans that no encoded character
can start with; strict decoding stops at the first such span and lenient decoding puts U+FFFD
for each. Encoding refuses lone surrogates. -/
namespace ReportDelivery.Utf8

def encodeChar (c : Char) : Bytes :=
  let n := c.toNat
  if n < 0x80 then [.ofNat n]
  else if n < 0x800 then [.ofNat (0xC0 + n / 64), .ofNat (0x80 + n % 64)]
  else if n < 0x10000 then
    [.ofNat (0xE0 + n / 4096), .ofNat (0x80 + n / 64 % 64), .ofNat (0x80 + n % 64)]
  else
    [.ofNat (0xF0 + n / 262144), .ofNat (0x80 + n / 4096 % 64),
      .ofNat (0x80 + n / 64 % 64), .ofNat (0x80 + n % 64)]

/-- Why text has no UTF-8 form: its first run of adjacent surrogates. -/
structure EncodeError where
  position : Nat
  first : Fin 2048
  /-- How many surrogates follow the first one at once. -/
  following : Nat

/-- The number of surrogates at the start. -/
def surrogateRun : Text → Nat
  | .surrogate _ :: rest => surrogateRun rest + 1
  | _ => 0

def encodeFrom (position : Nat) : Text → Except EncodeError Bytes
  | [] => .ok []
  | .char c :: rest => return encodeChar c ++ (← encodeFrom (position + 1) rest)
  | .surrogate i :: rest => .error ⟨position, i, surrogateRun rest⟩

def encode (t : Text) : Except EncodeError Bytes := encodeFrom 0 t

inductive Reason where
  | startByte
  | continuationByte
  | endOfData
deriving DecidableEq

inductive Segment where
  | scalar (c : Char)
  | invalid (span : Bytes) (reason : Reason)

def isContinuation (b : UInt8) : Bool := 0x80 ≤ b && b < 0xC0

/-- Whether `b` may follow the lead byte: a continuation byte that makes the form neither longer
than needed, nor a surrogate, nor beyond U+10FFFF. -/
def mayFollow (lead b : UInt8) : Bool :=
  isContinuation b &&
    (lead != 0xE0 || 0xA0 ≤ b) && (lead != 0xED || b < 0xA0) &&
    (lead != 0xF0 || 0x90 ≤ b) && (lead != 0xF4 || b < 0x90)

/-- The bits that a continuation byte carries. -/
def payload (b : UInt8) : Nat := b.toNat - 0x80

def segments : Bytes → List Segment
  | [] => []
  | lead :: rest =>
    if lead < 0x80 then .scalar (Char.ofNat lead.toNat) :: segments rest
    else if lead < 0xC2 || 0xF4 < lead then .invalid [lead] .startByte :: segments rest
    else match rest with
      | [] => [.invalid [lead] .endOfData]
      | b :: rest₁ =>
        if !mayFollow lead b then .invalid [lead] .continuationByte :: segments (b :: rest₁)
        else if lead < 0xE0 then
          .scalar (Char.ofNat ((lead.toNat - 0xC0) * 64 + payload b)) :: segments rest₁
        else match rest₁ with
          | [] => [.invalid [lead, b] .endOfData]
          | c :: rest₂ =>
            if !isContinuation c then .invalid [lead, b] .continuationByte :: segments (c :: rest₂)
            else if lead < 0xF0 then
              .scalar (Char.ofNat ((lead.toNat - 0xE0) * 4096 + payload b * 64 + payload c))
                :: segments rest₂
            else match rest₂ with
              | [] => [.invalid [lead, b, c] .endOfData]
              | d :: rest₃ =>
                if !isContinuation d then
                  .invalid [lead, b, c] .continuationByte :: segments (d :: rest₃)
                else
                  .scalar (Char.ofNat ((lead.toNat - 0xF0) * 262144 + payload b * 4096
                    + payload c * 64 + payload d)) :: segments rest₃

/-- The first span of bytes that belongs to no encoded character, and where it starts. -/
structure DecodeError where
  position : Nat
  span : Bytes
  reason : Reason

def collect (position : Nat) : List Segment → Except DecodeError Text
  | [] => .ok []
  | .scalar c :: rest => return .char c :: (← collect (position + (encodeChar c).length) rest)
  | .invalid span reason :: _ => .error ⟨position, span, reason⟩

def decode (bytes : Bytes) : Except DecodeError Text := collect 0 (segments bytes)

def decodeLenient (bytes : Bytes) : Text :=
  (segments bytes).map fun
    | .scalar c => .char c
    | .invalid _ _ => .char '\uFFFD'

/-! ### Wording -/

def Reason.message : Reason → String
  | .startByte => "invalid start byte"
  | .continuationByte => "invalid continuation byte"
  | .endOfData => "unexpected end of data"

def DecodeError.message (e : DecodeError) : Text :=
  let place : Text := match e.span with
    | [b] => "byte 0x" ++ Text.ofHex 2 b.toNat ++ " in position " ++ .ofNat e.position
    | span => "bytes in position " ++ .ofNat e.position ++ "-"
        ++ .ofNat (e.position + span.length - 1)
  "'utf-8' codec can't decode " ++ place ++ ": " ++ e.reason.message

def EncodeError.message (e : EncodeError) : Text :=
  let place : Text :=
    if e.following = 0 then
      "character '\\u" ++ Text.ofHex 4 (0xD800 + e.first.val) ++ "' in position "
        ++ .ofNat e.position
    else
      "characters in position " ++ .ofNat e.position ++ "-" ++ .ofNat (e.position + e.following)
  "'utf-8' codec can't encode " ++ place ++ ": surrogates not allowed"

end ReportDelivery.Utf8
