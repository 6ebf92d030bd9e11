import ReportDelivery.Gzip.Checksum
import ReportDelivery.Gzip.Deflate
import ReportDelivery.Text.Quoted

/-! Gzip files: members, each a header, deflated data, a checksum and the data's length.

`compress` writes one member. `decompress` reads any number of them, joins their data, and skips
zero bytes after each. An empty file holds no data. -/
namespace ReportDelivery.Gzip

inductive Error where
  /-- The first two bytes of a would-be member, or the only one. -/
  | badMagic (start : Bytes)
  | unknownMethod
  | truncated
  | checksum (stored computed : Nat)
  | length
  | corrupt (what : Corruption)

def Error.message : Error → Text
  | .badMagic start => "Not a gzipped file (" ++ Text.quotedBytes start ++ ")"
  | .unknownMethod => "Unknown compression method"
  | .truncated => "Compressed file ended before the end-of-stream marker was reached"
  | .checksum stored computed =>
    "CRC check failed 0x" ++ Text.ofHex 1 stored ++ " != 0x" ++ Text.ofHex 1 computed
  | .length => "Incorrect length of data produced"
  | .corrupt what => "Error -3 while decompressing data: " ++ what.message

def Error.ofInflate : InflateError → Error
  | .truncated => .truncated
  | .corrupt what => .corrupt what

/-! ### Reading -/

/-- What follows the first `n` bytes. -/
def skip (n : Nat) (input : Bytes) : Except Error Bytes :=
  if input.length < n then .error .truncated else .ok (input.drop n)

/-- What follows a text that ends with a zero byte. -/
def skipName (input : Bytes) : Bytes := (input.dropWhile (· ≠ 0)).drop 1

/-- What follows a field that starts with its length. -/
def skipField (input : Bytes) : Except Error Bytes :=
  match input with
  | a :: b :: rest => skip (pair a b) rest
  | _ => .error .truncated

/-- What follows a member's header. The flags tell which optional parts the header has. -/
def skipHeader (input : Bytes) : Except Error Bytes :=
  match input with
  | 0x1F :: 0x8B :: method :: flags :: _ :: _ :: _ :: _ :: _ :: _ :: rest => do
    if method ≠ 8 then .error .unknownMethod
    else
      let rest ← if flags &&& 4 = 0 then .ok rest else skipField rest
      let rest := if flags &&& 8 = 0 then rest else skipName rest
      let rest := if flags &&& 16 = 0 then rest else skipName rest
      if flags &&& 2 = 0 then return rest else skip 2 rest
  | 0x1F :: 0x8B :: _ => .error .truncated
  | _ => .error (.badMagic (input.take 2))

/-- A little-endian number of four bytes. -/
def quad (a b c d : UInt8) : Nat := pair a b + 65536 * pair c d

/-- The data of the first member, and what follows the member. -/
def decompressMember (input : Bytes) : Except Error (Bytes × Bytes) := do
  let body ← skipHeader input
  let (data, rest) ← (inflate body).mapError Error.ofInflate
  match rest with
  | a :: b :: c :: d :: e :: f :: g :: h :: rest =>
    let computed := (checksum data).toNat
    if quad a b c d ≠ computed then .error (.checksum (quad a b c d) computed)
    else if quad e f g h ≠ data.length % 0x100000000 then .error .length
    else return (data, rest.dropWhile (· = 0))
  | _ => .error .truncated

/-- The fuel bounds the number of members. -/
def decompressFrom : (fuel : Nat) → Bytes → Except Error Bytes
  | 0, _ => .ok []
  | fuel + 1, input =>
    if input.isEmpty then .ok []
    else do
      let (data, rest) ← decompressMember input
      return data ++ (← decompressFrom fuel rest)

def decompress (input : Bytes) : Except Error Bytes := decompressFrom (input.length + 1) input

/-! ### Writing -/

/-- The four bytes of a number, lowest first. -/
def quadBytes (n : Nat) : Bytes :=
  [.ofNat (n % 256), .ofNat (n / 256 % 256), .ofNat (n / 65536 % 256), .ofNat (n / 16777216 % 256)]

/-- No optional parts, no time, and no statement about the operating system. -/
def header : Bytes := [0x1F, 0x8B, 8, 0, 0, 0, 0, 0, 0, 0xFF]

def compress (data : Bytes) : Bytes :=
  header ++ deflate data ++ quadBytes (checksum data).toNat ++ quadBytes data.length

end ReportDelivery.Gzip
