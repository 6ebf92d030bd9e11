import ReportDelivery.Text.Basic

/-! The deflate format.

`deflate` writes stored blocks only. `inflate` reads all three kinds of blocks: stored ones, and
ones coded with the fixed or with their own prefix codes, in which a pair of a length and a
distance repeats earlier output. -/
namespace ReportDelivery.Gzip

/-! ### Bits -/

/-- Input taken bit by bit, the low bits of a byte first. -/
structure Bits where
  /-- What is left of the byte at hand. -/
  pending : List Bool
  bytes : Bytes

namespace Bits

def ofByte (byte : UInt8) : List Bool :=
  (List.range 8).map fun i => byte.toNat.testBit i

def next? (input : Bits) : Option (Bool × Bits) :=
  match input.pending, input.bytes with
  | bit :: pending, bytes => some (bit, ⟨pending, bytes⟩)
  | [], byte :: bytes =>
    match ofByte byte with
    | bit :: pending => some (bit, ⟨pending, bytes⟩)
    | [] => none
  | [], [] => none

/-- A number of `n` bits, the lowest bit first. -/
def number? : (n : Nat) → Bits → Option (Nat × Bits)
  | 0, input => some (0, input)
  | n + 1, input => do
    let (bit, input) ← input.next?
    let (high, input) ← number? n input
    return ((if bit then 1 else 0) + 2 * high, input)

end Bits

/-! ### Errors -/

inductive Corruption where
  | blockType
  | storedLengths
  | tooManySymbols
  | codeLengthsSet
  | lengthRepeat
  | noEndOfBlock
  | literalsSet
  | distancesSet
  | literalCode
  | distanceCode
  | distanceTooFar

def Corruption.message : Corruption → String
  | .blockType => "invalid block type"
  | .storedLengths => "invalid stored block lengths"
  | .tooManySymbols => "too many length or distance symbols"
  | .codeLengthsSet => "invalid code lengths set"
  | .lengthRepeat => "invalid bit length repeat"
  | .noEndOfBlock => "invalid code -- missing end-of-block"
  | .literalsSet => "invalid literal/lengths set"
  | .distancesSet => "invalid distances set"
  | .literalCode => "invalid literal/length code"
  | .distanceCode => "invalid distance code"
  | .distanceTooFar => "invalid distance too far back"

inductive InflateError where
  | truncated
  | corrupt (what : Corruption)

/-- Bits that must be there. -/
def bits (n : Nat) (input : Bits) : Except InflateError (Nat × Bits) :=
  match input.number? n with
  | some result => .ok result
  | none => .error .truncated

/-! ### Codes -/

/-- A canonical code: how many code words there are of length 1, 2, …, and the symbols in the
order of their code words. -/
structure Code where
  counts : List Nat
  symbols : Array Nat

namespace Code

/-- How far the code words fall short of using up all words of the greatest length; none if they
use more than there are. -/
def slack? (counts : List Nat) : Option Nat :=
  counts.foldl (fun left count => left.bind fun left =>
    if count ≤ 2 * left then some (2 * left - count) else none) (some 1)

/-- The code in which symbol `i` has the `i`-th length, zero meaning no code word. It must be
complete; unless `strict`, a code of at most one-bit words need not be. -/
def ofLengths? (strict : Bool) (lengths : List Nat) : Option Code :=
  let longest := lengths.foldl max 0
  let ofLength := fun length => lengths.zipIdx.filterMap fun (l, symbol) =>
    if l = length then some symbol else none
  let groups := (List.range (max longest 1)).map fun i => ofLength (i + 1)
  let counts := groups.map List.length
  match slack? counts with
  | none => none
  | some slack =>
    if slack = 0 || longest = 0 || (!strict && longest = 1) then
      some ⟨counts, groups.flatten.toArray⟩
    else none

/-- Reads one code word bit by bit. `word` is what is read, `first` the first code word of that
length and `index` its symbol's place. -/
def symbolFrom (code : Code) (fault : Corruption) (word first index : Nat) :
    List Nat → Bits → Except InflateError (Nat × Bits)
  | [], _ => .error (.corrupt fault)
  | count :: counts, input => do
    let (bit, input) ← bits 1 input
    let word := 2 * word + bit
    let first := 2 * first
    if word < first + count then
      match code.symbols[index + (word - first)]? with
      | some symbol => return (symbol, input)
      | none => .error (.corrupt fault)
    else symbolFrom code fault word (first + count) (index + count) counts input

def symbol (code : Code) (fault : Corruption) (input : Bits) : Except InflateError (Nat × Bits) :=
  code.symbolFrom fault 0 0 0 code.counts input

end Code

/-! ### Blocks -/

/-- Base value and number of extra bits of each length symbol from 257 on. -/
def lengthTable : Array (Nat × Nat) := #[
  (3, 0), (4, 0), (5, 0), (6, 0), (7, 0), (8, 0), (9, 0), (10, 0), (11, 1), (13, 1), (15, 1),
  (17, 1), (19, 2), (23, 2), (27, 2), (31, 2), (35, 3), (43, 3), (51, 3), (59, 3), (67, 4),
  (83, 4), (99, 4), (115, 4), (131, 5), (163, 5), (195, 5), (227, 5), (258, 0)]

/-- Base value and number of extra bits of each distance symbol. -/
def distanceTable : Array (Nat × Nat) := #[
  (1, 0), (2, 0), (3, 0), (4, 0), (5, 1), (7, 1), (9, 2), (13, 2), (17, 3), (25, 3), (33, 4),
  (49, 4), (65, 5), (97, 5), (129, 6), (193, 6), (257, 7), (385, 7), (513, 8), (769, 8),
  (1025, 9), (1537, 9), (2049, 10), (3073, 10), (4097, 11), (6145, 11), (8193, 12), (12289, 12),
  (16385, 13), (24577, 13)]

/-- A table entry's base with its extra bits added. -/
def extended (table : Array (Nat × Nat)) (index : Nat) (fault : Corruption) (input : Bits) :
    Except InflateError (Nat × Bits) :=
  match table[index]? with
  | none => .error (.corrupt fault)
  | some (base, extra) => do
    let (more, input) ← bits extra input
    return (base + more, input)

/-- Appends `length` bytes, each a copy of the one `distance` places back. -/
def copyBack (distance : Nat) : (length : Nat) → Array UInt8 → Array UInt8
  | 0, out => out
  | length + 1, out => copyBack distance length (out.push (out[out.size - distance]?.getD 0))

structure BlockCodes where
  literals : Code
  distances : Code

/-- The symbols of a block up to its end. The fuel bounds their number: each takes a bit. -/
def symbols (codes : BlockCodes) :
    (fuel : Nat) → Array UInt8 → Bits → Except InflateError (Array UInt8 × Bits)
  | 0, _, _ => .error .truncated
  | fuel + 1, out, input => do
    let (symbol, input) ← codes.literals.symbol .literalCode input
    if symbol < 256 then symbols codes fuel (out.push (.ofNat symbol)) input
    else if symbol = 256 then return (out, input)
    else
      let (length, input) ← extended lengthTable (symbol - 257) .literalCode input
      let (symbol, input) ← codes.distances.symbol .distanceCode input
      let (distance, input) ← extended distanceTable symbol .distanceCode input
      if out.size < distance then .error (.corrupt .distanceTooFar)
      else symbols codes fuel (copyBack distance length out) input

def fixedCodes : BlockCodes where
  literals := (Code.ofLengths? true (List.replicate 144 8 ++ List.replicate 112 9
    ++ List.replicate 24 7 ++ List.replicate 8 8)).getD ⟨[], #[]⟩
  distances := (Code.ofLengths? true (List.replicate 32 5)).getD ⟨[], #[]⟩

/-- The order in which the lengths of the code length code are written. -/
def codeLengthOrder : List Nat := [16, 17, 18, 0, 8, 7, 9, 6, 10, 5, 11, 4, 12, 3, 13, 2, 14, 1, 15]

/-- As many three-bit numbers as asked for. -/
def tripleBits : (n : Nat) → Bits → Except InflateError (List Nat × Bits)
  | 0, input => return ([], input)
  | n + 1, input => do
    let (first, input) ← bits 3 input
    let (rest, input) ← tripleBits n input
    return (first :: rest, input)

/-- Code lengths until there are `wanted` of them; `done` holds the earlier ones, last one
first. The fuel bounds the number of symbols, each of which gives at least one length. -/
def codeLengths (code : Code) (wanted : Nat) :
    (fuel : Nat) → (done : List Nat) → Bits → Except InflateError (List Nat × Bits)
  | 0, done, input => return (done.reverse, input)
  | fuel + 1, done, input =>
    if wanted ≤ done.length then return (done.reverse, input)
    else do
      let (symbol, input) ← code.symbol .codeLengthsSet input
      if symbol < 16 then codeLengths code wanted fuel (symbol :: done) input
      else
        let (value?, base, extra) := match symbol with
          | 16 => (done.head?, 3, 2)
          | 17 => (some 0, 3, 3)
          | _ => (some 0, 11, 7)
        let (more, input) ← bits extra input
        match value? with
        | none => .error (.corrupt .lengthRepeat)
        | some value =>
          if wanted < done.length + base + more then .error (.corrupt .lengthRepeat)
          else codeLengths code wanted fuel (List.replicate (base + more) value ++ done) input

/-- The code in which code lengths are written. Without any code word, each bit is a length of
zero. -/
def lengthCode? (lengths : List Nat) : Option Code :=
  if lengths.all (· = 0) then some ⟨[2], #[0, 0]⟩ else Code.ofLengths? true lengths

def orThrow {α : Type} (value? : Option α) (fault : Corruption) : Except InflateError α :=
  match value? with
  | some value => .ok value
  | none => .error (.corrupt fault)

/-- The codes that stand at the start of a block. -/
def dynamicCodes (input : Bits) : Except InflateError (BlockCodes × Bits) := do
  let (literalCount, input) ← bits 5 input
  let (distanceCount, input) ← bits 5 input
  let (lengthCount, input) ← bits 4 input
  let literalCount := literalCount + 257
  let distanceCount := distanceCount + 1
  if 286 < literalCount || 30 < distanceCount then .error (.corrupt .tooManySymbols)
  else
    let (triples, input) ← tripleBits (lengthCount + 4) input
    let written := codeLengthOrder.zip triples
    let lengths := (List.range 19).map fun symbol => (written.lookup symbol).getD 0
    let code ← orThrow (lengthCode? lengths) .codeLengthsSet
    let wanted := literalCount + distanceCount
    let (all, input) ← codeLengths code wanted wanted [] input
    if all[256]?.getD 0 = 0 then .error (.corrupt .noEndOfBlock)
    else
      let literals ← orThrow (Code.ofLengths? false (all.take literalCount)) .literalsSet
      let distances ← orThrow (Code.ofLengths? false (all.drop literalCount)) .distancesSet
      return (⟨literals, distances⟩, input)

/-- Little-endian number of two bytes. -/
def pair (low high : UInt8) : Nat := low.toNat + 256 * high.toNat

/-- A stored block starts at the next whole byte with its length, and the length inverted. -/
def storedBlock (out : Array UInt8) (input : Bits) : Except InflateError (Array UInt8 × Bits) :=
  match input.bytes with
  | a :: b :: c :: d :: rest =>
    if pair a b + pair c d ≠ 0xFFFF then .error (.corrupt .storedLengths)
    else if rest.length < pair a b then .error .truncated
    else .ok (out ++ rest.take (pair a b), ⟨[], rest.drop (pair a b)⟩)
  | _ => .error .truncated

/-- Blocks up to one marked as the last. The fuel bounds their number. -/
def blocks : (fuel : Nat) → Array UInt8 → Bits → Except InflateError (Array UInt8 × Bits)
  | 0, _, _ => .error .truncated
  | fuel + 1, out, input => do
    let (last, input) ← bits 1 input
    let (kind, input) ← bits 2 input
    let symbolLimit := 8 * (input.bytes.length + 1)
    let (out, input) ← match kind with
      | 0 => storedBlock out input
      | 1 => symbols fixedCodes symbolLimit out input
      | 2 => do
        let (codes, input) ← dynamicCodes input
        symbols codes symbolLimit out input
      | _ => .error (.corrupt .blockType)
    if last = 1 then return (out, input) else blocks fuel out input

/-- The data at the start of `input`, and the bytes after it. -/
def inflate (input : Bytes) : Except InflateError (Bytes × Bytes) := do
  let (out, rest) ← blocks (8 * input.length + 1) #[] ⟨[], input⟩
  return (out.toList, rest.bytes)

/-! ### Writing -/

/-- The greatest length of a stored block. -/
def storedLimit : Nat := 0xFFFF

def storedHeader (last : Bool) (length : Nat) : Bytes :=
  [if last then 1 else 0, .ofNat (length % 256), .ofNat (length / 256),
    .ofNat (255 - length % 256), .ofNat (255 - length / 256)]

/-- As many full blocks as asked for, then the rest of the data as the last block. -/
def storedBlocks : (full : Nat) → Bytes → Bytes
  | 0, data => storedHeader true data.length ++ data
  | full + 1, data =>
    storedHeader false storedLimit ++ data.take storedLimit
      ++ storedBlocks full (data.drop storedLimit)

/-- Every block but the last is full, and the last is empty only if there is no data. -/
def deflate (data : Bytes) : Bytes := storedBlocks ((data.length - 1) / storedLimit) data

end ReportDelivery.Gzip
