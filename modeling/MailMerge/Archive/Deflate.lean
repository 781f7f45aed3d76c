import MailMerge.Archive.PrefixCode

/-!
# `MailMerge.Archive.Deflate`: compressed content

Compressed content is a sequence of blocks. A block holds bytes as they are, or words of two codes:
one for bytes and lengths of repeats, one for distances back to what is repeated. `inflate?` reads
all kinds of blocks; `deflate` writes blocks of bytes as they are.
-/

set_option autoImplicit false

namespace MailMerge.Deflate

/-! ### Reading words -/

/-- Lengths of repeats, by symbol from 257 on: the least length and how many extra bits add to
it. -/
def repeatLengths : Array (Nat × Nat) :=
  #[(3, 0), (4, 0), (5, 0), (6, 0), (7, 0), (8, 0), (9, 0), (10, 0), (11, 1), (13, 1), (15, 1),
    (17, 1), (19, 2), (23, 2), (27, 2), (31, 2), (35, 3), (43, 3), (51, 3), (59, 3), (67, 4),
    (83, 4), (99, 4), (115, 4), (131, 5), (163, 5), (195, 5), (227, 5), (258, 0)]

/-- Distances back, by symbol: the least distance and how many extra bits add to it. -/
def repeatDistances : Array (Nat × Nat) :=
  #[(1, 0), (2, 0), (3, 0), (4, 0), (5, 1), (7, 1), (9, 2), (13, 2), (17, 3), (25, 3), (33, 4),
    (49, 4), (65, 5), (97, 5), (129, 6), (193, 6), (257, 7), (385, 7), (513, 8), (769, 8),
    (1025, 9), (1537, 9), (2049, 10), (3073, 10), (4097, 11), (6145, 11), (8193, 12), (12289, 12),
    (16385, 13), (24577, 13)]

/-- Reads the number that a row of a table and extra bits make. -/
def readRow (row? : Option (Nat × Nat)) (r : BitReader) : Option (Nat × BitReader) :=
  match row? with
  | none => none
  | some (base, bits) => (r.number? bits).map fun (extra, r) => (base + extra, r)

/-- Appends `n` bytes, each the one that lies a distance back. -/
def copyBack (distance : Nat) : Nat → ByteArray → ByteArray
  | 0, out => out
  | n + 1, out => copyBack distance n (out.push (out[out.size - distance]?.getD 0))

/-- The codes of a block. -/
structure Codes where
  symbols : PrefixCode
  distances : PrefixCode

/-- Reads the distance of a repeat and appends what is repeated. -/
def readRepeat (codes : Codes) (length : Nat) (out : ByteArray) (r : BitReader) :
    Option (ByteArray × BitReader) :=
  match codes.distances.read? r with
  | none => none
  | some (symbol, r) =>
    match readRow repeatDistances[symbol]? r with
    | none => none
    | some (distance, r) =>
      if distance ≤ out.size then some (copyBack distance length out, r) else none

/-- Reads the words of a block up to the one that ends it. A word has a bit at least, so bits bound
their number. -/
def readWords (codes : Codes) : Nat → ByteArray → BitReader → Option (ByteArray × BitReader)
  | 0, _, _ => none
  | n + 1, out, r =>
    match codes.symbols.read? r with
    | none => none
    | some (symbol, r) =>
      if symbol < 256 then readWords codes n (out.push symbol.toUInt8) r
      else if symbol = 256 then some (out, r)
      else
        match readRow repeatLengths[symbol - 257]? r with
        | none => none
        | some (length, r) =>
          match readRepeat codes length out r with
          | none => none
          | some (out, r) => readWords codes n out r

/-! ### Reading codes -/

/-- The codes of a block that gives none. -/
def fixedCodes : Codes where
  symbols := .ofLengths
    (.replicate 144 8 ++ .replicate 112 9 ++ .replicate 24 7 ++ .replicate 8 8)
  distances := .ofLengths (.replicate 30 5)

/-- The symbols of the code for lengths of words, in the order in which their own are given. -/
def lengthOrder : List Nat :=
  [16, 17, 18, 0, 8, 7, 9, 6, 10, 5, 11, 4, 12, 3, 13, 2, 14, 1, 15]

/-- Reads the lengths of the words for lengths: `n` of three bits each, in their order. -/
def readOrdered : Nat → List Nat → BitReader → Option (List (Nat × Nat) × BitReader)
  | 0, _, r | _, [], r => some ([], r)
  | n + 1, symbol :: symbols, r =>
    match r.number? 3 with
    | none => none
    | some (length, r) =>
      (readOrdered n symbols r).map fun (rest, r) => ((symbol, length) :: rest, r)

/-- The lengths that a word for lengths says, after the last of those before. -/
def readRun (last? : Option Nat) (symbol : Nat) (r : BitReader) : Option (List Nat × BitReader) :=
  if symbol < 16 then some ([symbol], r)
  else if symbol = 16 then
    match last? with
    | none => none
    | some last => (r.number? 2).map fun (n, r) => (.replicate (n + 3) last, r)
  else if symbol = 17 then (r.number? 3).map fun (n, r) => (.replicate (n + 3) 0, r)
  else (r.number? 7).map fun (n, r) => (.replicate (n + 11) 0, r)

/-- Reads lengths of words until there are `count`, in at most so many steps as the first argument
says. -/
def readLengths (code : PrefixCode) (count : Nat) :
    Nat → List Nat → BitReader → Option (List Nat × BitReader)
  | 0, _, _ => none
  | n + 1, lengths, r =>
    if count ≤ lengths.length then
      if lengths.length = count then some (lengths, r) else none
    else
      match code.read? r with
      | none => none
      | some (symbol, r) =>
        match readRun lengths.getLast? symbol r with
        | none => none
        | some (run, r) => readLengths code count n (lengths ++ run) r

/-- Reads the codes at the front of a block. -/
def readCodes (r : BitReader) : Option (Codes × BitReader) := do
  -- Counts are given less the least that they can be.
  let (symbols, r) ← r.number? 5
  let (distances, r) ← r.number? 5
  let (ordered, r) ← r.number? 4
  let (given, r) ← readOrdered (ordered + 4) lengthOrder r
  let code := PrefixCode.ofLengths ((List.range 19).map fun symbol => (given.lookup symbol).getD 0)
  -- The lengths for both codes make one row, in which a repeat may cross from one to the other.
  let symbols := symbols + 257
  let count := symbols + distances + 1
  let (lengths, r) ← readLengths code count (count + 1) [] r
  some (⟨.ofLengths (lengths.take symbols), .ofLengths (lengths.drop symbols)⟩, r)

/-! ### Reading blocks -/

/-- Reads the bytes of a block that holds them as they are. -/
def readBytes (out : ByteArray) (r : BitReader) : Option (ByteArray × BitReader) := do
  -- The size is given twice, the second time with all bits turned over.
  let (size, r) ← r.align.number? 16
  let (complement, r) ← r.number? 16
  if size + complement = 0xFFFF then
    let (data, r) ← r.bytes? size
    some (out ++ data, r)
  else none

/-- Reads a block of a kind. -/
def readBlock (kind : Nat) (out : ByteArray) (r : BitReader) : Option (ByteArray × BitReader) :=
  match kind with
  | 0 => readBytes out r
  | 1 => readWords fixedCodes (r.left + 1) out r
  | 2 =>
    match readCodes r with
    | none => none
    | some (codes, r) => readWords codes (r.left + 1) out r
  | _ => none

/-- Reads blocks up to the last; bits bound their number. -/
def readBlocks : Nat → ByteArray → BitReader → Option ByteArray
  | 0, _, _ => none
  | n + 1, out, r => do
    let (last, r) ← r.bit?
    let (kind, r) ← r.number? 2
    let (out, r) ← readBlock kind out r
    if last = 1 then some out else readBlocks n out r

/-- The content that compressed content stands for. -/
def inflate? (data : ByteArray) : Option ByteArray :=
  let r := BitReader.ofBytes data
  readBlocks (r.left + 1) .empty r

/-! ### Writing -/

/-- A number in little-endian bytes. -/
def littleEndian : Nat → Nat → ByteArray
  | 0, _ => .empty
  | n + 1, v => ⟨#[v.toUInt8]⟩ ++ littleEndian n (v / 256)

/-- How many bytes a block of bytes holds at most. -/
def blockSize : Nat := 0xFFFF

/-- A block that holds bytes as they are. -/
def byteBlock (last : Bool) (data : ByteArray) : ByteArray :=
  ⟨#[if last then 1 else 0]⟩ ++ littleEndian 2 data.size ++ littleEndian 2 (blockSize - data.size)
    ++ data

/-- Writes bytes from a position on in at most so many more blocks. -/
def writeBlocks (data : ByteArray) : Nat → Nat → ByteArray
  | 0, start => byteBlock true (data.extract start data.size)
  | n + 1, start =>
    byteBlock false (data.extract start (start + blockSize))
      ++ writeBlocks data n (start + blockSize)

/-- Compressed content that stands for bytes. -/
def deflate (data : ByteArray) : ByteArray := writeBlocks data ((data.size - 1) / blockSize) 0

end MailMerge.Deflate
