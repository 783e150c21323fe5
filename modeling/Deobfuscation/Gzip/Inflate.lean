/-!
# Expanding compressed data

Compressed data is a sequence of blocks.  A block stores bytes as they are, or writes symbols in
a Huffman code, either a fixed one or one that the block describes: a symbol is a byte, the end
of the block, or the length of a stretch of earlier output that is repeated at a distance.  Codes
are canonical: the lengths of the codewords determine them.

* `BitReader` — the bits of a byte sequence, lowest bit of each byte first;
* `HuffmanCode` — a canonical code, `HuffmanCode.ofLengths`, `HuffmanCode.next`;
* `Halt` — why the expansion cannot go on;
* `inflate` — everything that a byte sequence expands to, and why or where it ended.
-/

namespace Deobfuscation.Gzip

/-! ### Bits -/

/-- Why an expansion stops before its end. -/
inductive Halt where
  /-- The data ends too early. -/
  | truncated
  /-- The data is not compressed data. -/
  | corrupt
  deriving DecidableEq, Repr

/-- Bytes, in front of which stand the remaining bits of the byte begun. -/
structure BitReader where
  buffer : Nat
  available : Nat
  bytes : List UInt8
  deriving Repr

namespace BitReader

/-- The next bit. -/
def bit (r : BitReader) : Except Halt (Nat × BitReader) :=
  match r.available, r.bytes with
  | available + 1, bytes => .ok (r.buffer % 2, ⟨r.buffer / 2, available, bytes⟩)
  | 0, b :: bytes => .ok (b.toNat % 2, ⟨b.toNat / 2, 7, bytes⟩)
  | 0, [] => .error .truncated

/-- The number that the next bits write, lowest bit first. -/
def bits : Nat → BitReader → Except Halt (Nat × BitReader)
  | 0, r => .ok (0, r)
  | n + 1, r => do
    let (low, r) ← r.bit
    let (high, r) ← bits n r
    return (low + 2 * high, r)

/-- The reader at the next whole byte. -/
def align (r : BitReader) : BitReader := ⟨0, 0, r.bytes⟩

end BitReader

/-! ### Huffman codes -/

/-- A canonical code: how many codewords there are of each length from one on, and the symbols
in the order of their codewords. -/
structure HuffmanCode where
  counts : List Nat
  symbols : Array Nat
  deriving Repr

namespace HuffmanCode

/-- The symbols whose codewords have a length. -/
def symbolsOfLength (lengths : List Nat) (length : Nat) : List Nat :=
  lengths.zipIdx.filterMap fun (l, symbol) => if l = length then some symbol else none

/-- The greatest of the given codeword lengths, and one if there are no codewords. -/
def longest (lengths : List Nat) : Nat := lengths.foldr max 1

/-- The code of the given codeword lengths, zero for a symbol without a codeword. -/
def ofLengths (lengths : List Nat) : HuffmanCode :=
  let byLength := (List.range (longest lengths)).map fun n => symbolsOfLength lengths (n + 1)
  ⟨byLength.map List.length, byLength.flatten.toArray⟩

/-- How many sequences of the greatest length begin with a codeword, if none of them begins with
two. -/
def covered (code : HuffmanCode) : Nat := code.counts.foldl (fun sum count => 2 * sum + count) 0

/-- Every sequence of so many bits begins with just one codeword. -/
def isComplete (code : HuffmanCode) : Bool := code.covered == Nat.pow 2 code.counts.length

/-- There is no codeword, or a single one of one bit. -/
def isTrivial (code : HuffmanCode) : Bool := code.counts == [0] || code.counts == [1]

/-- The symbol of a codeword that is read from a length on: `code` is what is read of it,
`first` the first codeword of this length, `index` the place of its symbol. -/
def nextFrom (code : HuffmanCode) :
    List Nat → Nat → Nat → Nat → BitReader → Except Halt (Nat × BitReader)
  | [], _, _, _, _ => .error .corrupt
  | count :: counts, read, first, index, r => do
    let (b, r) ← r.bit
    let read := 2 * read + b
    let first := 2 * first
    if read < first + count then
      match code.symbols[index + (read - first)]? with
      | some symbol => return (symbol, r)
      | none => throw .corrupt
    else code.nextFrom counts read (first + count) (index + count) r

/-- The next symbol. -/
def next (code : HuffmanCode) (r : BitReader) : Except Halt (Nat × BitReader) :=
  code.nextFrom code.counts 0 0 0 r

end HuffmanCode

/-- The codes of a block: of bytes, lengths and the end of the block, and of distances. -/
structure BlockCodes where
  literals : HuffmanCode
  distances : HuffmanCode

/-- The fixed codes. -/
def fixedCodes : BlockCodes :=
  ⟨.ofLengths (List.replicate 144 8 ++ List.replicate 112 9 ++ List.replicate 24 7 ++
      List.replicate 8 8),
    .ofLengths (List.replicate 32 5)⟩

/-- The least length of each length symbol, and how many bits tell the rest. -/
def lengthTable : List (Nat × Nat) :=
  [(3, 0), (4, 0), (5, 0), (6, 0), (7, 0), (8, 0), (9, 0), (10, 0), (11, 1), (13, 1), (15, 1),
    (17, 1), (19, 2), (23, 2), (27, 2), (31, 2), (35, 3), (43, 3), (51, 3), (59, 3), (67, 4),
    (83, 4), (99, 4), (115, 4), (131, 5), (163, 5), (195, 5), (227, 5), (258, 0)]

/-- The least distance of each distance symbol, and how many bits tell the rest. -/
def distanceTable : List (Nat × Nat) :=
  [(1, 0), (2, 0), (3, 0), (4, 0), (5, 1), (7, 1), (9, 2), (13, 2), (17, 3), (25, 3), (33, 4),
    (49, 4), (65, 5), (97, 5), (129, 6), (193, 6), (257, 7), (385, 7), (513, 8), (769, 8),
    (1025, 9), (1537, 9), (2049, 10), (3073, 10), (4097, 11), (6145, 11), (8193, 12),
    (12289, 12), (16385, 13), (24577, 13)]

/-- The order in which a block gives the lengths of the code for code lengths. -/
def lengthOrder : List Nat := [16, 17, 18, 0, 8, 7, 9, 6, 10, 5, 11, 4, 12, 3, 13, 2, 14, 1, 15]

/-- The number that a symbol of a table stands for. -/
def tableValue (table : List (Nat × Nat)) (symbol : Nat) (r : BitReader) :
    Except Halt (Nat × BitReader) :=
  match table[symbol]? with
  | none => .error .corrupt
  | some (least, extra) => do
    let (more, r) ← r.bits extra
    return (least + more, r)

/-! ### Blocks -/

/-- What is expanded so far, and the rest of the data. -/
structure Expansion where
  output : Array UInt8
  reader : BitReader

/-- The byte at a distance from the end of the output; in front of the output there are zeros. -/
def earlierByte (distance : Nat) (output : Array UInt8) : UInt8 :=
  if distance ≤ output.size then output[output.size - distance]?.getD 0 else 0

/-- Repeats earlier output at a distance. -/
def repeatOutput (distance : Nat) : Nat → Array UInt8 → Array UInt8
  | 0, output => output
  | n + 1, output => repeatOutput distance n (output.push (earlierByte distance output))

/-- An expansion that ended, or that had to stop with part of the output. -/
inductive Outcome where
  | done (e : Expansion)
  | halted (output : Array UInt8) (cause : Halt)

/-- Goes on with an expansion where a step succeeds, and stops with its output otherwise. -/
def Outcome.after {α : Type} (output : Array UInt8) (step : Except Halt α) (next : α → Outcome) :
    Outcome :=
  match step with
  | .ok a => next a
  | .error cause => .halted output cause

/-- Reads the length and the distance of a repetition. -/
def readRepetition (codes : BlockCodes) (symbol : Nat) (r : BitReader) :
    Except Halt (Nat × Nat × BitReader) := do
  let (length, r) ← tableValue lengthTable (symbol - 257) r
  let (symbol, r) ← codes.distances.next r
  let (distance, r) ← tableValue distanceTable symbol r
  return (length, distance, r)

/-- Expands the symbols of a block.  Every symbol takes a bit, so their number is bounded. -/
def expandSymbols (codes : BlockCodes) : Nat → Expansion → Outcome
  | 0, e => .halted e.output .truncated
  | bound + 1, e =>
    .after e.output (codes.literals.next e.reader) fun (symbol, r) =>
      if symbol < 256 then expandSymbols codes bound ⟨e.output.push (UInt8.ofNat symbol), r⟩
      else if symbol = 256 then .done ⟨e.output, r⟩
      else
        .after e.output (readRepetition codes symbol r) fun (length, distance, r) =>
          expandSymbols codes bound ⟨repeatOutput distance length e.output, r⟩

/-- Expands a block of stored bytes. -/
def expandStored (e : Expansion) : Outcome :=
  let r := e.reader.align
  .after e.output (do
    let (length, r) ← r.bits 16
    let (complement, r) ← r.bits 16
    if length + complement = 0xFFFF then return (length, r) else throw .corrupt)
    fun (length, r) =>
      let output := e.output ++ (r.bytes.take length).toArray
      if r.bytes.length < length then .halted output .truncated
      else .done ⟨output, ⟨0, 0, r.bytes.drop length⟩⟩

/-- Reads code lengths, newest first, which may repeat the one before or zero. -/
def readLengths (code : HuffmanCode) (count : Nat) :
    Nat → List Nat → BitReader → Except Halt (List Nat × BitReader)
  | 0, _, _ => .error .corrupt
  | bound + 1, lengths, r =>
    if count ≤ lengths.length then
      if lengths.length = count then .ok (lengths.reverse, r) else .error .corrupt
    else do
      let (symbol, r) ← code.next r
      if symbol < 16 then readLengths code count bound (symbol :: lengths) r
      else if symbol = 16 then
        match lengths with
        | [] => throw .corrupt
        | last :: _ =>
          let (more, r) ← r.bits 2
          readLengths code count bound (List.replicate (3 + more) last ++ lengths) r
      else if symbol = 17 then
        let (more, r) ← r.bits 3
        readLengths code count bound (List.replicate (3 + more) 0 ++ lengths) r
      else
        let (more, r) ← r.bits 7
        readLengths code count bound (List.replicate (11 + more) 0 ++ lengths) r

/-- Reads so many numbers of three bits. -/
def readTriples : Nat → BitReader → Except Halt (List Nat × BitReader)
  | 0, r => .ok ([], r)
  | n + 1, r => do
    let (length, r) ← r.bits 3
    let (lengths, r) ← readTriples n r
    return (length :: lengths, r)

/-- The code of the given lengths, if it is complete or, where that is allowed, trivial. -/
def codeOfLengths (trivialAllowed : Bool) (lengths : List Nat) : Except Halt HuffmanCode :=
  let code := HuffmanCode.ofLengths lengths
  if code.isComplete || (trivialAllowed && code.isTrivial) then .ok code else .error .corrupt

/-- The greatest number of symbols for bytes, lengths and the end of a block. -/
def literalLimit : Nat := 286

/-- The greatest number of distance symbols. -/
def distanceLimit : Nat := 30

/-- Reads how many lengths a block gives, of each kind of symbol. -/
def readCounts (r : BitReader) : Except Halt (Nat × Nat × Nat × BitReader) := do
  let (literals, r) ← r.bits 5
  let (distances, r) ← r.bits 5
  let (triples, r) ← r.bits 4
  if literalLimit < literals + 257 || distanceLimit < distances + 1 then throw .corrupt
  else return (literals + 257, distances + 1, triples + 4, r)

/-- Reads the codes that a block describes. -/
def readCodes (r : BitReader) : Except Halt (BlockCodes × BitReader) := do
  let (literals, distances, triples, r) ← readCounts r
  let (given, r) ← readTriples triples r
  let lengths := (List.range 19).map fun symbol =>
    ((lengthOrder.zip given).find? fun pair => pair.1 == symbol).elim 0 (·.2)
  let code ← codeOfLengths false lengths
  let count := literals + distances
  let (lengths, r) ← readLengths code count (count + 1) [] r
  let literalCode ← codeOfLengths true (lengths.take literals)
  let distanceCode ← codeOfLengths true (lengths.drop literals)
  return (⟨literalCode, distanceCode⟩, r)

/-- Expands a block of a kind. -/
def expandBlock (bound kind : Nat) (e : Expansion) : Outcome :=
  match kind with
  | 0 => expandStored e
  | 1 => expandSymbols fixedCodes bound e
  | 2 => .after e.output (readCodes e.reader) fun (codes, r) =>
      expandSymbols codes bound ⟨e.output, r⟩
  | _ => .halted e.output .corrupt

/-- Expands blocks up to the one that is marked as the last.  Every block takes a bit. -/
def expandBlocks (symbols : Nat) : Nat → Expansion → Outcome
  | 0, e => .halted e.output .truncated
  | bound + 1, e =>
    .after e.output (do
      let (last, r) ← e.reader.bit
      let (kind, r) ← r.bits 2
      return (last, kind, r))
      fun (last, kind, r) =>
        match expandBlock symbols kind ⟨e.output, r⟩ with
        | .halted output cause => .halted output cause
        | .done e => if last = 1 then .done e else expandBlocks symbols bound e

/-- Everything that a byte sequence expands to: the bytes after the last block, or why there
is no last block. -/
def inflate (bytes : List UInt8) : List UInt8 × Except Halt (List UInt8) :=
  let bound := 8 * bytes.length + 1
  match expandBlocks bound bound ⟨#[], ⟨0, 0, bytes⟩⟩ with
  | .done e => (e.output.toList, .ok e.reader.align.bytes)
  | .halted output cause => (output.toList, .error cause)

end Deobfuscation.Gzip
