import InteractiveBook.Zip.Field

/-!
# Inflating

Compressed data is a sequence of blocks of bits, the least significant bit of each byte first. A
block holds bytes as they are, or symbols of a prefix code: bytes, an end mark, and matches that
repeat a stretch of the data written so far. A canonical prefix code is fixed by the length of the
code word of each symbol: shorter words come first, and words of one length are numbered in the
order of their symbols. What lies before the data counts as zeros. Data that
breaks the format, or that ends before its last block does, yields nothing; what follows the last
block is not looked at.
-/

namespace InteractiveBook.Zip

/-! ### Prefix codes -/

/-- A canonical prefix code with words of at most fifteen bits, kept as the number of words of each
length and the symbols in the order of their words. -/
structure Huffman where
  /-- The number of words of each length, from zero on. -/
  counts : Array Nat
  /-- The symbols in the order of their words. -/
  symbols : Array Nat
  deriving Repr

namespace Huffman

/-- The longest words. -/
def maxLength : Nat := 15

/-- How many symbols have words of a length. -/
def countOf (lengths : List Nat) (length : Nat) : Nat := lengths.countP (· == length)

/-- The symbols whose words have a length, in order. -/
def symbolsOf (lengths : List Nat) (length : Nat) : List Nat :=
  (lengths.zipIdx.filter fun e => e.1 == length).map (·.2)

/-- The code of the given word lengths, symbol by symbol. -/
def ofLengths (lengths : List Nat) : Huffman where
  counts := ((List.range (maxLength + 1)).map fun n =>
    if n = 0 then 0 else countOf lengths n).toArray
  symbols := ((List.range maxLength).flatMap fun n => symbolsOf lengths (n + 1)).toArray

/-- The share of all words that a code uses, in units of the longest word. -/
def used (h : Huffman) : Nat :=
  (List.range (maxLength + 1)).foldl
    (fun sum n => sum + h.counts.getD n 0 * Nat.pow 2 (maxLength - n)) 0

/-- A code is sound when its words use the whole space, or when it has at most one word. -/
def isSound (h : Huffman) : Bool :=
  h.used == Nat.pow 2 maxLength || (h.symbols.size ≤ 1 && h.used ≤ Nat.pow 2 maxLength)

end Huffman

/-! ### Blocks of bits -/

/-- The bit at an index, absent beyond the end. -/
def bit? (bytes : ByteArray) (pos : Nat) : Option Nat :=
  if h : pos / 8 < bytes.size then
    some ((bytes[pos / 8].toNat >>> (pos % 8)) &&& 1)
  else none

/-- The number of so many bits from an index on, the first one the least significant. -/
def bits? (bytes : ByteArray) : Nat → Nat → Option Nat
  | 0, _ => some 0
  | n + 1, pos => do
    let low ← bit? bytes pos
    let high ← bits? bytes n (pos + 1)
    some (low + 2 * high)

/-- Reads a symbol bit by bit and gives it with the index after its word. The word so far, the
first word of its length and the number of shorter words are carried along; words of one length
follow each other. -/
def Huffman.read? (h : Huffman) (bytes : ByteArray) (pos : Nat) :
    Nat → (length code first index : Nat) → Option (Nat × Nat)
  | 0, _, _, _, _ => none
  | fuel + 1, length, code, first, index =>
    match bit? bytes pos with
    | none => none
    | some b =>
      let code := code + b
      let count := h.counts.getD length 0
      if code < first + count then some (h.symbols.getD (index + (code - first)) 0, pos + 1)
      else h.read? bytes (pos + 1) fuel (length + 1) (2 * code) (2 * (first + count))
        (index + count)

/-- Reads the symbol whose word starts at an index. -/
def Huffman.symbolAt? (h : Huffman) (bytes : ByteArray) (pos : Nat) : Option (Nat × Nat) :=
  h.read? bytes pos Huffman.maxLength 1 0 0 0

/-- The shortest length of each length symbol and the number of its extra bits. -/
def lengthCodes : Array (Nat × Nat) := #[
  (3, 0), (4, 0), (5, 0), (6, 0), (7, 0), (8, 0), (9, 0), (10, 0), (11, 1), (13, 1), (15, 1),
  (17, 1), (19, 2), (23, 2), (27, 2), (31, 2), (35, 3), (43, 3), (51, 3), (59, 3), (67, 4),
  (83, 4), (99, 4), (115, 4), (131, 5), (163, 5), (195, 5), (227, 5), (258, 0)]

/-- The shortest distance of each distance symbol and the number of its extra bits. -/
def distanceCodes : Array (Nat × Nat) := #[
  (1, 0), (2, 0), (3, 0), (4, 0), (5, 1), (7, 1), (9, 2), (13, 2), (17, 3), (25, 3), (33, 4),
  (49, 4), (65, 5), (97, 5), (129, 6), (193, 6), (257, 7), (385, 7), (513, 8), (769, 8),
  (1025, 9), (1537, 9), (2049, 10), (3073, 10), (4097, 11), (6145, 11), (8193, 12), (12289, 12),
  (16385, 13), (24577, 13)]

/-- The byte so far before the end of the data, zero where that lies before its start. -/
def byteBack (out : ByteArray) (distance : Nat) : UInt8 :=
  if distance ≤ out.size then out.data.getD (out.size - distance) 0 else 0

/-- The data after so many bytes from a distance back are repeated one by one. -/
def repeatBytes (distance : Nat) : Nat → ByteArray → ByteArray
  | 0, out => out
  | n + 1, out => repeatBytes distance n (out.push (byteBack out distance))

/-- The base of a length or distance plus the extra bits at an index, and the index after them. -/
def extended? (codes : Array (Nat × Nat)) (bytes : ByteArray) (symbol pos : Nat) :
    Option (Nat × Nat) := do
  let (base, extra) ← codes[symbol]?
  let more ← bits? bytes extra pos
  some (base + more, pos + extra)

/-- Reads the symbols of a block up to its end mark, and gives the data with the index after it.
Every symbol takes at least one bit of the fuel. -/
def readSymbols? (literals distances : Huffman) (bytes : ByteArray) :
    Nat → Nat → ByteArray → Option (ByteArray × Nat)
  | 0, _, _ => none
  | fuel + 1, pos, out =>
    match literals.symbolAt? bytes pos with
    | none => none
    | some (value, pos) =>
      if value < 256 then
        readSymbols? literals distances bytes fuel pos (out.push (UInt8.ofNat value))
      else if value = 256 then some (out, pos)
      else match extended? lengthCodes bytes (value - 257) pos with
        | none => none
        | some (length, pos) =>
          match distances.symbolAt? bytes pos with
          | none => none
          | some (value, pos) =>
            match extended? distanceCodes bytes value pos with
            | none => none
            | some (distance, pos) =>
              readSymbols? literals distances bytes fuel pos (repeatBytes distance length out)

/-- Reads a block of bytes as they are: the rest of a byte is skipped, and the number of bytes is
given twice, the second time with all bits inverted. -/
def readStored? (bytes : ByteArray) (pos : Nat) (out : ByteArray) : Option (ByteArray × Nat) := do
  let index := (pos + 7) / 8
  let length ← field? bytes index 2
  let inverse ← field? bytes (index + 2) 2
  if length + inverse ≠ 0xffff then none
  else
    let part ← slice? bytes (index + 4) length
    some (out ++ part, 8 * (index + 4 + length))

/-- The code of literals and lengths that needs no description. -/
def fixedLiterals : Huffman :=
  Huffman.ofLengths (List.replicate 144 8 ++ List.replicate 112 9 ++ List.replicate 24 7
    ++ List.replicate 8 8)

/-- The code of distances that needs no description. -/
def fixedDistances : Huffman := Huffman.ofLengths (List.replicate 32 5)

/-- The order in which the word lengths of the code of word lengths are given. -/
def lengthOrder : List Nat := [16, 17, 18, 0, 8, 7, 9, 6, 10, 5, 11, 4, 12, 3, 13, 2, 14, 1, 15]

/-- Reads word lengths of three bits each. -/
def readTriples? (bytes : ByteArray) : Nat → Nat → Option (List Nat)
  | 0, _ => some []
  | n + 1, pos => do
    let length ← bits? bytes 3 pos
    let rest ← readTriples? bytes n (pos + 3)
    some (length :: rest)

/-- Reads word lengths until there are so many: a length, the last one again, or zeros. Gives
them with the last one first, and the index after them. -/
def readLengths? (code : Huffman) (bytes : ByteArray) (wanted : Nat) :
    Nat → Nat → List Nat → Option (List Nat × Nat)
  | 0, _, _ => none
  | fuel + 1, pos, reversed =>
    if reversed.length = wanted then some (reversed, pos)
    else if reversed.length > wanted then none
    else match code.symbolAt? bytes pos with
      | none => none
      | some (value, pos) =>
        if value < 16 then readLengths? code bytes wanted fuel pos (value :: reversed)
        else
          let (extra, base) := if value = 16 then (2, 3) else if value = 17 then (3, 3) else (7, 11)
          match bits? bytes extra pos with
          | none => none
          | some more =>
            match value, reversed with
            | 16, [] => none
            | 16, last :: _ => readLengths? code bytes wanted fuel (pos + extra)
                (List.replicate (base + more) last ++ reversed)
            | _, _ => readLengths? code bytes wanted fuel (pos + extra)
                (List.replicate (base + more) 0 ++ reversed)

/-- Reads a block that describes its own codes: at most 286 literals and lengths, and at most
thirty distances. -/
def readDescribed? (bytes : ByteArray) (pos : Nat) (out : ByteArray) (fuel : Nat) :
    Option (ByteArray × Nat) := do
  let literalCount := 257 + (← bits? bytes 5 pos)
  let distanceCount := 1 + (← bits? bytes 5 (pos + 5))
  let tripleCount := 4 + (← bits? bytes 4 (pos + 10))
  let triples ← readTriples? bytes tripleCount (pos + 14)
  if 286 < literalCount ∨ 30 < distanceCount then none
  let given := lengthOrder.zip triples
  let code := Huffman.ofLengths ((List.range 19).map fun n => (given.lookup n).getD 0)
  if code.isSound = false then none
  let (reversed, pos) ← readLengths? code bytes (literalCount + distanceCount) fuel
    (pos + 14 + 3 * tripleCount) []
  let lengths := reversed.reverse
  let literals := Huffman.ofLengths (lengths.take literalCount)
  let distances := Huffman.ofLengths (lengths.drop literalCount)
  if literals.isSound = false ∨ distances.isSound = false then none
  readSymbols? literals distances bytes fuel pos out

/-- Reads one block whose kind is known. -/
def readBlock? (bytes : ByteArray) (kind pos : Nat) (out : ByteArray) (fuel : Nat) :
    Option (ByteArray × Nat) :=
  if kind = 0 then readStored? bytes pos out
  else if kind = 1 then readSymbols? fixedLiterals fixedDistances bytes fuel pos out
  else if kind = 2 then readDescribed? bytes pos out fuel
  else none

/-- Reads blocks up to the last one. Every block takes at least one bit of the fuel. -/
def inflateFrom? (bytes : ByteArray) : Nat → Nat → ByteArray → Option ByteArray
  | 0, _, _ => none
  | fuel + 1, pos, out =>
    match bit? bytes pos, bits? bytes 2 (pos + 1) with
    | some final, some kind =>
      match readBlock? bytes kind (pos + 3) out (8 * bytes.size + 1) with
      | some (out, pos) => if final = 1 then some out else inflateFrom? bytes fuel pos out
      | none => none
    | _, _ => none

/-- Inflates compressed data. -/
def inflate? (bytes : ByteArray) : Option ByteArray :=
  inflateFrom? bytes (8 * bytes.size + 1) 0 ByteArray.empty

end InteractiveBook.Zip
