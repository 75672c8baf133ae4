/-!
# Fields and checksums of an archive

The headers of an archive are made of numbers in little-endian order at fixed distances. A field
beyond the end of the bytes is absent. The checksum of an entry has thirty-two bits: it is the
remainder of the data as a polynomial over two elements, its bits reflected, with all bits inverted
before and after.
-/

namespace InteractiveBook.Zip

/-- The bytes of a number in little-endian order, so many of them; higher bits are lost. -/
def littleEndian : Nat → Nat → List UInt8
  | 0, _ => []
  | width + 1, n => UInt8.ofNat (n % 256) :: littleEndian width (n / 256)

/-- The number of bytes in little-endian order. -/
def number : List UInt8 → Nat
  | [] => 0
  | b :: rest => b.toNat + 256 * number rest

/-- The stretch of bytes of a given length at an index, absent when it would pass the end. -/
def slice? (bytes : ByteArray) (index length : Nat) : Option ByteArray :=
  if index + length ≤ bytes.size then some (bytes.extract index (index + length)) else none

/-- The number of a given width at an index. -/
def field? (bytes : ByteArray) (index width : Nat) : Option Nat :=
  (slice? bytes index width).map fun part => number part.data.toList

/-- The bytes of a list. -/
def pack (bytes : List UInt8) : ByteArray := ⟨bytes.toArray⟩

/-- Writing a number gives as many bytes as asked for. -/
theorem length_littleEndian (width n : Nat) : (littleEndian width n).length = width := by
  induction width generalizing n with
  | zero => rfl
  | succ width ih => simp [littleEndian, ih]

/-- A number that fits its width is read back. -/
theorem number_littleEndian {width n : Nat} (h : n < Nat.pow 256 width) :
    number (littleEndian width n) = n := by
  induction width generalizing n with
  | zero => simp at h; simp [littleEndian, number, h]
  | succ width ih =>
    have hn : n / 256 < Nat.pow 256 width := by
      rw [Nat.div_lt_iff_lt_mul (by decide)]
      exact h
    have hb : (UInt8.ofNat (n % 256)).toNat = n % 256 := by
      simp
    simp only [littleEndian, number, ih hn, hb]
    omega

/-! ### Checksums -/

/-- The reflected generator polynomial. -/
def crcPolynomial : UInt32 := 0xedb88320

/-- The remainder after one more bit. -/
def crcBit (r : UInt32) : UInt32 :=
  if r &&& 1 = 1 then crcPolynomial ^^^ (r >>> 1) else r >>> 1

/-- The remainder after so many more bits. -/
def crcBits : Nat → UInt32 → UInt32
  | 0, r => r
  | n + 1, r => crcBits n (crcBit r)

/-- The remainders of the single bytes. -/
def crcTable : Array UInt32 := ((List.range 256).map fun n => crcBits 8 (UInt32.ofNat n)).toArray

/-- The remainder after one more byte. -/
def crcStep (r : UInt32) (b : UInt8) : UInt32 :=
  crcTable.getD ((r ^^^ b.toUInt32) &&& 0xff).toNat 0 ^^^ (r >>> 8)

/-- The checksum of bytes. -/
def crc32 (bytes : ByteArray) : UInt32 :=
  bytes.foldl crcStep 0xffffffff ^^^ 0xffffffff

end InteractiveBook.Zip
