/-!
# Text in eight-bit units

Bytes are read as text either strictly, with the place and kind of the first fault, or leniently,
with a replacement character for each faulty stretch. A faulty stretch is the longest start of a
character that has no end.
-/

namespace InteractiveBook.Text

/-- The bytes of a text. -/
def bytesOf (s : String) : ByteArray := s.toUTF8

/-- What stands at the start of a list of bytes. -/
inductive Utf8Head where
  /-- A character that takes so many bytes. -/
  | char (c : Char) (width : Nat)
  /-- A faulty stretch of so many bytes. -/
  | fault (width : Nat)
  /-- The start of a character that ends with the list. -/
  | cut
  deriving DecidableEq, Repr

/-- The range of second bytes that may follow a lead byte, and the width of its characters. Lead
bytes of ASCII, of overlong forms and beyond the last plane have none. -/
def secondByteRange? (lead : Nat) : Option (Nat × Nat × Nat) :=
  if 0xc2 ≤ lead ∧ lead ≤ 0xdf then some (0x80, 0xbf, 2)
  else if lead = 0xe0 then some (0xa0, 0xbf, 3)
  else if lead = 0xed then some (0x80, 0x9f, 3)
  else if 0xe1 ≤ lead ∧ lead ≤ 0xef then some (0x80, 0xbf, 3)
  else if lead = 0xf0 then some (0x90, 0xbf, 4)
  else if 0xf1 ≤ lead ∧ lead ≤ 0xf3 then some (0x80, 0xbf, 4)
  else if lead = 0xf4 then some (0x80, 0x8f, 4)
  else none

/-- A byte that continues a character. -/
def isContinuation (n : Nat) : Bool := 0x80 ≤ n && n ≤ 0xbf

/-- What stands at the start of a non-empty list, given its lead byte and the rest. -/
def utf8Head (lead : Nat) (rest : List Nat) : Utf8Head :=
  if lead < 0x80 then .char (Char.ofNat lead) 1
  else match secondByteRange? lead with
    | none => .fault 1
    | some (low, high, width) =>
      match rest with
      | [] => .cut
      | b :: rest =>
        if b < low ∨ high < b then .fault 1
        else if width = 2 then .char (Char.ofNat ((lead - 0xc0) * 64 + (b - 0x80))) 2
        else match rest with
          | [] => .cut
          | c :: rest =>
            if !isContinuation c then .fault 2
            else if width = 3 then
              .char (Char.ofNat ((lead - 0xe0) * 4096 + (b - 0x80) * 64 + (c - 0x80))) 3
            else match rest with
              | [] => .cut
              | d :: _ =>
                if !isContinuation d then .fault 3
                else .char (Char.ofNat ((lead - 0xf0) * 262144 + (b - 0x80) * 4096
                  + (c - 0x80) * 64 + (d - 0x80))) 4

/-- The first fault of bytes that are not text. -/
structure Utf8Fault where
  /-- How many bytes before it are text. -/
  index : Nat
  /-- How many bytes are at fault, none when the bytes end inside a character. -/
  width? : Option Nat
  deriving DecidableEq, Repr

/-- The wording of a fault. -/
def Utf8Fault.message (f : Utf8Fault) : String :=
  match f.width? with
  | some width =>
    "invalid utf-8 sequence of " ++ toString width ++ " bytes from index " ++ toString f.index
  | none => "incomplete utf-8 byte sequence from index " ++ toString f.index

/-- The first fault at or after an index, skipping bytes of a character already seen. -/
def firstFaultFrom (index skip : Nat) : List Nat → Option Utf8Fault
  | [] => none
  | b :: rest =>
    if 0 < skip then firstFaultFrom (index + 1) (skip - 1) rest
    else match utf8Head b rest with
      | .char _ width => firstFaultFrom (index + 1) (width - 1) rest
      | .fault width => some ⟨index, some width⟩
      | .cut => some ⟨index, none⟩

/-- The text of bytes, or their first fault. -/
def decodeUtf8 (bytes : ByteArray) : Except Utf8Fault String :=
  match String.fromUTF8? bytes with
  | some s => .ok s
  | none =>
    match firstFaultFrom 0 0 (bytes.data.toList.map UInt8.toNat) with
    | some fault => .error fault
    | none => .error ⟨bytes.size, none⟩

/-- The characters of bytes read leniently, skipping bytes already used. -/
def lenientChars (skip : Nat) : List Nat → List Char
  | [] => []
  | b :: rest =>
    if 0 < skip then lenientChars (skip - 1) rest
    else match utf8Head b rest with
      | .char c width => c :: lenientChars (width - 1) rest
      | .fault width => Char.ofNat 0xfffd :: lenientChars (width - 1) rest
      | .cut => [Char.ofNat 0xfffd]

/-- The text of bytes read leniently. -/
def decodeLenient (bytes : List UInt8) : String :=
  String.ofList (lenientChars 0 (bytes.map UInt8.toNat))

end InteractiveBook.Text
