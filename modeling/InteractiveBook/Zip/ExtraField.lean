import InteractiveBook.Zip.Fault
import InteractiveBook.Zip.Field
import InteractiveBook.Text.Utf8

/-!
# Extra fields of a directory header

A header may carry extra fields, each with a kind and a length. Some change how the entry is
read: sizes and offsets of sixty-four bits, a name in another encoding, the method behind an
encryption. Fields are read in order and take effect as they are read: where the bytes end inside
a field, what was read before stays in force and the rest is passed over. A field that
contradicts its own format makes the directory unusable.
-/

namespace InteractiveBook.Zip

/-- The method number of encrypted entries whose true method is in an extra field. -/
def wrappedMethod : Nat := 99

/-- The value of a thirty-two bit field that says: see the extra field. -/
def overflow32 : Nat := 0xffffffff

/-- What a header says of an entry, before and after its extra fields are taken in. -/
structure EntryFacts where
  /-- The name as text. -/
  name : String
  /-- The bytes of the name. -/
  rawName : List UInt8
  /-- The comment as text. -/
  comment : String
  /-- The compression method. -/
  method : Nat
  /-- The length of the compressed data. -/
  compressedSize : Nat
  /-- The length of the data. -/
  size : Nat
  /-- The distance of the local header. -/
  offset : Nat
  /-- Whether an extra field gave the method behind an encryption. -/
  unwrapped : Bool

/-- Why the reading of extra fields stops. -/
inductive ExtraStop where
  /-- The bytes end inside a field. -/
  | ended
  /-- A field contradicts its own format. -/
  | broken
  deriving DecidableEq

/-- The facts so far and the bytes that are still to be read. -/
structure ExtraState where
  /-- The facts as the fields so far have left them. -/
  facts : EntryFacts
  /-- The bytes not read yet. -/
  rest : List UInt8

/-- Reading extra fields: the state outlives a stop, so that what was read stays in force. -/
abbrev ExtraReader := ExceptT ExtraStop (StateM ExtraState)

/-- Takes so many bytes off the front. -/
def readBytes (length : Nat) : ExtraReader (List UInt8) := do
  let state ← get
  if state.rest.length < length then throw .ended
  set { state with rest := state.rest.drop length }
  return state.rest.take length

/-- Takes a number of so many bytes off the front. -/
def readNumber (width : Nat) : ExtraReader Nat := do
  return number (← readBytes width)

/-- Changes the facts. -/
def changeFacts (change : EntryFacts → EntryFacts) : ExtraReader Unit :=
  modify fun state => { state with facts := change state.facts }

/-- Takes in one number of sixty-four bits when it is wanted, and counts the bytes read. -/
def readWide (wanted : Bool) (store : Nat → EntryFacts → EntryFacts) : ExtraReader Nat := do
  if wanted then
    let value ← readNumber 8
    changeFacts (store value)
    return 8
  else return 0

/-- Takes in the sizes and the offset of sixty-four bits, those whose own field overflows or all
three when the field is long enough for them. -/
def readWideSizes (length : Nat) : ExtraReader Unit := do
  let facts := (← get).facts
  let whole := decide (24 ≤ length)
  let a ← readWide (whole || facts.size == overflow32) fun n f => { f with size := n }
  let b ← readWide (whole || facts.compressedSize == overflow32)
    fun n f => { f with compressedSize := n }
  let c ← readWide (whole || facts.offset == overflow32) fun n f => { f with offset := n }
  if length < a + b + c then throw .broken
  let _ ← readBytes (length - (a + b + c))

/-- Reads a text in another encoding: a version, which says nothing, the checksum of the bytes it
replaces, and its own bytes. -/
def readReplacement (replaced : List UInt8) (length : Nat) :
    ExtraReader (String × List UInt8) := do
  let _ ← readNumber 1
  let crc ← readNumber 4
  if length < 5 then throw .broken
  let content ← readBytes (length - 5)
  if crc ≠ (crc32 (pack replaced)).toNat then throw .broken
  match String.fromUTF8? (pack content) with
  | some text => return (text, content)
  | none => throw .broken

/-- The number of set bits of a byte. -/
def bitCount (n : Nat) : Nat := (List.range 8).countP fun i => n.testBit i

/-- Passes over the times of a file: a byte of flags and a time for each of them. A field of five
bytes holds one time whatever its flags say; flags beyond the three known ones are refused. -/
def readTimes (length : Nat) : ExtraReader Unit := do
  let flags ← readNumber 1
  if length ≠ 5 ∧ length ≠ 1 + 4 * bitCount flags then throw .broken
  if 8 ≤ flags then throw .broken
  let times := (if flags.testBit 0 || length == 5 then 1 else 0)
    + (if flags.testBit 1 && decide (5 < length) then 1 else 0)
    + (if flags.testBit 2 && decide (5 < length) then 1 else 0)
  let _ ← readBytes (4 * times)

/-- Passes over the attributes of another file system, which have one fixed form. -/
def readAttributes (length : Nat) : ExtraReader Unit := do
  if length ≠ 32 then throw .broken
  let _ ← readNumber 4
  if (← readNumber 2) ≠ 1 then throw .broken
  if (← readNumber 2) ≠ 24 then throw .broken
  let _ ← readBytes 24

/-- Takes in the method behind an encryption. -/
def readWrapped (length : Nat) : ExtraReader Unit := do
  if length ≠ 7 then throw .broken
  let version ← readNumber 2
  let vendor ← readNumber 2
  let strength ← readNumber 1
  let method ← readNumber 2
  if vendor ≠ 0x4541 ∨ (version ≠ 1 ∧ version ≠ 2) ∨ strength < 1 ∨ 3 < strength then
    throw .broken
  changeFacts fun facts => { facts with method, unwrapped := true }

/-- Reads one extra field: its kind, its length and its content. -/
def readExtra : ExtraReader Unit := do
  let kind ← readNumber 2
  let length ← readNumber 2
  if kind = 0x0001 then readWideSizes length
  else if kind = 0x000a then readAttributes length
  else if kind = 0x9901 then readWrapped length
  else if kind = 0x5455 then readTimes length
  else if kind = 0x6375 then
    let (comment, _) ← readReplacement (← get).facts.comment.toUTF8.data.toList length
    changeFacts fun facts => { facts with comment }
  else if kind = 0x7075 then
    let (name, rawName) ← readReplacement (← get).facts.rawName length
    changeFacts fun facts => { facts with name, rawName }
  else
    let _ ← readBytes length

/-- The facts of a header after its extra fields; the fuel bounds the number of fields. -/
def takeExtras : Nat → EntryFacts → List UInt8 → Except Fault EntryFacts
  | 0, facts, _ => .ok facts
  | fuel + 1, facts, bytes =>
    if bytes = [] then .ok facts
    else match readExtra.run.run ⟨facts, bytes⟩ with
      | (.error .ended, state) => .ok state.facts
      | (.error .broken, _) => .error .badExtraField
      | (.ok _, state) => takeExtras fuel state.facts state.rest

end InteractiveBook.Zip
