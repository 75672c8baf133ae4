import InteractiveBook.Text.CodePage437
import InteractiveBook.Text.Utf8

/-!
# Reading back the bytes of a text

Lenient reading undoes writing: no stretch of the bytes of a text is faulty, whatever stands behind
them. Texts within ASCII are read the same way in code page 437.
-/

namespace InteractiveBook.Text

/-- The bytes of a text are those of its characters in turn. -/
theorem bytesOf_toList (s : String) :
    (bytesOf s).data.toList = s.toList.flatMap String.utf8EncodeChar := by
  rw [bytesOf, String.toUTF8_eq_toByteArray, ← String.utf8Encode_toList, List.utf8Encode,
    List.data_toByteArray]

/-- A character is never one of the surrogates and stays below the last plane. -/
theorem char_range (c : Char) : c.toNat < 0xd800 ∨ 0xdfff < c.toNat ∧ c.toNat < 0x110000 := c.valid

/-- A number that a character has stands for it. -/
theorem ofNat_of_eq {c : Char} {n : Nat} (h : n = c.toNat) : Char.ofNat n = c := by
  rw [h, Char.ofNat_toNat]

/-- One byte below the first limit is a character of its own. -/
theorem utf8Head_one {c : Char} (h : c.toNat < 0x80) (rest : List Nat) :
    utf8Head c.toNat rest = .char c 1 := by
  rw [utf8Head, if_pos h, Char.ofNat_toNat]

/-- The two bytes of a character below the second limit. -/
theorem utf8Head_two {c : Char} (h : 0x80 ≤ c.toNat) (h' : c.toNat < 0x800) (rest : List Nat) :
    utf8Head (c.toNat / 64 % 32 + 0xc0) ((c.toNat % 64 + 0x80) :: rest) = .char c 2 := by
  have hs : secondByteRange? (c.toNat / 64 % 32 + 0xc0) = some (0x80, 0xbf, 2) := by
    rw [secondByteRange?, if_pos (by omega)]
  have hb : ¬(c.toNat % 64 + 0x80 < 0x80 ∨ 0xbf < c.toNat % 64 + 0x80) := by omega
  rw [utf8Head, if_neg (by omega)]
  simp only [hs, if_neg hb, reduceIte]
  rw [ofNat_of_eq (c := c) (by omega)]

/-- The second bytes that may follow the lead byte of three are those of characters outside the
surrogates. -/
theorem secondByteRange?_three {c : Char} (h : 0x800 ≤ c.toNat) (h' : c.toNat < 0x10000) :
    ∃ low high, secondByteRange? (c.toNat / 4096 % 16 + 0xe0) = some (low, high, 3) ∧
      low ≤ c.toNat / 64 % 64 + 0x80 ∧ c.toNat / 64 % 64 + 0x80 ≤ high := by
  have hr := char_range c
  rw [secondByteRange?, if_neg (by omega)]
  by_cases he : c.toNat / 4096 = 0
  · rw [if_pos (by omega)]
    exact ⟨_, _, rfl, by omega, by omega⟩
  · rw [if_neg (by omega)]
    by_cases hd : c.toNat / 4096 = 13
    · rw [if_pos (by omega)]
      exact ⟨_, _, rfl, by omega, by omega⟩
    · rw [if_neg (by omega), if_pos (by omega)]
      exact ⟨_, _, rfl, by omega, by omega⟩

/-- The three bytes of a character below the third limit. -/
theorem utf8Head_three {c : Char} (h : 0x800 ≤ c.toNat) (h' : c.toNat < 0x10000)
    (rest : List Nat) :
    utf8Head (c.toNat / 4096 % 16 + 0xe0)
      ((c.toNat / 64 % 64 + 0x80) :: (c.toNat % 64 + 0x80) :: rest) = .char c 3 := by
  obtain ⟨low, high, hs, hl, hh⟩ := secondByteRange?_three h h'
  have hc : isContinuation (c.toNat % 64 + 0x80) = true := by simp [isContinuation]; omega
  have hb : ¬(c.toNat / 64 % 64 + 0x80 < low ∨ high < c.toNat / 64 % 64 + 0x80) := by omega
  rw [utf8Head, if_neg (by omega)]
  simp only [hs, if_neg hb, hc, Nat.reduceEqDiff, Bool.not_true, Bool.false_eq_true, reduceIte]
  rw [ofNat_of_eq (c := c) (by omega)]

/-- The second bytes that may follow the lead byte of four are those of characters up to the last
plane. -/
theorem secondByteRange?_four {c : Char} (h : 0x10000 ≤ c.toNat) :
    ∃ low high, secondByteRange? (c.toNat / 262144 % 8 + 0xf0) = some (low, high, 4) ∧
      low ≤ c.toNat / 4096 % 64 + 0x80 ∧ c.toNat / 4096 % 64 + 0x80 ≤ high := by
  have hr := char_range c
  rw [secondByteRange?, if_neg (by omega), if_neg (by omega), if_neg (by omega),
    if_neg (by omega)]
  by_cases he : c.toNat / 262144 = 0
  · rw [if_pos (by omega)]
    exact ⟨_, _, rfl, by omega, by omega⟩
  · rw [if_neg (by omega)]
    by_cases hd : c.toNat / 262144 = 4
    · rw [if_neg (by omega), if_pos (by omega)]
      exact ⟨_, _, rfl, by omega, by omega⟩
    · rw [if_pos (by omega)]
      exact ⟨_, _, rfl, by omega, by omega⟩

/-- The four bytes of a character beyond the third limit. -/
theorem utf8Head_four {c : Char} (h : 0x10000 ≤ c.toNat) (rest : List Nat) :
    utf8Head (c.toNat / 262144 % 8 + 0xf0)
      ((c.toNat / 4096 % 64 + 0x80) :: (c.toNat / 64 % 64 + 0x80) :: (c.toNat % 64 + 0x80)
        :: rest) = .char c 4 := by
  have hr := char_range c
  obtain ⟨low, high, hs, hl, hh⟩ := secondByteRange?_four h
  have hc : isContinuation (c.toNat / 64 % 64 + 0x80) = true := by simp [isContinuation]; omega
  have hd : isContinuation (c.toNat % 64 + 0x80) = true := by simp [isContinuation]; omega
  have hb : ¬(c.toNat / 4096 % 64 + 0x80 < low ∨ high < c.toNat / 4096 % 64 + 0x80) := by omega
  rw [utf8Head, if_neg (by omega)]
  simp only [hs, if_neg hb, hc, hd, Nat.reduceEqDiff, Bool.not_true, Bool.false_eq_true,
    reduceIte]
  rw [ofNat_of_eq (c := c) (by omega)]

/-- A byte below the limit of bytes keeps its number. -/
theorem toNat_ofNat_of_lt {n : Nat} (h : n < 256) : (UInt8.ofNat n).toNat = n := by
  rw [UInt8.toNat_ofNat']
  exact Nat.mod_eq_of_lt h

/-- Bytes already used are passed over. -/
theorem lenientChars_skip (used rest : List Nat) :
    lenientChars used.length (used ++ rest) = lenientChars 0 rest := by
  induction used with
  | nil => rfl
  | cons b used ih =>
    rw [List.length_cons, List.cons_append, lenientChars, if_pos (Nat.succ_pos _)]
    exact ih

/-- A head of its width is read as its character, and its bytes are used up. -/
theorem lenientChars_of_head {c : Char} {lead : Nat} (tail : List Nat) {rest : List Nat}
    (h : utf8Head lead (tail ++ rest) = .char c (tail.length + 1)) :
    lenientChars 0 (lead :: tail ++ rest) = c :: lenientChars 0 rest := by
  rw [List.cons_append, lenientChars, if_neg (Nat.lt_irrefl 0), h]
  dsimp only
  rw [Nat.add_sub_cancel, lenientChars_skip]

/-- The bytes of a character are read as that character, whatever stands behind them. -/
theorem lenientChars_encodeChar (c : Char) (rest : List Nat) :
    lenientChars 0 ((String.utf8EncodeChar c).map UInt8.toNat ++ rest) =
      c :: lenientChars 0 rest := by
  have hr := char_range c
  have hv : c.val.toNat = c.toNat := rfl
  simp only [String.utf8EncodeChar, hv]
  by_cases h1 : c.toNat ≤ 0x7f
  · have hb : c.toNat < 256 := by omega
    simp only [if_pos h1, List.map_cons, List.map_nil, toNat_ofNat_of_lt hb]
    exact lenientChars_of_head [] (utf8Head_one (c := c) (by omega) rest)
  by_cases h2 : c.toNat ≤ 0x7ff
  · have hb : c.toNat / 64 % 32 + 0xc0 < 256 ∧ c.toNat % 64 + 0x80 < 256 := by omega
    simp only [if_neg h1, if_pos h2, List.map_cons, List.map_nil, toNat_ofNat_of_lt hb.1,
      toNat_ofNat_of_lt hb.2]
    exact lenientChars_of_head [_] (utf8Head_two (c := c) (by omega) (by omega) rest)
  by_cases h3 : c.toNat ≤ 0xffff
  · have hb : c.toNat / 4096 % 16 + 0xe0 < 256 ∧ c.toNat / 64 % 64 + 0x80 < 256 ∧
        c.toNat % 64 + 0x80 < 256 := by omega
    simp only [if_neg h1, if_neg h2, if_pos h3, List.map_cons, List.map_nil,
      toNat_ofNat_of_lt hb.1, toNat_ofNat_of_lt hb.2.1, toNat_ofNat_of_lt hb.2.2]
    exact lenientChars_of_head [_, _]
      (utf8Head_three (c := c) (by omega) (by omega) rest)
  · have hb : c.toNat / 262144 % 8 + 0xf0 < 256 ∧ c.toNat / 4096 % 64 + 0x80 < 256 ∧
        c.toNat / 64 % 64 + 0x80 < 256 ∧ c.toNat % 64 + 0x80 < 256 := by omega
    simp only [if_neg h1, if_neg h2, if_neg h3, List.map_cons, List.map_nil,
      toNat_ofNat_of_lt hb.1, toNat_ofNat_of_lt hb.2.1, toNat_ofNat_of_lt hb.2.2.1,
      toNat_ofNat_of_lt hb.2.2.2]
    exact lenientChars_of_head [_, _, _] (utf8Head_four (c := c) (by omega) rest)

/-- The bytes of characters are read as those characters. -/
theorem lenientChars_flatMap (cs : List Char) :
    lenientChars 0 ((cs.flatMap String.utf8EncodeChar).map UInt8.toNat) = cs := by
  induction cs with
  | nil => rfl
  | cons c cs ih => rw [List.flatMap_cons, List.map_append, lenientChars_encodeChar, ih]

/-- Lenient reading undoes writing. -/
theorem decodeLenient_bytesOf (s : String) : decodeLenient (bytesOf s).data.toList = s := by
  rw [decodeLenient, bytesOf_toList, lenientChars_flatMap, String.ofList_toList]

/-- A character within ASCII is one byte, which code page 437 reads as that character. -/
theorem char437_encodeChar {c : Char} (h : c.toNat < 0x80) :
    (String.utf8EncodeChar c).map char437 = [c] := by
  have hv : c.val.toNat = c.toNat := rfl
  simp only [String.utf8EncodeChar, hv]
  rw [if_pos (by omega)]
  simp only [List.map_cons, List.map_nil, char437]
  rw [toNat_ofNat_of_lt (by omega), if_pos h, Char.ofNat_toNat]

/-- A text within ASCII is read back in code page 437. -/
theorem decode437_bytesOf {s : String} (h : ∀ c ∈ s.toList, c.toNat < 0x80) :
    decode437 (bytesOf s).data.toList = s := by
  have hcs : ∀ cs : List Char, (∀ c ∈ cs, c.toNat < 0x80) →
      (cs.flatMap String.utf8EncodeChar).map char437 = cs := by
    intro cs hcs
    induction cs with
    | nil => rfl
    | cons c cs ih =>
      rw [List.flatMap_cons, List.map_append, char437_encodeChar (hcs c List.mem_cons_self),
        ih fun d hd => hcs d (List.mem_cons_of_mem c hd)]
      rfl
  rw [decode437, bytesOf_toList, hcs _ h, String.ofList_toList]

end InteractiveBook.Text
