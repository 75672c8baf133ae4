import InteractiveBook.Content.Build
import InteractiveBook.Proofs.Json.Occurrence

/-!
# Random identifiers

The identifiers that a run draws are all different and are written with small hexadecimal digits and
hyphens. No path of a file occurs in them.
-/

namespace InteractiveBook.Content

/-- A character of a random identifier: a small hexadecimal digit or a hyphen. -/
def isIdChar (c : Char) : Bool := c.isDigit || (decide ('a' ≤ c) && decide (c ≤ 'f')) || c == '-'

/-- The identifiers that a run has drawn: none was drawn twice, and each is written with small
hexadecimal digits and hyphens. -/
structure AreRandom (ids : List SubContentId) : Prop where
  /-- Different draws gave different identifiers. -/
  nodup : ids.Nodup
  /-- The characters of an identifier are hexadecimal digits and hyphens. -/
  form : ∀ id ∈ ids, ∀ c ∈ id.text.toList, isIdChar c = true

/-- Supplies that give random identifiers however often they are drawn from. -/
structure IdLanes.Random (lanes : IdLanes) : Prop where
  /-- Different draws give different identifiers. -/
  distinct : ∀ lane n lane' n', lanes lane n = lanes lane' n' → lane = lane' ∧ n = n'
  /-- The characters of an identifier are hexadecimal digits and hyphens. -/
  form : ∀ lane n, ∀ c ∈ (lanes lane n).text.toList, isIdChar c = true

/-! ### Hexadecimal digits -/

/-- The number that hexadecimal digits denote. -/
def hexValue (cs : List Char) : Nat :=
  cs.foldl (fun value c => 16 * value + (Json.hexDigit? c).getD 0) 0

/-- A digit denotes its number and is a character of identifiers other than the hyphen. -/
theorem digitChar_spec {n : Nat} (h : n < 16) :
    Json.hexDigit? n.digitChar = some n ∧ isIdChar n.digitChar = true ∧ n.digitChar ≠ '-' := by
  have hall : ∀ k : Fin 16, Json.hexDigit? k.val.digitChar = some k.val ∧
      isIdChar k.val.digitChar = true ∧ k.val.digitChar ≠ '-' := by decide +kernel
  exact hall ⟨n, h⟩

/-- The hexadecimal digits of a number denote it, and they are characters of identifiers other than
the hyphen. -/
theorem toDigits_spec (n : Nat) : hexValue (Nat.toDigits 16 n) = n ∧
    ∀ c ∈ Nat.toDigits 16 n, isIdChar c = true ∧ c ≠ '-' := by
  induction n using Nat.strongRecOn with
  | ind n ih =>
    obtain ⟨hvalue, hchar⟩ := digitChar_spec (Nat.mod_lt n (by omega : 0 < 16))
    by_cases hn : n < 16
    · rw [Nat.mod_eq_of_lt hn] at hvalue hchar
      rw [Nat.toDigits_of_lt_base hn]
      exact ⟨by simp [hexValue, hvalue], by simpa using hchar⟩
    · obtain ⟨hfront, hchars⟩ := ih (n / 16) (by omega)
      rw [Nat.toDigits_of_base_le (by omega) (by omega)]
      constructor
      · rw [hexValue] at hfront
        rw [hexValue, List.foldl_append, hfront, List.foldl_cons, List.foldl_nil, hvalue,
          Option.getD_some]
        omega
      · intro c hc
        rcases List.mem_append.1 hc with hc | hc
        · exact hchars c hc
        · rw [List.mem_singleton.1 hc]
          exact hchar

/-- The characters of a padded number. -/
theorem toList_hexDigits (width n : Nat) : (hexDigits width n).toList =
    List.replicate (width - (Nat.toDigits 16 n).length) '0' ++ Nat.toDigits 16 n := by
  simp [hexDigits, Text.paddedDigits]

/-- A padded number denotes the number. -/
theorem hexValue_hexDigits (width n : Nat) : hexValue (hexDigits width n).toList = n := by
  have hzeros : ∀ k, (List.replicate k '0').foldl
      (fun value c => 16 * value + (Json.hexDigit? c).getD 0) 0 = 0 := by
    intro k
    induction k with
    | zero => rfl
    | succ k ih =>
      rw [List.replicate_succ, List.foldl_cons]
      exact ih
  rw [toList_hexDigits, hexValue, List.foldl_append, hzeros]
  exact (toDigits_spec n).1

/-- The characters of a padded number are characters of identifiers other than the hyphen. -/
theorem mem_hexDigits {width n : Nat} {c : Char} (h : c ∈ (hexDigits width n).toList) :
    isIdChar c = true ∧ c ≠ '-' := by
  rw [toList_hexDigits] at h
  rcases List.mem_append.1 h with h | h
  · rw [(List.mem_replicate.1 h).2]
    decide
  · exact (toDigits_spec n).2 c h

/-- The first part of a text up to a hyphen. -/
theorem takeWhile_hyphen {front : List Char} (h : '-' ∉ front) (rest : List Char) :
    (front ++ '-' :: rest).takeWhile (· ≠ '-') = front := by
  rw [List.takeWhile_append_of_pos]
  · simp
  · intro c hc
    have hne : c ≠ '-' := fun heq => h (heq ▸ hc)
    simpa using hne

/-- The supplies of a run are random whatever the seed is. -/
theorem IdLanes.ofSeed_random (seed : Nat) : (ofSeed seed).Random := by
  have hhyphen : ∀ width n, '-' ∉ (hexDigits width n).toList :=
    fun width n hmem => (mem_hexDigits hmem).2 rfl
  constructor
  case distinct =>
    intro lane n lane' n' heq
    have htext := congrArg (fun id : SubContentId => id.text.toList) heq
    simp only [ofSeed, String.toList_append, List.append_assoc] at htext
    have hsign : "-".toList = ['-'] := rfl
    rw [hsign] at htext
    simp only [List.singleton_append] at htext
    have hlane := congrArg (List.takeWhile (· ≠ '-')) htext
    rw [takeWhile_hyphen (hhyphen 8 lane), takeWhile_hyphen (hhyphen 8 lane')] at hlane
    rw [hlane, List.append_cancel_left_eq] at htext
    simp only [List.cons.injEq, true_and, List.append_cancel_left_eq] at htext
    constructor
    · rw [← hexValue_hexDigits 8 lane, hlane, hexValue_hexDigits]
    · rw [← hexValue_hexDigits 12 n, htext, hexValue_hexDigits]
  case form =>
    have hsigns : (["-", "-4", "-8"].all fun s => s.toList.all isIdChar) = true := by decide
    simp only [List.all_eq_true] at hsigns
    intro lane n c hc
    simp only [ofSeed, String.toList_append, List.mem_append] at hc
    rcases hc with (((((((hc | hc) | hc) | hc) | hc) | hc) | hc) | hc) | hc
    · exact (mem_hexDigits hc).1
    · exact hsigns "-" (by simp) c hc
    · exact (mem_hexDigits hc).1
    · exact hsigns "-4" (by simp) c hc
    · exact (mem_hexDigits hc).1
    · exact hsigns "-8" (by simp) c hc
    · exact (mem_hexDigits hc).1
    · exact hsigns "-" (by simp) c hc
    · exact (mem_hexDigits hc).1

/-! ### Paths in identifiers -/

/-- A character of an identifier is printed as it is and is no slash. -/
theorem escapeChar_of_isIdChar {c : Char} (h : isIdChar c = true) :
    Json.escapeChar c = [c] ∧ c ≠ '/' := by
  have hne : ∀ d, isIdChar d = false → c ≠ d := by
    rintro d hd rfl
    rw [h] at hd
    cases hd
  have hcontrol : ∀ k : Fin 32, isIdChar (Char.ofNat k.val) = false := by decide
  have hcode : ¬c.toNat < 0x20 := by
    intro hlow
    exact hne _ (hcontrol ⟨c.toNat, hlow⟩) (Char.ofNat_toNat c).symm
  constructor
  · rw [Json.escapeChar, if_neg (hne _ rfl), if_neg (hne _ rfl), if_neg (hne _ rfl),
      if_neg (hne _ rfl), if_neg (hne _ rfl), if_neg (hne _ rfl), if_neg (hne _ rfl), if_neg hcode]
  · exact hne '/' rfl

/-- The path of the image does not occur in a random identifier. -/
theorem AreRandom.lacks {ids : List SubContentId} (h : AreRandom ids) {id : SubContentId}
    (hid : id ∈ ids) : Json.Lacks placeholderPath.toList id.text := by
  have hslash : '/' ∈ placeholderPath.toList := by decide
  intro hpart
  have hmem := hpart.subset hslash
  obtain ⟨c, hc, hescape⟩ := List.mem_flatMap.1 hmem
  obtain ⟨hsame, hne⟩ := escapeChar_of_isIdChar (h.form id hid c hc)
  rw [hsame, List.mem_singleton] at hescape
  exact hne hescape.symm

end InteractiveBook.Content
