import InteractiveBook.Json.Printer
import InteractiveBook.Json.Syntax
import Mathlib.Algebra.Group.Nat.Defs
import Mathlib.Data.List.TakeWhile

/-!
# Written numbers

A number that is written as JSON allows it is read back as it was written, with all its digits,
wherever a value may end, and nothing else is read as a number. Its parts are read one after the
other: the digits before the point, the fraction and the exponent. The mark of an exponent has two
sizes and its plus sign may be left out; the printer always writes one form.
-/

namespace InteractiveBook.Json

/-! ### Digits -/

/-- One digit or more. -/
def IsDigits (digits : List Char) : Prop := digits ≠ [] ∧ ∀ c ∈ digits, c.isDigit = true

/-- A list that does not go on with a digit. -/
def StopsDigits (rest : List Char) : Prop := ∀ c ∈ rest.head?, c.isDigit = false

/-- Digits are found in front of what is no digit. -/
theorem takeWhile_digits {ds rest : List Char} (hd : ∀ c ∈ ds, c.isDigit = true)
    (hr : StopsDigits rest) : (ds ++ rest).takeWhile Char.isDigit = ds ∧
      (ds ++ rest).dropWhile Char.isDigit = rest := by
  have hstop : rest.takeWhile Char.isDigit = [] ∧ rest.dropWhile Char.isDigit = rest := by
    cases rest with
    | nil => exact ⟨rfl, rfl⟩
    | cons c cs =>
      have hc : c.isDigit = false := hr c rfl
      simp [hc]
  rw [List.takeWhile_append_of_pos hd, List.dropWhile_append_of_pos hd, hstop.1, hstop.2]
  exact ⟨List.append_nil ds, rfl⟩

/-- Digits are read up to where there is another sign. -/
theorem isDigits_takeWhile {cs : List Char} (hne : cs.takeWhile Char.isDigit ≠ []) :
    IsDigits (cs.takeWhile Char.isDigit) ∧
      cs.takeWhile Char.isDigit ++ cs.dropWhile Char.isDigit = cs :=
  ⟨⟨hne, fun _ hc => List.mem_takeWhile_imp hc⟩, List.takeWhile_append_dropWhile⟩

/-- The digits of a number are digits. -/
theorem isDigit_toDigits (n : Nat) : ∀ c ∈ Nat.toDigits 10 n, c.isDigit = true :=
  fun _ hc => Nat.isDigit_of_mem_toDigits (by omega) (by omega) hc

/-- The digits of a positive number do not start with a zero. -/
theorem toDigits_eq_cons {n : Nat} (h : 0 < n) :
    ∃ c cs, Nat.toDigits 10 n = c :: cs ∧ c ≠ '0' := by
  induction n using Nat.strongRecOn with
  | ind n ih =>
    by_cases hn : n < 10
    · refine ⟨n.digitChar, [], Nat.toDigits_of_lt_base hn, ?_⟩
      have hall : ∀ k : Fin 10, 0 < k.val → k.val.digitChar ≠ '0' := by decide
      exact hall ⟨n, hn⟩ h
    · obtain ⟨c, cs, hcs, hc⟩ := ih (n / 10) (by omega) (by omega)
      refine ⟨c, cs ++ [(n % 10).digitChar], ?_, hc⟩
      rw [Nat.toDigits_of_base_le (by omega) (by omega), hcs, List.cons_append]

/-- The number that more digits denote behind others. -/
theorem decimalValue_append (front back : List Char) :
    Text.decimalValue (front ++ back) =
      Text.decimalValue front * 10 ^ back.length + Text.decimalValue back := by
  have happend : Text.decimalValue (front ++ back) =
      Nat.ofDigitChars 10 back (Text.decimalValue front) := by
    rw [Text.decimalValue, List.foldl_append]
    rfl
  rw [happend, Nat.ofDigitChars_eq_ofDigitChars_zero, Nat.mul_comm]
  rfl

/-- The first digit counts by the number of digits behind it. -/
theorem decimalValue_cons (c : Char) (cs : List Char) :
    Text.decimalValue (c :: cs) =
      Text.digitValue c * 10 ^ cs.length + Text.decimalValue cs := by
  have hone : Text.decimalValue [c] = Text.digitValue c := Nat.zero_add _
  rw [← hone, ← decimalValue_append, List.singleton_append]

/-- A digit denotes less than ten, and nothing only if it is a zero. -/
theorem digitValue_spec {c : Char} (h : c.isDigit = true) :
    Text.digitValue c < 10 ∧ (c ≠ '0' → 0 < Text.digitValue c) := by
  have hzero : '0'.toNat = 48 := rfl
  have hrange : 48 ≤ c.toNat ∧ c.toNat ≤ 57 := by
    simpa [Char.isDigit, UInt32.le_iff_toNat_le] using h
  rw [Text.digitValue, hzero]
  refine ⟨by omega, fun hne => ?_⟩
  have hne' : c.toNat ≠ 48 := fun heq => hne (Char.toNat_inj.1 heq)
  omega

/-- Digits denote less than the power of ten of their number. -/
theorem decimalValue_lt {cs : List Char} (h : ∀ c ∈ cs, c.isDigit = true) :
    Text.decimalValue cs < 10 ^ cs.length := by
  induction cs with
  | nil => exact Nat.one_pos
  | cons c cs ih =>
    obtain ⟨hc, hcs⟩ := List.forall_mem_cons.1 h
    have hrest := ih hcs
    have hdigit := Nat.mul_le_mul_right (10 ^ cs.length) (Nat.le_of_lt_succ (digitValue_spec hc).1)
    rw [decimalValue_cons, List.length_cons, Nat.pow_succ]
    omega

/-- Digits that do not start with a zero denote a number of as many digits. -/
theorem pow_le_decimalValue {c : Char} {cs : List Char} (hdigit : c.isDigit = true)
    (hc : c ≠ '0') : 10 ^ cs.length ≤ Text.decimalValue (c :: cs) := by
  have hfirst := Nat.mul_le_mul_right (10 ^ cs.length) ((digitValue_spec hdigit).2 hc)
  rw [decimalValue_cons]
  omega

/-- Zeros denote nothing. -/
theorem decimalValue_zeros (count : Nat) :
    Text.decimalValue (List.replicate count '0') = 0 := by
  induction count with
  | zero => rfl
  | succ count ih =>
    rw [List.replicate_succ', decimalValue_append, ih]
    rfl

/-- The digits of a number denote it. -/
theorem decimalValue_toDigits (n : Nat) : Text.decimalValue (Nat.toDigits 10 n) = n :=
  Nat.ofDigitChars_ten_toDigits

/-! ### The parts of a number -/

/-- The characters of a fraction. -/
def fractionChars : Option (List Char) → List Char
  | some digits => '.' :: digits
  | none => []

/-- The characters of an exponent, always with its sign. -/
def exponentChars : Option (Bool × List Char) → List Char
  | some (negative, digits) => 'e' :: (if negative then '-' else '+') :: digits
  | none => []

/-- The characters of a number. -/
def Numeral.chars (n : Numeral) : List Char :=
  (if n.negative then ['-'] else [])
    ++ (n.whole ++ (fractionChars n.fraction? ++ exponentChars n.exponent?))

/-- The digits that may stand before the point: a single zero, or digits that do not start with
one. -/
def IsWholePart (digits : List Char) : Prop :=
  digits = ['0'] ∨ IsDigits digits ∧ digits.head? ≠ some '0'

/-- A number that is written as JSON allows it. -/
structure Numeral.IsProper (n : Numeral) : Prop where
  /-- The digits before the point do not start with a zero unless this is all of them. -/
  whole : IsWholePart n.whole
  /-- There are digits behind a point. -/
  fraction : ∀ digits ∈ n.fraction?, IsDigits digits
  /-- There are digits behind the mark of an exponent. -/
  exponent : ∀ e ∈ n.exponent?, IsDigits e.2

/-- The digits of a number may stand before a point. -/
theorem isWholePart_toDigits (n : Nat) : IsWholePart (Nat.toDigits 10 n) := by
  rcases Nat.eq_zero_or_pos n with rfl | hn
  · exact .inl rfl
  · obtain ⟨c, cs, hcs, hc⟩ := toDigits_eq_cons hn
    refine .inr ⟨⟨Nat.toDigits_ne_nil, isDigit_toDigits n⟩, ?_⟩
    rw [hcs, List.head?_cons]
    exact fun heq => hc (Option.some.inj heq)

/-- What may stand before a point begins with a digit. -/
theorem IsWholePart.eq_cons {digits : List Char} (h : IsWholePart digits) :
    ∃ c cs, digits = c :: cs ∧ ∀ d ∈ c :: cs, d.isDigit = true := by
  rcases h with rfl | ⟨⟨hne, hdigits⟩, -⟩
  · exact ⟨'0', [], rfl, by simp⟩
  · obtain ⟨c, cs, rfl⟩ := List.exists_cons_of_ne_nil hne
    exact ⟨c, cs, rfl, hdigits⟩

/-- What may stand before a point is digits. -/
theorem IsWholePart.isDigits {digits : List Char} (h : IsWholePart digits) : IsDigits digits := by
  obtain ⟨c, cs, rfl, hdigits⟩ := h.eq_cons
  exact ⟨List.cons_ne_nil c cs, hdigits⟩

/-- The digits before a point are read in front of what is no digit. -/
theorem wholePart?_append {digits rest : List Char} (h : IsWholePart digits)
    (hr : StopsDigits rest) : wholePart? (digits ++ rest) = some (digits, rest) := by
  rcases h with rfl | ⟨⟨hne, hdigits⟩, hhead⟩
  · cases rest with
    | nil => rfl
    | cons c cs =>
      have hc : c.isDigit = false := hr c rfl
      simp [wholePart?, hc]
  · obtain ⟨c, cs, rfl⟩ := List.exists_cons_of_ne_nil hne
    obtain ⟨hc, hmore⟩ := List.forall_mem_cons.1 hdigits
    have hzero : c ≠ '0' := fun heq => hhead (by rw [heq]; rfl)
    obtain ⟨htake, hdrop⟩ := takeWhile_digits hmore hr
    rw [List.cons_append, wholePart?, if_pos hc, htake, hdrop]
    exact hzero

/-- The digits behind a point are read in front of what is no digit; where there is no point, no
other part of a number may begin with one. -/
theorem fractionPart?_append {fraction? : Option (List Char)} {rest : List Char}
    (h : ∀ digits ∈ fraction?, IsDigits digits) (hr : StopsDigits rest)
    (hpoint : rest.head? ≠ some '.') :
    fractionPart? (fractionChars fraction? ++ rest) = some (fraction?, rest) := by
  cases fraction? with
  | some digits =>
    obtain ⟨hne, hdigits⟩ := h digits rfl
    obtain ⟨htake, hdrop⟩ := takeWhile_digits hdigits hr
    simp [fractionChars, fractionPart?, htake, hdrop, hne]
  | none =>
    rw [fractionChars, List.nil_append, fractionPart?]
    rintro cs rfl
    exact hpoint rfl

/-- What is read before a point may stand there. -/
theorem isWholePart_of_wholePart? {cs digits rest : List Char}
    (h : wholePart? cs = some (digits, rest)) : IsWholePart digits ∧ cs = digits ++ rest := by
  unfold wholePart? at h
  split at h
  · next more =>
    have hzero : digits = ['0'] ∧ rest = more := by
      split at h
      · split at h
        · cases h
        · simpa [eq_comm] using h
      · simpa [eq_comm] using h
    obtain ⟨rfl, rfl⟩ := hzero
    exact ⟨.inl rfl, rfl⟩
  · next c more hc =>
    split at h
    · next hdigit =>
      obtain ⟨rfl, rfl⟩ := Prod.mk.inj (Option.some.inj h)
      refine ⟨.inr ⟨⟨List.cons_ne_nil _ _, ?_⟩, fun hhead => hc (Option.some.inj hhead)⟩, ?_⟩
      · exact List.forall_mem_cons.2 ⟨hdigit, fun _ hmem => List.mem_takeWhile_imp hmem⟩
      · rw [List.cons_append, List.takeWhile_append_dropWhile]
    · cases h
  · cases h

/-- What is read behind the digits is a point with digits, or nothing. -/
theorem isDigits_of_fractionPart? {cs rest : List Char} {fraction? : Option (List Char)}
    (h : fractionPart? cs = some (fraction?, rest)) :
    (∀ digits ∈ fraction?, IsDigits digits) ∧ cs = fractionChars fraction? ++ rest := by
  unfold fractionPart? at h
  split at h
  · next more =>
    dsimp only at h
    split at h
    · cases h
    · next hne =>
      obtain ⟨rfl, rfl⟩ := Prod.mk.inj (Option.some.inj h)
      obtain ⟨hdigits, hmore⟩ := isDigits_takeWhile hne
      refine ⟨fun digits hmem => Option.some.inj hmem ▸ hdigits, ?_⟩
      rw [fractionChars, List.cons_append, hmore]
  · obtain ⟨rfl, rfl⟩ := Prod.mk.inj (Option.some.inj h)
    exact ⟨nofun, rfl⟩

/-! ### The exponent -/

/-- A list with which no number goes on. -/
def StopsNumber (rest : List Char) : Prop :=
  ∀ c ∈ rest.head?, c.isDigit = false ∧ c ≠ '.' ∧ c ≠ 'e' ∧ c ≠ 'E'

/-- How an exponent is written: with a mark of either size, perhaps a sign, and digits. -/
inductive IsExponentText : Option (Bool × List Char) → List Char → Prop
  /-- There is none. -/
  | none : IsExponentText none []
  /-- There is one without a sign. -/
  | unsigned {mark : Char} {digits : List Char} (hmark : mark = 'e' ∨ mark = 'E')
    (hdigits : IsDigits digits) : IsExponentText (some (false, digits)) (mark :: digits)
  /-- There is one with a plus sign. -/
  | plus {mark : Char} {digits : List Char} (hmark : mark = 'e' ∨ mark = 'E')
    (hdigits : IsDigits digits) : IsExponentText (some (false, digits)) (mark :: '+' :: digits)
  /-- There is one with a minus sign. -/
  | minus {mark : Char} {digits : List Char} (hmark : mark = 'e' ∨ mark = 'E')
    (hdigits : IsDigits digits) : IsExponentText (some (true, digits)) (mark :: '-' :: digits)

/-- What is read behind the fraction is an exponent, or nothing. -/
theorem isExponentText_of_exponentPart? {cs rest : List Char}
    {exponent? : Option (Bool × List Char)} (h : exponentPart? cs = some (exponent?, rest)) :
    ∃ exponent, IsExponentText exponent? exponent ∧ cs = exponent ++ rest := by
  unfold exponentPart? at h
  split at h
  · next mark more =>
    split at h
    · next hmark =>
      split at h
      next negative digits hsplit =>
      dsimp only at h
      split at h
      · cases h
      · next hne =>
        obtain ⟨rfl, rfl⟩ := Prod.mk.inj (Option.some.inj h)
        obtain ⟨hdigits, hmore⟩ := isDigits_takeWhile hne
        split at hsplit
        · obtain ⟨rfl, rfl⟩ := Prod.mk.inj hsplit
          exact ⟨_, .minus hmark hdigits, by simp only [List.cons_append, hmore]⟩
        · obtain ⟨rfl, rfl⟩ := Prod.mk.inj hsplit
          exact ⟨_, .plus hmark hdigits, by simp only [List.cons_append, hmore]⟩
        · obtain ⟨rfl, rfl⟩ := Prod.mk.inj hsplit
          exact ⟨_, .unsigned hmark hdigits, by simp only [List.cons_append, hmore]⟩
    · obtain ⟨rfl, rfl⟩ := Prod.mk.inj (Option.some.inj h)
      exact ⟨[], .none, rfl⟩
  · obtain ⟨rfl, rfl⟩ := Prod.mk.inj (Option.some.inj h)
    exact ⟨[], .none, rfl⟩

/-- An exponent is read in front of what no number goes on with. -/
theorem IsExponentText.exponentPart?_append {exponent? : Option (Bool × List Char)}
    {exponent rest : List Char} (h : IsExponentText exponent? exponent) (hr : StopsNumber rest) :
    exponentPart? (exponent ++ rest) = some (exponent?, rest) := by
  have hstops : StopsDigits rest := fun c hc => (hr c hc).1
  cases h with
  | none =>
    cases rest with
    | nil => rfl
    | cons c rest =>
      obtain ⟨-, -, he, hE⟩ := hr c rfl
      simp [exponentPart?, he, hE]
  | @unsigned mark digits hmark hdigits =>
    obtain ⟨d, ds, rfl⟩ := List.exists_cons_of_ne_nil hdigits.1
    obtain ⟨htake, hdrop⟩ := takeWhile_digits hdigits.2 hstops
    have hd : d.isDigit = true := hdigits.2 d List.mem_cons_self
    have hminus : d ≠ '-' := by
      rintro rfl
      cases hd
    have hplus : d ≠ '+' := by
      rintro rfl
      cases hd
    rw [List.cons_append] at htake hdrop
    simp [exponentPart?, hmark, hminus, hplus, htake, hdrop]
  | @plus mark digits hmark hdigits =>
    obtain ⟨htake, hdrop⟩ := takeWhile_digits hdigits.2 hstops
    simp [exponentPart?, hmark, htake, hdrop, hdigits.1]
  | @minus mark digits hmark hdigits =>
    obtain ⟨htake, hdrop⟩ := takeWhile_digits hdigits.2 hstops
    simp [exponentPart?, hmark, htake, hdrop, hdigits.1]

/-! ### The whole number -/

/-- How a number is written, with its exponent in one of several ways. -/
structure IsNumeralText (n : Numeral) (exponent : List Char) : Prop where
  /-- The digits before the point do not start with a zero unless this is all of them. -/
  whole : IsWholePart n.whole
  /-- There are digits behind a point. -/
  fraction : ∀ digits ∈ n.fraction?, IsDigits digits
  /-- The exponent is written as it may be. -/
  exponent : IsExponentText n.exponent? exponent

/-- The characters of a number with its exponent as it is written. -/
def Numeral.charsWith (n : Numeral) (exponent : List Char) : List Char :=
  (if n.negative then ['-'] else []) ++ (n.whole ++ (fractionChars n.fraction? ++ exponent))

/-- The characters of a number without a sign, a fraction and an exponent are its digits. -/
theorem Numeral.charsWith_whole (whole : List Char) :
    (Numeral.mk false whole none none).charsWith [] = whole := by
  simp [charsWith, fractionChars]

/-- What is read as a number is written as one. -/
theorem isNumeralText_of_numeral? {cs rest : List Char} {n : Numeral}
    (h : numeral? cs = some (n, rest)) :
    ∃ exponent, IsNumeralText n exponent ∧ cs = n.charsWith exponent ++ rest := by
  unfold numeral? at h
  split at h
  next negative unsigned hsign =>
  have hcs : cs = (if negative then ['-'] else []) ++ unsigned := by
    split at hsign
    all_goals
      obtain ⟨rfl, rfl⟩ := Prod.mk.inj hsign
      rfl
  simp only [Option.bind_eq_bind, Option.bind_eq_some_iff, Prod.exists] at h
  obtain ⟨whole, behind, hwhole, fraction?, behind', hfraction, exponent?, _, hexponent, h⟩ := h
  obtain ⟨rfl, rfl⟩ := Prod.mk.inj (Option.some.inj h)
  obtain ⟨hw, hunsigned⟩ := isWholePart_of_wholePart? hwhole
  obtain ⟨hf, hbehind⟩ := isDigits_of_fractionPart? hfraction
  obtain ⟨exponent, he, hbehind'⟩ := isExponentText_of_exponentPart? hexponent
  refine ⟨exponent, ⟨hw, hf, he⟩, ?_⟩
  rw [hcs, hunsigned, hbehind, hbehind', Numeral.charsWith]
  simp only [List.append_assoc]

/-- A number is read in front of what no number goes on with. -/
theorem IsNumeralText.numeral?_append {n : Numeral} {exponent rest : List Char}
    (h : IsNumeralText n exponent) (hr : StopsNumber rest) :
    numeral? (n.charsWith exponent ++ rest) = some (n, rest) := by
  obtain ⟨negative, whole, fraction?, exponent?⟩ := n
  have hexponent := h.exponent.exponentPart?_append hr
  have hstopsExponent : StopsDigits (exponent ++ rest) ∧ (exponent ++ rest).head? ≠ some '.' := by
    have hmark : ∀ {mark : Char}, mark = 'e' ∨ mark = 'E' → mark.isDigit = false ∧ mark ≠ '.' := by
      rintro mark (rfl | rfl) <;> decide
    cases h.exponent with
    | none => exact ⟨fun c hc => (hr c hc).1, fun hc => (hr '.' hc).2.1 rfl⟩
    | unsigned he | plus he | minus he => simpa [StopsDigits] using hmark he
  have hfraction := fractionPart?_append h.fraction hstopsExponent.1 hstopsExponent.2
  have hstopsFraction : StopsDigits (fractionChars fraction? ++ (exponent ++ rest)) := by
    cases fraction? with
    | some digits => simp [fractionChars, StopsDigits]
    | none => exact hstopsExponent.1
  have hwhole := wholePart?_append h.whole hstopsFraction
  dsimp only at hexponent hfraction hwhole
  obtain ⟨c, cs, rfl, hdigits⟩ := h.whole.eq_cons
  rw [List.cons_append] at hwhole
  cases negative with
  | true => simp [Numeral.charsWith, numeral?, hwhole, hfraction, hexponent]
  | false =>
    have hsign : c ≠ '-' := fun heq => by
      have hc := hdigits c List.mem_cons_self
      rw [heq] at hc
      cases hc
    simp [Numeral.charsWith, numeral?, hsign, hwhole, hfraction, hexponent]

/-- A number begins with a minus sign or a digit. -/
theorem IsNumeralText.charsWith_eq_cons {n : Numeral} {exponent : List Char}
    (h : IsNumeralText n exponent) :
    ∃ c cs, n.charsWith exponent = c :: cs ∧ (c = '-' ∨ c.isDigit = true) := by
  obtain ⟨c, cs, hcs, hdigits⟩ := h.whole.eq_cons
  rw [Numeral.charsWith, hcs]
  cases n.negative with
  | true => exact ⟨_, _, rfl, .inl rfl⟩
  | false => exact ⟨_, _, rfl, .inr (hdigits c List.mem_cons_self)⟩

/-- The characters of a number are digits, signs, the point and the mark of an exponent. -/
theorem Numeral.IsProper.mem_chars {n : Numeral} (h : n.IsProper) {c : Char}
    (hc : c ∈ n.chars) : c.isDigit = true ∨ c = '-' ∨ c = '+' ∨ c = '.' ∨ c = 'e' := by
  simp only [chars, List.mem_append] at hc
  rcases hc with hc | hc | hc | hc
  · split at hc
    · exact .inr (.inl (List.mem_singleton.1 hc))
    · cases hc
  · exact .inl (h.whole.isDigits.2 c hc)
  · cases hf : n.fraction? with
    | none =>
      rw [hf] at hc
      cases hc
    | some digits =>
      rw [hf, fractionChars] at hc
      rcases List.mem_cons.1 hc with rfl | hc
      · simp
      · exact .inl ((h.fraction digits hf).2 c hc)
  · cases he : n.exponent? with
    | none =>
      rw [he] at hc
      cases hc
    | some e =>
      obtain ⟨negative, digits⟩ := e
      rw [he, exponentChars] at hc
      rcases List.mem_cons.1 hc with rfl | hc
      · simp
      · rcases List.mem_cons.1 hc with rfl | hc
        · cases negative <;> simp
        · exact .inl ((h.exponent _ he).2 c hc)

/-- A number that is written as JSON allows it is one of the ways to write a number. -/
theorem Numeral.IsProper.isNumeralText {n : Numeral} (h : n.IsProper) :
    IsNumeralText n (exponentChars n.exponent?) := by
  refine ⟨h.whole, h.fraction, ?_⟩
  cases hexponent : n.exponent? with
  | none => exact .none
  | some exponent =>
    obtain ⟨negative, digits⟩ := exponent
    have hdigits : IsDigits digits := h.exponent (negative, digits) hexponent
    cases negative with
    | true => exact .minus (.inl rfl) hdigits
    | false => exact .plus (.inl rfl) hdigits

/-! ### Integers -/

/-- The numeral of an integer. -/
def numeralOf (n : Int) : Numeral := ⟨decide (n < 0), Nat.toDigits 10 n.natAbs, none, none⟩

/-- An integer is written as JSON allows it. -/
theorem isProper_numeralOf (n : Int) : (numeralOf n).IsProper :=
  ⟨isWholePart_toDigits n.natAbs, nofun, nofun⟩

/-- The characters of an integer are those of its numeral. -/
theorem toList_text_int (n : Int) : (Number.int n).text.toList = (numeralOf n).chars := by
  rw [Number.text, Numeral.chars, numeralOf]
  cases n with
  | ofNat m =>
    have hdigits : (Int.ofNat m).natAbs = m := rfl
    have htext : toString (Int.ofNat m) = m.repr := rfl
    rw [htext, Nat.toList_repr, hdigits]
    simp [fractionChars, exponentChars]
  | negSucc m =>
    have hminus : toString (Int.negSucc m) = "-" ++ (m + 1).repr := rfl
    have hdigits : (Int.negSucc m).natAbs = m + 1 := rfl
    rw [hminus, String.toList_append, Nat.toList_repr, hdigits]
    simp [fractionChars, exponentChars, Int.negSucc_lt_zero]

end InteractiveBook.Json
