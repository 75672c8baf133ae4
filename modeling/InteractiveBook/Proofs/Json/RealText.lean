import InteractiveBook.Json.Reading
import InteractiveBook.Proofs.Json.Binary64

/-!
# Real numbers that are read again

The text of a finite number is a decimal that rounds to it. It is written as JSON allows it,
whichever of the layouts of a decimal is taken. Reading takes its digits as far as they fit a word,
so what is rounded is never more than what was written, and only next to the overflow could the
rounding lead beyond the greatest number. There only two numbers lie, and both are read again.
-/

namespace InteractiveBook.Json

namespace Binary64

/-! ### Writing -/

/-- A decimal that rounds to a number lies no more than half a step above it, and less than that
if the significand is odd. It is positive if the number is. -/
theorem value_le_of_contains {x : Binary64} {d : Decimal}
    (h : x.neighbourhood.contains d = true) :
    d.value ≤ (x.significand + 1 / 2) * 2 ^ x.exponent ∧
      (x.significand % 2 ≠ 0 → d.value < (x.significand + 1 / 2) * 2 ^ x.exponent) ∧
        (0 < x.significand → 0 < d.digits) := by
  obtain ⟨hup, hdown, hpower⟩ := powerFraction_spec Nat.two_pos x.exponent
  obtain ⟨-, hdown10, hpower10⟩ := powerFraction_spec (show 0 < 10 by decide) d.exponent
  rw [Neighbourhood.contains, neighbourhood] at h
  generalize powerFraction 2 x.exponent = two at *
  generalize powerFraction 10 d.exponent = ten at *
  obtain ⟨up, down⟩ := two
  obtain ⟨up10, down10⟩ := ten
  dsimp only at *
  have hbounds : ∃ low, (0 < x.significand → 0 < low) ∧
      low * up * down10 ≤ d.digits * up10 * (4 * down) ∧
        d.digits * up10 * (4 * down) ≤ (4 * x.significand + 2) * up * down10 ∧
          (x.significand % 2 ≠ 0 →
            d.digits * up10 * (4 * down) < (4 * x.significand + 2) * up * down10) := by
    refine ⟨4 * x.significand
      - (if x.significand = fullSignificand ∧ x.exponent > minExponent then 1 else 2),
      fun hm => by split <;> omega, ?_⟩
    by_cases heven : x.significand % 2 = 0
    · rw [if_pos (decide_eq_true heven), Bool.and_eq_true, decide_eq_true_iff,
        decide_eq_true_iff] at h
      exact ⟨h.1, h.2, fun hodd => absurd heven hodd⟩
    · rw [if_neg (by simpa using heven), Bool.and_eq_true, decide_eq_true_iff,
        decide_eq_true_iff] at h
      exact ⟨h.1.le, h.2.le, fun _ => h.2⟩
  obtain ⟨low, hlow, hfrom, hto, hbelow⟩ := hbounds
  have hscale : (0 : ℚ) < 4 * down * down10 := by positivity
  have hvalue : ((d.digits * up10 * (4 * down) : Nat) : ℚ) = d.value * (4 * down * down10) := by
    push_cast
    rw [hpower10, Decimal.value]
    push_cast
    ring
  have hhigh : (((4 * x.significand + 2) * up * down10 : Nat) : ℚ) =
      (x.significand + 1 / 2) * 2 ^ x.exponent * (4 * down * down10) := by
    push_cast
    rw [hpower]
    push_cast
    ring
  refine ⟨?_, fun hodd => ?_, fun hm => ?_⟩
  · rw [← Nat.cast_le (α := ℚ), hvalue, hhigh] at hto
    exact le_of_mul_le_mul_right hto hscale
  · have hlt := hbelow hodd
    rw [← Nat.cast_lt (α := ℚ), hvalue, hhigh] at hlt
    exact lt_of_mul_lt_mul_right hlt hscale.le
  · refine Nat.pos_of_ne_zero fun hzero => ?_
    rw [hzero, Nat.zero_mul, Nat.zero_mul] at hfrom
    exact absurd (Nat.mul_pos (Nat.mul_pos (hlow hm) hup) hdown10) (not_lt.2 hfrom)

/-- What lies two steps below the overflow is below it even when it is rounded up twice. -/
theorem lt_of_rounded_le {value unit : ℚ} (hunit : 0 < unit)
    (h : value ≤ (significandBound - 5 / 2) * unit) :
    value * (1 + roundoff) ^ 2 < (significandBound - 1 / 2) * unit := by
  have hrounded : ((significandBound : ℚ) - 5 / 2) * (1 + roundoff) ^ 2 <
      significandBound - 1 / 2 := by norm_num [roundoff, significandBound]
  calc value * (1 + roundoff) ^ 2
      ≤ (significandBound - 5 / 2) * unit * (1 + roundoff) ^ 2 :=
        mul_le_mul_of_nonneg_right h (sq_nonneg _)
    _ = (significandBound - 5 / 2) * (1 + roundoff) ^ 2 * unit := by ring
    _ < (significandBound - 1 / 2) * unit := mul_lt_mul_of_pos_right hrounded hunit

/-- The decimals that round to a number which is none of the two greatest ones lie below the overflow
even when they are rounded up twice. -/
theorem value_lt_of_contains {x : Binary64} (hx : x.inRange = true)
    (hless : x.exponent = maxExponent → x.significand + 2 < significandBound) {d : Decimal}
    (h : x.neighbourhood.contains d = true) : d.value * (1 + roundoff) ^ 2 < overflow := by
  obtain ⟨hle, -⟩ := value_le_of_contains h
  obtain ⟨hsignificand, hexponent⟩ := of_decide_eq_true hx
  have hpos : (0 : ℚ) < 2 ^ maxExponent := zpow_pos two_pos maxExponent
  have hhalf : x.exponent ≠ maxExponent → (2 : ℚ) ^ x.exponent ≤ 2 ^ maxExponent / 2 := by
    intro hne
    have hbefore : (2 : ℚ) ^ (maxExponent - 1) = 2 ^ maxExponent / 2 :=
      zpow_sub_one₀ two_ne_zero maxExponent
    rw [← hbefore]
    exact zpow_le_zpow_right₀ one_le_two (by omega)
  rw [overflow]
  by_cases hgreatest : x.exponent = maxExponent
  · have hstep : (x.significand : ℚ) + 3 ≤ significandBound := by
      exact_mod_cast hless hgreatest
    rw [hgreatest] at hle
    generalize (2 : ℚ) ^ maxExponent = unit at *
    exact lt_of_rounded_le hpos (hle.trans (mul_le_mul_of_nonneg_right (by linarith) hpos.le))
  · have hstep : (x.significand : ℚ) + 1 ≤ significandBound := by exact_mod_cast hsignificand
    have hwide : (10 : ℚ) ≤ significandBound := by norm_num [significandBound]
    replace hhalf := hhalf hgreatest
    generalize (2 : ℚ) ^ maxExponent = unit at *
    refine lt_of_rounded_le hpos ?_
    calc d.value ≤ (x.significand + 1 / 2) * 2 ^ x.exponent := hle
      _ ≤ (x.significand + 1 / 2) * (unit / 2) :=
          mul_le_mul_of_nonneg_left hhalf (add_nonneg (Nat.cast_nonneg _) one_half_pos.le)
      _ = (x.significand + 1 / 2) / 2 * unit := by ring
      _ ≤ (significandBound - 5 / 2) * unit := mul_le_mul_of_nonneg_right (by linarith) hpos.le

/-- A quotient is rounded to one of its two neighbours. -/
theorem roundQuotient_eq_or (num den : Nat) :
    roundQuotient num den = num / den ∨ roundQuotient num den = num / den + 1 := by
  rw [roundQuotient]
  split
  · exact .inl rfl
  · split
    · exact .inr rfl
    · split
      · exact .inl rfl
      · exact .inr rfl

/-- A decimal that is found with a given last place rounds to the number. -/
theorem contains_of_nearestOn? {n : Neighbourhood} {place : Int} {d : Decimal}
    (h : nearestOn? n place = some d) : n.contains d = true := by
  rw [nearestOn?] at h
  dsimp only at h
  split at h
  · rename_i hbelow habove
    obtain rfl := Option.some.inj h
    rcases roundQuotient_eq_or (n.value * (powerFraction 10 place).2)
      (n.den * (powerFraction 10 place).1) with heq | heq
    · rw [heq]
      exact hbelow
    · rw [heq]
      exact habove
  · obtain rfl := Option.some.inj h
    assumption
  · obtain rfl := Option.some.inj h
    assumption
  · cases h

/-- The shortest decimal of a number rounds to it, unless none was found. -/
theorem shortest_eq_or_contains (x : Binary64) :
    x.shortest = ⟨0, 0⟩ ∨ x.neighbourhood.contains x.shortest = true := by
  unfold shortest
  extract_lets n guess top
  split
  · rename_i d hd
    obtain ⟨k, -, hk⟩ := List.exists_of_findSome?_eq_some hd
    exact .inr (contains_of_nearestOn? hk)
  · exact .inl rfl

/-- A decimal keeps its value when zeros at its end are left out, and stays positive. -/
theorem Decimal.strip_spec (fuel : Nat) (d : Decimal) :
    (strip fuel d).value = d.value ∧ (0 < d.digits → 0 < (strip fuel d).digits) := by
  induction fuel generalizing d with
  | zero => exact ⟨rfl, id⟩
  | succ fuel ih =>
    rw [strip]
    split
    · rename_i hzero
      obtain ⟨hvalue, hpos⟩ := ih ⟨d.digits / 10, d.exponent + 1⟩
      refine ⟨hvalue.trans ?_, fun h => hpos ?_⟩
      · have hdigits : (d.digits : ℚ) = (d.digits / 10 : Nat) * 10 := by
          have hnat : d.digits = d.digits / 10 * 10 := by omega
          exact_mod_cast hnat
        rw [value, value, hdigits, zpow_add_one₀ (by norm_num)]
        ring
      · dsimp only
        omega
    · exact ⟨rfl, id⟩

/-- The numeral of a decimal: its digits with a point among them, or in scientific notation. -/
def Decimal.numeral (negative : Bool) (d : Decimal) : Numeral :=
  let ds := Nat.toDigits 10 d.digits
  let point : Int := ds.length + d.exponent
  if 0 ≤ d.exponent ∧ point ≤ 16 then
    ⟨negative, ds ++ List.replicate d.exponent.toNat '0', some ['0'], none⟩
  else if 0 < point ∧ point ≤ 16 then
    ⟨negative, ds.take point.toNat, some (ds.drop point.toNat), none⟩
  else if -5 < point ∧ point ≤ 0 then
    ⟨negative, ['0'], some (List.replicate (-point).toNat '0' ++ ds), none⟩
  else
    ⟨negative, ds.take 1, if ds.drop 1 = [] then none else some (ds.drop 1),
      some (decide (point - 1 < 0), Nat.toDigits 10 (point - 1).natAbs)⟩

/-- The layouts of a decimal: zeros behind its digits, a point among them, zeros in front of them, or
scientific notation. -/
theorem Decimal.numeral_cases {motive : Numeral → Prop} (negative : Bool) (d : Decimal)
    (trailing : 0 ≤ d.exponent → (Nat.toDigits 10 d.digits).length + d.exponent ≤ 16 → motive
      ⟨negative, Nat.toDigits 10 d.digits ++ List.replicate d.exponent.toNat '0', some ['0'], none⟩)
    (inside : ∀ place : Nat, 0 < place → place ≤ 16 → place < (Nat.toDigits 10 d.digits).length →
      place = (Nat.toDigits 10 d.digits).length + d.exponent → motive
        ⟨negative, (Nat.toDigits 10 d.digits).take place,
          some ((Nat.toDigits 10 d.digits).drop place), none⟩)
    (leading : ∀ zeros : Nat, -zeros = (Nat.toDigits 10 d.digits).length + d.exponent → motive
      ⟨negative, ['0'], some (List.replicate zeros '0' ++ Nat.toDigits 10 d.digits), none⟩)
    (scientific : ∀ e : Int, e + 1 = (Nat.toDigits 10 d.digits).length + d.exponent → motive
      ⟨negative, (Nat.toDigits 10 d.digits).take 1,
        if (Nat.toDigits 10 d.digits).drop 1 = [] then none
          else some ((Nat.toDigits 10 d.digits).drop 1),
        some (decide (e < 0), Nat.toDigits 10 e.natAbs)⟩) :
    motive (d.numeral negative) := by
  rw [numeral]
  generalize Nat.toDigits 10 d.digits = ds at *
  generalize hpoint : (ds.length : Int) + d.exponent = point at *
  by_cases h1 : 0 ≤ d.exponent ∧ point ≤ 16
  · rw [if_pos h1]
    exact trailing h1.1 (hpoint ▸ h1.2)
  rw [if_neg h1]
  by_cases h2 : 0 < point ∧ point ≤ 16
  · rw [if_pos h2]
    exact inside _ (by omega) (by omega) (by omega) (by omega)
  rw [if_neg h2]
  by_cases h3 : -5 < point ∧ point ≤ 0
  · rw [if_pos h3]
    exact leading _ (by omega)
  · rw [if_neg h3]
    exact scientific _ (by omega)

/-- The numeral of a number. -/
def numeral (x : Binary64) : Numeral :=
  if x.significand = 0 then ⟨x.negative, ['0'], some ['0'], none⟩
  else (Decimal.strip 17 x.shortest).numeral x.negative

/-- An exponent is written with its sign. -/
theorem toList_exponent (e : Int) :
    ("e" ++ (if 0 ≤ e then "+" ++ toString e else toString e)).toList =
      exponentChars (some (decide (e < 0), Nat.toDigits 10 e.natAbs)) := by
  have hdigits : (toString e).toList = (numeralOf e).chars := toList_text_int e
  rw [Numeral.chars, numeralOf, fractionChars, exponentChars, List.append_nil,
    List.append_nil] at hdigits
  rw [String.toList_append, exponentChars]
  by_cases he : 0 ≤ e
  · rw [if_neg (by simpa using he)] at hdigits
    rw [if_pos he, if_neg (by simpa using he), String.toList_append, hdigits]
    rfl
  · rw [if_pos (by simpa using he)] at hdigits
    rw [if_neg he, if_pos (by simpa using he), hdigits]
    rfl

/-- The text of a decimal is that of its numeral. -/
theorem Decimal.toList_text (negative : Bool) (d : Decimal) :
    (if negative then ['-'] else []) ++ d.text.toList = (d.numeral negative).chars := by
  rw [text, numeral]
  dsimp only
  generalize Nat.toDigits 10 d.digits = ds
  generalize (ds.length : Int) + d.exponent = point
  by_cases h1 : 0 ≤ d.exponent ∧ point ≤ 16
  · rw [if_pos h1, if_pos h1]
    simp [Numeral.chars, fractionChars, exponentChars]
  rw [if_neg h1, if_neg h1]
  by_cases h2 : 0 < point ∧ point ≤ 16
  · rw [if_pos h2, if_pos h2]
    simp [Numeral.chars, fractionChars, exponentChars]
  rw [if_neg h2, if_neg h2]
  by_cases h3 : -5 < point ∧ point ≤ 0
  · rw [if_pos h3, if_pos h3]
    simp [Numeral.chars, fractionChars, exponentChars]
  rw [if_neg h3, if_neg h3, String.append_assoc, String.toList_append, toList_exponent,
    Numeral.chars]
  cases ds with
  | nil => simp [fractionChars]
  | cons c cs => cases cs <;> simp [fractionChars]

/-- The numeral of a positive decimal is written as JSON allows it. -/
theorem Decimal.isProper_numeral (negative : Bool) {d : Decimal} (h : 0 < d.digits) :
    (d.numeral negative).IsProper := by
  have hdigits := isDigit_toDigits d.digits
  have hzeros : ∀ count, ∀ z ∈ List.replicate count '0', z.isDigit = true := by
    intro count z hz
    rw [List.eq_of_mem_replicate hz]
    rfl
  -- What starts with digits of a positive number may stand before a point.
  have hwhole : ∀ place tail, 0 < place → (∀ z ∈ tail, z.isDigit = true) →
      IsWholePart ((Nat.toDigits 10 d.digits).take place ++ tail) := by
    intro place tail hplace htail
    obtain ⟨c, cs, hcs, hc⟩ := toDigits_eq_cons h
    obtain ⟨k, rfl⟩ := Nat.exists_eq_succ_of_ne_zero hplace.ne'
    refine .inr ⟨⟨by simp [hcs], fun z hz => ?_⟩, by simpa [hcs] using hc⟩
    exact (List.mem_append.1 hz).elim (fun hz => hdigits z (List.mem_of_mem_take hz)) (htail z)
  refine Decimal.numeral_cases negative d ?trailing ?inside ?leading ?scientific
  case trailing =>
    intro _ _
    have hlength : 0 < (Nat.toDigits 10 d.digits).length :=
      List.length_pos_iff.2 Nat.toDigits_ne_nil
    have hall := hwhole _ _ hlength (hzeros d.exponent.toNat)
    rw [List.take_length] at hall
    refine ⟨hall, ?_, nofun⟩
    rintro digits ⟨⟩
    exact ⟨by simp, by simp⟩
  case inside =>
    intro place hpos _ hless _
    have hfront := hwhole place [] hpos nofun
    rw [List.append_nil] at hfront
    refine ⟨hfront, ?_, nofun⟩
    rintro digits ⟨⟩
    refine ⟨?_, fun z hz => hdigits z (List.mem_of_mem_drop hz)⟩
    rw [ne_eq, List.drop_eq_nil_iff, not_le]
    exact hless
  case leading =>
    intro zeros _
    refine ⟨.inl rfl, ?_, nofun⟩
    rintro digits ⟨⟩
    exact ⟨by simp, fun z hz => (List.mem_append.1 hz).elim (hzeros _ z) (hdigits z)⟩
  case scientific =>
    intro e _
    have hfront := hwhole 1 [] one_pos nofun
    rw [List.append_nil] at hfront
    refine ⟨hfront, ?_, ?_⟩
    · intro digits hfraction
      dsimp only at hfraction
      split at hfraction
      · cases hfraction
      · rename_i hne
        obtain rfl := Option.some.inj hfraction
        exact ⟨hne, fun z hz => hdigits z (List.mem_of_mem_drop hz)⟩
    · rintro exponent ⟨⟩
      exact ⟨Nat.toDigits_ne_nil, isDigit_toDigits _⟩

end Binary64

/-- The signed exponent of a numeral. -/
def Numeral.exponent (n : Numeral) : Int :=
  match n.exponent? with
  | some (true, digits) => -(Text.decimalValue digits : Int)
  | some (false, digits) => Text.decimalValue digits
  | none => 0

/-- The fraction that a number denotes without its sign. -/
def Numeral.value (n : Numeral) : ℚ :=
  Text.decimalValue (n.whole ++ n.fraction?.getD [])
    * 10 ^ (n.exponent - (n.fraction?.getD []).length)

/-- An exponent that is written with its sign denotes the number that was written. -/
theorem Numeral.exponent_signed {n : Numeral} {e : Int}
    (h : n.exponent? = some (decide (e < 0), Nat.toDigits 10 e.natAbs)) : n.exponent = e := by
  rw [exponent, h]
  by_cases hsign : e < 0
  · simp only [hsign, decide_true, decimalValue_toDigits]
    omega
  · simp only [hsign, decide_false, decimalValue_toDigits]
    omega

/-! ### Reading again -/

/-- All digits are taken while what they denote fits a word. -/
theorem takeDigits_all {value : Nat} {cs : List Char}
    (h : value * 10 ^ cs.length + Text.decimalValue cs ≤ Text.maxWord64) :
    takeDigits value cs = (value * 10 ^ cs.length + Text.decimalValue cs, []) := by
  induction cs generalizing value with
  | nil =>
    have hnil : Text.decimalValue [] = 0 := rfl
    rw [takeDigits, List.length_nil, pow_zero, mul_one, hnil, add_zero]
  | cons c cs ih =>
    have hcons : value * 10 ^ (c :: cs).length + Text.decimalValue (c :: cs) =
        (10 * value + Text.digitValue c) * 10 ^ cs.length + Text.decimalValue cs := by
      rw [decimalValue_cons, List.length_cons, pow_succ]
      ring
    rw [hcons] at h ⊢
    have hlonger : 10 * value + Text.digitValue c ≤
        (10 * value + Text.digitValue c) * 10 ^ cs.length :=
      Nat.le_mul_of_pos_right _ (Nat.pow_pos (by decide))
    rw [takeDigits, if_pos (by omega), ih h]

/-- The digits that are taken stand in front, and what they denote fits a word. -/
theorem takeDigits_spec {value : Nat} (cs : List Char) (h : value ≤ Text.maxWord64) :
    ∃ taken, cs = taken ++ (takeDigits value cs).2 ∧
      (takeDigits value cs).1 = value * 10 ^ taken.length + Text.decimalValue taken ∧
        (takeDigits value cs).1 ≤ Text.maxWord64 := by
  have hnil : Text.decimalValue [] = 0 := rfl
  induction cs generalizing value with
  | nil => exact ⟨[], by simp [takeDigits], by simp [takeDigits, hnil], by simpa [takeDigits]⟩
  | cons c cs ih =>
    rw [takeDigits]
    by_cases hfits : 10 * value + Text.digitValue c ≤ Text.maxWord64
    · rw [if_pos hfits]
      obtain ⟨taken, hsplit, hvalue, hle⟩ := ih hfits
      refine ⟨c :: taken, congrArg (c :: ·) hsplit, hvalue.trans ?_, hle⟩
      rw [decimalValue_cons, List.length_cons, pow_succ]
      ring
    · rw [if_neg hfits]
      exact ⟨[], rfl, by simp [hnil], h⟩

/-- Where the digits before the point fit a word, what is read of the digits is no more than what
they denote. -/
theorem Numeral.decimal_spec {n : Numeral} (hwhole : Text.decimalValue n.whole ≤ Text.maxWord64) :
    n.decimal.digits ≤ Text.maxWord64 ∧ n.decimal.exponent ≤ 0 ∧
      n.decimal.value ≤ Text.decimalValue (n.whole ++ n.fraction?.getD [])
        * 10 ^ (-((n.fraction?.getD []).length : Int)) := by
  have hall : takeDigits 0 n.whole = (Text.decimalValue n.whole, []) := by
    have hfront := takeDigits_all (show 0 * 10 ^ n.whole.length + Text.decimalValue n.whole ≤
      Text.maxWord64 by omega)
    rwa [Nat.zero_mul, Nat.zero_add] at hfront
  rw [decimal, hall]
  dsimp only
  generalize n.fraction?.getD [] = fraction
  obtain ⟨taken, hsplit, hvalue, hle⟩ := takeDigits_spec fraction hwhole
  generalize takeDigits (Text.decimalValue n.whole) fraction = read at *
  obtain ⟨digits, ignored⟩ := read
  dsimp only at *
  have hlength : fraction.length = taken.length + ignored.length := by
    rw [hsplit, List.length_append]
  have hexponent : ((([] : List Char).length : Int) + ignored.length - fraction.length) =
      -(taken.length : Int) := by
    rw [hlength, List.length_nil]
    push_cast
    ring
  rw [hexponent]
  refine ⟨hle, by omega, ?_⟩
  have hdigits : digits * 10 ^ ignored.length ≤ Text.decimalValue (n.whole ++ fraction) := by
    rw [hsplit, ← List.append_assoc, decimalValue_append, decimalValue_append n.whole, ← hvalue]
    exact Nat.le_add_right _ _
  have hdigits' : (digits : ℚ) * 10 ^ ignored.length ≤
      Text.decimalValue (n.whole ++ fraction) := by exact_mod_cast hdigits
  have hpower : (10 : ℚ) ^ (-(taken.length : Int)) =
      10 ^ ignored.length * 10 ^ (-(fraction.length : Int)) := by
    rw [← zpow_natCast, ← zpow_add₀ (by norm_num), hlength]
    congr 1
    push_cast
    ring
  rw [Binary64.Decimal.value, hpower, ← mul_assoc]
  exact mul_le_mul_of_nonneg_right hdigits' (zpow_nonneg (by norm_num) _)

/-- A number is read from a numeral if the digits before its point fit a word, its exponent is that
of a number, and it lies below the overflow even when it is rounded up twice. -/
theorem Numeral.real?_isSome {n : Numeral}
    (hwhole : Text.decimalValue n.whole ≤ Text.maxWord64)
    (hexponent : n.exponent ≤ Binary64.maxPower)
    (hvalue : n.value * (1 + Binary64.roundoff) ^ 2 < Binary64.overflow) :
    n.real?.isSome = true := by
  obtain ⟨hdigits, hlow, hle⟩ := decimal_spec hwhole
  have hpower : Binary64.maxPower = 308 := rfl
  have hpart : (0 : ℚ) ≤ (1 + Binary64.roundoff) ^ 2 := sq_nonneg _
  -- What is read of the digits, scaled by the exponent, is no more than the number.
  have hscaled : (n.decimal.digits : ℚ) * 10 ^ (n.decimal.exponent + n.exponent) ≤ n.value := by
    rw [Binary64.Decimal.value] at hle
    rw [value, sub_eq_neg_add, zpow_add₀ (by norm_num), zpow_add₀ (by norm_num), ← mul_assoc,
      ← mul_assoc]
    exact mul_le_mul_of_nonneg_right hle (zpow_nonneg (by norm_num) _)
  have hread : ∀ e, (0 ≤ e → e = n.decimal.exponent + n.exponent) → e ≤ Binary64.maxPower →
      (Binary64.ofDecimal? n.negative ⟨n.decimal.digits, e⟩).isSome = true := by
    refine fun e he hbound => Binary64.ofDecimal?_isSome _ hdigits hbound fun hsign => ?_
    refine lt_of_le_of_lt (mul_le_mul_of_nonneg_right ?_ hpart) hvalue
    rw [Binary64.Decimal.value, he hsign]
    exact hscaled
  rw [real?]
  cases he : n.exponent? with
  | none =>
    have hzero : n.exponent = 0 := by rw [exponent, he]
    exact hread n.decimal.exponent (fun _ => by rw [hzero, add_zero]) (by omega)
  | some written =>
    obtain ⟨minus, digits⟩ := written
    have hsum : (if minus then n.decimal.exponent - (Text.decimalValue digits : Int)
        else n.decimal.exponent + Text.decimalValue digits) = n.decimal.exponent + n.exponent := by
      rw [exponent, he]
      cases minus <;> simp [sub_eq_add_neg]
    dsimp only
    rw [hsum]
    have hmin : Text.minSigned32 = -2147483648 := rfl
    have hmax : Text.maxSigned32 = 2147483647 := rfl
    split
    · rename_i hlong
      have hminus : minus = true := by
        by_contra hplus
        rw [exponent, he, Bool.eq_false_iff.2 hplus] at hexponent
        dsimp only at hexponent
        omega
      rw [if_neg (by simp [hminus])]
      rfl
    · exact hread _ (fun hsign => by rw [saturated] at *; omega) (by rw [saturated]; omega)

namespace Binary64

/-- The numeral of a decimal denotes what the decimal denotes. -/
theorem Decimal.value_numeral (negative : Bool) (d : Decimal) :
    (d.numeral negative).value = d.value := by
  have hdigits := decimalValue_toDigits d.digits
  have hlength : 0 < (Nat.toDigits 10 d.digits).length :=
    List.length_pos_iff.2 Nat.toDigits_ne_nil
  -- Zeros that are added to the digits are taken from the exponent.
  have hsame : ∀ (n : Numeral) (zeros : Nat),
      Text.decimalValue (n.whole ++ n.fraction?.getD []) = d.digits * 10 ^ zeros →
        n.exponent - (n.fraction?.getD []).length + zeros = d.exponent → n.value = d.value := by
    intro n zeros hn he
    rw [Numeral.value, value, hn, ← he, zpow_add₀ (by norm_num), zpow_natCast]
    push_cast
    ring
  refine Decimal.numeral_cases (motive := fun n => n.value = d.value) negative d ?trailing ?inside
    ?leading ?scientific
  case trailing =>
    intro hexponent _
    have hzero : Text.decimalValue ['0'] = 0 := rfl
    refine hsame _ (d.exponent.toNat + 1) ?_ ?_
    · rw [Option.getD_some, decimalValue_append, decimalValue_append, decimalValue_zeros, hdigits,
        hzero, List.length_replicate, List.length_singleton]
      ring
    · simp [Numeral.exponent]
      omega
  case inside =>
    intro place _ _ hless hplace
    refine hsame _ 0 ?_ ?_
    · simp [hdigits]
    · simp [Numeral.exponent]
      omega
  case leading =>
    intro zeros hplace
    refine hsame _ 0 ?_ ?_
    · have hzeros := decimalValue_zeros (zeros + 1)
      rw [List.replicate_succ] at hzeros
      rw [Option.getD_some, ← List.append_assoc, decimalValue_append, hdigits, pow_zero,
        List.singleton_append, hzeros]
      omega
    · simp [Numeral.exponent]
      omega
  case scientific =>
    intro e hplace
    have hfraction : ∀ ds : List Char, (if ds = [] then none else some ds).getD [] = ds := by
      intro ds
      split
      · rename_i hnil
        exact hnil.symm
      · rfl
    refine hsame _ 0 ?_ ?_
    · rw [hfraction, List.take_append_drop, hdigits, pow_zero, Nat.mul_one]
    · rw [hfraction, Numeral.exponent_signed rfl, List.length_drop]
      omega

/-! ### Numbers -/

/-- The text of a number is that of its numeral. -/
theorem toList_text (x : Binary64) : x.text.toList = x.numeral.chars := by
  rw [text, numeral]
  split
  · cases x.negative <;> rfl
  · rw [← Decimal.toList_text, String.toList_append]
    cases x.negative <;> rfl

/-- The numeral of a number is written as JSON allows it. -/
theorem isProper_numeral (x : Binary64) : x.numeral.IsProper := by
  have hzero : ∀ negative, Numeral.IsProper ⟨negative, ['0'], some ['0'], none⟩ := by
    refine fun negative => ⟨.inl rfl, ?_, nofun⟩
    rintro digits ⟨⟩
    exact ⟨by simp, by simp⟩
  rw [numeral]
  split
  · exact hzero _
  · rename_i hpositive
    rcases shortest_eq_or_contains x with hnone | hcontains
    · rw [hnone]
      exact hzero _
    · have hdigits := (value_le_of_contains hcontains).2.2 (Nat.pos_of_ne_zero hpositive)
      exact Decimal.isProper_numeral _ ((Decimal.strip_spec 17 x.shortest).2 hdigits)

/-- The numeral of a positive decimal below the next power of ten has digits before its point that fit
a word, and the exponent of a number. -/
theorem Decimal.numeral_small (negative : Bool) {d : Decimal} (hd : 0 < d.digits)
    (hvalue : d.value < 10 ^ (maxPower + 1)) :
    Text.decimalValue (d.numeral negative).whole ≤ Text.maxWord64 ∧
      (d.numeral negative).exponent ≤ maxPower := by
  have hdigits := isDigit_toDigits d.digits
  have hshort : ∀ cs : List Char, (∀ c ∈ cs, c.isDigit = true) → cs.length ≤ 16 →
      Text.decimalValue cs ≤ Text.maxWord64 := by
    intro cs hcs hlength
    have hless := decimalValue_lt hcs
    have hpower : 10 ^ cs.length ≤ 10 ^ 16 := Nat.pow_le_pow_right (by decide) hlength
    have hword : Text.maxWord64 = 18446744073709551615 := rfl
    omega
  refine Decimal.numeral_cases (motive := fun n => Text.decimalValue n.whole ≤ Text.maxWord64 ∧
    n.exponent ≤ maxPower) negative d ?trailing ?inside ?leading ?scientific
  case trailing =>
    intro hexponent hlength
    refine ⟨hshort _ (fun c hc => ?_) ?_, by simp [Numeral.exponent]⟩
    · rcases List.mem_append.1 hc with hc | hc
      · exact hdigits c hc
      · rw [List.eq_of_mem_replicate hc]
        rfl
    · rw [List.length_append, List.length_replicate]
      omega
  case inside =>
    intro place _ hplace _ _
    refine ⟨hshort _ (fun c hc => hdigits c (List.mem_of_mem_take hc)) ?_,
      by simp [Numeral.exponent]⟩
    rw [List.length_take]
    omega
  case leading =>
    intro zeros _
    have hzero : Text.decimalValue ['0'] ≤ Text.maxWord64 := by decide
    exact ⟨hzero, by simp [Numeral.exponent]⟩
  case scientific =>
    intro e hplace
    refine ⟨hshort _ (fun c hc => hdigits c (List.mem_of_mem_take hc)) ?_, ?_⟩
    · rw [List.length_take]
      omega
    -- The first digit is no zero, so the number is not below the power of ten of its exponent.
    rw [Numeral.exponent_signed rfl]
    obtain ⟨c, cs, hcs, hc⟩ := toDigits_eq_cons hd
    have hfirst : 10 ^ cs.length ≤ d.digits := by
      have hle : 10 ^ cs.length ≤ Text.decimalValue (c :: cs) :=
        pow_le_decimalValue (hdigits c (hcs ▸ List.mem_cons_self)) hc
      rwa [← hcs, decimalValue_toDigits] at hle
    have hfirst' : (10 : ℚ) ^ cs.length ≤ d.digits := by exact_mod_cast hfirst
    rw [hcs, List.length_cons] at hplace
    have hpower : (10 : ℚ) ^ e ≤ d.value := by
      have he : e = cs.length + d.exponent := by
        push_cast at hplace
        omega
      rw [he, zpow_add₀ (by norm_num), zpow_natCast, Decimal.value]
      exact mul_le_mul_of_nonneg_right hfirst' (zpow_nonneg (by norm_num) _)
    have hless : (10 : ℚ) ^ e < 10 ^ ((maxPower + 1 : Nat) : Int) := by
      rw [zpow_natCast]
      exact hpower.trans_lt hvalue
    have hbound := (zpow_lt_zpow_iff_right₀ (by norm_num)).1 hless
    push_cast at hbound
    omega

/-- The two greatest numbers are read again. -/
theorem number?_numeral_greatest (negative : Bool) :
    (numeral ⟨negative, significandBound - 1, maxExponent⟩).number?.isSome = true ∧
      (numeral ⟨negative, significandBound - 2, maxExponent⟩).number?.isSome = true := by
  revert negative
  decide +kernel

/-- A numeral is read if it can be read as a binary number. -/
theorem number?_isSome_of_real? {n : Numeral} (h : n.real?.isSome = true) :
    n.number?.isSome = true := by
  rw [Numeral.number?]
  split
  · rfl
  · rwa [Option.isSome_map]

/-- The text of a number that keeps to the bounds is read as a number. -/
theorem number?_numeral_isSome {x : Binary64} (hx : x.inRange = true) :
    x.numeral.number?.isSome = true := by
  by_cases hgreatest : x.exponent = maxExponent ∧ significandBound ≤ x.significand + 2
  · obtain ⟨negative, significand, exponent⟩ := x
    obtain ⟨hsignificand, -⟩ := of_decide_eq_true hx
    obtain ⟨rfl, hnear⟩ := hgreatest
    dsimp only at hsignificand hnear
    obtain rfl | rfl : significand = significandBound - 1 ∨ significand = significandBound - 2 := by
      omega
    · exact (number?_numeral_greatest negative).1
    · exact (number?_numeral_greatest negative).2
  have hless : x.exponent = maxExponent → x.significand + 2 < significandBound := fun hexponent =>
    not_le.1 fun hnear => hgreatest ⟨hexponent, hnear⟩
  have hzero : ∀ negative,
      (⟨negative, ['0'], some ['0'], none⟩ : Numeral).number?.isSome = true := by
    decide +kernel
  rw [numeral]
  split
  · exact hzero _
  · rename_i hpositive
    rcases shortest_eq_or_contains x with hnone | hcontains
    · rw [hnone]
      exact hzero _
    · have hdigits := (Decimal.strip_spec 17 x.shortest).2
        ((value_le_of_contains hcontains).2.2 (Nat.pos_of_ne_zero hpositive))
      have hvalue := value_lt_of_contains hx hless hcontains
      rw [← (Decimal.strip_spec 17 x.shortest).1] at hvalue
      have hpart : (1 : ℚ) ≤ (1 + roundoff) ^ 2 := by norm_num [roundoff, significandBound]
      have hbelow : (Decimal.strip 17 x.shortest).value < 10 ^ (maxPower + 1) := by
        have hnonneg : 0 ≤ (Decimal.strip 17 x.shortest).value := by
          rw [Decimal.value]
          positivity
        exact ((le_mul_of_one_le_right hnonneg hpart).trans_lt hvalue).trans overflow_bounds.2
      obtain ⟨hwhole, hexponent⟩ := Decimal.numeral_small x.negative hdigits hbelow
      refine number?_isSome_of_real? (Numeral.real?_isSome hwhole hexponent ?_)
      rwa [Decimal.value_numeral]

end Binary64

end InteractiveBook.Json
