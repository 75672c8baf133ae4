import InteractiveBook.Json.Binary64
import InteractiveBook.Proofs.Json.Numeral
import Mathlib.Algebra.Order.Field.Power
import Mathlib.Tactic.GCongr
import Mathlib.Tactic.Linarith
import Mathlib.Tactic.NormNum
import Mathlib.Tactic.Positivity
import Mathlib.Tactic.Ring

/-!
# Reading real numbers

A fraction is rounded to a finite number as long as it lies below the overflow, half a step above
the greatest number, and a fraction of at least one is rounded by no more than one part in two to
the power fifty-three. A decimal is rounded twice on its way to a number, so it is read as long as
it lies below the overflow by twice as much. What is read keeps to the bounds of the format.
-/

namespace InteractiveBook.Json

namespace Binary64

/-! ### Fractions and powers -/

/-- A power with a signed exponent is the quotient of its two parts. -/
theorem powerFraction_spec {base : Nat} (hb : 0 < base) (e : Int) :
    0 < (powerFraction base e).1 ∧ 0 < (powerFraction base e).2 ∧
      ((powerFraction base e).1 : ℚ) = (base : ℚ) ^ e * (powerFraction base e).2 := by
  rw [powerFraction]
  split
  · rename_i he
    refine ⟨Nat.pow_pos hb, Nat.one_pos, ?_⟩
    obtain ⟨k, rfl⟩ := Int.eq_ofNat_of_zero_le he
    simp
  · rename_i he
    refine ⟨Nat.one_pos, Nat.pow_pos hb, ?_⟩
    have hne : (base : ℚ) ≠ 0 := by exact_mod_cast hb.ne'
    obtain ⟨k, hk⟩ := Int.eq_ofNat_of_zero_le (show 0 ≤ -e by omega)
    obtain rfl : e = -(k : Int) := by omega
    simp [hne]

/-- A quotient is rounded by no more than one half. -/
theorem roundQuotient_near (num : Nat) {den : Nat} (hd : 0 < den) :
    2 * (roundQuotient num den * den) ≤ 2 * num + den ∧
      2 * num ≤ 2 * (roundQuotient num den * den) + den := by
  have hsplit := Nat.div_add_mod num den
  have hmod := Nat.mod_lt num hd
  rw [Nat.mul_comm] at hsplit
  rw [roundQuotient]
  have hnext : (num / den + 1) * den = num / den * den + den := Nat.succ_mul ..
  split
  · omega
  · split
    · omega
    · split
      · omega
      · omega

/-- Fractions are compared with multiples of a power by comparing products of natural numbers. -/
theorem mul_lt_mul_powerFraction_iff {base : Nat} (hb : 0 < base) (e : Int) (a b : Nat) :
    a * (powerFraction base e).2 < b * (powerFraction base e).1 ↔ (a : ℚ) < b * (base : ℚ) ^ e := by
  obtain ⟨-, hdown, hup⟩ := powerFraction_spec hb e
  have hdown' : (0 : ℚ) < (powerFraction base e).2 := by exact_mod_cast hdown
  rw [← Nat.cast_lt (α := ℚ), Nat.cast_mul, Nat.cast_mul, hup, ← mul_assoc,
    mul_lt_mul_iff_of_pos_right hdown']

/-- The scale of a positive fraction gives it fifty-three binary digits before the point, unless the
fraction is too small for that. -/
theorem scale_spec {num den : Nat} (hn : 0 < num) (hd : 0 < den) :
    ∃ e, scale num den = max e minExponent ∧
      (den * fullSignificand : ℚ) * 2 ^ e ≤ num ∧ (num : ℚ) < den * significandBound * 2 ^ e := by
  have hlow : (2 : ℚ) ^ Nat.log2 num ≤ num := by exact_mod_cast Nat.log2_self_le hn.ne'
  have hhigh : (num : ℚ) < 2 ^ (Nat.log2 num + 1) := by exact_mod_cast Nat.lt_log2_self
  have hlow' : (2 : ℚ) ^ Nat.log2 den ≤ den := by exact_mod_cast Nat.log2_self_le hd.ne'
  have hhigh' : (den : ℚ) < 2 ^ (Nat.log2 den + 1) := by exact_mod_cast Nat.lt_log2_self
  have hfull : (fullSignificand : ℚ) = 2 ^ 52 := by norm_num [fullSignificand]
  have hbound : (significandBound : ℚ) = 2 * 2 ^ 52 := by norm_num [significandBound]
  have htest := mul_lt_mul_powerFraction_iff Nat.two_pos
    ((Nat.log2 num : Int) - (Nat.log2 den : Int) - 52) num (den * fullSignificand)
  rw [Nat.mul_right_comm, Nat.cast_mul, Nat.cast_ofNat, hfull] at htest
  have hguess : (2 : ℚ) ^ ((Nat.log2 num : Int) - (Nat.log2 den : Int) - 52) * 2 ^ 52
      * 2 ^ Nat.log2 den = 2 ^ Nat.log2 num := by
    rw [← zpow_natCast, ← zpow_natCast, ← zpow_natCast, ← zpow_add₀ two_ne_zero,
      ← zpow_add₀ two_ne_zero]
    congr 1
    push_cast
    omega
  rw [scale, hfull, hbound]
  dsimp only
  generalize (Nat.log2 num : Int) - (Nat.log2 den : Int) - 52 = guess at htest hguess ⊢
  have hbefore : (2 : ℚ) ^ (guess - 1) = 2 ^ guess / 2 := zpow_sub_one₀ two_ne_zero guess
  have hpos : (0 : ℚ) < 2 ^ guess := by positivity
  rw [pow_succ] at hhigh hhigh'
  by_cases hless : num * (powerFraction 2 guess).2 <
      den * (powerFraction 2 guess).1 * fullSignificand
  · refine ⟨guess - 1, by rw [if_pos hless], ?_, ?_⟩
    · calc (den : ℚ) * 2 ^ 52 * 2 ^ (guess - 1)
          ≤ (2 ^ Nat.log2 den * 2) * 2 ^ 52 * 2 ^ (guess - 1) := by gcongr
        _ = 2 ^ guess * 2 ^ 52 * 2 ^ Nat.log2 den := by rw [hbefore]; ring
        _ ≤ num := hguess.trans_le hlow
    · calc (num : ℚ) < den * 2 ^ 52 * 2 ^ guess := htest.1 hless
        _ = den * (2 * 2 ^ 52) * 2 ^ (guess - 1) := by rw [hbefore]; ring
  · refine ⟨guess, by rw [if_neg hless], not_lt.1 (htest.not.1 hless), ?_⟩
    calc (num : ℚ) < 2 ^ Nat.log2 num * 2 := hhigh
      _ = 2 ^ guess * 2 ^ 52 * 2 ^ Nat.log2 den * 2 := by rw [hguess]
      _ ≤ 2 ^ guess * 2 ^ 52 * den * 2 := by gcongr
      _ = den * (2 * 2 ^ 52) * 2 ^ guess := by ring

/-! ### Reading -/

/-- The bounds that the significand and the exponent of every number keep to that was read. -/
def inRange (x : Binary64) : Bool :=
  decide (x.significand < significandBound ∧ x.exponent ≤ maxExponent)

/-- Zero keeps to the bounds. -/
theorem inRange_zero (negative : Bool) : inRange ⟨negative, 0, minExponent⟩ = true := by
  simp [inRange, minExponent, maxExponent, significandBound]

/-- The least fraction that is too great for a number: half a step above the greatest one. -/
def overflow : ℚ := (significandBound - 1 / 2) * 2 ^ maxExponent

/-- The overflow is positive. -/
theorem overflow_pos : 0 < overflow := by
  refine mul_pos ?_ (zpow_pos two_pos maxExponent)
  norm_num [significandBound]

/-- The significand of a positive fraction, its bound not excluded. -/
def significandOf (num den : Nat) : Nat :=
  roundQuotient (num * (powerFraction 2 (scale num den)).2)
    (den * (powerFraction 2 (scale num den)).1)

/-- The significand of a positive fraction has no more than fifty-three binary digits, or is the
first number that has more. -/
theorem significandOf_le {num den : Nat} (hn : 0 < num) (hd : 0 < den) :
    significandOf num den ≤ significandBound := by
  obtain ⟨e, he, -, hhigh⟩ := scale_spec hn hd
  have hup := Nat.mul_pos hd (powerFraction_spec Nat.two_pos (scale num den)).1
  have hround := (roundQuotient_near (num * (powerFraction 2 (scale num den)).2) hup).1
  have hbelow : num * (powerFraction 2 (scale num den)).2 <
      den * significandBound * (powerFraction 2 (scale num den)).1 := by
    rw [mul_lt_mul_powerFraction_iff Nat.two_pos, Nat.cast_mul, Nat.cast_ofNat]
    refine hhigh.trans_le ?_
    have hle : e ≤ scale num den := he ▸ le_max_left e minExponent
    gcongr
    exact one_le_two
  rw [Nat.mul_right_comm] at hbelow
  rw [← significandOf] at hround
  by_contra hgreat
  have hmul := Nat.mul_le_mul_right (den * (powerFraction 2 (scale num den)).1)
    (Nat.succ_le_of_lt (not_le.1 hgreat))
  rw [Nat.succ_mul, Nat.mul_comm significandBound] at hmul
  omega

/-- A fraction is rounded by no more than half a step of its scale. -/
theorem significandOf_near (num : Nat) {den : Nat} (hd : 0 < den) :
    2 * (significandOf num den * 2 ^ scale num den * den : ℚ) ≤ 2 * num + den * 2 ^ scale num den ∧
      2 * (num : ℚ) ≤
        2 * (significandOf num den * 2 ^ scale num den * den) + den * 2 ^ scale num den := by
  obtain ⟨hup, hdown, hpower⟩ := powerFraction_spec Nat.two_pos (scale num den)
  have hdown' : (0 : ℚ) < (powerFraction 2 (scale num den)).2 := by exact_mod_cast hdown
  obtain ⟨hbelow, habove⟩ :=
    roundQuotient_near (num * (powerFraction 2 (scale num den)).2) (Nat.mul_pos hd hup)
  rw [← significandOf, ← Nat.cast_le (α := ℚ)] at hbelow habove
  push_cast at hbelow habove
  rw [hpower, Nat.cast_ofNat] at hbelow habove
  generalize ((powerFraction 2 (scale num den)).2 : ℚ) = down at *
  exact ⟨le_of_mul_le_mul_right (by linarith) hdown',
    le_of_mul_le_mul_right (by linarith) hdown'⟩

/-- A fraction below the overflow is scaled by an exponent that numbers have, and with the greatest
of these it is rounded to less than the bound of the significands. -/
theorem scale_le_of_lt_overflow {num den : Nat} (hn : 0 < num) (hd : 0 < den)
    (h : (num : ℚ) < den * overflow) : scale num den ≤ maxExponent ∧
      (scale num den = maxExponent → significandOf num den ≠ significandBound) := by
  have hd' : (0 : ℚ) < den := by exact_mod_cast hd
  rw [overflow] at h
  constructor
  · obtain ⟨e, he, hlow, -⟩ := scale_spec hn hd
    have hmin : minExponent ≤ maxExponent := by decide
    rw [he, max_le_iff, and_iff_left hmin]
    by_contra hgreat
    have hstep : (2 : ℚ) ^ maxExponent * 2 ≤ 2 ^ e := by
      rw [← zpow_add_one₀ two_ne_zero]
      exact zpow_le_zpow_right₀ one_le_two (Int.add_one_le_iff.2 (not_le.1 hgreat))
    have hfull : (significandBound : ℚ) = fullSignificand * 2 := by
      norm_num [fullSignificand, significandBound]
    have hpower : (0 : ℚ) < 2 ^ maxExponent := zpow_pos two_pos maxExponent
    have hpos := mul_pos hd' hpower
    have hmul := mul_le_mul_of_nonneg_left hstep
      (mul_nonneg hd'.le (Nat.cast_nonneg fullSignificand))
    rw [hfull] at h
    linarith
  · intro hscale hmax
    have hround := (significandOf_near num hd).1
    rw [hmax, hscale] at hround
    generalize (2 : ℚ) ^ maxExponent = unit at *
    linarith

/-- A positive fraction becomes a number by its scale and its significand, with one exponent more
when the significand reaches its bound. -/
theorem ofFraction?_of_pos (negative : Bool) {num den : Nat} (hn : 0 < num) :
    ofFraction? negative num den =
      if significandOf num den = significandBound then
        if scale num den + 1 > maxExponent then none
        else some ⟨negative, fullSignificand, scale num den + 1⟩
      else if scale num den > maxExponent then none
      else some ⟨negative, significandOf num den, scale num den⟩ := by
  unfold ofFraction?
  rw [if_neg hn.ne', significandOf]
  extract_lets e
  have he : scale num den = e := rfl
  -- Where a scale or a power stands for itself, it would be computed to be compared.
  clear_value e
  rw [he]
  generalize powerFraction 2 e = parts
  obtain ⟨up, down⟩ := parts
  dsimp only
  generalize roundQuotient (num * down) (den * up) = m
  by_cases hcarry : m = significandBound
  · rw [if_pos hcarry, if_pos hcarry]
  · rw [if_neg hcarry, if_neg hcarry]

/-- The number that is read from a fraction keeps to the bounds, and a number is read from every
fraction below the overflow. -/
theorem ofFraction?_spec (negative : Bool) (num : Nat) {den : Nat} (hd : 0 < den) :
    (∀ x ∈ ofFraction? negative num den, x.inRange = true) ∧
      ((num : ℚ) < den * overflow → (ofFraction? negative num den).isSome = true) := by
  by_cases hzero : num = 0
  · rw [ofFraction?, if_pos hzero]
    refine ⟨fun x hx => ?_, fun _ => rfl⟩
    obtain rfl := Option.some.inj hx
    exact inRange_zero negative
  · have hn : 0 < num := Nat.pos_of_ne_zero hzero
    have hle := significandOf_le hn hd
    have hscale := scale_le_of_lt_overflow hn hd
    have hfull : fullSignificand < significandBound := by decide
    rw [ofFraction?_of_pos negative hn]
    constructor
    · intro x hx
      split at hx
      · split at hx
        · cases hx
        · obtain rfl := Option.some.inj hx
          exact decide_eq_true ⟨hfull, not_lt.1 ‹_›⟩
      · split at hx
        · cases hx
        · obtain rfl := Option.some.inj hx
          exact decide_eq_true ⟨lt_of_le_of_ne hle ‹_›, not_lt.1 ‹_›⟩
    · intro h
      obtain ⟨hexponent, hlast⟩ := hscale h
      split
      · rename_i hcarry
        have hless : scale num den < maxExponent :=
          lt_of_le_of_ne hexponent fun heq => hlast heq hcarry
        rw [if_neg (not_lt.2 (Int.add_one_le_iff.2 hless))]
        rfl
      · rw [if_neg (not_lt.2 hexponent)]
        rfl

/-- The size of a number. -/
def magnitude (x : Binary64) : ℚ := x.significand * 2 ^ x.exponent

/-- The part by which a fraction is rounded at most. -/
def roundoff : ℚ := 1 / significandBound

/-- The size of the number that is read from a fraction, by its significand and its scale. -/
theorem magnitude_of_ofFraction? {negative : Bool} {num den : Nat} {x : Binary64} (hn : 0 < num)
    (h : ofFraction? negative num den = some x) :
    x.magnitude = significandOf num den * 2 ^ scale num den := by
  have hbound : (significandBound : ℚ) = fullSignificand * 2 := by
    norm_num [fullSignificand, significandBound]
  rw [ofFraction?_of_pos negative hn] at h
  split at h
  · rename_i hcarry
    split at h
    · cases h
    · obtain rfl := Option.some.inj h
      rw [magnitude, hcarry, hbound, zpow_add_one₀ two_ne_zero]
      ring
  · split at h
    · cases h
    · obtain rfl := Option.some.inj h
      rfl

/-- A step of the scale of a fraction of at least one is no more than two of its parts. -/
theorem step_le_of_le {num den : Nat} (hd : 0 < den) (hn : den ≤ num) :
    (den : ℚ) * 2 ^ scale num den ≤ 2 * (num * roundoff) := by
  have hd' : (0 : ℚ) < den := by exact_mod_cast hd
  obtain ⟨e, he, hlow, hhigh⟩ := scale_spec (hd.trans_le hn) hd
  -- The fraction is not so small that its scale would be the least one.
  have hscale : scale num den = e := by
    rw [he, max_eq_left]
    by_contra hsmall
    have hpower : (2 : ℚ) ^ e ≤ 2 ^ (-53 : Int) :=
      zpow_le_zpow_right₀ one_le_two (by rw [minExponent] at hsmall; omega)
    have hone : (significandBound : ℚ) * 2 ^ (-53 : Int) = 1 := by norm_num [significandBound]
    have hle : (den : ℚ) * significandBound * 2 ^ e ≤ den := by
      calc (den : ℚ) * significandBound * 2 ^ e
          ≤ den * significandBound * 2 ^ (-53 : Int) := by gcongr
        _ = den := by rw [mul_assoc, hone, mul_one]
    have hn' : (den : ℚ) ≤ num := by exact_mod_cast hn
    linarith
  have hparts : (2 : ℚ) * roundoff * fullSignificand = 1 := by
    norm_num [roundoff, significandBound, fullSignificand]
  have hpart : (0 : ℚ) ≤ 2 * roundoff := by norm_num [roundoff]
  rw [hscale]
  calc (den : ℚ) * 2 ^ e = 2 * roundoff * fullSignificand * (den * 2 ^ e) := by
        rw [hparts, one_mul]
    _ = 2 * roundoff * (den * fullSignificand * 2 ^ e) := by ring
    _ ≤ 2 * roundoff * num := mul_le_mul_of_nonneg_left hlow hpart
    _ = 2 * (num * roundoff) := by ring

/-- A fraction of at least one is rounded by no more than its part. -/
theorem near_of_ofFraction? {negative : Bool} {num den : Nat} {x : Binary64} (hd : 0 < den)
    (hn : den ≤ num) (h : ofFraction? negative num den = some x) :
    num * (1 - roundoff) ≤ x.magnitude * den ∧ x.magnitude * den ≤ num * (1 + roundoff) := by
  obtain ⟨hbelow, habove⟩ := significandOf_near num hd
  have hstep := step_le_of_le hd hn
  rw [magnitude_of_ofFraction? (hd.trans_le hn) h]
  constructor <;> linarith

/-! ### Multiplying and dividing -/

/-- A number that keeps to the bounds lies below the overflow. -/
theorem magnitude_lt_overflow {x : Binary64} (hx : x.inRange = true) : x.magnitude < overflow := by
  obtain ⟨hsignificand, hexponent⟩ := of_decide_eq_true hx
  have hless : (x.significand : ℚ) + 1 ≤ significandBound := by exact_mod_cast hsignificand
  have hbelow : (x.significand : ℚ) < significandBound - 1 / 2 := by linarith
  have hpower : (2 : ℚ) ^ x.exponent ≤ 2 ^ maxExponent := zpow_le_zpow_right₀ one_le_two hexponent
  rw [magnitude, overflow]
  exact (mul_le_mul_of_nonneg_left hpower (Nat.cast_nonneg _)).trans_lt
    (mul_lt_mul_of_pos_right hbelow (zpow_pos two_pos maxExponent))

/-- The product of two numbers keeps to the bounds, and there is one if it lies below the
overflow. -/
theorem times?_spec (x y : Binary64) : (∀ z ∈ x.times? y, z.inRange = true) ∧
    (x.magnitude * y.magnitude < overflow → (x.times? y).isSome = true) := by
  obtain ⟨-, hdown, hpower⟩ := powerFraction_spec Nat.two_pos (x.exponent + y.exponent)
  obtain ⟨hrange, hsome⟩ := ofFraction?_spec x.negative
    (x.significand * y.significand * (powerFraction 2 (x.exponent + y.exponent)).1) hdown
  refine ⟨hrange, fun h => hsome ?_⟩
  have hdown' : (0 : ℚ) < (powerFraction 2 (x.exponent + y.exponent)).2 := by exact_mod_cast hdown
  push_cast
  rw [hpower, Nat.cast_ofNat, zpow_add₀ two_ne_zero]
  rw [magnitude, magnitude] at h
  calc (x.significand : ℚ) * y.significand * (2 ^ x.exponent * 2 ^ y.exponent
        * (powerFraction 2 (x.exponent + y.exponent)).2)
      = x.significand * 2 ^ x.exponent * (y.significand * 2 ^ y.exponent)
        * (powerFraction 2 (x.exponent + y.exponent)).2 := by ring
    _ < overflow * (powerFraction 2 (x.exponent + y.exponent)).2 :=
        mul_lt_mul_of_pos_right h hdown'
    _ = _ := mul_comm ..

/-- A number that is divided by one that is not below one gives a number that keeps to the
bounds. -/
theorem over?_spec {x y : Binary64} (hx : x.inRange = true) (hy : 1 ≤ y.magnitude) :
    ∃ z, x.over? y = some z ∧ z.inRange = true := by
  obtain ⟨-, hdown, hpower⟩ := powerFraction_spec Nat.two_pos (x.exponent - y.exponent)
  have hsignificand : 0 < y.significand := by
    refine Nat.pos_of_ne_zero fun hzero => ?_
    rw [magnitude, hzero, Nat.cast_zero, zero_mul] at hy
    exact absurd hy (by norm_num)
  have hdown' : (0 : ℚ) < (powerFraction 2 (x.exponent - y.exponent)).2 := by exact_mod_cast hdown
  obtain ⟨hrange, hsome⟩ := ofFraction?_spec x.negative
    (x.significand * (powerFraction 2 (x.exponent - y.exponent)).1)
    (Nat.mul_pos hsignificand hdown)
  have hless : x.magnitude < y.magnitude * overflow :=
    (magnitude_lt_overflow hx).trans_le (le_mul_of_one_le_left overflow_pos.le hy)
  have hpos : (0 : ℚ) < 2 ^ y.exponent := zpow_pos two_pos y.exponent
  have hquotient : (x.significand : ℚ) * 2 ^ (x.exponent - y.exponent) <
      y.significand * overflow := by
    rw [zpow_sub₀ two_ne_zero, ← mul_div_assoc, div_lt_iff₀ hpos]
    rw [magnitude, magnitude] at hless
    linarith
  have hfound := hsome <| by
    push_cast
    rw [hpower, Nat.cast_ofNat]
    calc (x.significand : ℚ) * (2 ^ (x.exponent - y.exponent)
          * (powerFraction 2 (x.exponent - y.exponent)).2)
        = x.significand * 2 ^ (x.exponent - y.exponent)
          * (powerFraction 2 (x.exponent - y.exponent)).2 := by ring
      _ < y.significand * overflow * (powerFraction 2 (x.exponent - y.exponent)).2 :=
          mul_lt_mul_of_pos_right hquotient hdown'
      _ = _ := by ring
  obtain ⟨z, hz⟩ := Option.isSome_iff_exists.1 hfound
  exact ⟨z, hz, hrange z hz⟩

/-- The greatest power of ten lies below the overflow, and the next one above it. -/
theorem overflow_bounds : (10 : ℚ) ^ maxPower < overflow ∧ overflow < 10 ^ (maxPower + 1) := by
  have hnat : 2 * 10 ^ maxPower < (2 * significandBound - 1) * 2 ^ maxExponent.toNat ∧
      (2 * significandBound - 1) * 2 ^ maxExponent.toNat < 2 * 10 ^ (maxPower + 1) := by
    decide +kernel
  have hpower : (2 : ℚ) ^ maxExponent = 2 ^ maxExponent.toNat := by
    rw [← zpow_natCast, Int.toNat_of_nonneg (by decide)]
  have hodd : ((2 * significandBound - 1 : Nat) : ℚ) = 2 * (significandBound - 1 / 2) := by
    norm_num [significandBound]
  rw [← Nat.cast_lt (α := ℚ), ← Nat.cast_lt (α := ℚ), Nat.cast_mul, Nat.cast_mul, Nat.cast_mul,
    Nat.cast_pow, Nat.cast_pow, Nat.cast_pow, hodd] at hnat
  rw [overflow, hpower]
  push_cast at hnat
  generalize (2 : ℚ) ^ maxExponent.toNat = unit at *
  generalize (10 : ℚ) ^ maxPower = front at *
  generalize (10 : ℚ) ^ (maxPower + 1) = behind at *
  constructor <;> linarith

/-- Each power of ten up to the greatest one is rounded to a number, by no more than its part. -/
theorem powerOfTen?_spec {k : Nat} (hk : k ≤ maxPower) : ∃ p, powerOfTen? k = some p ∧
    10 ^ k * (1 - roundoff) ≤ p.magnitude ∧ p.magnitude ≤ 10 ^ k * (1 + roundoff) := by
  have hpower : ((Nat.pow 10 k : Nat) : ℚ) = 10 ^ k :=
    (Nat.cast_pow 10 k).trans (by rw [Nat.cast_ofNat])
  have hone : 1 ≤ Nat.pow 10 k := Nat.pow_pos (by decide)
  have hless : ((Nat.pow 10 k : Nat) : ℚ) < (1 : Nat) * overflow := by
    rw [hpower, Nat.cast_one, one_mul]
    exact (pow_le_pow_right₀ (by norm_num) hk).trans_lt overflow_bounds.1
  obtain ⟨p, hp⟩ :=
    Option.isSome_iff_exists.1 ((ofFraction?_spec false (Nat.pow 10 k) one_pos).2 hless)
  have hnear := near_of_ofFraction? one_pos hone hp
  rw [hpower, Nat.cast_one, mul_one] at hnear
  exact ⟨p, hp, hnear⟩

/-- The powers of ten above one are rounded to numbers above one. -/
theorem exists_powerOfTen? {k : Nat} (hk : k ≤ maxPower) (hpos : 0 < k) :
    ∃ p, powerOfTen? k = some p ∧ 1 ≤ p.magnitude := by
  obtain ⟨p, hp, hlow, -⟩ := powerOfTen?_spec hk
  refine ⟨p, hp, le_trans ?_ hlow⟩
  have hten : (10 : ℚ) ≤ 10 ^ k := by
    calc (10 : ℚ) = 10 ^ 1 := (pow_one _).symm
      _ ≤ 10 ^ k := pow_le_pow_right₀ (by norm_num) hpos
  have hpart : (1 : ℚ) / 2 ≤ 1 - roundoff := by norm_num [roundoff, significandBound]
  nlinarith

/-- Scaling a number that keeps to the bounds gives one that does. -/
theorem inRange_of_scaled? {x y : Binary64} {exponent : Int} (hx : x.inRange = true)
    (h : x.scaled? exponent = some y) : y.inRange = true := by
  induction x, exponent using scaled?.induct with
  | case1 x exponent hsmall =>
    rw [scaled?, if_pos hsmall] at h
    obtain ⟨power, hpower, h⟩ := Option.bind_eq_some_iff.1 h
    split at h
    · exact (times?_spec x power).1 y h
    · rename_i hnegative
      obtain ⟨p, hp, hone⟩ := exists_powerOfTen? hsmall (by omega)
      obtain rfl := Option.some.inj (hp.symm.trans hpower)
      obtain ⟨z, hz, hrange⟩ := over?_spec hx hone
      obtain rfl := Option.some.inj (hz.symm.trans h)
      exact hrange
  | case2 x exponent hlarge hzero =>
    rw [scaled?, if_neg hlarge, if_pos hzero] at h
    obtain rfl := Option.some.inj h
    exact hx
  | case3 x exponent hlarge hzero hsign =>
    rw [scaled?, if_neg hlarge, if_neg hzero, if_pos hsign] at h
    cases h
  | case4 x exponent hlarge hzero hsign ih =>
    rw [scaled?, if_neg hlarge, if_neg hzero, if_neg hsign] at h
    obtain ⟨power, hpower, h⟩ := Option.bind_eq_some_iff.1 h
    obtain ⟨rest, hrest, h⟩ := Option.bind_eq_some_iff.1 h
    obtain ⟨p, hp, hone⟩ := exists_powerOfTen? le_rfl (by decide : 0 < maxPower)
    obtain rfl := Option.some.inj (hp.symm.trans hpower)
    obtain ⟨z, hz, hrange⟩ := over?_spec hx hone
    obtain rfl := Option.some.inj (hz.symm.trans hrest)
    exact ih z hrange h

/-- Dividing by a power of ten leads to a number. -/
theorem scaled?_isSome_of_neg {x : Binary64} {exponent : Int} (hx : x.inRange = true)
    (h : exponent < 0) : (x.scaled? exponent).isSome = true := by
  induction x, exponent using scaled?.induct with
  | case1 x exponent hsmall =>
    obtain ⟨p, hp, hone⟩ := exists_powerOfTen? hsmall (by omega)
    obtain ⟨z, hz, -⟩ := over?_spec hx hone
    rw [scaled?, if_pos hsmall, hp, Option.bind_some, if_neg (not_le.2 h), hz]
    rfl
  | case2 x exponent hlarge hzero =>
    rw [scaled?, if_neg hlarge, if_pos hzero]
    rfl
  | case3 x exponent hlarge hzero hsign => exact absurd h (not_lt.2 hsign)
  | case4 x exponent hlarge hzero hsign ih =>
    obtain ⟨p, hp, hone⟩ := exists_powerOfTen? le_rfl (by decide : 0 < maxPower)
    obtain ⟨z, hz, hrange⟩ := over?_spec hx hone
    rw [scaled?, if_neg hlarge, if_neg hzero, if_neg hsign, hp, Option.bind_some, hz,
      Option.bind_some]
    exact ih z hrange (by omega)

/-- A number times a power of ten that is a number itself leads to a number, if the product lies
below the overflow even when the power was rounded up. -/
theorem scaled?_isSome {x : Binary64} {k : Nat} (hk : k ≤ maxPower)
    (h : x.magnitude * 10 ^ k * (1 + roundoff) < overflow) : (x.scaled? k).isSome = true := by
  obtain ⟨p, hp, -, hhigh⟩ := powerOfTen?_spec hk
  have hmagnitude : 0 ≤ x.magnitude := by
    rw [magnitude]
    positivity
  rw [scaled?, Int.natAbs_natCast, if_pos hk, hp, Option.bind_some, if_pos (Int.natCast_nonneg k)]
  refine (times?_spec x p).2 (lt_of_le_of_lt ?_ h)
  rw [mul_assoc]
  exact mul_le_mul_of_nonneg_left hhigh hmagnitude

/-! ### Decimals -/

/-- The fraction that a decimal denotes. -/
def Decimal.value (d : Decimal) : ℚ := d.digits * 10 ^ d.exponent

/-- The number that is read from a decimal keeps to the bounds. -/
theorem inRange_of_ofDecimal? {negative : Bool} {d : Decimal} {x : Binary64}
    (h : ofDecimal? negative d = some x) : x.inRange = true := by
  obtain ⟨y, hy, h⟩ := Option.bind_eq_some_iff.1 h
  exact inRange_of_scaled? ((ofFraction?_spec negative d.digits one_pos).1 y hy) h

/-- A number is read from a decimal whose digits fit sixty-four bits, if it is a fraction or lies
below the overflow even when its digits and its power of ten were rounded up. -/
theorem ofDecimal?_isSome (negative : Bool) {d : Decimal} (hdigits : d.digits ≤ Text.maxWord64)
    (hexponent : d.exponent ≤ maxPower)
    (h : 0 ≤ d.exponent → d.value * (1 + roundoff) ^ 2 < overflow) :
    (ofDecimal? negative d).isSome = true := by
  have hless : (d.digits : ℚ) < (1 : Nat) * overflow := by
    have hword : (d.digits : ℚ) ≤ Text.maxWord64 := by exact_mod_cast hdigits
    have hten : (Text.maxWord64 : ℚ) ≤ 10 ^ 20 := by norm_num [Text.maxWord64]
    have hpower : (10 : ℚ) ^ 20 ≤ 10 ^ maxPower :=
      pow_le_pow_right₀ (by norm_num) (by decide)
    rw [Nat.cast_one, one_mul]
    exact (hword.trans (hten.trans hpower)).trans_lt overflow_bounds.1
  obtain ⟨hrange, hsome⟩ := ofFraction?_spec negative d.digits one_pos
  obtain ⟨x, hx⟩ := Option.isSome_iff_exists.1 (hsome hless)
  rw [ofDecimal?, hx, Option.bind_some]
  by_cases hsign : d.exponent < 0
  · exact scaled?_isSome_of_neg (hrange x hx) hsign
  · obtain ⟨k, hk⟩ := Int.eq_ofNat_of_zero_le (not_lt.1 hsign)
    have hvalue := h (not_lt.1 hsign)
    rw [Decimal.value, hk, zpow_natCast] at hvalue
    rw [hk] at hexponent ⊢
    refine scaled?_isSome (by exact_mod_cast hexponent) (lt_of_le_of_lt ?_ hvalue)
    have hmagnitude : x.magnitude ≤ d.digits * (1 + roundoff) := by
      by_cases hzero : d.digits = 0
      · rw [hzero, ofFraction?, if_pos rfl] at hx
        obtain rfl := Option.some.inj hx
        simp [magnitude, hzero]
      · have hnear := (near_of_ofFraction? one_pos (Nat.pos_of_ne_zero hzero) hx).2
        rwa [Nat.cast_one, mul_one] at hnear
    have hpart : (0 : ℚ) ≤ 1 + roundoff := by norm_num [roundoff, significandBound]
    calc x.magnitude * 10 ^ k * (1 + roundoff)
        ≤ d.digits * (1 + roundoff) * 10 ^ k * (1 + roundoff) := by gcongr
      _ = d.digits * 10 ^ k * (1 + roundoff) ^ 2 := by ring

end Binary64

end InteractiveBook.Json
