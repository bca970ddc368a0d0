import SignalLab.Proofs.Number.Values

/-!
# Rounding — the nearest double to a quotient, as a number

The nearest double to a quotient stands for its mantissa in units of the doubles of its size
(`Double.value?_nearest`), also where the mantissa is rounded up to a power of two and carries into
the exponent.  Rounding does not go across a number that a double stands for
(`Double.exists_isRounding_nearest`): bounds of a quotient that are doubles are bounds of its nearest
double, and a quotient that is a double is its own.
-/

namespace SignalLab

namespace Double

/-! ## Nearest doubles -/

/-- The binary logarithm of a quotient, rounded down. -/
def quotientLog (num den : Nat) : Int :=
  let e : Int := (num.log2 : Int) - den.log2
  if den * twoTo e.toNat ≤ num * twoTo (-e).toNat then e else e - 1

/-- The exponent of the unit of doubles of the size of a quotient. -/
def quotientUnit (num den : Nat) : Int :=
  max (quotientLog num den - 52) (-1074)

/-- A quotient in units of doubles of its size. -/
def quotientMantissa (num den : Nat) : Nat :=
  let q := quotientUnit num den
  roundHalfEven (num * twoTo (-q).toNat) (den * twoTo q.toNat)

theorem nearestBits_eq {num : Nat} (h : num ≠ 0) (den : Nat) :
    nearestBits num den =
      min infinityBits ((quotientUnit num den + 1074).toNat * twoTo 52 +
        quotientMantissa num den) := by
  rw [nearestBits, if_neg h]
  rfl

section Quotients

variable {num den : Nat}

/-- A quotient is at least a power of two exactly if its parts, scaled to natural numbers, say so. -/
theorem zpow_le_div_iff (hden : 0 < den) (e : Int) :
    (2 : ℚ) ^ e ≤ num / den ↔ den * twoTo e.toNat ≤ num * twoTo (-e).toNat := by
  have hpos : (0 : ℚ) < den := Nat.cast_pos.mpr hden
  have hscale : (0 : ℚ) < (twoTo (-e).toNat : Nat) := Nat.cast_pos.mpr (Nat.two_pow_pos _)
  rw [le_div_iff₀ hpos, mul_comm, magnitude_eq_div, div_le_iff₀ hscale, ← Nat.cast_mul,
    Nat.cast_le]

theorem log2_bounds {n : Nat} (h : n ≠ 0) :
    (2 : ℚ) ^ (n.log2 : Int) ≤ n ∧ (n : ℚ) < 2 ^ ((n.log2 : Int) + 1) := by
  have hlower : 2 ^ n.log2 ≤ n := Nat.log2_self_le h
  have hupper : n < 2 ^ (n.log2 + 1) := Nat.lt_log2_self
  exact ⟨by exact_mod_cast hlower, by exact_mod_cast hupper⟩

theorem quotientLog_bounds (hnum : num ≠ 0) (hden : den ≠ 0) :
    (2 : ℚ) ^ quotientLog num den ≤ num / den ∧
      (num / den : ℚ) < 2 ^ (quotientLog num den + 1) := by
  have hpos : (0 : ℚ) < den := Nat.cast_pos.mpr (Nat.pos_of_ne_zero hden)
  obtain ⟨hnumlow, hnumhigh⟩ := log2_bounds hnum
  obtain ⟨hdenlow, hdenhigh⟩ := log2_bounds hden
  -- the logarithms leave two exponents, which differ by one
  have hupper : (num / den : ℚ) < 2 ^ ((num.log2 : Int) - den.log2 + 1) := by
    rw [div_lt_iff₀ hpos]
    calc (num : ℚ) < 2 ^ ((num.log2 : Int) + 1) := hnumhigh
      _ = 2 ^ ((num.log2 : Int) - den.log2 + 1) * 2 ^ (den.log2 : Int) := by
        rw [← zpow_add₀ two_ne_zero]
        congr 1
        omega
      _ ≤ 2 ^ ((num.log2 : Int) - den.log2 + 1) * den :=
        mul_le_mul_of_nonneg_left hdenlow (zpow_nonneg zero_le_two _)
  have hlower : (2 : ℚ) ^ ((num.log2 : Int) - den.log2 - 1) ≤ num / den := by
    rw [le_div_iff₀ hpos]
    calc (2 : ℚ) ^ ((num.log2 : Int) - den.log2 - 1) * den
        ≤ 2 ^ ((num.log2 : Int) - den.log2 - 1) * 2 ^ ((den.log2 : Int) + 1) :=
          mul_le_mul_of_nonneg_left hdenhigh.le (zpow_nonneg zero_le_two _)
      _ = 2 ^ (num.log2 : Int) := by
        rw [← zpow_add₀ two_ne_zero]
        congr 1
        omega
      _ ≤ num := hnumlow
  rw [quotientLog]
  split
  · rename_i hfits
    exact ⟨(zpow_le_div_iff (Nat.pos_of_ne_zero hden) _).mpr hfits, hupper⟩
  · rename_i hfits
    refine ⟨hlower, ?_⟩
    rw [Int.sub_add_cancel]
    exact lt_of_not_ge (mt (zpow_le_div_iff (Nat.pos_of_ne_zero hden) _).mp hfits)

/-- A quotient in units, as a quotient of natural numbers. -/
theorem div_mul_zpow_neg (num den : Nat) (q : Int) :
    (num / den : ℚ) * 2 ^ (-q) =
      (num * twoTo (-q).toNat : Nat) / (den * twoTo q.toNat : Nat) := by
  rw [div_mul_eq_mul_div, magnitude_eq_div, Int.neg_neg, div_div, Nat.cast_mul den,
    mul_comm (den : ℚ)]

/-- What lies on the grid of the units and not below a quotient, is not below it once it is
rounded. -/
theorem quotientMantissa_le (hden : den ≠ 0) {k : Nat}
    (h : (num / den : ℚ) ≤ k * 2 ^ quotientUnit num den) : quotientMantissa num den ≤ k := by
  have hpos : 0 < den * twoTo (quotientUnit num den).toNat :=
    Nat.mul_pos (Nat.pos_of_ne_zero hden) (Nat.two_pow_pos _)
  refine roundHalfEven_le hpos ?_
  have hunit : (0 : ℚ) < 2 ^ (-quotientUnit num den) := zpow_pos two_pos _
  have hscaled : (num / den : ℚ) * 2 ^ (-quotientUnit num den) ≤ k := by
    rwa [zpow_neg, ← div_eq_mul_inv, div_le_iff₀ (zpow_pos two_pos _)]
  rw [div_mul_zpow_neg, div_le_iff₀ (Nat.cast_pos.mpr hpos)] at hscaled
  exact_mod_cast hscaled

theorem le_quotientMantissa (hden : den ≠ 0) {k : Nat}
    (h : k * 2 ^ quotientUnit num den ≤ (num / den : ℚ)) : k ≤ quotientMantissa num den := by
  have hpos : 0 < den * twoTo (quotientUnit num den).toNat :=
    Nat.mul_pos (Nat.pos_of_ne_zero hden) (Nat.two_pow_pos _)
  refine Nat.le_trans ((Nat.le_div_iff_mul_le hpos).mpr ?_) (le_roundHalfEven _ _)
  have hscaled : (k : ℚ) ≤ (num / den : ℚ) * 2 ^ (-quotientUnit num den) := by
    rwa [zpow_neg, ← div_eq_mul_inv, le_div_iff₀ (zpow_pos two_pos _)]
  rw [div_mul_zpow_neg, le_div_iff₀ (Nat.cast_pos.mpr hpos)] at hscaled
  exact_mod_cast hscaled

/-- A quotient has 53 digits in its unit; it has fewer only at the least exponent. -/
theorem quotient_bounds (hnum : num ≠ 0) (hden : den ≠ 0) :
    (num / den : ℚ) < 2 ^ 53 * 2 ^ quotientUnit num den ∧
      (2 ^ 52 * 2 ^ quotientUnit num den ≤ (num / den : ℚ) ∨ quotientUnit num den = -1074) := by
  obtain ⟨hlower, hupper⟩ := quotientLog_bounds hnum hden
  have hunit : quotientUnit num den = max (quotientLog num den - 52) (-1074) := rfl
  constructor
  · have hpow : (2 : ℚ) ^ (quotientLog num den + 1) ≤ 2 ^ (53 + quotientUnit num den) :=
      zpow_le_zpow_right₀ one_le_two (by omega)
    rw [zpow_add₀ two_ne_zero 53] at hpow
    exact hupper.trans_le hpow
  · by_cases hleast : quotientUnit num den = -1074
    · exact .inr hleast
    · left
      have hlog : quotientLog num den = 52 + quotientUnit num den := by omega
      rwa [hlog, zpow_add₀ two_ne_zero] at hlower

/-- A rounded mantissa has 53 digits, or it is the power of two behind them; it has fewer only at
the least exponent. -/
theorem quotientMantissa_bounds (hnum : num ≠ 0) (hden : den ≠ 0) :
    quotientMantissa num den ≤ 2 ^ 53 ∧
      (2 ^ 52 ≤ quotientMantissa num den ∨ quotientUnit num den = -1074) := by
  obtain ⟨hupper, hlower⟩ := quotient_bounds hnum hden
  refine ⟨quotientMantissa_le hden ?_, hlower.imp_left fun hlower => le_quotientMantissa hden ?_⟩
  · rw [Nat.cast_pow]
    exact hupper.le
  · rw [Nat.cast_pow]
    exact hlower

/-- A pattern whose mantissa is rounded up to the next power of two carries into the exponent, which
does not change the number. -/
theorem value?_of_toBits {x : Float} {negative : Bool} {m : Nat} {q : Int} (hleast : -1074 ≤ q)
    (hupper : m ≤ 2 ^ 53) (hlower : 2 ^ 52 ≤ m ∨ q = -1074)
    (hfinite : (q + 1074).toNat * 2 ^ 52 + m < infinityBits)
    (h : x.toBits.toNat =
      (if negative then twoTo 63 else 0) + ((q + 1074).toNat * 2 ^ 52 + m)) :
    value? x = some (signed negative m q) := by
  have hinfinity : infinityBits = 2047 * 2 ^ 52 := rfl
  obtain ⟨k, rfl⟩ : ∃ k : Nat, q = k - 1074 := ⟨(q + 1074).toNat, by omega⟩
  have hk : ((k : Int) - 1074 + 1074).toNat = k := by omega
  rw [hk] at h hfinite
  rw [value?]
  rcases Nat.lt_or_ge m (2 ^ 52) with hshort | hfull
  · -- fewer digits, at the least exponent
    obtain rfl : k = 0 := by omega
    rw [parts_of_toBits (by omega) hshort h, if_pos rfl]
    rfl
  · rcases Nat.lt_or_eq_of_le hupper with hlt | rfl
    · have hpattern : k * 2 ^ 52 + m = (k + 1) * 2 ^ 52 + (m - 2 ^ 52) := by omega
      have hdigits : 2 ^ 52 + (m - 2 ^ 52) = m := by omega
      have hexponent : ((k + 1 : Nat) : Int) - 1075 = k - 1074 := by omega
      rw [hpattern] at h
      rw [parts_of_toBits (by omega) (by omega) h, if_neg (by omega), hdigits, hexponent]
    · -- the carry
      have hpattern : k * 2 ^ 52 + 2 ^ 53 = (k + 2) * 2 ^ 52 + 0 := by omega
      have hexponent : ((k + 2 : Nat) : Int) - 1075 = k - 1074 + 1 := by omega
      rw [hpattern] at h
      rw [parts_of_toBits (by omega) (by omega) h, if_neg (by omega), hexponent]
      dsimp only
      rw [signed, signed, zpow_add_one₀ two_ne_zero]
      push_cast
      ring_nf

/-- The nearest double stands for the rounded mantissa in units. -/
theorem value?_nearest (hnum : num ≠ 0) (hden : den ≠ 0) (h : nearestBits num den < infinityBits)
    (negative : Bool) : value? (nearest negative num den) =
      some (signed negative (quotientMantissa num den) (quotientUnit num den)) := by
  obtain ⟨hupper, hlower⟩ := quotientMantissa_bounds hnum hden
  have hpattern : nearestBits num den =
      (quotientUnit num den + 1074).toNat * 2 ^ 52 + quotientMantissa num den := by
    rw [nearestBits_eq hnum] at h ⊢
    exact Nat.min_eq_right (Nat.le_of_not_le fun hle => by rw [Nat.min_eq_left hle] at h; omega)
  have hbits := toBits_nearest negative num den
  rw [hpattern] at h hbits
  exact value?_of_toBits (Int.le_max_right _ _) hupper hlower h hbits

end Quotients

/-! ## Rounding to doubles -/

/-- A number of at most 53 binary digits, none of them below the least that doubles have. -/
def Fits (v : ℚ) : Prop :=
  ∃ (k : Nat) (j : Int), k < 2 ^ 53 ∧ -1074 ≤ j ∧ v = k * 2 ^ j

/-- A number that comes from another one without going across a number that fits. -/
structure IsRounding (x v : ℚ) : Prop where
  le : ∀ w, Fits w → x ≤ w → v ≤ w
  ge : ∀ w, Fits w → w ≤ x → w ≤ v

theorem IsRounding.eq {x v : ℚ} (h : IsRounding x v) (hx : Fits x) : v = x :=
  le_antisymm (h.le x hx le_rfl) (h.ge x hx le_rfl)

theorem fits_natCast {n : Nat} (h : n ≤ 2 ^ 53) : Fits n := by
  rcases Nat.lt_or_eq_of_le h with hlt | rfl
  · exact ⟨n, 0, hlt, by decide, by rw [zpow_zero, mul_one]⟩
  · exact ⟨1, 53, by decide, by decide, by norm_num⟩

section Quotients

variable {num den : Nat}

/-- The unit of a quotient that is not above a number that fits is not coarser than its digits. -/
theorem quotientUnit_le (hnum : num ≠ 0) (hden : den ≠ 0) {k : Nat} {j : Int} (hk : k < 2 ^ 53)
    (hj : -1074 ≤ j) (h : (num / den : ℚ) ≤ k * 2 ^ j) : quotientUnit num den ≤ j := by
  obtain ⟨hlower, -⟩ := quotientLog_bounds hnum hden
  refine max_le ?_ hj
  have hdigits : (k : ℚ) < 2 ^ (53 : Int) := by exact_mod_cast hk
  have hlt : (2 : ℚ) ^ quotientLog num den < 2 ^ (53 + j) := by
    calc (2 : ℚ) ^ quotientLog num den ≤ num / den := hlower
      _ ≤ k * 2 ^ j := h
      _ < 2 ^ (53 : Int) * 2 ^ j := mul_lt_mul_of_pos_right hdigits (zpow_pos two_pos j)
      _ = 2 ^ (53 + j) := (zpow_add₀ two_ne_zero _ _).symm
  have hexponents : quotientLog num den < 53 + j := (zpow_lt_zpow_iff_right₀ one_lt_two).mp hlt
  omega

/-- A number whose last digit is not below a unit, in units. -/
theorem mul_zpow_eq_units (k : Nat) {q j : Int} (h : q ≤ j) :
    (k : ℚ) * 2 ^ j = (k * twoTo (j - q).toNat : Nat) * 2 ^ q := by
  have hsplit : j = (j - q).toNat + q := by omega
  conv_lhs => rw [hsplit]
  rw [zpow_add₀ two_ne_zero, Nat.cast_mul, cast_twoTo, mul_assoc]

theorem isRounding_quotientMantissa (hnum : num ≠ 0) (hden : den ≠ 0) :
    IsRounding (num / den) (quotientMantissa num den * 2 ^ quotientUnit num den) where
  le := by
    rintro _ ⟨k, j, hk, hj, rfl⟩ h
    have hunit : quotientUnit num den ≤ j := quotientUnit_le hnum hden hk hj h
    rw [mul_zpow_eq_units k hunit] at h ⊢
    exact mul_le_mul_of_nonneg_right (Nat.cast_le.mpr (quotientMantissa_le hden h))
      (zpow_nonneg zero_le_two _)
  ge := by
    rintro _ ⟨k, j, hk, hj, rfl⟩ h
    rcases le_or_gt (quotientUnit num den) j with hunit | hunit
    · rw [mul_zpow_eq_units k hunit] at h ⊢
      exact mul_le_mul_of_nonneg_right (Nat.cast_le.mpr (le_quotientMantissa hden h))
        (zpow_nonneg zero_le_two _)
    · -- a number below the unit has fewer digits than the mantissa
      obtain ⟨-, hlower⟩ := quotientMantissa_bounds hnum hden
      have hfull : (2 : ℚ) ^ 52 ≤ quotientMantissa num den := by
        exact_mod_cast hlower.resolve_right (by omega)
      have hdigits : (k : ℚ) ≤ 2 ^ 53 := by exact_mod_cast hk.le
      calc (k : ℚ) * 2 ^ j
          ≤ 2 ^ 53 * 2 ^ j := mul_le_mul_of_nonneg_right hdigits (zpow_nonneg zero_le_two _)
        _ = 2 ^ 52 * 2 ^ (j + 1) := by rw [zpow_add_one₀ two_ne_zero]; ring
        _ ≤ quotientMantissa num den * 2 ^ quotientUnit num den :=
          mul_le_mul hfull (zpow_le_zpow_right₀ one_le_two hunit) (zpow_nonneg zero_le_two _)
            (Nat.cast_nonneg _)

theorem isRounding_zero : IsRounding 0 0 := ⟨fun _ _ h => h, fun _ _ h => h⟩

/-- Zero has either sign. -/
theorem value?_nearest_zero (negative : Bool) (den : Nat) :
    value? (nearest negative 0 den) = some 0 := by
  have hbits : nearestBits 0 den = 0 := if_pos rfl
  have hparts : parts (nearest negative 0 den) = .finite negative 0 (-1074) := by
    rw [nearest, hbits]
    revert negative
    decide
  rw [value?, hparts]
  exact congrArg some (by rw [signed, Nat.cast_zero, zero_mul, mul_zero])

/-- The nearest double to a quotient stands for a rounding of it. -/
theorem exists_isRounding_nearest (hden : den ≠ 0) (h : num.log2 ≤ den.log2 + 1020) :
    ∃ v, IsRounding (num / den) v ∧ value? (nearest false num den) = some v := by
  by_cases hnum : num = 0
  · subst hnum
    refine ⟨0, ?_, value?_nearest_zero false den⟩
    rw [Nat.cast_zero, zero_div]
    exact isRounding_zero
  · refine ⟨_, isRounding_quotientMantissa hnum hden, ?_⟩
    rw [value?_nearest hnum hden (nearestBits_lt hden h), signed, if_neg Bool.false_ne_true, one_mul]

end Quotients

/-! ## Conversions -/

/-- Natural numbers up to `2 ^ 53` stand for themselves. -/
theorem value?_ofNat {n : Nat} (h : n ≤ 2 ^ 53) : value? (ofNat n) = some (n : ℚ) := by
  have hlog : n.log2 ≤ Nat.log2 1 + 1020 := by
    have hle : n.log2 ≤ Nat.log2 (2 ^ 53) := log2_mono h
    rw [Nat.log2_two_pow] at hle
    omega
  obtain ⟨v, hround, hv⟩ := exists_isRounding_nearest one_ne_zero hlog
  rw [Nat.cast_one, div_one] at hround
  rw [ofNat, hv, hround.eq (fits_natCast h)]

theorem value?_zero : value? 0.0 = some 0 := by
  have hzero : (0.0 : Float) = ofNat 0 := by rfl
  rw [hzero, value?_ofNat (by decide), Nat.cast_zero]

theorem exists_ofInt {n : Int} (h : n.natAbs.log2 ≤ 1020) : ∃ x, ofInt n = .ok x := by
  rw [ofInt, ofInt?, if_pos (nearestBits_lt one_ne_zero (by omega))]
  exact ⟨_, rfl⟩

theorem eq_ofNat_of_ofInt {n : Nat} {x : Float} (h : ofInt n = .ok x) : x = ofNat n := by
  have hnonneg : decide ((n : Int) < 0) = false := decide_eq_false (by omega)
  rw [ofInt, ofInt?, hnonneg] at h
  split at h
  · rename_i y hy
    cases h
    split at hy
    · exact (Option.some.inj hy).symm
    · cases hy
  · cases h

/-- A length that is not zero is none as a double either. -/
theorem ofNat_beq_zero {n : Nat} (hn : n ≠ 0) (h : n.log2 ≤ 1020) : (ofNat n == 0.0) = false := by
  have hlog : n.log2 ≤ Nat.log2 1 + 1020 := by omega
  obtain ⟨v, hround, hv⟩ := exists_isRounding_nearest one_ne_zero hlog
  have hone : (1 : ℚ) ≤ v := by
    have hfits : Fits ((1 : Nat) : ℚ) := fits_natCast (by decide)
    have hle : ((1 : Nat) : ℚ) ≤ v := by
      refine hround.ge _ hfits ?_
      rw [Nat.cast_one, div_one]
      exact_mod_cast Nat.one_le_iff_ne_zero.mpr hn
    exact_mod_cast hle
  refine beq_eq_false_of_lt ((lt_iff_value value?_zero hv).mpr ?_)
  linarith

end Double

/-- The quotient of natural numbers stands for a rounding of their quotient. -/
theorem Quantity.exists_divIntegers {a b : Nat} (hb : b ≠ 0) (h : a.log2 ≤ b.log2 + 1020) :
    ∃ x v, divIntegers a b = .ok x ∧ Double.value? x = some v ∧ Double.IsRounding (a / b) v := by
  obtain ⟨v, hround, hv⟩ := Double.exists_isRounding_nearest hb h
  have hpositive : (decide ((a : Int) < 0) != decide ((b : Int) < 0)) = false := by
    rw [decide_eq_false (by omega), decide_eq_false (by omega)]
    rfl
  refine ⟨_, v, ?_, hv, hround⟩
  rw [divIntegers, if_neg (Int.natCast_ne_zero.mpr hb), Double.ofQuotient?, Int.natAbs_natCast,
    Int.natAbs_natCast, if_pos (Double.nearestBits_lt hb h), hpositive]

end SignalLab
