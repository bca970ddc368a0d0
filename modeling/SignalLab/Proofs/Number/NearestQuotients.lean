import SignalLab.Proofs.Number.Differences

/-!
# Nearest quotients — the double that a quotient of integers is rounded to

A quotient is rounded once, to a multiple of the unit of its size, and a half goes to the even
multiple (`roundHalfEven_error`).  The double made of it is therefore nearest to the quotient in the
sense of `Double.IsNearest`, and it is finite as long as the quotient lies less than half a unit
beyond the largest double (`Double.exists_value_nearest`).
-/

namespace SignalLab

/-- A rounded quotient is at most one half away, and even if it is as far as that. -/
theorem roundHalfEven_error (num : Nat) {den : Nat} (hden : 0 < den) :
    |(roundHalfEven num den - num / den : ℚ)| ≤ 1 / 2 ∧
      (|(roundHalfEven num den - num / den : ℚ)| = 1 / 2 → Even (roundHalfEven num den)) := by
  have hpos : (0 : ℚ) < den := Nat.cast_pos.mpr hden
  have hsplit : (num / den : ℚ) = (num / den : Nat) + (num % den : Nat) / den := by
    rw [div_eq_iff hpos.ne', add_mul, div_mul_cancel₀ _ hpos.ne', mul_comm]
    exact_mod_cast (Nat.div_add_mod num den).symm
  -- only the quotient and the remainder matter, so that the cases are those of the remainder
  rw [hsplit, roundHalfEven]
  generalize num / den = q
  have hremainder : num % den < den := Nat.mod_lt num hden
  generalize num % den = r at hremainder
  split
  · rename_i hbelow
    have ht : (r / den : ℚ) < 1 / 2 := by
      rw [div_lt_div_iff₀ hpos two_pos]
      exact_mod_cast (by omega : r * 2 < 1 * den)
    have hdistance : |(q - (q + r / den) : ℚ)| = r / den := by
      rw [sub_add_cancel_left, abs_neg, abs_of_nonneg (by positivity)]
    rw [hdistance]
    exact ⟨ht.le, fun heq => absurd heq ht.ne⟩
  · split
    · rename_i habove
      have ht : (1 / 2 : ℚ) < r / den := by
        rw [div_lt_div_iff₀ two_pos hpos]
        exact_mod_cast (by omega : 1 * den < r * 2)
      have hone : (r / den : ℚ) < 1 := (div_lt_one hpos).mpr (Nat.cast_lt.mpr hremainder)
      have hdistance : |((q + 1 : Nat) - (q + r / den) : ℚ)| = 1 - r / den := by
        rw [Nat.cast_add_one, add_sub_add_left_eq_sub, abs_of_pos (by linarith)]
      rw [hdistance]
      exact ⟨by linarith, fun heq => absurd heq (by linarith)⟩
    · have ht : (r / den : ℚ) = 1 / 2 := by
        rw [div_eq_div_iff hpos.ne' two_ne_zero]
        exact_mod_cast (by omega : r * 2 = 1 * den)
      have heven : Even (q + q % 2) := Nat.even_iff.mpr (by omega)
      refine ⟨?_, fun _ => heven⟩
      rw [ht, Nat.cast_add, add_sub_add_left_eq_sub]
      rcases Nat.mod_two_eq_zero_or_one q with hq | hq <;> rw [hq] <;> norm_num [abs_le]

namespace Double

section Quotients

variable {num den : Nat}

/-- The rounded mantissa of a quotient is nearest to it, in its unit. -/
theorem isNearestMultiple_quotient (hnum : num ≠ 0) (hden : den ≠ 0) :
    IsNearestMultiple (num / den) (quotientMantissa num den) (quotientUnit num den) := by
  have hunit : (0 : ℚ) < 2 ^ quotientUnit num den := zpow_pos two_pos _
  obtain ⟨hupper, hlower⟩ := quotient_bounds hnum hden
  rw [← div_lt_iff₀ hunit] at hupper
  rw [← le_div_iff₀ hunit] at hlower
  have hpos : 0 < den * twoTo (quotientUnit num den).toNat :=
    Nat.mul_pos (Nat.pos_of_ne_zero hden) (Nat.two_pow_pos _)
  obtain ⟨herror, heven⟩ := roundHalfEven_error (num * twoTo (-quotientUnit num den).toNat) hpos
  rw [← div_mul_zpow_neg, zpow_neg, ← div_eq_mul_inv] at herror heven
  have hleast : -1074 ≤ quotientUnit num den := le_max_right _ _
  obtain ⟨hnearest, -, -⟩ := isNearestMultiple_of_rounded hleast herror heven hlower hupper
  rwa [div_mul_cancel₀ _ hunit.ne'] at hnearest

/-- The least number that is rounded to infinity: half a unit beyond the largest double. -/
def overflow : ℚ :=
  2 ^ (1024 : ℤ) - 2 ^ (970 : ℤ)

theorem lt_overflow : (2 : ℚ) ^ (1023 : ℤ) + 2 ^ (1022 : ℤ) < overflow := by
  have hdouble : ∀ q : ℤ, (2 : ℚ) ^ (1 + q) = 2 ^ q + 2 ^ q := fun q => by
    rw [zpow_one_add₀ two_ne_zero, two_mul]
  have hlt : (2 : ℚ) ^ (970 : ℤ) < 2 ^ (1022 : ℤ) := zpow_lt_zpow_right₀ one_lt_two (by decide)
  calc (2 : ℚ) ^ (1023 : ℤ) + 2 ^ (1022 : ℤ)
      < 2 ^ (1023 : ℤ) + 2 ^ (1022 : ℤ) + (2 ^ (1022 : ℤ) - 2 ^ (970 : ℤ)) :=
        lt_add_of_pos_right _ (sub_pos.mpr hlt)
    _ = 2 ^ (1 + 1023 : ℤ) - 2 ^ (970 : ℤ) := by
      rw [hdouble 1023, add_assoc, ← add_sub_assoc, ← hdouble 1022, add_sub_assoc]
      rfl
    _ = overflow := rfl

theorem lt_overflow_of_le {v : ℚ} (h : v ≤ 2 ^ (53 : ℤ)) : v < overflow := by
  have hpow : (2 : ℚ) ^ (53 : ℤ) ≤ 2 ^ (1023 : ℤ) := zpow_le_zpow_right₀ one_le_two (by decide)
  exact (h.trans hpow).trans_lt ((lt_add_of_pos_right _ (zpow_pos two_pos _)).trans lt_overflow)

/-- A quotient below the overflow has a finite double. -/
theorem nearestBits_lt_of_lt (hden : den ≠ 0) (h : (num / den : ℚ) < overflow) :
    nearestBits num den < infinityBits := by
  by_cases hnum : num = 0
  · rw [nearestBits, if_pos hnum]
    decide
  · obtain ⟨hlower, -⟩ := quotientLog_bounds hnum hden
    obtain ⟨hdigits, -⟩ := quotientMantissa_bounds hnum hden
    have hinfinity : infinityBits = 2047 * 2 ^ 52 := rfl
    have hpos : (0 : ℚ) < 2 ^ (970 : ℤ) := zpow_pos two_pos _
    have hlog : quotientLog num den < 1024 := by
      refine (zpow_lt_zpow_iff_right₀ (one_lt_two : (1 : ℚ) < 2)).mp (hlower.trans_lt ?_)
      exact h.trans (sub_lt_self _ hpos)
    have hunit : quotientUnit num den = max (quotientLog num den - 52) (-1074) := rfl
    have hpattern : (quotientUnit num den + 1074).toNat * 2 ^ 52 + quotientMantissa num den <
        infinityBits := by
      rcases lt_or_eq_of_le (by omega : quotientUnit num den ≤ 971) with hlt | htop
      · omega
      · -- among the largest doubles the mantissa must not be rounded up to the next power
        have hbelow : quotientMantissa num den < 2 ^ 53 := by
          have herror := (isNearestMultiple_quotient hnum hden).error
          rw [htop, Int.cast_natCast] at herror
          have hle : (quotientMantissa num den * 2 ^ (971 : ℤ) : ℚ) ≤ num / den + 2 ^ (970 : ℤ) :=
            sub_le_iff_le_add'.mp (abs_le.mp herror).2
          have hlt : (quotientMantissa num den * 2 ^ (971 : ℤ) : ℚ) <
              2 ^ (53 : ℤ) * 2 ^ (971 : ℤ) := by
            rw [← zpow_add₀ two_ne_zero]
            exact hle.trans_lt (lt_sub_iff_add_lt.mp h)
          exact_mod_cast lt_of_mul_lt_mul_right hlt (zpow_nonneg zero_le_two _)
        omega
    rw [nearestBits_eq hnum]
    exact Nat.lt_of_le_of_lt (Nat.min_le_right _ _) hpattern

/-- The nearest double to a quotient is nearest to it, if it is finite. -/
theorem exists_value_of_nearestBits (hden : den ≠ 0) (h : nearestBits num den < infinityBits)
    (negative : Bool) :
    ∃ v, IsNearest (if negative then -(num / den) else num / den) v ∧
      value? (nearest negative num den) = some v := by
  by_cases hnum : num = 0
  · subst hnum
    have hzero := value?_nearest_zero negative den
    refine ⟨0, ?_, hzero⟩
    rw [Nat.cast_zero, zero_div, neg_zero, ite_self]
    exact (standsFor_of_value hzero).isNearest
  · have hnearest : IsNearest (num / den)
        (quotientMantissa num den * 2 ^ quotientUnit num den) :=
      ⟨_, _, isNearestMultiple_quotient hnum hden, by rw [Int.cast_natCast]⟩
    refine ⟨_, ?_, value?_nearest hnum hden h negative⟩
    cases negative with
    | true => simpa [signed] using hnearest.neg
    | false => simpa [signed] using hnearest

/-- Below the overflow it is finite. -/
theorem exists_value_nearest (hden : den ≠ 0) (h : (num / den : ℚ) < overflow) (negative : Bool) :
    ∃ v, IsNearest (if negative then -(num / den) else num / den) v ∧
      value? (nearest negative num den) = some v :=
  exists_value_of_nearestBits hden (nearestBits_lt_of_lt hden h) negative

end Quotients

/-! ## Integers -/

/-- A number is its magnitude with its sign. -/
theorem if_neg_abs {v : ℚ} {negative : Bool} (hneg : negative = true → v ≤ 0)
    (hpos : negative = false → 0 ≤ v) : (if negative then -|v| else |v|) = v := by
  cases negative with
  | true => rw [if_pos rfl, abs_of_nonpos (hneg rfl), neg_neg]
  | false => rw [if_neg Bool.false_ne_true, abs_of_nonneg (hpos rfl)]

/-- The double made of an integer is nearest to it, if it is finite. -/
theorem exists_ofInt_of_nearestBits {n : ℤ} (h : nearestBits n.natAbs 1 < infinityBits) :
    ∃ x v, ofInt n = .ok x ∧ value? x = some v ∧ IsNearest n v := by
  obtain ⟨v, hnearest, hv⟩ := exists_value_of_nearestBits one_ne_zero h (n < 0)
  refine ⟨_, v, ?_, hv, ?_⟩
  · rw [ofInt, ofInt?, if_pos h]
  · have hsign : (if decide (n < 0) then -|(n : ℚ)| else |(n : ℚ)|) = n :=
      if_neg_abs (fun hneg => Int.cast_nonpos.mpr (of_decide_eq_true hneg).le)
        fun hpos => Int.cast_nonneg (not_lt.mp (of_decide_eq_false hpos))
    rwa [Nat.cast_one, div_one, Nat.cast_natAbs, Int.cast_abs, hsign] at hnearest

/-- Below the overflow it is finite. -/
theorem exists_ofInt_nearest {n : ℤ} (h : |(n : ℚ)| < overflow) :
    ∃ x v, ofInt n = .ok x ∧ value? x = some v ∧ IsNearest n v := by
  refine exists_ofInt_of_nearestBits (nearestBits_lt_of_lt one_ne_zero ?_)
  rwa [Nat.cast_one, div_one, Nat.cast_natAbs, Int.cast_abs]

end Double

/-- The quotient of integers is nearest to the exact one. -/
theorem Quantity.exists_divIntegers_nearest {a b : ℤ} (hb : b ≠ 0)
    (h : |(a / b : ℚ)| < Double.overflow) :
    ∃ x v, divIntegers a b = .ok x ∧ Double.value? x = some v ∧ Double.IsNearest (a / b) v := by
  have hmagnitude : (a.natAbs / b.natAbs : ℚ) = |(a / b : ℚ)| := by
    rw [Nat.cast_natAbs, Nat.cast_natAbs, Int.cast_abs, Int.cast_abs, abs_div]
  have hden : b.natAbs ≠ 0 := Int.natAbs_ne_zero.mpr hb
  rw [← hmagnitude] at h
  obtain ⟨v, hnearest, hv⟩ := Double.exists_value_nearest hden h ((a < 0) != (b < 0))
  refine ⟨_, v, ?_, hv, ?_⟩
  · rw [divIntegers, if_neg hb, Double.ofQuotient?, if_pos (Double.nearestBits_lt_of_lt hden h)]
  · have hsign : (if decide (a < 0) != decide (b < 0) then -|(a / b : ℚ)| else |(a / b : ℚ)|) =
        a / b := by
      refine Double.if_neg_abs (fun h => ?_) (fun h => ?_)
      · rw [bne_iff_ne, Ne, decide_eq_decide] at h
        rw [div_nonpos_iff]
        exact_mod_cast (by omega : 0 ≤ a ∧ b ≤ 0 ∨ a ≤ 0 ∧ 0 ≤ b)
      · rw [bne_eq_false_iff_eq, decide_eq_decide] at h
        rw [div_nonneg_iff]
        exact_mod_cast (by omega : 0 ≤ a ∧ 0 ≤ b ∨ a ≤ 0 ∧ b ≤ 0)
    rwa [hmagnitude, hsign] at hnearest

end SignalLab
