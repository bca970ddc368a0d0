import SignalLab.Proofs.Number.Rounding

/-!
# The nearest double — rounding as a relation between numbers

A number is rounded to a multiple of a unit: the unit is that of the doubles of its size, the
multiple is the nearest one, and of two that are equally near the even one is taken
(`Double.IsNearestMultiple`).  What is rounded to in this way is nearest among all doubles, whatever
their size (`Double.IsNearest.closest`), so that rounding keeps the order (`Double.IsNearest.le`,
`Double.IsNearest.ge`).  The upper end of the exponents is left to those who pack a double.
-/

namespace SignalLab.Double

/-! ## The nearest double -/

/-- The `k`-th multiple of `2 ^ q` is nearest to `s`. -/
structure IsNearestMultiple (s : ℚ) (k q : ℤ) : Prop where
  least : -1074 ≤ q
  digits : |k| ≤ 2 ^ 53
  /-- A number has 53 digits in its unit; it has fewer only in the least one. -/
  unit : 2 ^ (52 + q) ≤ |s| ∨ q = -1074
  error : |k * 2 ^ q - s| ≤ 2 ^ (q - 1)
  even : |k * 2 ^ q - s| = 2 ^ (q - 1) → Even k

/-- The number `v` is nearest to `s` among the doubles, if their exponents had no upper end. -/
def IsNearest (s v : ℚ) : Prop :=
  ∃ k q : ℤ, IsNearestMultiple s k q ∧ v = k * 2 ^ q

/-- Up to `2 ^ 53` units are a double. -/
theorem fits_multiple {k q : ℤ} (hq : -1074 ≤ q) (hk : |k| ≤ 2 ^ 53) :
    Fits |(k : ℚ) * 2 ^ q| := by
  have habs : |(k : ℚ) * 2 ^ q| = k.natAbs * 2 ^ q := by
    rw [abs_mul, abs_of_pos (zpow_pos two_pos q : (0 : ℚ) < 2 ^ q), Nat.cast_natAbs, Int.cast_abs]
  rw [habs]
  have hle : k.natAbs ≤ 2 ^ 53 := by
    rwa [Int.abs_eq_natAbs, ← Nat.cast_ofNat, ← Nat.cast_pow, Int.ofNat_le] at hk
  rcases Nat.lt_or_eq_of_le hle with hlt | heq
  · exact ⟨k.natAbs, q, hlt, hq, rfl⟩
  · refine ⟨1, 53 + q, by decide, by omega, ?_⟩
    rw [heq, zpow_add₀ two_ne_zero, Nat.cast_one, one_mul]
    norm_num

/-- Integers up to `2 ^ 53` are doubles. -/
theorem fits_intCast {n : ℤ} (h : |n| ≤ 2 ^ 53) : Fits |(n : ℚ)| := by
  have hfits := fits_multiple (k := n) (q := 0) (by decide) h
  rwa [zpow_zero, mul_one] at hfits

/-- A number that fits and is large enough for a unit is a multiple of it. -/
theorem exists_multiple {w : ℚ} {q : ℤ} (hw : Fits |w|) (h : 2 ^ (52 + q) ≤ |w| ∨ q = -1074) :
    ∃ k : ℤ, w = k * 2 ^ q := by
  obtain ⟨m, j, hm, hj, hmj⟩ := hw
  have hdigits : (m : ℚ) < 2 ^ (53 : ℤ) := by exact_mod_cast hm
  have hunit : q ≤ j := by
    rcases h with h | rfl
    · have hlt : (2 : ℚ) ^ (52 + q) < 2 ^ (53 + j) := by
        calc (2 : ℚ) ^ (52 + q) ≤ m * 2 ^ j := hmj ▸ h
          _ < 2 ^ (53 : ℤ) * 2 ^ j := mul_lt_mul_of_pos_right hdigits (zpow_pos two_pos j)
          _ = 2 ^ (53 + j) := (zpow_add₀ two_ne_zero _ _).symm
      have := (zpow_lt_zpow_iff_right₀ (one_lt_two : (1 : ℚ) < 2)).mp hlt
      omega
    · exact hj
  rw [mul_zpow_eq_units m hunit] at hmj
  rcases abs_choice w with habs | habs
  · exact ⟨(m * twoTo (j - q).toNat : Nat), by rw [← habs, hmj, Int.cast_natCast]⟩
  · refine ⟨-(m * twoTo (j - q).toNat : Nat), ?_⟩
    rw [Int.cast_neg, Int.cast_natCast, neg_mul, ← hmj, habs, neg_neg]

namespace IsNearestMultiple

variable {s : ℚ} {k q : ℤ}

/-- No other multiple of the unit is nearer. -/
theorem closest_multiple (h : IsNearestMultiple s k q) (j : ℤ) :
    |k * 2 ^ q - s| ≤ |j * 2 ^ q - s| := by
  by_cases hjk : j = k
  · rw [hjk]
  · have hpos : (0 : ℚ) < 2 ^ q := zpow_pos two_pos q
    have hapart : 2 ^ q ≤ |(j * 2 ^ q - k * 2 ^ q : ℚ)| := by
      have hone : (1 : ℚ) ≤ |(j : ℚ) - k| := by
        exact_mod_cast Int.one_le_abs (sub_ne_zero.mpr hjk)
      rw [← sub_mul, abs_mul, abs_of_pos hpos]
      exact le_mul_of_one_le_left hpos.le hone
    have hhalf : (2 : ℚ) ^ q = 2 ^ (q - 1) + 2 ^ (q - 1) := by
      rw [zpow_sub_one₀ two_ne_zero]
      ring
    have htriangle := abs_sub_le (j * 2 ^ q : ℚ) s (k * 2 ^ q)
    rw [abs_sub_comm s] at htriangle
    linarith [h.error]

/-- No other double is nearer. -/
theorem closest (h : IsNearestMultiple s k q) {w : ℚ} (hw : Fits |w|) :
    |k * 2 ^ q - s| ≤ |w - s| := by
  by_cases hunit : 2 ^ (52 + q) ≤ |w| ∨ q = -1074
  · obtain ⟨j, rfl⟩ := exists_multiple hw hunit
    exact h.closest_multiple j
  · -- a double below all those of this size is further off than the least of them
    obtain ⟨hsmall, hleast⟩ := not_or.mp hunit
    have hlarge : 2 ^ (52 + q) ≤ |s| := h.unit.resolve_right hleast
    have hpower : (2 : ℚ) ^ (52 + q) = 2 ^ 52 * 2 ^ q := by
      rw [zpow_add₀ two_ne_zero]
      norm_num
    obtain ⟨j, hj⟩ : ∃ j : ℤ, |j * 2 ^ q - s| = |s| - 2 ^ (52 + q) := by
      rcases abs_choice s with habs | habs
      · refine ⟨2 ^ 52, ?_⟩
        rw [habs] at hlarge ⊢
        rw [abs_sub_comm, abs_of_nonneg] <;> push_cast <;> linarith
      · refine ⟨-2 ^ 52, ?_⟩
        rw [habs] at hlarge ⊢
        rw [abs_of_nonneg] <;> push_cast <;> linarith
    have hreverse := abs_sub_abs_le_abs_sub s w
    rw [abs_sub_comm s w] at hreverse
    linarith [h.closest_multiple j]

end IsNearestMultiple

namespace IsNearest

variable {s v w : ℚ}

/-- What is nearest is a double. -/
theorem fits (h : IsNearest s v) : Fits |v| := by
  obtain ⟨k, q, h, rfl⟩ := h
  exact fits_multiple h.least h.digits

/-- No double is closer than the nearest one. -/
theorem closest (h : IsNearest s v) (hw : Fits |w|) : |v - s| ≤ |w - s| := by
  obtain ⟨k, q, h, rfl⟩ := h
  exact h.closest hw

/-- A double is nearest to itself only. -/
theorem eq_of_fits (h : IsNearest s v) (hs : Fits |s|) : v = s := by
  have hclosest := h.closest hs
  rwa [sub_self, abs_zero, abs_nonpos_iff, sub_eq_zero] at hclosest

/-- What is above is above the nearest double too, if it is a double. -/
theorem le (h : IsNearest s v) (hw : Fits |w|) (hle : s ≤ w) : v ≤ w := by
  by_contra hlt
  have hclosest := h.closest hw
  rw [abs_of_nonneg (by linarith), abs_of_nonneg (by linarith)] at hclosest
  linarith

/-- So it is with what is below. -/
theorem ge (h : IsNearest s v) (hw : Fits |w|) (hle : w ≤ s) : w ≤ v := by
  by_contra hlt
  have hclosest := h.closest hw
  rw [abs_of_nonpos (by linarith), abs_of_nonpos (by linarith)] at hclosest
  linarith

/-- Rounding does not look at the sign. -/
theorem neg (h : IsNearest s v) : IsNearest (-s) (-v) := by
  obtain ⟨k, q, h, rfl⟩ := h
  have herror : |((-k : ℤ) : ℚ) * 2 ^ q - -s| = |k * 2 ^ q - s| := by
    rw [Int.cast_neg, neg_mul, neg_sub_neg, abs_sub_comm]
  refine ⟨-k, q, ⟨h.least, (abs_neg k).trans_le h.digits, ?_, ?_, ?_⟩, by push_cast; ring⟩
  · rw [abs_neg]
    exact h.unit
  · rw [herror]
    exact h.error
  · rw [herror]
    exact fun heq => (h.even heq).neg

/-- A number up to a power of two is rounded by at most half a unit of its size. -/
theorem error_le (h : IsNearest s v) {q : ℤ} (hq : -1074 ≤ q) (hs : |s| ≤ 2 ^ (53 + q)) :
    |v - s| ≤ 2 ^ (q - 1) := by
  have hpos : (0 : ℚ) < 2 ^ q := zpow_pos two_pos q
  have hscaled : |s / 2 ^ q| ≤ 2 ^ 53 := by
    rw [abs_div, abs_of_pos hpos, div_le_iff₀ hpos]
    rwa [zpow_add₀ two_ne_zero] at hs
  have hround := abs_le.mp (abs_sub_round (s / 2 ^ q))
  have hdigits : |round (s / 2 ^ q)| ≤ 2 ^ 53 := by
    have hlt : |(round (s / 2 ^ q) : ℚ)| < 2 ^ 53 + 1 := by
      rw [abs_le] at hscaled
      rw [abs_lt]
      constructor <;> linarith
    have hlt : |round (s / 2 ^ q)| < 2 ^ 53 + 1 := by exact_mod_cast hlt
    omega
  have herror : |(round (s / 2 ^ q) * 2 ^ q - s : ℚ)| ≤ 2 ^ (q - 1) := by
    have hfactor : (round (s / 2 ^ q) * 2 ^ q - s : ℚ) =
        -((s / 2 ^ q - round (s / 2 ^ q)) * 2 ^ q) := by
      rw [sub_mul, div_mul_cancel₀ _ hpos.ne', neg_sub]
    rw [hfactor, abs_neg, abs_mul, abs_of_pos hpos, zpow_sub_one₀ two_ne_zero, mul_comm]
    exact mul_le_mul_of_nonneg_left ((abs_sub_round _).trans_eq (one_div 2)) hpos.le
  exact (h.closest (fits_multiple hq hdigits)).trans herror

/-- In the range of normal doubles the relative error is less than `2 ^ -53`: a number that is half a
unit of its size away would be a power of two, which has no error. -/
theorem error_lt (h : IsNearest s v) (hs : 2 ^ (-1022 : ℤ) ≤ |s|) : |v - s| * 2 ^ 53 < |s| := by
  have hpos : 0 < |s| := lt_of_lt_of_le (zpow_pos two_pos _) hs
  obtain ⟨k, q, hmultiple, hv⟩ := id h
  have hunit : 2 ^ (52 + q) ≤ |s| := by
    rcases hmultiple.unit with hunit | rfl
    · exact hunit
    · exact hs
  have hsplit : (2 : ℚ) ^ (52 + q) = 2 ^ (q - 1) * 2 ^ 53 := by
    rw [← zpow_natCast, ← zpow_add₀ two_ne_zero]
    congr 1
    push_cast
    ring
  rcases hunit.lt_or_eq with hlt | heq
  · calc |v - s| * 2 ^ 53 ≤ 2 ^ (q - 1) * 2 ^ 53 :=
        mul_le_mul_of_nonneg_right (hv ▸ hmultiple.error) (by norm_num)
      _ = 2 ^ (52 + q) := hsplit.symm
      _ < |s| := hlt
  · have hfits : Fits |s| := by
      have hleast := hmultiple.least
      refine ⟨1, 52 + q, by decide, by omega, ?_⟩
      rw [Nat.cast_one, one_mul, heq]
    rw [h.eq_of_fits hfits, sub_self, abs_zero, zero_mul]
    exact hpos

end IsNearest

end SignalLab.Double
