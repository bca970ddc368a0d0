import SignalLab.Proofs.Number.Decimals

/-!
# Ranges — the numbers that are rounded to a double

The numbers to which a double is nearest lie between the midpoints to its neighbours; the midpoints
are among them if the mantissa of the double is even (`mem_range_iff`).  Whatever lies between two of them
is one of them (`IsNearest.between`).  Decimals are tested for this range on natural numbers
(`readsBack_iff_mem_range`).
-/

namespace SignalLab.Double

/-! ## The range of a double -/

variable {m : ℕ} {q : ℤ} {s v w : ℚ}

/-- How far the midpoint below a double lies, in quarters of its unit: below a power of two the next
double is only half as far. -/
def lowGap (m : ℕ) (q : ℤ) : ℕ :=
  if m = twoTo 52 ∧ -1074 < q then 1 else 2

/-- The numbers between the midpoints to the neighbouring doubles; an even mantissa takes the midpoints
too. -/
def range (m : ℕ) (q : ℤ) : Set ℚ :=
  if m % 2 = 0 then
    Set.Icc ((4 * m - lowGap m q : ℕ) * 2 ^ (q - 2)) ((4 * m + 2 : ℕ) * 2 ^ (q - 2))
  else Set.Ioo ((4 * m - lowGap m q : ℕ) * 2 ^ (q - 2)) ((4 * m + 2 : ℕ) * 2 ^ (q - 2))

theorem multiple_pos (hm : 0 < m) : (0 : ℚ) < m * 2 ^ q :=
  mul_pos (Nat.cast_pos.mpr hm) (zpow_pos two_pos q)

theorem ordConnected_range (m : ℕ) (q : ℤ) : (range m q).OrdConnected := by
  rw [range]
  split
  · exact Set.ordConnected_Icc
  · exact Set.ordConnected_Ioo

/-- The search tests the numbers for the range, scaled to natural numbers. -/
theorem readsBack_iff_mem_range {c : ℕ} {p : ℤ} :
    Decimal.readsBack m q c p = true ↔ (c : ℚ) * 10 ^ p ∈ range m q := by
  -- both sides are multiplied by the denominators of the powers
  obtain ⟨scale, hscale⟩ : ∃ scale : ℚ,
      scale = (twoTo (2 - q).toNat : ℕ) * (tenTo (-p).toNat : ℕ) := ⟨_, rfl⟩
  have htwo : (0 : ℚ) < (twoTo (2 - q).toNat : ℕ) := Nat.cast_pos.mpr (Nat.two_pow_pos _)
  have hten : (0 : ℚ) < (tenTo (-p).toNat : ℕ) := Nat.cast_pos.mpr (Decimal.tenTo_pos _)
  have hpos : 0 < scale := by
    rw [hscale]
    exact mul_pos htwo hten
  have hbound : ∀ n : ℕ, (n : ℚ) * 2 ^ (q - 2) * scale =
      (n * twoTo (q - 2).toNat * tenTo (-p).toNat : ℕ) := by
    intro n
    rw [hscale, magnitude_eq_div, Int.neg_sub, ← mul_assoc, div_mul_cancel₀ _ htwo.ne',
      Nat.cast_mul (n * _)]
  have hvalue : (c : ℚ) * 10 ^ p * scale =
      (c * tenTo p.toNat * twoTo (2 - q).toNat : ℕ) := by
    rw [hscale, Decimal.zpow_ten_eq_div, Nat.cast_mul, Nat.cast_mul]
    field_simp
  rw [Decimal.readsBack, range, lowGap]
  generalize (if m = twoTo 52 ∧ -1074 < q then 1 else 2) = gap
  dsimp only
  split
  · rw [Bool.and_eq_true, decide_eq_true_eq, decide_eq_true_eq, Set.mem_Icc]
    refine and_congr ?_ ?_ <;> rw [← mul_le_mul_iff_left₀ hpos, hbound, hvalue, Nat.cast_le]
  · rw [Bool.and_eq_true, decide_eq_true_eq, decide_eq_true_eq, Set.mem_Ioo]
    refine and_congr ?_ ?_ <;> rw [← mul_lt_mul_iff_left₀ hpos, hbound, hvalue, Nat.cast_lt]

/-- The bounds of the range in units, and that an odd mantissa leaves them out. -/
theorem mem_range_iff_bounds (hm : 0 < m) : s ∈ range m q ↔
    ((4 * m - lowGap m q) * 2 ^ (q - 2) ≤ s ∧ s ≤ (4 * m + 2) * 2 ^ (q - 2)) ∧
      (m % 2 = 1 → (4 * m - lowGap m q) * 2 ^ (q - 2) ≠ s ∧ s ≠ (4 * m + 2) * 2 ^ (q - 2)) := by
  have hgap : lowGap m q ≤ 4 * m := by
    rw [lowGap]
    split <;> omega
  have hlow : ((4 * m - lowGap m q : ℕ) : ℚ) = 4 * m - lowGap m q := by
    rw [Nat.cast_sub hgap, Nat.cast_mul, Nat.cast_ofNat]
  have hhigh : ((4 * m + 2 : ℕ) : ℚ) = 4 * m + 2 := by
    rw [Nat.cast_add, Nat.cast_mul, Nat.cast_ofNat, Nat.cast_ofNat]
  rw [range, hlow, hhigh]
  split
  · rename_i heven
    constructor
    · intro h
      exact ⟨h, fun hodd => by omega⟩
    · exact And.left
  · rename_i hodd
    constructor
    · rintro ⟨hlow, hhigh⟩
      exact ⟨⟨hlow.le, hhigh.le⟩, fun _ => ⟨hlow.ne, hhigh.ne⟩⟩
    · rintro ⟨⟨hlow, hhigh⟩, hne⟩
      have hne := hne (by omega)
      exact ⟨lt_of_le_of_ne hlow hne.1, lt_of_le_of_ne hhigh hne.2⟩

/-- The powers of two around a unit, in quarters of it. -/
theorem quarters (q : ℤ) : (2 : ℚ) ^ q = 4 * 2 ^ (q - 2) ∧ (2 : ℚ) ^ (q - 1) = 2 * 2 ^ (q - 2) := by
  constructor
  · rw [zpow_sub₀ two_ne_zero]
    norm_num
    ring
  · rw [zpow_sub₀ two_ne_zero, zpow_sub₀ two_ne_zero]
    norm_num
    ring

/-- The gap below a double is a quarter of its unit or two of them. -/
theorem lowGap_bounds (m : ℕ) (q : ℤ) : (2 : ℚ) ^ (q - 2) ≤ lowGap m q * 2 ^ (q - 2) ∧
    lowGap m q * 2 ^ (q - 2) ≤ (2 : ℚ) * 2 ^ (q - 2) := by
  have hpos : (0 : ℚ) < 2 ^ (q - 2) := zpow_pos two_pos _
  rw [lowGap]
  split <;> push_cast <;> constructor <;> linarith

/-- What is closer to a double than the midpoint below is in its range. -/
theorem mem_range_of_abs_lt (hm : 0 < m) (h : |s - m * 2 ^ q| < lowGap m q * 2 ^ (q - 2)) :
    s ∈ range m q := by
  obtain ⟨hunit, -⟩ := quarters q
  obtain ⟨-, hgap⟩ := lowGap_bounds m q
  obtain ⟨hlow, hhigh⟩ := abs_lt.mp h
  rw [hunit] at hlow hhigh
  have hlower : (4 * m - lowGap m q) * 2 ^ (q - 2) < s := by linarith
  have hupper : s < (4 * m + 2) * 2 ^ (q - 2) := by linarith
  exact (mem_range_iff_bounds hm).mpr ⟨⟨hlower.le, hupper.le⟩, fun _ => ⟨hlower.ne, hupper.ne⟩⟩

section Range

variable (hnormal : IsNormal m q) (hm : 0 < m)
include hnormal hm

/-- What is in the range and large enough for the unit is rounded to the mantissa in it. -/
theorem isNearestMultiple_of_mem_range (h : s ∈ range m q) (hsize : 2 ^ (52 + q) ≤ |s| ∨ q = -1074) :
    IsNearestMultiple s m q := by
  obtain ⟨⟨hlow, hhigh⟩, hodd⟩ := (mem_range_iff_bounds hm).mp h
  obtain ⟨hunit, hhalf⟩ := quarters q
  obtain ⟨-, hgap⟩ := lowGap_bounds m q
  refine ⟨hnormal.least_le, ?_, hsize, ?_, ?_⟩
  · rw [Nat.abs_cast]
    exact_mod_cast hnormal.lt.le
  · rw [Int.cast_natCast, hunit, hhalf, abs_le]
    constructor <;> linarith
  · intro htie
    rw [Int.cast_natCast, hunit, hhalf] at htie
    rw [Int.even_coe_nat]
    by_contra hnot
    obtain ⟨hnelow, hnehigh⟩ := hodd (Nat.not_even_iff.mp hnot)
    rcases abs_choice ((m : ℚ) * (4 * 2 ^ (q - 2)) - s) with habs | habs
    · rw [habs] at htie
      exact hnelow (le_antisymm hlow (by linarith))
    · rw [habs] at htie
      exact hnehigh (by linarith)

/-- Only a power of two has smaller numbers in its range; they are rounded to it in the unit below. -/
theorem isNearestMultiple_below (h : s ∈ range m q) (hsize : |s| < 2 ^ (52 + q)) (hq : q ≠ -1074) :
    m = 2 ^ 52 ∧ IsNearestMultiple s (2 ^ 53) (q - 1) := by
  obtain ⟨⟨hlow, -⟩, -⟩ := (mem_range_iff_bounds hm).mp h
  obtain ⟨hunit, hhalf⟩ := quarters q
  obtain ⟨-, hgap⟩ := lowGap_bounds m q
  have hpos : (0 : ℚ) < 2 ^ (q - 2) := zpow_pos two_pos _
  have hleast := hnormal.least_le
  have hfull : (2 : ℚ) ^ 52 * 2 ^ (q - 2) ≤ m * 2 ^ (q - 2) := by
    refine mul_le_mul_of_nonneg_right ?_ hpos.le
    exact_mod_cast (hnormal.full.resolve_right hq).1
  have hpower : (2 : ℚ) ^ (52 + q) = 2 ^ 54 * 2 ^ (q - 2) := by
    rw [zpow_add₀ two_ne_zero, hunit]
    norm_num
    ring
  have hspos : 0 < s := by linarith
  rw [abs_of_pos hspos, hpower] at hsize
  -- the midpoint below a larger mantissa is not below the least full one
  have hm52 : m = 2 ^ 52 := by
    refine Nat.le_antisymm (Nat.le_of_lt_succ ?_) (hnormal.full.resolve_right hq).1
    have hmul : (m : ℚ) * 2 ^ (q - 2) < (2 ^ 52 + 1) * 2 ^ (q - 2) := by linarith
    exact_mod_cast lt_of_mul_lt_mul_right hmul hpos.le
  have hgapone : lowGap m q = 1 := if_pos ⟨hm52, by omega⟩
  rw [hgapone, hm52] at hlow
  push_cast at hlow
  have hhalf' : (2 : ℚ) ^ (q - 1 - 1) = 2 ^ (q - 2) := by
    congr 1
    omega
  have hpower' : (2 : ℚ) ^ (52 + (q - 1)) = 2 ^ 53 * 2 ^ (q - 2) := by
    rw [zpow_add₀ two_ne_zero, hhalf]
    norm_num
    ring
  refine ⟨hm52, by omega, by norm_num, .inl ?_, ?_, fun _ => ⟨2 ^ 52, by norm_num⟩⟩
  · rw [abs_of_pos hspos, hpower']
    linarith
  · rw [hhalf, hhalf', abs_le]
    push_cast
    constructor <;> linarith

/-- What is in the range is nearest to the double. -/
theorem isNearest_of_mem_range (h : s ∈ range m q) : IsNearest s (m * 2 ^ q) := by
  by_cases hsize : 2 ^ (52 + q) ≤ |s| ∨ q = -1074
  · exact ⟨m, q, isNearestMultiple_of_mem_range hnormal hm h hsize, by rw [Int.cast_natCast]⟩
  · obtain ⟨hsmall, hq⟩ := not_or.mp hsize
    obtain ⟨hm52, hmultiple⟩ := isNearestMultiple_below hnormal hm h (not_le.mp hsmall) hq
    obtain ⟨hunit, hhalf⟩ := quarters q
    refine ⟨2 ^ 53, q - 1, hmultiple, ?_⟩
    rw [hm52, hunit, hhalf]
    push_cast
    ring

end Range

/-- What is rounded to a double is not above the midpoint to a greater double. -/
theorem IsNearest.le_midpoint (h : IsNearest s v) (hw : Fits |w|) (hlt : v < w) : 2 * s ≤ v + w := by
  by_contra hgt
  have hclosest := h.closest hw
  rw [abs_of_nonpos (by linarith : v - s ≤ 0)] at hclosest
  rcases abs_choice (w - s) with habs | habs <;> linarith

/-- Nor is it below the midpoint to a smaller one. -/
theorem IsNearest.midpoint_le (h : IsNearest s v) (hw : Fits |w|) (hlt : w < v) : v + w ≤ 2 * s := by
  by_contra hgt
  have hclosest := h.closest hw
  rw [abs_of_nonneg (by linarith : 0 ≤ v - s)] at hclosest
  rcases abs_choice (w - s) with habs | habs <;> linarith

/-- A number that is half a unit away is rounded to an even mantissa only. -/
theorem IsNearest.even_of_tie (h : IsNearest s (m * 2 ^ q)) (htie : |m * 2 ^ q - s| = 2 ^ (q - 1)) :
    Even m := by
  obtain ⟨k, j, hmultiple, heq⟩ := h
  have herror := hmultiple.error
  rw [← heq, htie, zpow_le_zpow_iff_right₀ one_lt_two] at herror
  -- the unit of the rounding is not smaller, and the mantissa a multiple of it
  obtain ⟨i, rfl⟩ : ∃ i : ℕ, j = q + i := ⟨(j - q).toNat, by omega⟩
  have hm : (m : ℤ) = k * 2 ^ i := by
    rw [zpow_add₀ two_ne_zero, mul_comm (2 ^ q : ℚ), ← mul_assoc, zpow_natCast] at heq
    exact_mod_cast mul_right_cancel₀ (zpow_ne_zero q two_ne_zero) heq
  rw [← Int.even_coe_nat, hm]
  rcases Nat.eq_zero_or_pos i with rfl | hi
  · rw [pow_zero, mul_one]
    refine hmultiple.even ?_
    rw [← heq, htie, Nat.cast_zero, add_zero]
  · exact (even_two.pow_of_ne_zero hi.ne').mul_left k

section Range

variable (hnormal : IsNormal m q) (hm : 0 < m)
include hnormal hm

/-- The doubles next to a double, in quarters of its unit. -/
theorem fits_neighbours :
    Fits |((4 * m + 4) * 2 ^ (q - 2) : ℚ)| ∧ Fits |((4 * m - 2 * lowGap m q) * 2 ^ (q - 2) : ℚ)| := by
  obtain ⟨hunit, hhalf⟩ := quarters q
  have hleast := hnormal.least_le
  have hlt := hnormal.lt
  constructor
  · have h := fits_multiple (k := m + 1) hleast (by rw [abs_of_nonneg (by omega)]; omega)
    have hvalue : (4 * m + 4) * 2 ^ (q - 2) = (((m : ℤ) + 1 : ℤ) : ℚ) * 2 ^ q := by
      rw [hunit]
      push_cast
      ring
    rwa [hvalue]
  · rw [lowGap]
    split
    · rename_i hpower
      have h := fits_multiple (k := 2 ^ 53 - 1) (q := q - 1) (by omega) (by decide)
      have hvalue : (4 * m - 2 * (1 : ℕ)) * 2 ^ (q - 2) = ((2 ^ 53 - 1 : ℤ) : ℚ) * 2 ^ (q - 1) := by
        rw [hhalf, hpower.1]
        push_cast
        ring
      rwa [hvalue]
    · have h := fits_multiple (k := m - 1) hleast (by rw [abs_of_nonneg (by omega)]; omega)
      have hvalue : (4 * m - 2 * (2 : ℕ)) * 2 ^ (q - 2) = (((m : ℤ) - 1 : ℤ) : ℚ) * 2 ^ q := by
        rw [hunit]
        push_cast
        ring
      rwa [hvalue]

/-- What is nearest to the double is in the range. -/
theorem mem_range_of_isNearest (h : IsNearest s (m * 2 ^ q)) : s ∈ range m q := by
  obtain ⟨hunit, hhalf⟩ := quarters q
  have hpos : (0 : ℚ) < 2 ^ (q - 2) := zpow_pos two_pos _
  obtain ⟨habove, hbelow⟩ := fits_neighbours hnormal hm
  obtain ⟨hgap, -⟩ := lowGap_bounds m q
  have hhigh := h.le_midpoint habove (by rw [hunit]; linarith)
  have hlow := h.midpoint_le hbelow (by rw [hunit]; linarith)
  rw [hunit] at hhigh hlow
  refine (mem_range_iff_bounds hm).mpr ⟨⟨by linarith, by linarith⟩, fun hodd => ?_⟩
  have hgaptwo : lowGap m q = 2 := by
    refine if_neg fun hpower => ?_
    rw [hpower.1] at hodd
    cases hodd
  have hnot : ¬ Even m := Nat.not_even_iff_odd.mpr (Nat.odd_iff.mpr hodd)
  rw [hgaptwo]
  constructor
  · rintro rfl
    refine hnot (h.even_of_tie ?_)
    rw [hunit, hhalf, abs_of_nonneg] <;> push_cast <;> linarith
  · rintro rfl
    refine hnot (h.even_of_tie ?_)
    rw [hunit, hhalf, abs_of_nonpos] <;> linarith

/-- The numbers nearest to a double are those in its range. -/
theorem mem_range_iff : s ∈ range m q ↔ IsNearest s (m * 2 ^ q) :=
  ⟨isNearest_of_mem_range hnormal hm, mem_range_of_isNearest hnormal hm⟩

/-- What lies between two numbers nearest to a double is nearest to it. -/
theorem IsNearest.between {t : ℚ} (hs : IsNearest s (m * 2 ^ q)) (ht : IsNearest t (m * 2 ^ q))
    (hw : s ≤ w ∧ w ≤ t) : IsNearest w (m * 2 ^ q) := by
  rw [← mem_range_iff hnormal hm] at hs ht ⊢
  exact (ordConnected_range m q).out hs ht hw

/-- A double is nearest to itself. -/
theorem isNearest_self : IsNearest (m * 2 ^ q) ((m : ℚ) * 2 ^ q) := by
  have h := (StandsFor.finite .positive hm hnormal).isNearest
  have hvalue : signed (Float.Model.UnpackedFloat.Sign.positive == .negative) m q = m * 2 ^ q :=
    one_mul _
  rwa [hvalue] at h

end Range

end SignalLab.Double
