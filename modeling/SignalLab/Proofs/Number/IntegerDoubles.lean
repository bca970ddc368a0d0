import SignalLab.Proofs.Number.Integers
import SignalLab.Proofs.Number.Ranges

/-!
# Doubles of integers — the nearest one, if it is finite

A number has one nearest double (`IsNearest.eq`), and the number and the sign of a finite double say which
one it is (`eq_of_value`).  What is made of an integer is therefore the double nearest to it that has its
sign, and nothing if there is none that is finite (`ofInt_eq_ok_iff`).
-/

namespace SignalLab.Double

/-! ## One nearest double -/

/-- A multiple that is as close as the one a number is rounded to is its neighbour, and the number lies
halfway between them. -/
theorem IsNearestMultiple.neighbours_of_tie {s : ℚ} {k i q : ℤ} (h : IsNearestMultiple s k q)
    (hne : k ≠ i) (htie : |(k : ℚ) * 2 ^ q - s| = |(i : ℚ) * 2 ^ q - s|) :
    |k - i| = 1 ∧ |(k : ℚ) * 2 ^ q - s| = 2 ^ (q - 1) := by
  have hunit : (0 : ℚ) < 2 ^ q := zpow_pos two_pos q
  have hhalf : (2 : ℚ) ^ q = 2 ^ (q - 1) + 2 ^ (q - 1) := by
    rw [zpow_sub_one₀ two_ne_zero]
    ring
  have hone : (1 : ℚ) ≤ |((k - i : ℤ) : ℚ)| := by
    exact_mod_cast Int.one_le_abs (sub_ne_zero.mpr hne)
  -- the distance between them is a unit at least, and the sum of the errors a unit at most
  have hunits : (2 : ℚ) ^ q ≤ |((k - i : ℤ) : ℚ)| * 2 ^ q := le_mul_of_one_le_left hunit.le hone
  have hsum : |((k - i : ℤ) : ℚ)| * 2 ^ q ≤ |(k : ℚ) * 2 ^ q - s| + |(k : ℚ) * 2 ^ q - s| :=
    calc |((k - i : ℤ) : ℚ)| * 2 ^ q = |(k : ℚ) * 2 ^ q - i * 2 ^ q| := by
          rw [← sub_mul, abs_mul, abs_of_pos hunit, Int.cast_sub]
      _ ≤ |(k : ℚ) * 2 ^ q - s| + |s - i * 2 ^ q| := abs_sub_le _ _ _
      _ = |(k : ℚ) * 2 ^ q - s| + |(k : ℚ) * 2 ^ q - s| := by rw [abs_sub_comm s, htie]
  have herror := h.error
  refine ⟨?_, by linarith⟩
  have hle : |((k - i : ℤ) : ℚ)| * 2 ^ q ≤ 1 * 2 ^ q := by linarith
  exact_mod_cast le_antisymm (le_of_mul_le_mul_right hle hunit) hone

/-- Of two roundings the one in the larger unit is a multiple in the other one too.  If they differed,
they would be neighbours in it, and both even. -/
theorem IsNearestMultiple.eq_of_le {s : ℚ} {k j q r : ℤ} (h : IsNearestMultiple s k q)
    (h' : IsNearestMultiple s j r) (hle : q ≤ r) : (k : ℚ) * 2 ^ q = j * 2 ^ r := by
  obtain ⟨i, rfl⟩ : ∃ i : ℕ, r = q + i := ⟨(r - q).toNat, by omega⟩
  have hmultiple : (j : ℚ) * 2 ^ (q + i) = ((j * 2 ^ i : ℤ) : ℚ) * 2 ^ q := by
    rw [zpow_add₀ two_ne_zero, zpow_natCast]
    push_cast
    ring
  have hdistance : |(k : ℚ) * 2 ^ q - s| = |((j * 2 ^ i : ℤ) : ℚ) * 2 ^ q - s| := by
    refine le_antisymm (h.closest_multiple _) ?_
    rw [← hmultiple]
    exact h'.closest (fits_multiple h.least h.digits)
  rw [hmultiple]
  by_contra hne
  obtain ⟨hapart, htie⟩ := h.neighbours_of_tie (fun heq => hne (by rw [heq])) hdistance
  have heven := h.even htie
  have heven' : Even (j * 2 ^ i) := by
    rcases Nat.eq_zero_or_pos i with rfl | hi
    · rw [pow_zero, mul_one] at hdistance ⊢
      refine h'.even ?_
      rw [Nat.cast_zero, add_zero, ← hdistance]
      exact htie
    · exact (even_two.pow_of_ne_zero hi.ne').mul_left j
  have hodd := heven.sub heven'
  rw [← even_abs, hapart] at hodd
  exact absurd hodd (by decide)

/-- A number has one nearest double. -/
theorem IsNearest.eq {s v w : ℚ} (hv : IsNearest s v) (hw : IsNearest s w) : v = w := by
  obtain ⟨k, q, hk, rfl⟩ := hv
  obtain ⟨j, r, hj, rfl⟩ := hw
  rcases le_total q r with hle | hle
  · exact hk.eq_of_le hj hle
  · exact (hj.eq_of_le hk hle).symm

/-! ## One double of a number -/

section Doubles

variable {x y : Float} {v : ℚ}

/-- The pattern of a finite double, from its parts. -/
theorem toBits_of_parts {negative : Bool} {m : ℕ} {q : ℤ} (h : parts x = .finite negative m q) :
    x.toBits.toNat = (if negative then 2 ^ 63 else 0) +
      if m < 2 ^ 52 then m else (q + 1075).toNat * 2 ^ 52 + (m - 2 ^ 52) := by
  have hlt : x.toBits.toNat < 2 ^ 64 := x.toBits.toNat_lt
  have hsign : twoTo 63 = 2 ^ 63 := rfl
  have hfull : twoTo 52 = 2 ^ 52 := rfl
  rw [parts, hsign, hfull] at h
  generalize x.toBits.toNat = bits at hlt h ⊢
  split at h
  · split at h <;> cases h
  · have hnegative : (if (bits / 2 ^ 63 == 1) = true then 2 ^ 63 else 0) = bits / 2 ^ 63 * 2 ^ 63 := by
      rcases Nat.lt_or_ge bits (2 ^ 63) with hsmall | hlarge
      · rw [Nat.div_eq_of_lt hsmall]
        rfl
      · have hone : bits / 2 ^ 63 = 1 := by omega
        rw [hone]
        rfl
    split at h
    · cases h
      rw [hnegative]
      split <;> omega
    · cases h
      rw [hnegative, if_neg (by omega)]
      omega

/-- A finite double is made of its parts. -/
theorem eq_of_parts {negative : Bool} {m : ℕ} {q : ℤ} (hx : parts x = .finite negative m q)
    (hy : parts y = .finite negative m q) : x = y := by
  rw [← Float.toBits_inj, ← UInt64.toNat_inj, toBits_of_parts hx, toBits_of_parts hy]

/-- The number of a double and its sign say which double it is. -/
theorem eq_of_value (hx : value? x = some v) (hy : value? y = some v)
    (hsign : isNegative x = isNegative y) : x = y := by
  obtain ⟨s, m, q, hpartsx, hvx⟩ := value?_eq_some_iff.mp hx
  obtain ⟨s', m', q', hpartsy, hvy⟩ := value?_eq_some_iff.mp hy
  rw [isNegative_of_parts hpartsx, isNegative_of_parts hpartsy] at hsign
  subst hsign
  have hmagnitude : (m : ℚ) * 2 ^ q = m' * 2 ^ q' := by
    rw [← abs_signed s, ← abs_signed s, hvx, hvy]
  have hnormal := isNormal_of_parts hpartsx
  have hnormal' := isNormal_of_parts hpartsy
  have hle : ¬ (q < q' ∨ q = q' ∧ m < m') := fun h => (magnitude_lt hnormal hnormal' h).ne hmagnitude
  have hge : ¬ (q' < q ∨ q' = q ∧ m' < m) := fun h => (magnitude_lt hnormal' hnormal h).ne' hmagnitude
  obtain rfl : q = q' := by omega
  obtain rfl : m = m' := by omega
  exact eq_of_parts hpartsx hpartsy

/-- A double that is nearest to a number bounds it: half a unit beyond the largest double, numbers would
be rounded to the even mantissa behind. -/
theorem abs_lt_overflow {s : ℚ} (hx : value? x = some v) (h : IsNearest s v) : |s| < overflow := by
  have habs : IsNearest |s| |v| := by
    rcases le_total 0 s with hs | hs
    · have hzero : (0 : ℚ) ≤ v := h.ge (by simpa using fits_natCast (Nat.zero_le _)) hs
      rwa [abs_of_nonneg hs, abs_of_nonneg hzero]
    · have hzero : v ≤ 0 := h.le (by simpa using fits_natCast (Nat.zero_le _)) hs
      rw [abs_of_nonpos hs, abs_of_nonpos hzero]
      exact h.neg
  -- the largest double and the one that would follow it, in half units
  obtain ⟨half, hhalf⟩ : ∃ half : ℚ, (2 : ℚ) ^ (970 : ℤ) = half := ⟨_, rfl⟩
  have hpos : 0 < half := hhalf ▸ zpow_pos two_pos _
  have hunit : (2 : ℚ) ^ (971 : ℤ) = 2 * half := by
    rw [← hhalf, ← zpow_one_add₀ two_ne_zero]
    rfl
  have htop : (2 : ℚ) ^ (1024 : ℤ) = 2 ^ 54 * half := by
    rw [← hhalf, ← zpow_natCast, ← zpow_add₀ two_ne_zero]
    rfl
  have hfits : Fits |(2 : ℚ) ^ (1024 : ℤ)| := by
    rw [abs_of_pos (zpow_pos two_pos _)]
    exact ⟨1, 1024, by decide, by decide, by rw [Nat.cast_one, one_mul]⟩
  have hlargest := abs_add_le_of_value hx
  rw [htop] at hfits hlargest
  rw [hunit] at hlargest
  have hmidpoint := habs.le_midpoint hfits (by linarith only [hlargest, hpos])
  rw [overflow, htop, hhalf]
  refine lt_of_le_of_ne (by linarith only [hlargest, hmidpoint]) fun heq => ?_
  -- the mantissa of the largest double is odd
  have hv : |v| = ((2 ^ 53 - 1 : ℕ) : ℚ) * 2 ^ (971 : ℤ) := by
    have hcast : ((2 ^ 53 - 1 : ℕ) : ℚ) = 2 ^ 53 - 1 := by norm_num
    rw [hcast, hunit]
    linarith only [hlargest, hmidpoint, heq]
  have htie : |(|v| - |s|)| = 2 ^ (971 - 1 : ℤ) := by
    have hexponent : (971 - 1 : ℤ) = 970 := rfl
    rw [hexponent, hhalf, abs_of_nonpos] <;> linarith only [hlargest, hmidpoint, heq, hpos]
  rw [hv] at habs htie
  exact absurd (habs.even_of_tie htie) (by decide)

end Doubles

/-! ## Integers -/

theorem isNegative_nearest (negative : Bool) (num den : ℕ) :
    isNegative (nearest negative num den) = negative := by
  have hle : nearestBits num den ≤ 2047 * 2 ^ 52 := nearestBits_le num den
  rw [isNegative, toBits_nearest]
  show decide (2 ^ 63 ≤ (if negative then 2 ^ 63 else 0) + _) = negative
  cases negative with
  | true => exact decide_eq_true (Nat.le_add_right _ _)
  | false =>
      rw [if_neg Bool.false_ne_true]
      exact decide_eq_false (by omega)

/-- What is made of an integer is nearest to it. -/
theorem exists_isNearest_of_ofInt {n : ℤ} {x : Float} (h : ofInt n = .ok x) :
    ∃ v, value? x = some v ∧ IsNearest n v := by
  by_cases hbits : nearestBits n.natAbs 1 < infinityBits
  · obtain ⟨y, v, hy, hv, hnearest⟩ := exists_ofInt_of_nearestBits hbits
    cases hy.symm.trans h
    exact ⟨v, hv, hnearest⟩
  · rw [ofInt, ofInt?, if_neg hbits] at h
    cases h

/-- A double is made of an integer exactly if it is nearest to it and has its sign. -/
theorem ofInt_eq_ok_iff {n : ℤ} {x : Float} :
    ofInt n = .ok x ↔
      ∃ v, value? x = some v ∧ IsNearest n v ∧ isNegative x = decide (n < 0) := by
  have hsign : ∀ {y}, ofInt n = .ok y → isNegative y = decide (n < 0) := by
    intro y h
    rw [ofInt, ofInt?] at h
    split at h
    · rename_i z hz
      cases h
      split at hz
      · cases hz
        exact isNegative_nearest _ _ _
      · cases hz
    · cases h
  constructor
  · intro h
    obtain ⟨v, hv, hnearest⟩ := exists_isNearest_of_ofInt h
    exact ⟨v, hv, hnearest, hsign h⟩
  · rintro ⟨v, hv, hnearest, hx⟩
    obtain ⟨y, w, hy, hw, hnearest'⟩ := exists_ofInt_nearest (abs_lt_overflow hv hnearest)
    obtain rfl := hnearest.eq hnearest'
    rw [hy, eq_of_value hv hw (hx.trans (hsign hy).symm)]

end SignalLab.Double
