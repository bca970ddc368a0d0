import SignalLab.Number.Elementary
import SignalLab.Proofs.Number.Integers

/-!
# Residues — the modulus of integers by way of a rounded quotient

The modulus takes the quotient of its arguments as a double, rounds it down, and subtracts so many
times the divisor; but for the quotient all of it is exact (`Quantity.exists_modulo`).  The result is
the residue exactly if the rounded quotient has the floor of the exact one
(`Double.eq_emod_iff`).  It has as long as the exact one is further below the next integer than it is
moved by rounding (`Double.floor_eq_ediv`), in particular for dividends up to `2 ^ 53`.
-/

namespace SignalLab

namespace Double

section Integers

variable {a b : ℤ} {v w : ℚ}

/-- A quotient is its floor and the residue over the divisor. -/
theorem div_eq_floor_add (hb : 1 ≤ b) : (a / b : ℚ) = (a / b : ℤ) + (a % b : ℤ) / b := by
  have hpos : (0 : ℚ) < b := by exact_mod_cast hb
  rw [div_eq_iff hpos.ne', add_mul, div_mul_cancel₀ _ hpos.ne', mul_comm]
  exact_mod_cast (Int.mul_ediv_add_emod a b).symm

/-- A quotient of integers that is not zero is in the range of normal doubles. -/
theorem least_le_abs_div (hb : 1 ≤ b) (hb' : b ≤ 2 ^ 53) (ha : a ≠ 0) :
    (2 : ℚ) ^ (-1022 : ℤ) ≤ |(a / b : ℚ)| := by
  have hpos : (0 : ℚ) < b := by exact_mod_cast hb
  have hone : (1 : ℚ) ≤ |(a : ℚ)| := by exact_mod_cast Int.one_le_abs ha
  have hdivisor : (b : ℚ) ≤ 2 ^ (53 : ℤ) := by exact_mod_cast hb'
  rw [abs_div, abs_of_pos hpos, le_div_iff₀ hpos]
  calc (2 : ℚ) ^ (-1022 : ℤ) * b ≤ 2 ^ (-1022 : ℤ) * 2 ^ (53 : ℤ) :=
        mul_le_mul_of_nonneg_left hdivisor (zpow_nonneg zero_le_two _)
    _ = 2 ^ (-1022 + 53 : ℤ) := (zpow_add₀ two_ne_zero _ _).symm
    _ ≤ 1 := zpow_le_one_of_nonpos₀ one_le_two (by decide)
    _ ≤ |(a : ℚ)| := hone

/-- A quotient that is not too near to the next integer is not rounded up to it. -/
theorem floor_eq_ediv (hb : 1 ≤ b) (hb' : b ≤ 2 ^ 53) (h : IsNearest (a / b) v)
    (ha : |a| ≤ 2 ^ 53 * (b - a % b)) : ⌊v⌋ = a / b := by
  have hpos : (0 : ℚ) < b := by exact_mod_cast hb
  have hresidue : 0 ≤ a % b := Int.emod_nonneg a (by omega)
  have hbelow : a % b < b := Int.emod_lt_of_pos a (by omega)
  have hsplit := div_eq_floor_add (a := a) hb
  -- the distance to the next integer, against the size of the quotient
  have hgap : |(a / b : ℚ)| ≤ 2 ^ 53 * ((a / b : ℤ) + 1 - a / b) := by
    have hscaled : (|a| : ℚ) ≤ 2 ^ 53 * (b - (a % b : ℤ)) := by exact_mod_cast ha
    have hrest : ((a / b : ℤ) + 1 - a / b : ℚ) = (b - (a % b : ℤ)) / b := by
      rw [hsplit, sub_div, div_self hpos.ne']
      ring
    rw [abs_div, abs_of_pos hpos, hrest, mul_div_assoc']
    exact div_le_div_of_nonneg_right hscaled hpos.le
  have hfloor : ((a / b : ℤ) : ℚ) ≤ a / b := by
    rw [hsplit]
    exact le_add_of_nonneg_right (div_nonneg (Int.cast_nonneg hresidue) hpos.le)
  refine Int.floor_eq_iff.mpr ⟨h.ge (fits_intCast ?_) hfloor, ?_⟩
  · have hsize : |a| ≤ 2 ^ 53 * b :=
      ha.trans (mul_le_mul_of_nonneg_left (by omega) (by decide))
    obtain ⟨hlower, hupper⟩ := abs_le.mp hsize
    refine abs_le.mpr ⟨Int.le_ediv_of_mul_le (by omega) ?_, Int.ediv_le_of_le_mul (by omega) hupper⟩
    rwa [neg_mul]
  · rcases eq_or_ne a 0 with rfl | hne
    · rw [Int.cast_zero, zero_div] at h
      have hzero : v = (0 : ℤ) := by
        rw [← Int.cast_zero] at h
        exact h.eq_of_fits (fits_intCast (by decide))
      rw [hzero, Int.zero_ediv]
      norm_num
    · have herror := h.error_lt (least_le_abs_div hb hb' hne)
      have hupper := le_abs_self (v - a / b)
      linarith

/-- What is left of a dividend, rounded to a double, is the residue only if the multiple that was
taken off is the right one. -/
theorem eq_emod_iff (hb : 1 ≤ b) (hb' : b ≤ 2 ^ 53) {n : ℤ} (h : IsNearest (a - n * b : ℤ) w) :
    w = (a % b : ℤ) ↔ n = a / b := by
  have hresidue : 0 ≤ a % b := Int.emod_nonneg a (by omega)
  have hbelow : a % b < b := Int.emod_lt_of_pos a (by omega)
  have hsplit : b * (a / b) + a % b = a := Int.mul_ediv_add_emod a b
  constructor
  · rintro rfl
    rcases lt_trichotomy n (a / b) with hlt | heq | hgt
    · -- the divisor is left, at least
      have hle : b ≤ a - n * b := by nlinarith
      have hw := h.ge (fits_intCast (abs_le.mpr ⟨by omega, hb'⟩)) (Int.cast_le.mpr hle)
      have := Int.cast_le.mp hw
      omega
    · exact heq
    · have hle : a - n * b ≤ -1 := by nlinarith
      have hw := h.le (fits_intCast (by decide)) (Int.cast_le.mpr hle)
      have := Int.cast_le.mp hw
      omega
  · rintro rfl
    have hleft : a - a / b * b = a % b := by linarith
    rw [hleft] at h
    exact h.eq_of_fits (fits_intCast (abs_le.mpr ⟨by omega, by omega⟩))

/-- What is left of a dividend is in the range of doubles: rounding moves the quotient by half of the
largest unit at most, and down to an integer by less than one. -/
theorem abs_sub_floor_mul_lt (hb : 1 ≤ b) (hb' : b ≤ 2 ^ 53) (hrange : |(a / b : ℚ)| < overflow)
    (h : IsNearest (a / b) v) : |((a - ⌊v⌋ * b : ℤ) : ℚ)| < overflow := by
  have hpos : (0 : ℚ) < b := by exact_mod_cast hb
  have hsize : |(a / b : ℚ)| ≤ 2 ^ (53 + 971 : ℤ) :=
    hrange.le.trans (sub_le_self _ (zpow_nonneg zero_le_two _))
  have herror : |v - a / b| ≤ 2 ^ (971 - 1 : ℤ) := h.error_le (by decide) hsize
  have hfloor : |v - ⌊v⌋| ≤ 2 ^ (969 : ℤ) := by
    rw [abs_of_nonneg (sub_nonneg.mpr (Int.floor_le v))]
    exact (Int.fract_lt_one v).le.trans (one_le_zpow₀ one_le_two (by decide))
  have hdistance : |(a / b - ⌊v⌋ : ℚ)| ≤ 2 ^ (970 : ℤ) + 2 ^ (969 : ℤ) := by
    rw [abs_sub_comm] at herror
    exact (abs_sub_le _ v _).trans (add_le_add herror hfloor)
  have hdivisor : |(b : ℚ)| ≤ 2 ^ (53 : ℤ) := by
    rw [abs_of_pos hpos]
    exact_mod_cast hb'
  calc |((a - ⌊v⌋ * b : ℤ) : ℚ)| = |(a / b - ⌊v⌋ : ℚ)| * |(b : ℚ)| := by
        rw [← abs_mul, sub_mul, div_mul_cancel₀ _ hpos.ne']
        push_cast
        rfl
    _ ≤ (2 ^ (970 : ℤ) + 2 ^ (969 : ℤ)) * 2 ^ (53 : ℤ) :=
        mul_le_mul hdistance hdivisor (abs_nonneg _) (by positivity)
    _ = 2 ^ (1023 : ℤ) + 2 ^ (1022 : ℤ) := by
        rw [add_mul, ← zpow_add₀ two_ne_zero, ← zpow_add₀ two_ne_zero]
        rfl
    _ < overflow := lt_overflow

end Integers

end Double

namespace Quantity

open Double

/-- The modulus of integers: the dividend without the divisor as often as the rounded quotient says,
rounded when it is made a double. -/
theorem exists_modulo {a b : ℤ} (hb : 1 ≤ b) (hb' : b ≤ 2 ^ 53) (h : |(a / b : ℚ)| < overflow) :
    ∃ v y w, IsNearest (a / b) v ∧
      modulo (.integer a) (.integer b) = .ok (.integer (a - ⌊v⌋ * b)) ∧
      ofInt (a - ⌊v⌋ * b) = .ok y ∧ value? y = some w ∧ IsNearest (a - ⌊v⌋ * b : ℤ) w := by
  obtain ⟨x, v, hdiv, hv, hnearest⟩ := exists_divIntegers_nearest (by omega : b ≠ 0) h
  obtain ⟨y, w, hofInt, hy, hnearest'⟩ :=
    exists_ofInt_nearest (abs_sub_floor_mul_lt hb hb' h hnearest)
  refine ⟨v, y, w, hnearest, ?_, hofInt, hy, hnearest'⟩
  have hquotient : (Quantity.integer a).div (.integer b) = .ok (.real x) := by
    show (divIntegers a b).map Quantity.real = _
    rw [hdiv]
    rfl
  rw [modulo, hquotient]
  show (do let n ← toInteger .down x; _) = _
  rw [toInteger_down hv]
  rfl

end Quantity

end SignalLab
