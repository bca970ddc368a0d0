import SignalLab.Number.Elementary
import SignalLab.Proofs.Number.Integers

/-!
# Half added — rounding integers that need no rounding

Doubles are rounded to integers in two ways.  Up, down or toward zero is exact, and leaves an integer
as it is (`Quantity.IsInteger.roundTo`).  The nearest integer is found by adding one half, which is
a sum of doubles: up to `2 ^ 52` it is exact, but from there on the doubles are integers, so that the
sum is a tie and goes to the even neighbour.  An odd integer between `2 ^ 52` and `2 ^ 53` is
therefore moved by one (`Quantity.IsInteger.exists_roundHalfAway`).
-/

namespace SignalLab

namespace Double

/-! ## The sum with one half -/

theorem value?_half : value? 0.5 = some (1 / 2) := by
  have hparts : parts 0.5 = .finite false (2 ^ 52) (-53) := by decide
  rw [value?, hparts]
  norm_num [signed]

section Sums

variable {n : ℤ} {r : ℚ}

/-- Below `2 ^ 52` the sum with one half is exact. -/
theorem add_half_of_lt (h : IsNearest (n + 1 / 2) r) (hlow : 0 ≤ n) (hn : n < 2 ^ 52) :
    r = n + 1 / 2 := by
  have hhalves : (n + 1 / 2 : ℚ) = (2 * n + 1 : ℤ) * 2 ^ (-1 : ℤ) := by
    push_cast
    ring
  refine h.eq_of_fits ?_
  rw [hhalves]
  exact fits_multiple (by decide) (abs_le.mpr ⟨by omega, by omega⟩)

/-- From `2 ^ 52` on the unit of the sum with one half is one, or two. -/
theorem unit_add_half {k q : ℤ} (h : IsNearestMultiple (n + 1 / 2) k q) (hlow : 2 ^ 52 ≤ n)
    (hn : n ≤ 2 ^ 53) : q = 0 ∨ q = 1 := by
  have hlow' : (2 : ℚ) ^ 52 ≤ n := by exact_mod_cast hlow
  have hn' : (n : ℚ) ≤ 2 ^ 53 := by exact_mod_cast hn
  have hupper : q ≤ 1 := by
    rcases h.unit with hunit | hunit
    · have hlt : (2 : ℚ) ^ (52 + q) < 2 ^ (54 : ℤ) := by
        rw [abs_of_nonneg (by linarith)] at hunit
        norm_num
        linarith
      have := (zpow_lt_zpow_iff_right₀ (one_lt_two : (1 : ℚ) < 2)).mp hlt
      omega
    · omega
  have hlower : 0 ≤ q := by
    -- in a smaller unit 53 digits do not reach to the sum
    by_contra hneg
    have herror := abs_le.mp h.error
    have hpow : (2 : ℚ) ^ q ≤ 2 ^ (-1 : ℤ) := zpow_le_zpow_right₀ one_le_two (by omega)
    have hpos : (0 : ℚ) < 2 ^ q := zpow_pos two_pos q
    have hdigits : (k : ℚ) ≤ 2 ^ 53 := by exact_mod_cast (le_abs_self k).trans h.digits
    have hmul : (k : ℚ) * 2 ^ q ≤ 2 ^ 53 * 2 ^ q := mul_le_mul_of_nonneg_right hdigits hpos.le
    rw [zpow_sub_one₀ two_ne_zero] at herror
    norm_num at hpow
    linarith
  omega

/-- In the unit one the sum with one half is a tie. -/
theorem add_half_of_unit_one {k : ℤ} (h : IsNearestMultiple (n + 1 / 2) k 0) :
    k = n + n % 2 := by
  have herror := h.error
  have htie := h.even
  rw [zpow_zero, mul_one, zero_sub, zpow_neg_one] at herror htie
  obtain ⟨hlower, hupper⟩ := abs_le.mp herror
  have hle : k ≤ n + 1 := by
    have : (k : ℚ) ≤ n + 1 := by linarith
    exact_mod_cast this
  have hge : n ≤ k := by
    have : (n : ℚ) ≤ k := by linarith
    exact_mod_cast this
  have heven : Even k := by
    refine htie ?_
    obtain rfl | rfl : k = n ∨ k = n + 1 := by omega
    · rw [abs_of_nonpos] <;> linarith
    · push_cast
      rw [abs_of_nonneg] <;> linarith
  have := Int.even_iff.mp heven
  omega

/-- In the unit two only even numbers are left. -/
theorem add_half_of_unit_two {k : ℤ} (h : IsNearestMultiple (n + 1 / 2) k 1) :
    k * 2 = n + n % 2 := by
  obtain ⟨hlower, hupper⟩ := abs_le.mp h.error
  rw [zpow_one, sub_self, zpow_zero] at hlower hupper
  have hle : 2 * k < n + 2 := by
    have : (2 * k : ℚ) < n + 2 := by linarith
    exact_mod_cast this
  have hge : n < 2 * k + 1 := by
    have : (n : ℚ) < 2 * k + 1 := by linarith
    exact_mod_cast this
  omega

/-- From `2 ^ 52` on the sum with one half is rounded to the even integer next to it. -/
theorem add_half_of_le (h : IsNearest (n + 1 / 2) r) (hlow : 2 ^ 52 ≤ n) (hn : n ≤ 2 ^ 53) :
    r = (n + n % 2 : ℤ) := by
  obtain ⟨k, q, h, rfl⟩ := h
  obtain rfl | rfl := unit_add_half h hlow hn
  · rw [zpow_zero, mul_one, add_half_of_unit_one h]
  · rw [zpow_one]
    exact_mod_cast add_half_of_unit_two h

/-- What the sum with one half is rounded down to. -/
theorem floor_add_half (h : IsNearest (n + 1 / 2) r) (hlow : 0 ≤ n) (hn : n ≤ 2 ^ 53) :
    ⌊r⌋ = if n ≤ 2 ^ 52 then n else n + n % 2 := by
  rcases lt_or_ge n (2 ^ 52) with hlt | hge
  · rw [add_half_of_lt h hlow hlt, if_pos hlt.le, Int.floor_intCast_add]
    norm_num
  · rw [add_half_of_le h hge hn, Int.floor_intCast]
    split <;> omega

end Sums

end Double

namespace Quantity

open Double

/-! ## Integers -/

/-- A quantity is an integer as such, or a double that stands for one. -/
inductive IsInteger (n : ℤ) : Quantity → Prop
  | integer : IsInteger n (.integer n)
  | real {x : Float} (h : value? x = some (n : ℚ)) : IsInteger n (.real x)

/-- The integer that rounding halves away from zero makes of an integer. -/
def halfAdded (n : ℤ) : ℤ :=
  if n.natAbs ≤ 2 ^ 52 then n else n + n.sign * (n % 2)

/-- Only odd integers beyond `2 ^ 52` are moved. -/
theorem halfAdded_eq_self_iff (n : ℤ) : halfAdded n = n ↔ n.natAbs ≤ 2 ^ 52 ∨ Even n := by
  rw [halfAdded, Int.even_iff]
  split
  · rename_i hsmall
    exact iff_of_true rfl (.inl hsmall)
  · rename_i hlarge
    have hsign : n.sign ≠ 0 := by
      rw [Ne, Int.sign_eq_zero_iff_zero]
      omega
    rw [add_eq_left, mul_eq_zero, or_iff_right hsign, or_iff_right hlarge]

theorem natAbs_halfAdded (n : ℤ) : ((halfAdded n).natAbs : ℤ) =
    if (n.natAbs : ℤ) ≤ 2 ^ 52 then (n.natAbs : ℤ) else n.natAbs + (n.natAbs : ℤ) % 2 := by
  rcases lt_trichotomy n 0 with hneg | rfl | hpos
  · rw [halfAdded, Int.sign_eq_neg_one_of_neg hneg]
    split_ifs <;> omega
  · rfl
  · rw [halfAdded, Int.sign_eq_one_of_pos hpos]
    split_ifs <;> omega

/-- The sign stays. -/
theorem halfAdded_mul_self_pos (n : ℤ) : 0 < halfAdded n * n ∨ halfAdded n = 0 := by
  rcases lt_trichotomy n 0 with hneg | rfl | hpos
  · left
    have : halfAdded n < 0 := by
      rw [halfAdded, Int.sign_eq_neg_one_of_neg hneg]
      split <;> omega
    exact mul_pos_of_neg_of_neg this hneg
  · exact .inr rfl
  · left
    have : 0 < halfAdded n := by
      rw [halfAdded, Int.sign_eq_one_of_pos hpos]
      split <;> omega
    exact mul_pos this hpos

namespace IsInteger

variable {n : ℤ} {x : Quantity}

theorem roundTo (h : IsInteger n x) (mode : Rounding) : x.roundTo mode = .ok n := by
  cases h with
  | integer => rfl
  | real h => exact toInteger_of_intCast h mode

theorem truncate (h : IsInteger n x) : x.truncate = .ok n := by
  have hround := h.roundTo .towardZero
  cases h with
  | integer => exact hround
  | real h => exact hround

theorem exists_toReal (h : IsInteger n x) (hn : n.natAbs ≤ 2 ^ 53) :
    ∃ y, x.toReal = .ok y ∧ value? y = some (n : ℚ) := by
  cases h with
  | integer => exact exists_ofInt_eq hn
  | @real y h => exact ⟨y, rfl, h⟩

theorem exists_abs (h : IsInteger n x) : ∃ y, x.abs = .ok y ∧ IsInteger n.natAbs y := by
  cases h with
  | integer => exact ⟨_, rfl, .integer⟩
  | real h =>
      refine ⟨_, rfl, .real ?_⟩
      rw [value?_abs h, ← Int.abs_eq_natAbs, Int.cast_abs]

/-- An integer is made a double before a double is added to it. -/
theorem add_real (h : IsInteger n x) {y z : Float} (hreal : x.toReal = .ok y) :
    x.add (.real z) = .ok (.real (y + z)) := by
  cases h with
  | integer =>
      show (do let a ← (Quantity.integer n).toReal; let b ← (Quantity.real z).toReal; _) = _
      rw [hreal]
      rfl
  | real h =>
      cases hreal
      rfl

/-- Rounding halves away from zero adds one half to the magnitude of an integer. -/
theorem exists_roundHalfAway (h : IsInteger n x) (hn : n.natAbs ≤ 2 ^ 53) :
    ∃ y, x.roundHalfAway = .ok (.real y) ∧ value? y = some (halfAdded n : ℚ) := by
  obtain ⟨size, habs, hinteger⟩ := h.exists_abs
  obtain ⟨a, hreal, ha⟩ := hinteger.exists_toReal hn
  have hsmall : |(1 / 2 : ℚ)| < 2 ^ (970 : ℤ) :=
    lt_of_lt_of_le (by norm_num) (one_le_zpow₀ one_le_two (by decide))
  obtain ⟨r, hnearest, hr⟩ := exists_value_add ha value?_half hsmall
  have hfloor : ⌊r⌋ = (halfAdded n).natAbs := by
    rw [floor_add_half hnearest (Int.natCast_nonneg _) (by omega), natAbs_halfAdded]
  have hbound : ((halfAdded n).natAbs : ℤ) ≤ 2 ^ 53 := by
    rw [natAbs_halfAdded]
    split <;> omega
  obtain ⟨magnitude, hmagnitude, hm⟩ := exists_ofInt_eq (n := (halfAdded n).natAbs) (by omega)
  obtain ⟨sign, hsign, hs⟩ := h.exists_toReal hn
  refine ⟨copySign magnitude sign, ?_, ?_⟩
  · rw [Quantity.roundHalfAway, habs]
    show (do let size ← size.add (.real 0.5); _) = _
    rw [hinteger.add_real hreal]
    show (do let n ← toInteger .down (a + 0.5); _) = _
    rw [toInteger_down hr, hfloor]
    show (do let magnitude ← ofInt (halfAdded n).natAbs; _) = _
    rw [hmagnitude]
    show (do let sign ← x.toReal; _) = _
    rw [hsign]
    rfl
  · rw [← Int.abs_eq_natAbs, Int.cast_abs] at hm
    refine value?_copySign hm hs ?_
    exact_mod_cast halfAdded_mul_self_pos n

end IsInteger

end Quantity

end SignalLab
