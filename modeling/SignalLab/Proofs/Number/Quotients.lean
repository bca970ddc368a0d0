import Mathlib.Data.Nat.Log
import SignalLab.Number.Quantity

/-!
# Quotients — where the nearest double is finite

The double nearest to a quotient is finite as long as its numerator has not too many more binary
digits than its denominator.  Doubles reach to `2 ^ 1024`; the bound here is lower and leaves room
for a mantissa that is twice as large as it can be, so that only the numbers of digits are compared.

  * `Double.nearestBits_lt` — the double nearest to such a quotient is finite.
-/

namespace SignalLab

/-- A larger number has no fewer binary digits. -/
theorem log2_mono {m n : Nat} (h : m ≤ n) : m.log2 ≤ n.log2 := by
  rw [Nat.log2_eq_log_two, Nat.log2_eq_log_two]
  exact Nat.log_mono_right h

/-- A quotient of at most `k` is not rounded beyond `k`. -/
theorem roundHalfEven_le {num den k : Nat} (hden : 0 < den) (h : num ≤ k * den) :
    roundHalfEven num den ≤ k := by
  have hq : num / den ≤ k := Nat.div_le_of_le_mul (by rwa [Nat.mul_comm])
  have hsplit : den * (num / den) + num % den = num := Nat.div_add_mod num den
  rw [roundHalfEven]
  by_cases hr : num % den = 0
  · have hpos : 2 * (num % den) < den := by omega
    rw [if_pos hpos]
    exact hq
  · -- a remainder is left only below the bound
    have hlt : num / den < k := by
      refine Nat.lt_of_le_of_ne hq fun heq => ?_
      rw [heq, Nat.mul_comm] at hsplit
      omega
    split
    · exact hq
    · split
      · exact hlt
      · omega

namespace Double

/-- A quotient scaled by a power of two that its binary digits allow for is small. -/
theorem scaled_le {num den : Nat} {q : Int} (hden : den ≠ 0)
    (hq : (num.log2 : Int) - den.log2 - 53 ≤ q) :
    num * twoTo (-q).toNat ≤ twoTo 54 * (den * twoTo q.toNat) := by
  have hnum : num ≤ 2 ^ (num.log2 + 1) := Nat.le_of_lt Nat.lt_log2_self
  have hlog : 2 ^ den.log2 ≤ den := Nat.log2_self_le hden
  calc num * 2 ^ (-q).toNat
      ≤ 2 ^ (num.log2 + 1) * 2 ^ (-q).toNat := Nat.mul_le_mul_right _ hnum
    _ = 2 ^ (num.log2 + 1 + (-q).toNat) := (Nat.pow_add ..).symm
    _ ≤ 2 ^ (54 + (den.log2 + q.toNat)) := Nat.pow_le_pow_right (by omega) (by omega)
    _ = 2 ^ 54 * (2 ^ den.log2 * 2 ^ q.toNat) := by rw [Nat.pow_add, Nat.pow_add]
    _ ≤ 2 ^ 54 * (den * 2 ^ q.toNat) :=
      Nat.mul_le_mul_left _ (Nat.mul_le_mul_right _ hlog)

/-- A quotient that is less than the overflow by a few binary digits has finite bits. -/
theorem nearestBits_lt {num den : Nat} (hden : den ≠ 0) (h : num.log2 ≤ den.log2 + 1020) :
    nearestBits num den < infinityBits := by
  rw [nearestBits]
  split
  · decide
  · dsimp only
    generalize he : (if den * twoTo ((num.log2 : Int) - den.log2).toNat ≤
      num * twoTo (-((num.log2 : Int) - den.log2)).toNat then (num.log2 : Int) - den.log2
      else (num.log2 : Int) - den.log2 - 1) = e
    have hlower : (num.log2 : Int) - den.log2 - 1 ≤ e := by
      rw [← he]
      split <;> omega
    have hupper : e ≤ (num.log2 : Int) - den.log2 := by
      rw [← he]
      split <;> omega
    -- the unit is at most `2 ^ 968`, and the mantissa has at most 55 digits
    generalize hq : max (e - 52) (-1074) = q
    have hden' : 0 < den * twoTo q.toNat :=
      Nat.mul_pos (Nat.pos_of_ne_zero hden) (Nat.two_pow_pos _)
    have hmantissa : roundHalfEven (num * twoTo (-q).toNat) (den * twoTo q.toNat) ≤ twoTo 54 :=
      roundHalfEven_le hden' (scaled_le hden (by omega))
    have hexponent : (q + 1074).toNat ≤ 2042 := by omega
    refine Nat.lt_of_le_of_lt (Nat.min_le_right _ _) ?_
    calc (q + 1074).toNat * twoTo 52 + roundHalfEven (num * twoTo (-q).toNat) (den * twoTo q.toNat)
        ≤ 2042 * twoTo 52 + twoTo 54 :=
          Nat.add_le_add (Nat.mul_le_mul_right _ hexponent) hmantissa
      _ < infinityBits := by decide

end Double

end SignalLab
