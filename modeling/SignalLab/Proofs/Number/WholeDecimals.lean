import SignalLab.Proofs.Number.Differences
import SignalLab.Proofs.Number.Negation

/-!
# Whole decimals — decimals without an exponent, and integers

The reader of decimals and the conversion of integers round alike.  They differ at either end: the
conversion fails where the nearest double is infinite, and an integer has no negative zero.
-/

namespace SignalLab.Double

/-- An integer by its sign and its magnitude. -/
def signedInteger (negative : Bool) (n : Nat) : Int :=
  if negative then -(n : Int) else n

variable {n : Nat} (negative : Bool)

/-- The sign leaves the magnitude. -/
theorem natAbs_signedInteger : (signedInteger negative n).natAbs = n := by
  cases negative with
  | false => exact Int.natAbs_natCast n
  | true => exact (Int.natAbs_neg _).trans (Int.natAbs_natCast n)

/-- An integer other than zero shows its sign. -/
theorem signedInteger_neg_iff (hn : n ≠ 0) : decide (signedInteger negative n < 0) = negative := by
  cases negative with
  | false => exact decide_eq_false (by rw [signedInteger, if_neg Bool.false_ne_true]; omega)
  | true => exact decide_eq_true (by rw [signedInteger, if_pos rfl]; omega)

/-! ## Zero -/

/-- The two zeros. -/
theorem nearest_zero : nearest false 0 1 = 0.0 ∧ nearest true 0 1 = -0.0 := by
  have hzero : nearest false 0 1 = 0.0 := by decide +kernel
  refine ⟨hzero, ?_⟩
  rw [← neg_nearest, hzero]

/-! ## Numbers beyond the doubles -/

/-- A number has more than `k` digits from the power of ten with `k` zeros on. -/
theorem lt_digitCount_iff {k : Nat} (hk : 0 < k) : k < Decimal.digitCount n ↔ 10 ^ k ≤ n := by
  have hle : (Text.ofNat n).length ≤ k ↔ n < 10 ^ k := Nat.length_toDigits_le_iff (by decide) hk
  calc k < Decimal.digitCount n ↔ ¬ (Text.ofNat n).length ≤ k := Nat.not_le.symm
    _ ↔ ¬ n < 10 ^ k := not_congr hle
    _ ↔ 10 ^ k ≤ n := Nat.not_lt

/-- A decimal digit is worth three binary ones and more. -/
theorem le_log2_of_lt_digitCount {j k : Nat} (hk : 0 < k) (hj : j ≤ 3 * k)
    (h : k < Decimal.digitCount n) : j ≤ n.log2 := by
  have hpow : 2 ^ j ≤ n :=
    calc 2 ^ j ≤ 2 ^ (3 * k) := Nat.pow_le_pow_right (by decide) hj
      _ = (2 ^ 3) ^ k := Nat.pow_mul 2 3 k
      _ ≤ 10 ^ k := Nat.pow_le_pow_left (by decide) k
      _ ≤ n := (lt_digitCount_iff hk).mp h
  have hne : n ≠ 0 := Nat.ne_of_gt (Nat.lt_of_lt_of_le (Nat.two_pow_pos j) hpow)
  exact (Nat.le_log2 hne).mpr hpow

/-- Numbers of more than 400 digits are far beyond the largest double. -/
theorem infinityBits_le_of_digits (h : 400 < Decimal.digitCount n) :
    infinityBits ≤ nearestBits n 1 :=
  infinityBits_le_nearestBits (le_log2_of_lt_digitCount (by decide) (by decide) h)

/-- A quotient is finite below the bits of infinity. -/
theorem isFinite_nearest_iff (num den : Nat) :
    (nearest negative num den).isFinite = true ↔ nearestBits num den < infinityBits := by
  rw [isFinite_iff_value]
  constructor
  · rintro ⟨v, hv⟩
    by_contra hinfinite
    have hbits : nearestBits num den = infinityBits :=
      Nat.le_antisymm (nearestBits_le num den) (Nat.not_lt.mp hinfinite)
    have hparts : parts (nearest negative num den) = .infinite negative :=
      parts_eq_infinite (by rw [toBits_nearest, hbits])
    rw [value?, hparts] at hv
    cases hv
  · intro h
    obtain ⟨sign, m, q, hparts⟩ := exists_parts_nearest negative h
    exact ⟨_, by rw [value?, hparts]⟩

theorem isFinite_infinity : infinity.isFinite = false ∧ (-infinity).isFinite = false := by
  decide +kernel

/-! ## Whole decimals -/

/-- Zero has no exponent. -/
theorem ofDecimal_zero (exponent : Int) :
    ofDecimal negative 0 exponent = nearest negative 0 1 := by
  rw [ofDecimal, if_pos (.inl rfl)]

/-- The double of a decimal without an exponent, unless it has too many digits. -/
theorem ofDecimal_whole (h : ¬ 400 < Decimal.digitCount n) :
    ofDecimal negative n 0 = nearest negative n 1 := by
  have htop : ¬ (400 : Int) < Decimal.digitCount n + 0 := by omega
  by_cases hn : n = 0
  · rw [hn, ofDecimal_zero]
  · have hlow : ¬ (n = 0 ∨ (Decimal.digitCount n + 0 : Int) < -400) := by omega
    simp only [ofDecimal, if_neg hlow, if_neg htop]
    show nearest negative (n * 1) 1 = _
    rw [Nat.mul_one]

/-- Digits are a finite double if their number is. -/
theorem isFinite_ofDecimal_iff :
    (ofDecimal negative n 0).isFinite = true ↔ nearestBits n 1 < infinityBits := by
  by_cases hdigits : 400 < Decimal.digitCount n
  · have hinfinite : ofDecimal negative n 0 = if negative then -infinity else infinity := by
      have hn : n ≠ 0 := by
        rintro rfl
        exact absurd hdigits (by decide)
      have hlow : ¬ (n = 0 ∨ (Decimal.digitCount n + 0 : Int) < -400) := by omega
      simp only [ofDecimal, if_neg hlow]
      exact if_pos (by omega)
    have hbits := infinityBits_le_of_digits hdigits
    rw [hinfinite]
    refine iff_of_false ?_ (Nat.not_lt.mpr hbits)
    cases negative with
    | false => exact Bool.eq_false_iff.mp isFinite_infinity.1
    | true => exact Bool.eq_false_iff.mp isFinite_infinity.2
  · rw [ofDecimal_whole negative hdigits, isFinite_nearest_iff]

/-- Where the double of a decimal without an exponent is finite, it is the nearest one. -/
theorem ofDecimal_of_isFinite (h : (ofDecimal negative n 0).isFinite = true) :
    nearestBits n 1 < infinityBits ∧ ofDecimal negative n 0 = nearest negative n 1 := by
  have hlt := (isFinite_ofDecimal_iff negative).mp h
  exact ⟨hlt, ofDecimal_whole negative fun hdigits =>
    Nat.not_le.mpr hlt (infinityBits_le_of_digits hdigits)⟩

/-- A number other than zero is not rounded to zero. -/
theorem nearestBits_pos (hn : n ≠ 0) : 0 < nearestBits n 1 := by
  have hunit : -1074 < quotientUnit n 1 := by
    have hone : Nat.log2 1 = 0 := rfl
    rw [quotientUnit, quotientLog]
    simp only [hone]
    split <;> omega
  have htwo : 0 < twoTo 52 := Nat.two_pow_pos 52
  rw [nearestBits_eq hn]
  refine Nat.lt_min.mpr ⟨by decide, Nat.add_pos_left (Nat.mul_pos ?_ htwo) _⟩
  omega

/-- Only the literal of zero has the value of a negative zero. -/
theorem ofDecimal_ne_negative_zero (hn : n ≠ 0) : ofDecimal negative n 0 ≠ -0.0 := by
  intro heq
  have hfinite : (ofDecimal negative n 0).isFinite = true := by
    rw [heq]
    decide +kernel
  obtain ⟨hlt, hnearest⟩ := ofDecimal_of_isFinite negative hfinite
  rw [hnearest, ← nearest_zero.2, ← Float.toBits_inj, ← UInt64.toNat_inj,
    toBits_nearest, toBits_nearest] at heq
  have hzero : nearestBits 0 1 = 0 := rfl
  have hinfinity : infinityBits = 2047 * 2 ^ 52 := rfl
  have hsign : twoTo 63 = 2 ^ 63 := rfl
  have hpos := nearestBits_pos hn
  rw [hzero, if_pos rfl, hsign] at heq
  cases negative with
  | false =>
      rw [if_neg Bool.false_ne_true] at heq
      omega
  | true =>
      rw [if_pos rfl] at heq
      omega

section Integers

/-- The double of an integer is that of its literal, if this is finite and no negative zero. -/
theorem ofInt_signedInteger (hfinite : (ofDecimal negative n 0).isFinite = true)
    (hzero : ofDecimal negative n 0 ≠ -0.0) :
    ofInt (signedInteger negative n) = .ok (ofDecimal negative n 0) := by
  obtain ⟨hlt, hnearest⟩ := ofDecimal_of_isFinite negative hfinite
  rw [ofInt, ofInt?, natAbs_signedInteger, if_pos hlt]
  by_cases hn : n = 0
  · subst hn
    cases negative with
    | true => exact absurd ((ofDecimal_zero true 0).trans nearest_zero.2) hzero
    | false =>
        rw [ofDecimal_zero]
        rfl
  · rw [signedInteger_neg_iff negative hn, hnearest]

/-- Digits that are no finite double are no double as an integer either. -/
theorem ofInt_signedInteger_of_infinite (h : (ofDecimal negative n 0).isFinite = false) :
    ofInt (signedInteger negative n) = .error .integerRange := by
  have hle : ¬ nearestBits n 1 < infinityBits := fun hlt => by
    rw [(isFinite_ofDecimal_iff negative).mpr hlt] at h
    cases h
  rw [ofInt, ofInt?, natAbs_signedInteger, if_neg hle]

/-- The integer of a negative zero is plain zero. -/
theorem ofInt_signedInteger_of_zero (h : ofDecimal negative n 0 = -0.0) :
    ofInt (signedInteger negative n) = .ok 0.0 := by
  have hn : n = 0 := by
    by_contra hn
    exact ofDecimal_ne_negative_zero negative hn h
  have hinteger : signedInteger negative 0 = 0 := by
    cases negative <;> rfl
  rw [hn, hinteger, ← nearest_zero.1]
  rfl

end Integers

end SignalLab.Double
