import Mathlib
import SignalLab.Proofs.Number.Quotients

/-!
# Patterns — doubles and the bits they are made of

A double that is made of a pattern of bits has this very pattern, unless it is NaN, of whose patterns
only one is kept (`Double.toBits_ofBits`).  The nearest double to a quotient is therefore finite
exactly as its pattern says (`Double.exists_parts_nearest`), and an integer that some double can hold
has at most 1024 binary digits (`Double.log2_lt_of_ofInt`).
-/

namespace SignalLab

namespace Double

open Float.Model Float.Model.UnpackedFloat

/-! ## Patterns -/

/-- The exponent of a pattern is its bits 52 to 62. -/
theorem toNat_unpackExponent (b : BitVec Format.binary64.numBits) :
    (unpackExponent b).toNat = b.toNat / twoTo 52 % 2048 := by
  simp [unpackExponent, BitVec.extractLsb_toNat, Nat.shiftRight_eq_div_pow]

/-- The mantissa of a pattern is its bits 0 to 51. -/
theorem toNat_unpackMantissa (b : BitVec Format.binary64.numBits) :
    (unpackMantissa b).toNat = b.toNat % twoTo 52 := by
  simp [unpackMantissa, BitVec.extractLsb_toNat]

/-- A pattern is no number only with the largest exponent and a mantissa. -/
theorem isNaNBits_eq_false {bits : UInt64}
    (h : bits.toNat / twoTo 52 % 2048 = 2047 → bits.toNat % twoTo 52 = 0) :
    @isNaNBits Format.binary64 bits.toBitVec = false := by
  refine decide_eq_false fun ⟨hexponent, hfraction⟩ => hfraction ?_
  have hones := toNat_unpackExponent bits.toBitVec
  rw [hexponent] at hones
  rw [← BitVec.toNat_inj, toNat_unpackMantissa]
  exact h hones.symm

/-- A pattern that is not one of those of NaN is that of the double it makes. -/
theorem toBits_ofBits {bits : UInt64}
    (h : bits.toNat / twoTo 52 % 2048 = 2047 → bits.toNat % twoTo 52 = 0) :
    (Float.ofBits bits).toBits = bits := by
  show UInt64.ofBitVec (UnpackedFloat.pack Format.binary64
    (UnpackedFloat.unpack Format.binary64 bits.toBitVec)) = bits
  rw [UnpackedFloat.pack_unpack, isNaNBits_eq_false h, if_neg Bool.false_ne_true]

/-! ## Finite doubles -/

/-- Any exponent but the largest is that of a finite double. -/
theorem exists_parts_eq_finite {x : Float} (h : x.toBits.toNat / twoTo 52 % 2048 ≠ 2047) :
    ∃ negative m q, parts x = .finite negative m q := by
  rw [parts, if_neg h]
  split
  · exact ⟨_, _, _, rfl⟩
  · exact ⟨_, _, _, rfl⟩

/-- No quotient is rounded beyond infinity. -/
theorem nearestBits_le (num den : Nat) : nearestBits num den ≤ infinityBits := by
  rw [nearestBits]
  split
  · exact Nat.zero_le _
  · exact Nat.min_le_left _ _

/-- The nearest double has the sign and the pattern it is made of. -/
theorem toBits_nearest (negative : Bool) (num den : Nat) :
    (nearest negative num den).toBits.toNat =
      (if negative then twoTo 63 else 0) + nearestBits num den := by
  have hbits : nearestBits num den ≤ 2047 * 2 ^ 52 := nearestBits_le num den
  have hsign : (if negative then twoTo 63 else 0) = 0 ∨
      (if negative then twoTo 63 else 0) = 2 ^ 63 := by
    cases negative
    · exact .inl rfl
    · exact .inr rfl
  rw [nearest]
  generalize (if negative then twoTo 63 else 0) = sign at hsign ⊢
  have hvalue : (UInt64.ofNat (sign + nearestBits num den)).toNat = sign + nearestBits num den := by
    refine UInt64.toNat_ofNat_of_lt' ?_
    show sign + nearestBits num den < 2 ^ 64
    rcases hsign with rfl | rfl <;> omega
  rw [toBits_ofBits]
  · exact hvalue
  · rw [hvalue]
    show (sign + nearestBits num den) / 2 ^ 52 % 2048 = 2047 →
      (sign + nearestBits num den) % 2 ^ 52 = 0
    rcases hsign with rfl | rfl <;> omega

/-- The parts of a double of the given sign, exponent and fraction. -/
theorem parts_of_toBits {x : Float} {negative : Bool} {k f : Nat} (hk : k < 2047) (hf : f < 2 ^ 52)
    (h : x.toBits.toNat = (if negative then twoTo 63 else 0) + (k * 2 ^ 52 + f)) :
    parts x = if k = 0 then .finite negative f (-1074)
      else .finite negative (2 ^ 52 + f) ((k : Int) - 1075) := by
  obtain ⟨sign, hsign, hnegative⟩ : ∃ sign : Nat,
      (if negative then twoTo 63 else 0) = sign * 2 ^ 63 ∧ (sign == 1) = negative ∧ sign < 2 := by
    cases negative
    · exact ⟨0, rfl, rfl, by decide⟩
    · exact ⟨1, rfl, rfl, by decide⟩
  have hsignBit : x.toBits.toNat / twoTo 63 = sign := by
    show x.toBits.toNat / 2 ^ 63 = sign
    omega
  have hexponent : x.toBits.toNat / twoTo 52 % 2048 = k := by
    show x.toBits.toNat / 2 ^ 52 % 2048 = k
    omega
  have hfraction : x.toBits.toNat % twoTo 52 = f := by
    show x.toBits.toNat % 2 ^ 52 = f
    omega
  rw [parts, hsignBit, hnegative.1, hexponent, hfraction, if_neg (by omega)]
  rfl

/-- The nearest double is finite if its pattern is below that of infinity. -/
theorem exists_parts_nearest (negative : Bool) {num den : Nat}
    (h : nearestBits num den < infinityBits) :
    ∃ sign m q, parts (nearest negative num den) = .finite sign m q := by
  have hbits : nearestBits num den < 2047 * 2 ^ 52 := h
  refine exists_parts_eq_finite ?_
  rw [toBits_nearest]
  cases negative
  · show (0 + nearestBits num den) / 2 ^ 52 % 2048 ≠ 2047
    omega
  · show (2 ^ 63 + nearestBits num den) / 2 ^ 52 % 2048 ≠ 2047
    omega

/-- A finite double has an integer. -/
theorem exists_toInteger (mode : Rounding) {x : Float}
    (h : ∃ sign m q, parts x = .finite sign m q) : ∃ n, toInteger mode x = .ok n := by
  obtain ⟨sign, m, q, hparts⟩ := h
  exact ⟨mode.integer sign m q, by rw [toInteger, hparts]⟩

/-! ## Integers that doubles can hold -/

/-- Rounding a quotient gives at least its integral part. -/
theorem le_roundHalfEven (num den : Nat) : num / den ≤ roundHalfEven num den := by
  rw [roundHalfEven]
  split
  · exact Nat.le_refl _
  · split <;> omega

/-- Integers of more than 1024 binary digits are beyond the largest double. -/
theorem infinityBits_le_nearestBits {n : Nat} (h : 1024 ≤ n.log2) :
    infinityBits ≤ nearestBits n 1 := by
  have hpos : n ≠ 0 := by
    rintro rfl
    rw [Nat.log2_zero] at h
    omega
  have hlower : 2 ^ n.log2 ≤ n := Nat.log2_self_le hpos
  rw [nearestBits, if_neg hpos]
  dsimp only
  -- the unit is `2 ^ (n.log2 - 52)`, and the mantissa fills the 53 digits above it
  have hlog : (n.log2 : Int) - (Nat.log2 1 : Nat) = n.log2 := by
    have hone : Nat.log2 1 = 0 := by rfl
    omega
  have hfits : 1 * twoTo (n.log2 : Int).toNat ≤ n * twoTo (-(n.log2 : Int)).toNat := by
    have hzero : (-(n.log2 : Int)).toNat = 0 := by omega
    rw [hzero, Nat.one_mul]
    show 2 ^ n.log2 ≤ n * 2 ^ 0
    omega
  have hunit : max ((n.log2 : Int) - 52) (-1074) = ((n.log2 - 52 : Nat) : Int) := by omega
  have hnegated : (-((n.log2 - 52 : Nat) : Int)).toNat = 0 := by omega
  have hexponent : (((n.log2 - 52 : Nat) : Int) + 1074).toNat = n.log2 + 1022 := by omega
  rw [hlog, if_pos hfits, hunit, hnegated, hexponent, Int.toNat_natCast, Nat.one_mul]
  have hmantissa : 2 ^ 52 ≤ roundHalfEven (n * twoTo 0) (twoTo (n.log2 - 52)) := by
    refine Nat.le_trans ?_ (le_roundHalfEven _ _)
    refine (Nat.le_div_iff_mul_le (Nat.two_pow_pos _)).mpr ?_
    calc 2 ^ 52 * 2 ^ (n.log2 - 52)
        = 2 ^ n.log2 := by rw [← Nat.pow_add, Nat.add_sub_cancel' (by omega)]
      _ ≤ n * 2 ^ 0 := by omega
  refine Nat.le_min.mpr ⟨Nat.le_refl _, ?_⟩
  show 2047 * 2 ^ 52 ≤ (n.log2 + 1022) * 2 ^ 52 + roundHalfEven (n * twoTo 0) (twoTo (n.log2 - 52))
  calc 2047 * 2 ^ 52
      = 2046 * 2 ^ 52 + 2 ^ 52 := by rfl
    _ ≤ (n.log2 + 1022) * 2 ^ 52 + roundHalfEven (n * twoTo 0) (twoTo (n.log2 - 52)) :=
      Nat.add_le_add (Nat.mul_le_mul_right _ (by omega)) hmantissa

/-- An integer that is made a double is below the overflow. -/
theorem log2_lt_of_ofInt {n : Int} {x : Float} (h : ofInt n = .ok x) : n.natAbs.log2 < 1024 := by
  refine Nat.lt_of_not_le fun hlarge => ?_
  have hinfinite := infinityBits_le_nearestBits hlarge
  rw [ofInt, ofInt?, if_neg (Nat.not_lt.mpr hinfinite)] at h
  cases h

end Double

/-- A thousandth of an integer that a double can hold is finite. -/
theorem Quantity.exists_thousandth {n : Int} {x : Float} (h : Double.ofInt n = .ok x) :
    ∃ y, divIntegers n 1000 = .ok y ∧ ∃ sign m q, Double.parts y = .finite sign m q := by
  have hlog : n.natAbs.log2 ≤ (1000 : Int).natAbs.log2 + 1020 := by
    have hthousand : (1000 : Int).natAbs.log2 = 9 := by rfl
    have hlt := Double.log2_lt_of_ofInt h
    omega
  have hbits := Double.nearestBits_lt (by decide) hlog
  refine ⟨_, ?_, Double.exists_parts_nearest ((n < 0) != ((1000 : Int) < 0)) hbits⟩
  rw [divIntegers, if_neg (by decide), Double.ofQuotient?, if_pos hbits]

end SignalLab
