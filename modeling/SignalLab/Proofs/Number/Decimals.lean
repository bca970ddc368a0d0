import Mathlib.Data.Int.Log
import SignalLab.Number.Decimal
import SignalLab.Proofs.Number.Digits
import SignalLab.Proofs.Number.NearestQuotients

/-!
# Decimals — numbers rounded to places and to significant digits

A number is rounded to the nearest integer, and of two that are equally near to the even one
(`IsHalfEven`); after it is multiplied by a power of ten, it is rounded to a number of places.  Rounded
to a number of significant digits (`Decimal.IsRounded`) it keeps as many digits from its first one on,
unless rounding carries into a further digit.  Doubles have finitely many places: beyond the last one
rounding changes nothing, and only zeros follow (`Decimal.IsRounded.extend`).
-/

namespace SignalLab

/-! ## Rounding to an integer -/

/-- Whether an integer is nearest to a number; of two that are equally near, the even one is. -/
structure IsHalfEven (v : ℚ) (n : ℕ) : Prop where
  near : |(n : ℚ) - v| ≤ 1 / 2
  even : |(n : ℚ) - v| = 1 / 2 → Even n

namespace IsHalfEven

variable {v : ℚ} {n m : ℕ}

/-- There is only one nearest integer. -/
theorem eq (hn : IsHalfEven v n) (hm : IsHalfEven v m) : n = m := by
  wlog hle : n ≤ m generalizing n m with hother
  · exact (hother hm hn (Nat.le_of_not_le hle)).symm
  rcases Nat.eq_or_lt_of_le hle with heq | hlt
  · exact heq
  · -- two integers that are both one half away are neighbours, and not both even
    exfalso
    have hapart : (n : ℚ) + 1 ≤ m := by exact_mod_cast hlt
    obtain ⟨hnlow, hnup⟩ := abs_le.mp hn.near
    obtain ⟨hmlow, hmup⟩ := abs_le.mp hm.near
    have hsum : (m : ℚ) = n + 1 := by linarith
    have hneven := hn.even (by rw [abs_eq (by norm_num)]; right; linarith)
    have hmeven := hm.even (by rw [abs_eq (by norm_num)]; left; linarith)
    have hnext : m = n + 1 := by exact_mod_cast hsum
    rw [hnext, Nat.even_add_one] at hmeven
    exact hmeven hneven

/-- An integer is nearest to itself. -/
theorem natCast (n : ℕ) : IsHalfEven n n where
  near := by
    rw [sub_self, abs_zero]
    norm_num
  even := by
    intro h
    rw [sub_self, abs_zero] at h
    norm_num at h

theorem roundHalfEven (num : ℕ) {den : ℕ} (hden : 0 < den) :
    IsHalfEven (num / den) (roundHalfEven num den) where
  near := (roundHalfEven_error num hden).1
  even := (roundHalfEven_error num hden).2

/-- No other integer is closer than the nearest one, and an odd one is the only nearest one. -/
theorem closest (h : IsHalfEven v n) (k : ℕ) :
    |(n : ℚ) - v| ≤ |(k : ℚ) - v| ∧ (|(k : ℚ) - v| = |(n : ℚ) - v| → k = n ∨ Even n) := by
  by_cases hk : k = n
  · rw [hk]
    exact ⟨le_rfl, fun _ => .inl rfl⟩
  · have hapart : 1 ≤ |(k : ℚ) - n| := by
      have hne : (k : ℤ) - n ≠ 0 := by omega
      exact_mod_cast Int.one_le_abs hne
    have htriangle := abs_sub_le (k : ℚ) v n
    rw [abs_sub_comm v] at htriangle
    have hnear := h.near
    refine ⟨by linarith, fun htie => .inr (h.even ?_)⟩
    linarith

/-- What is between two integers is rounded to one between them. -/
theorem mono {w : ℚ} (hn : IsHalfEven v n) (hm : IsHalfEven w m) (h : v ≤ w) : n ≤ m := by
  by_contra hlt
  have hapart : (m : ℚ) + 1 ≤ n := by exact_mod_cast Nat.lt_of_not_le hlt
  obtain ⟨-, hnup⟩ := abs_le.mp hn.near
  obtain ⟨hmlow, -⟩ := abs_le.mp hm.near
  obtain rfl : v = w := by linarith
  exact hlt (hn.eq hm).le

/-- A number without further places is rounded to itself, with zeros for them. -/
theorem extend {places : ℕ} (h : IsHalfEven (v * 10 ^ places) n)
    (hexact : ∃ N : ℕ, v * 10 ^ places = N) (k : ℕ) :
    IsHalfEven (v * 10 ^ (places + k)) (n * 10 ^ k) := by
  obtain ⟨N, hN⟩ := hexact
  rw [hN] at h
  obtain rfl : n = N := h.eq (natCast N)
  have hscaled : v * 10 ^ (places + k) = ((n * 10 ^ k : ℕ) : ℚ) := by
    rw [pow_add, ← mul_assoc, hN, Nat.cast_mul, Nat.cast_pow, Nat.cast_ofNat]
  rw [hscaled]
  exact natCast _

end IsHalfEven

namespace Decimal

/-! ## Powers of ten -/

variable {num den : ℕ}

theorem zpow_ten_eq_div (e : ℤ) : (10 : ℚ) ^ e = (tenTo e.toNat : ℕ) / (tenTo (-e).toNat : ℕ) := by
  rcases Int.le_total 0 e with he | he
  · obtain ⟨k, rfl⟩ := Int.eq_ofNat_of_zero_le he
    simp
  · obtain ⟨k, hk⟩ := Int.eq_ofNat_of_zero_le (Int.neg_nonneg_of_nonpos he)
    obtain rfl : e = -k := by omega
    simp

theorem tenTo_pos (k : ℕ) : 0 < tenTo k :=
  Nat.pow_pos (by decide)

/-- A quotient times a power of ten, as a quotient of natural numbers. -/
theorem div_mul_zpow_ten (num den : ℕ) (e : ℤ) :
    (num / den : ℚ) * 10 ^ e = (num * tenTo e.toNat : ℕ) / (den * tenTo (-e).toNat : ℕ) := by
  rw [zpow_ten_eq_div, div_mul_div_comm, Nat.cast_mul, Nat.cast_mul]

/-- A quotient is at least a power of ten exactly if its parts, scaled to natural numbers, say so. -/
theorem zpow_ten_le_div_iff (hden : 0 < den) (e : ℤ) :
    (10 : ℚ) ^ e ≤ num / den ↔ den * tenTo e.toNat ≤ num * tenTo (-e).toNat := by
  have hpos : (0 : ℚ) < den := Nat.cast_pos.mpr hden
  have hscale : (0 : ℚ) < (tenTo (-e).toNat : ℕ) := Nat.cast_pos.mpr (tenTo_pos _)
  rw [le_div_iff₀ hpos, mul_comm, zpow_ten_eq_div, ← mul_div_assoc, div_le_iff₀ hscale,
    ← Nat.cast_mul, ← Nat.cast_mul, Nat.cast_le]

/-- A number has as many digits as its powers of ten say. -/
theorem digitCount_bounds {n : ℕ} (hn : n ≠ 0) :
    (10 : ℚ) ^ ((digitCount n : ℤ) - 1) ≤ n ∧ (n : ℚ) < 10 ^ (digitCount n : ℤ) := by
  obtain ⟨k, hk⟩ : ∃ k, digitCount n = k + 1 :=
    Nat.exists_eq_succ_of_ne_zero (Nat.ne_of_gt Nat.length_toDigits_pos)
  have hup : n < 10 ^ (k + 1) :=
    (Nat.length_toDigits_le_iff (by decide) (Nat.succ_pos k)).mp (Nat.le_of_eq hk)
  have hlow : 10 ^ k ≤ n := by
    rcases Nat.eq_zero_or_pos k with rfl | hpos
    · exact Nat.one_le_iff_ne_zero.mpr hn
    · by_contra hlt
      have hle : digitCount n ≤ k :=
        (Nat.length_toDigits_le_iff (by decide) hpos).mpr (Nat.lt_of_not_le hlt)
      omega
  rw [hk]
  constructor
  · rw [Nat.cast_add_one, add_sub_cancel_right, zpow_natCast]
    exact_mod_cast hlow
  · rw [zpow_natCast]
    exact_mod_cast hup

/-- The exponent of the first digit of a quotient. -/
theorem magnitude_eq (hnum : num ≠ 0) (hden : den ≠ 0) :
    magnitude num den = Int.log 10 (num / den : ℚ) := by
  have hdenpos : (0 : ℚ) < den := Nat.cast_pos.mpr (Nat.pos_of_ne_zero hden)
  have hpos : (0 : ℚ) < num / den := div_pos (Nat.cast_pos.mpr (Nat.pos_of_ne_zero hnum)) hdenpos
  obtain ⟨hnumlow, hnumup⟩ := digitCount_bounds hnum
  obtain ⟨hdenlow, hdenup⟩ := digitCount_bounds hden
  have hten : (10 : ℚ) ≠ 0 := by norm_num
  -- the numbers of digits leave two exponents, which differ by one
  have hup : (num / den : ℚ) < 10 ^ ((digitCount num : ℤ) - digitCount den + 1) := by
    rw [div_lt_iff₀ hdenpos]
    calc (num : ℚ) < 10 ^ (digitCount num : ℤ) := hnumup
      _ = 10 ^ ((digitCount num : ℤ) - digitCount den + 1) * 10 ^ ((digitCount den : ℤ) - 1) := by
        rw [← zpow_add₀ hten]
        congr 1
        omega
      _ ≤ 10 ^ ((digitCount num : ℤ) - digitCount den + 1) * den :=
        mul_le_mul_of_nonneg_left hdenlow (by positivity)
  have hlow : (10 : ℚ) ^ ((digitCount num : ℤ) - digitCount den - 1) ≤ num / den := by
    rw [le_div_iff₀ hdenpos]
    calc (10 : ℚ) ^ ((digitCount num : ℤ) - digitCount den - 1) * den
        ≤ 10 ^ ((digitCount num : ℤ) - digitCount den - 1) * 10 ^ (digitCount den : ℤ) :=
          mul_le_mul_of_nonneg_left hdenup.le (by positivity)
      _ = 10 ^ ((digitCount num : ℤ) - 1) := by
        rw [← zpow_add₀ hten]
        congr 1
        omega
      _ ≤ num := hnumlow
  -- a logarithm is the only exponent whose power is reached while the next one is not
  have hlog : ∀ k : ℤ, (10 : ℚ) ^ k ≤ num / den → (num / den : ℚ) < 10 ^ (k + 1) →
      k = Int.log 10 (num / den : ℚ) := by
    intro k hk hk'
    have hle := (Int.zpow_le_iff_le_log (b := 10) (by decide) hpos).mp (by exact_mod_cast hk)
    have hlt := (Int.lt_zpow_iff_log_lt (b := 10) (by decide) hpos).mp (by exact_mod_cast hk')
    omega
  rw [magnitude]
  split
  · rename_i hfits
    exact hlog _ ((zpow_ten_le_div_iff (Nat.pos_of_ne_zero hden) _).mpr hfits) hup
  · rename_i hfits
    refine hlog _ hlow ?_
    rw [Int.sub_add_cancel]
    exact lt_of_not_ge (mt (zpow_ten_le_div_iff (Nat.pos_of_ne_zero hden) _).mp hfits)

/-! ## Rounding to places and to digits -/

theorem isHalfEven_ofPlaces (num : ℕ) (hden : den ≠ 0) (places : ℕ) :
    IsHalfEven ((num / den : ℚ) * 10 ^ places) (ofPlaces num den places) := by
  have h := IsHalfEven.roundHalfEven (num * tenTo places) (Nat.pos_of_ne_zero hden)
  have hten : ((tenTo places : ℕ) : ℚ) = 10 ^ places := Nat.cast_pow 10 places
  rwa [Nat.cast_mul, mul_div_right_comm, hten] at h

/-- The coefficient of a number rounded to a number of significant digits, and the exponent of the
first of them: its first digit is that of the number, unless rounding carries. -/
inductive IsRounded (count : ℕ) (v : ℚ) : ℕ → ℤ → Prop
  | zero (zero : v = 0) : IsRounded count v 0 0
  | digits {n c : ℕ} {e : ℤ} (positive : 0 < v)
      (nearest : IsHalfEven (v * 10 ^ ((count : ℤ) - 1 - Int.log 10 v)) n)
      (full : 10 ^ (count - 1) ≤ c ∧ c < 10 ^ count)
      (same : (c : ℚ) * 10 ^ e = n * 10 ^ Int.log 10 v) : IsRounded count v c e

namespace IsRounded

variable {count : ℕ} {v : ℚ} {c c' : ℕ} {e e' : ℤ}

/-- Of two coefficients with all their digits the smaller number has the smaller exponent. -/
theorem exponent_le (hcount : 0 < count) (hc : 10 ^ (count - 1) ≤ c) (hc' : c' < 10 ^ count)
    (h : (c : ℚ) * 10 ^ e ≤ c' * 10 ^ e') : e ≤ e' := by
  by_contra hlt
  have hten : (1 : ℚ) ≤ 10 := by norm_num
  have hlow : (10 : ℚ) ^ (count - 1) ≤ c := by exact_mod_cast hc
  have hup : (c' : ℚ) < 10 ^ count := by exact_mod_cast hc'
  have hpow : (10 : ℚ) ^ count * 10 ^ e' ≤ 10 ^ (count - 1) * 10 ^ e := by
    have hnext : (10 : ℚ) ^ count = 10 ^ (count - 1) * 10 := by
      rw [← pow_succ, Nat.sub_add_cancel hcount]
    rw [hnext, mul_assoc, ← zpow_one_add₀ (by norm_num : (10 : ℚ) ≠ 0)]
    exact mul_le_mul_of_nonneg_left (zpow_le_zpow_right₀ hten (by omega)) (by positivity)
  have hless : (c' : ℚ) * 10 ^ e' < c * 10 ^ e :=
    calc (c' : ℚ) * 10 ^ e' < 10 ^ count * 10 ^ e' := mul_lt_mul_of_pos_right hup (by positivity)
      _ ≤ 10 ^ (count - 1) * 10 ^ e := hpow
      _ ≤ c * 10 ^ e := mul_le_mul_of_nonneg_right hlow (by positivity)
  exact hless.not_ge h

/-- A coefficient has no more digits than the number is rounded to. -/
theorem lt (h : IsRounded count v c e) : c < 10 ^ count := by
  cases h with
  | zero => exact Nat.pow_pos (by decide)
  | digits positive nearest full same => exact full.2

/-- A number is rounded to one decimal only. -/
theorem eq (hcount : 0 < count) (h : IsRounded count v c e) (h' : IsRounded count v c' e') :
    c = c' ∧ e = e' := by
  cases h with
  | zero hzero =>
      cases h' with
      | zero => exact ⟨rfl, rfl⟩
      | digits positive => exact absurd hzero positive.ne'
  | digits positive nearest full same =>
      cases h' with
      | zero hzero => exact absurd hzero positive.ne'
      | digits positive' nearest' full' same' =>
          rw [nearest.eq nearest', ← same'] at same
          obtain rfl : e = e' := Int.le_antisymm (exponent_le hcount full.1 full'.2 same.le)
            (exponent_le hcount full'.1 full.2 same.ge)
          have hcancel := mul_right_cancel₀ (zpow_ne_zero e (by norm_num : (10 : ℚ) ≠ 0)) same
          exact ⟨by exact_mod_cast hcancel, rfl⟩

end IsRounded

/-- The first digit of a number is at the place that its logarithm says. -/
theorem log_bounds {v : ℚ} (hv : 0 < v) :
    (10 : ℚ) ^ Int.log 10 v ≤ v ∧ v < 10 ^ (Int.log 10 v + 1) := by
  have hlow := Int.zpow_log_le_self (b := 10) (by decide) hv
  have hup := Int.lt_zpow_succ_log_self (b := 10) (by decide) v
  exact ⟨by exact_mod_cast hlow, by exact_mod_cast hup⟩

/-- In units of the last of its digits a number has all of them, or one more after rounding. -/
theorem nearest_bounds {v : ℚ} {digits n : ℕ} (hv : 0 < v) (hdigits : 0 < digits)
    (h : IsHalfEven (v * 10 ^ ((digits : ℤ) - 1 - Int.log 10 v)) n) :
    10 ^ (digits - 1) ≤ n ∧ n ≤ 10 ^ digits := by
  have hten : (10 : ℚ) ≠ 0 := by norm_num
  obtain ⟨hlow, hup⟩ := log_bounds hv
  constructor
  · refine (IsHalfEven.natCast (10 ^ (digits - 1))).mono h ?_
    calc ((10 ^ (digits - 1) : ℕ) : ℚ)
        = 10 ^ Int.log 10 v * 10 ^ ((digits : ℤ) - 1 - Int.log 10 v) := by
          rw [← zpow_add₀ hten, Nat.cast_pow, Nat.cast_ofNat, ← zpow_natCast]
          congr 1
          omega
      _ ≤ v * 10 ^ ((digits : ℤ) - 1 - Int.log 10 v) :=
          mul_le_mul_of_nonneg_right hlow (by positivity)
  · refine h.mono (IsHalfEven.natCast (10 ^ digits)) ?_
    calc v * 10 ^ ((digits : ℤ) - 1 - Int.log 10 v)
        ≤ 10 ^ (Int.log 10 v + 1) * 10 ^ ((digits : ℤ) - 1 - Int.log 10 v) :=
          mul_le_mul_of_nonneg_right hup.le (by positivity)
      _ = ((10 ^ digits : ℕ) : ℚ) := by
          rw [← zpow_add₀ hten, Nat.cast_pow, Nat.cast_ofNat, ← zpow_natCast]
          congr 1
          omega

/-- Rounding to significant digits does what it says. -/
theorem isRounded_ofSignificant (num : ℕ) (hden : den ≠ 0) {digits : ℕ} (hdigits : 0 < digits) :
    IsRounded digits (num / den) (ofSignificant num den digits).coefficient
      ((ofSignificant num den digits).exponent + ((digits : ℤ) - 1)) := by
  by_cases hnum : num = 0
  · rw [ofSignificant, if_pos hnum, hnum, Nat.cast_zero, zero_div]
    show IsRounded digits 0 0 (1 - (digits : ℤ) + ((digits : ℤ) - 1))
    rw [sub_add_sub_cancel, sub_self]
    exact .zero rfl
  have hten : (10 : ℚ) ≠ 0 := by norm_num
  have hpos : (0 : ℚ) < num / den :=
    div_pos (Nat.cast_pos.mpr (Nat.pos_of_ne_zero hnum)) (Nat.cast_pos.mpr (Nat.pos_of_ne_zero hden))
  -- the number in units of its last digit, as a quotient of natural numbers
  have hscaled : (num / den : ℚ) * 10 ^ ((digits : ℤ) - 1 - Int.log 10 (num / den : ℚ)) = _ :=
    div_mul_zpow_ten num den _
  have hnearest := IsHalfEven.roundHalfEven
    (num * tenTo ((digits : ℤ) - 1 - Int.log 10 (num / den : ℚ)).toNat)
    (Nat.mul_pos (Nat.pos_of_ne_zero hden)
      (tenTo_pos (-((digits : ℤ) - 1 - Int.log 10 (num / den : ℚ))).toNat))
  rw [← hscaled] at hnearest
  obtain ⟨hlow, hup⟩ := nearest_bounds hpos hdigits hnearest
  rw [ofSignificant, if_neg hnum, magnitude_eq hnum hden]
  dsimp only
  rw [Int.neg_sub]
  rw [Int.neg_sub] at hnearest hlow hup
  generalize roundHalfEven _ _ = n at hnearest hlow hup ⊢
  split
  · rename_i hcarry
    -- rounding carries: one digit more, all but the first of them zero
    have hcarried : n = 10 ^ digits := hcarry
    refine .digits hpos hnearest
      ⟨Nat.le_refl _, Nat.pow_lt_pow_right (by decide) (by omega)⟩ ?_
    show ((10 ^ (digits - 1) : ℕ) : ℚ) * 10 ^ (_ - ((digits : ℤ) - 1) + 1 + ((digits : ℤ) - 1)) = _
    rw [hcarried, Nat.cast_pow, Nat.cast_pow, Nat.cast_ofNat, ← zpow_natCast, ← zpow_natCast,
      ← zpow_add₀ hten, ← zpow_add₀ hten]
    congr 1
    omega
  · rename_i hcarry
    refine .digits hpos hnearest ⟨hlow, Nat.lt_of_le_of_ne hup hcarry⟩ ?_
    rw [Int.sub_add_cancel]

/-! ## Doubles have finitely many places -/

/-- A number without further digits is rounded to itself, with zeros for them. -/
theorem IsRounded.extend {count : ℕ} {v : ℚ} {c : ℕ} {e : ℤ} (h : IsRounded count v c e)
    (hcount : 0 < count) (hexact : ∃ N : ℕ, v * 10 ^ ((count : ℤ) - 1 - Int.log 10 v) = N) (k : ℕ) :
    IsRounded (count + k) v (c * 10 ^ k) e := by
  cases h with
  | zero hzero =>
      rw [Nat.zero_mul]
      exact .zero hzero
  | @digits n c e positive nearest full same =>
      obtain ⟨N, hN⟩ := hexact
      rw [hN] at nearest
      obtain rfl : n = N := nearest.eq (.natCast N)
      have hscaled : v * 10 ^ (((count + k : ℕ) : ℤ) - 1 - Int.log 10 v) = ((n * 10 ^ k : ℕ) : ℚ) := by
        have hsplit : ((count + k : ℕ) : ℤ) - 1 - Int.log 10 v =
            ((count : ℤ) - 1 - Int.log 10 v) + k := by omega
        rw [hsplit, zpow_add₀ (by norm_num : (10 : ℚ) ≠ 0), ← mul_assoc, hN, zpow_natCast,
          Nat.cast_mul, Nat.cast_pow, Nat.cast_ofNat]
      have hnearest : IsHalfEven (v * 10 ^ (((count + k : ℕ) : ℤ) - 1 - Int.log 10 v)) (n * 10 ^ k) := by
        rw [hscaled]
        exact .natCast _
      refine .digits positive hnearest ⟨?_, ?_⟩ ?_
      · have hsum : count + k - 1 = count - 1 + k := by omega
        rw [hsum, Nat.pow_add]
        exact Nat.mul_le_mul_right _ full.1
      · rw [Nat.pow_add]
        exact Nat.mul_lt_mul_of_pos_right full.2 (tenTo_pos k)
      · rw [Nat.cast_mul, Nat.cast_mul, mul_right_comm, same, mul_right_comm]

/-- Rounding moves the first digit by one place at most. -/
theorem IsRounded.exponent_le_log {count : ℕ} {v : ℚ} {c : ℕ} {e : ℤ} (h : IsRounded count v c e)
    (hcount : 0 < count) : e ≤ Int.log 10 v + 1 := by
  cases h with
  | zero hzero =>
      rw [hzero, Int.log_zero_right]
      exact zero_le_one
  | @digits n c e positive nearest full same =>
      have hten : (10 : ℚ) ≠ 0 := by norm_num
      have hup := (nearest_bounds positive hcount nearest).2
      have hn : (n : ℚ) ≤ 10 ^ (count : ℤ) := by
        rw [zpow_natCast]
        exact_mod_cast hup
      have hc : (10 : ℚ) ^ ((count : ℤ) - 1) ≤ c := by
        have hcast : (count : ℤ) - 1 = ((count - 1 : ℕ) : ℤ) := by omega
        rw [hcast, zpow_natCast]
        exact_mod_cast full.1
      have hpow : (10 : ℚ) ^ ((count : ℤ) - 1 + e) ≤ 10 ^ ((count : ℤ) + Int.log 10 v) :=
        calc (10 : ℚ) ^ ((count : ℤ) - 1 + e) = 10 ^ ((count : ℤ) - 1) * 10 ^ e := zpow_add₀ hten _ _
          _ ≤ c * 10 ^ e := mul_le_mul_of_nonneg_right hc (by positivity)
          _ = n * 10 ^ Int.log 10 v := same
          _ ≤ 10 ^ (count : ℤ) * 10 ^ Int.log 10 v := mul_le_mul_of_nonneg_right hn (by positivity)
          _ = 10 ^ ((count : ℤ) + Int.log 10 v) := (zpow_add₀ hten _ _).symm
      have hle := (zpow_le_zpow_iff_right₀ (by norm_num : (1 : ℚ) < 10)).mp hpow
      omega

end Decimal

namespace Double

variable {m : ℕ} {q : ℤ}

/-- As many powers of ten as there are of one half make a double an integer. -/
theorem exists_natCast_mul_pow {j : ℕ} (h : 0 ≤ q + j) :
    ∃ N : ℕ, (m : ℚ) * 2 ^ q * 10 ^ j = N := by
  have hfactor : (10 : ℚ) ^ j = 2 ^ (j : ℤ) * ((5 ^ j : ℕ) : ℚ) := by
    rw [zpow_natCast, Nat.cast_pow, Nat.cast_ofNat, ← mul_pow]
    norm_num
  have hpow : ((2 ^ (q + j).toNat : ℕ) : ℚ) = 2 ^ q * 2 ^ (j : ℤ) := by
    rw [Nat.cast_pow, Nat.cast_ofNat, ← zpow_natCast, Int.toNat_of_nonneg h,
      zpow_add₀ two_ne_zero]
  refine ⟨m * 2 ^ (q + j).toNat * 5 ^ j, ?_⟩
  rw [hfactor, Nat.cast_mul, Nat.cast_mul, hpow]
  ring

/-- A double has not many digits in front of its point, and the smaller its unit is the fewer. -/
theorem log_lt (h : IsNormal m q) (hq : q ≤ 971) (hm : m ≠ 0) :
    Int.log 10 ((m : ℚ) * 2 ^ q) < min 1024 (1074 + q) := by
  have hpos : (0 : ℚ) < m * 2 ^ q := mul_pos (Nat.cast_pos.mpr (Nat.pos_of_ne_zero hm)) (by positivity)
  have hleast := h.least_le
  have hdigits : (m : ℚ) < 2 ^ (53 : ℤ) := by exact_mod_cast h.lt
  refine (Int.lt_zpow_iff_log_lt (b := 10) (by decide) hpos).mp ?_
  have hexponent : 53 + q ≤ min 1024 (1074 + q) := by omega
  calc (m : ℚ) * 2 ^ q < 2 ^ (53 : ℤ) * 2 ^ q := mul_lt_mul_of_pos_right hdigits (by positivity)
    _ = 2 ^ (53 + q) := (zpow_add₀ two_ne_zero _ _).symm
    _ ≤ 2 ^ min 1024 (1074 + q) := zpow_le_zpow_right₀ one_le_two hexponent
    _ ≤ ((10 : ℕ) : ℚ) ^ min 1024 (1074 + q) := by
        refine zpow_le_zpow_left₀ (by omega) zero_le_two ?_
        norm_num

/-- All places of a double are within the exact ones. -/
theorem exists_natCast_places (h : IsNormal m q) :
    ∃ N : ℕ, (m : ℚ) * 2 ^ q * 10 ^ exactDigits = N := by
  refine exists_natCast_mul_pow ?_
  show 0 ≤ q + (1074 : ℕ)
  have hleast := h.least_le
  omega

/-- And so are all its digits from the first one on. -/
theorem exists_natCast_digits (h : IsNormal m q) (hq : q ≤ 971) :
    ∃ N : ℕ, (m : ℚ) * 2 ^ q *
      10 ^ ((exactDigits : ℤ) - 1 - Int.log 10 ((m : ℚ) * 2 ^ q)) = N := by
  by_cases hm : m = 0
  · rw [hm, Nat.cast_zero, zero_mul, zero_mul]
    exact ⟨0, Nat.cast_zero.symm⟩
  · have hlog := log_lt h hq hm
    obtain ⟨j, hj⟩ : ∃ j : ℕ, (exactDigits : ℤ) - 1 - Int.log 10 ((m : ℚ) * 2 ^ q) = j := by
      refine Int.eq_ofNat_of_zero_le ?_
      show 0 ≤ (1074 : ℤ) - 1 - _
      omega
    rw [hj, zpow_natCast]
    refine exists_natCast_mul_pow ?_
    have hexact : (exactDigits : ℤ) = 1074 := rfl
    omega

end Double

end SignalLab
