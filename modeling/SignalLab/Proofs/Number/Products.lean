import SignalLab.Proofs.Number.Integers

/-!
# Products, quotients and roots — what they come to in doubles

The product of two finite doubles is the double nearest to the product of their numbers, and their
quotient the one nearest to the quotient (`Double.mul_cases`, `Double.div_cases`), or infinite where
that is too large for a double.  A product is exact before it is rounded.  A quotient is worked out to a
mantissa with at least 53 digits, and what is left over says on which side of the half the digits behind
them are (`Double.IsCutOff.ofQuotient`).  The same is done for a root, which is never too large
(`Double.exists_value_sqrt`).
-/

namespace SignalLab.Double

open Float.Model Float.Model.UnpackedFloat

/-! ## Signs -/

/-- The sign of a product is the product of the signs. -/
theorem withSign_mul (s s' : Sign) (x y : ℚ) :
    withSign (s * s') (x * y) = withSign s x * withSign s' y := by
  cases s with
  | negative =>
      cases s' with
      | negative => exact (neg_mul_neg x y).symm
      | positive => exact (neg_mul x y).symm
  | positive =>
      cases s' with
      | negative => exact (mul_neg x y).symm
      | positive => rfl

/-- The sign of a quotient is the quotient of the signs. -/
theorem withSign_div (s s' : Sign) (x y : ℚ) :
    withSign (s / s') (x / y) = withSign s x / withSign s' y := by
  cases s with
  | negative =>
      cases s' with
      | negative => exact (neg_div_neg_eq x y).symm
      | positive => exact (neg_div y x).symm
  | positive =>
      cases s' with
      | negative => exact (div_neg x).symm
      | positive => rfl

/-! ## Products -/

section Products

variable {a b : UnpackedFloat} {v w : ℚ}

/-- A product of mantissas is long enough for its digits to be cut off only: one of the mantissas has 53
digits, or both of them are in the least unit. -/
theorem le_unitExponent_mul {m m' : Nat} {q q' : ℤ} (hpos : 0 < m) (hpos' : 0 < m')
    (h : IsNormal m q) (h' : IsNormal m' q') : q + q' ≤ unitExponent (m * m') (q + q') := by
  have hne : m * m' ≠ 0 := (Nat.mul_pos hpos hpos').ne'
  have hlong : 2 ^ 52 ≤ m * m' → q + q' ≤ unitExponent (m * m') (q + q') := by
    intro hlong
    have hlog : 52 ≤ (m * m').log2 := (Nat.le_log2 hne).mpr hlong
    rw [unitExponent]
    omega
  rcases h.full with ⟨hfull, -⟩ | rfl
  · exact hlong (hfull.trans (Nat.le_mul_of_pos_right m hpos'))
  · rcases h'.full with ⟨hfull, -⟩ | rfl
    · exact hlong (hfull.trans (Nat.le_mul_of_pos_left m' hpos))
    · rw [unitExponent]
      omega

/-- The product of unpacked doubles is nearest to the product of their numbers. -/
theorem StandsFor.exists_mul (ha : StandsFor a v) (hb : StandsFor b w) :
    ∃ r, IsNearest (v * w) r ∧ StandsFor (UnpackedFloat.mul Format.binary64 a b) r := by
  cases ha with
  | zero s =>
      rw [zero_mul]
      cases hb with
      | zero s' => exact ⟨0, (StandsFor.zero s).isNearest, .zero (s * s')⟩
      | finite s' hpos' hnormal' => exact ⟨0, (StandsFor.zero s).isNearest, .zero (s * s')⟩
  | @finite s m q hpos hnormal =>
      cases hb with
      | zero s' =>
          rw [mul_zero]
          exact ⟨0, (StandsFor.zero s').isNearest, .zero (s * s')⟩
      | @finite s' m' q' hpos' hnormal' =>
          have hvalue : ((m * m' : Nat) : ℚ) * 2 ^ (q + q') = m * 2 ^ q * (m' * 2 ^ q') := by
            rw [Nat.cast_mul, zpow_add₀ two_ne_zero]
            ring
          obtain ⟨r, hnearest, hr⟩ := exists_roundWithAccuracy (s * s')
            (.inl (Nat.mul_pos hpos hpos').ne') (IsCutOff.ofNat (m * m'))
            (le_unitExponent_mul hpos hpos' hnormal hnormal')
          rw [hvalue, withSign_mul, ← signed_eq_withSign, ← signed_eq_withSign] at hnearest
          exact ⟨r, hnearest, hr⟩

end Products

/-! ## Quotients -/

/-- What is left over of a division says where the digits behind the point are. -/
theorem IsCutOff.ofQuotient (num : Nat) {den : Nat} (hden : 0 < den) :
    IsCutOff (.ofMantissaAndAccuracy (num / den) (accuracyOfFraction (num % den) den))
      (num / den) := by
  have hpos : (0 : ℚ) < den := Nat.cast_pos.mpr hden
  have hsplit : (num / den : ℚ) = (num / den : Nat) + (num % den : Nat) / den := by
    rw [div_eq_iff hpos.ne', add_mul, div_mul_cancel₀ _ hpos.ne', mul_comm]
    exact_mod_cast (Nat.div_add_mod num den).symm
  have hremainder : ((num % den : Nat) : ℚ) / den < 1 :=
    (div_lt_one hpos).mpr (Nat.cast_lt.mpr (Nat.mod_lt num hden))
  rw [hsplit]
  generalize num / den = q
  generalize num % den = r at hremainder
  rw [accuracyOfFraction]
  split
  · rename_i hzero
    rw [hzero, Nat.cast_zero, zero_div, add_zero]
    exact .ofNat q
  · rename_i hne
    have hleft : (0 : ℚ) < r / den := div_pos (Nat.cast_pos.mpr (Nat.pos_of_ne_zero hne)) hpos
    have hhalf : ∀ s t : ℚ, s < t ↔ q + s < q + t := fun s t => (add_lt_add_iff_left _).symm
    -- twice the remainder is compared with the divisor, as the digits are with one half
    rcases Nat.lt_trichotomy (2 * r) den with hlt | heq | hgt
    · have hless : (r / den : ℚ) < 1 / 2 := by
        rw [div_lt_div_iff₀ hpos two_pos]
        exact_mod_cast (by omega : r * 2 < 1 * den)
      rw [compare_lt_iff_lt.mpr hlt]
      refine ⟨?_, ?_, iff_of_false Bool.noConfusion ?_⟩ <;> show _ <;>
        simp only [ExtendedMantissa.ofMantissaAndAccuracy, roundDigit] <;> norm_num
      · exact hleft.le
      · linarith
      · exact ⟨hne, hden.ne'⟩
    · have hequal : (r / den : ℚ) = 1 / 2 := by
        rw [div_eq_div_iff hpos.ne' two_ne_zero]
        exact_mod_cast (by omega : r * 2 = 1 * den)
      rw [compare_eq_iff_eq.mpr heq, hequal]
      refine ⟨?_, ?_, iff_of_true rfl ?_⟩ <;>
        simp only [ExtendedMantissa.ofMantissaAndAccuracy, roundDigit] <;> norm_num
    · have hmore : (1 / 2 : ℚ) < r / den := by
        rw [div_lt_div_iff₀ two_pos hpos]
        exact_mod_cast (by omega : 1 * den < r * 2)
      rw [compare_gt_iff_gt.mpr hgt]
      refine ⟨?_, ?_, iff_of_false Bool.noConfusion ?_⟩ <;>
        simp only [ExtendedMantissa.ofMantissaAndAccuracy, roundDigit] <;> norm_num
      · linarith
      · linarith
      · linarith

/-- The exponent that a quotient is worked out to. -/
def quotientExponent (m : Nat) (q : ℤ) (m' : Nat) (q' : ℤ) : ℤ :=
  min (q - q') (max (m.log2 + q - (m'.log2 + q') - 53) (-1074))

/-- The mantissa that a quotient is worked out to. -/
def quotientDigits (m : Nat) (q : ℤ) (m' : Nat) (q' : ℤ) : Nat :=
  m <<< (q - q' - quotientExponent m q m' q').toNat

/-- A quotient is worked out to its digits, and what is left over is compared with one half. -/
theorem divCore_eq (m : Nat) (q : ℤ) (m' : Nat) (q' : ℤ) :
    divCore Format.binary64 m q m' q' =
      (quotientDigits m q m' q' / m', quotientExponent m q m' q',
        accuracyOfFraction (quotientDigits m q m' q' % m') m') := by
  have htarget : Format.binary64.targetExponent (totalExponent m q - totalExponent m' q') =
      max (m.log2 + q - (m'.log2 + q') - 53) (-1074) := by
    have hdigits : Format.binary64.mantissaBits = 53 := by rfl
    have hleast : Format.binary64.minExponent = -1074 := by rfl
    rw [Format.targetExponent, totalExponent, totalExponent, hdigits, hleast]
    omega
  rw [divCore, htarget]
  rfl

/-- A quotient is worked out to 53 digits, or to the least unit. -/
theorem quotientDigits_bounds {m m' : Nat} (hpos : 0 < m) (hpos' : 0 < m') (q q' : ℤ) :
    2 ^ 52 ≤ quotientDigits m q m' q' / m' ∨ quotientExponent m q m' q' ≤ -1074 := by
  by_cases hleast : quotientExponent m q m' q' ≤ -1074
  · exact .inr hleast
  left
  obtain ⟨k, hk⟩ : ∃ k, (q - q' - quotientExponent m q m' q').toNat = k := ⟨_, rfl⟩
  have hexponent : m'.log2 + 53 ≤ m.log2 + k := by
    rw [quotientExponent] at hleast hk
    omega
  have hm : 2 ^ m.log2 ≤ m := Nat.log2_self_le hpos.ne'
  have hm' : m' < 2 ^ (m'.log2 + 1) := Nat.lt_log2_self
  rw [quotientDigits, hk, Nat.shiftLeft_eq, Nat.le_div_iff_mul_le hpos']
  calc 2 ^ 52 * m' ≤ 2 ^ 52 * 2 ^ (m'.log2 + 1) := Nat.mul_le_mul_left _ hm'.le
    _ = 2 ^ (m'.log2 + 53) := by rw [← Nat.pow_add]; congr 1; omega
    _ ≤ 2 ^ (m.log2 + k) := Nat.pow_le_pow_right two_pos hexponent
    _ = 2 ^ m.log2 * 2 ^ k := Nat.pow_add 2 _ _
    _ ≤ m * 2 ^ k := Nat.mul_le_mul_right _ hm

/-- A mantissa of at least 53 digits, or one at most as large as the least unit, has its digits cut off
only. -/
theorem le_unitExponent_of {m : Nat} {e : ℤ} (h : 2 ^ 52 ≤ m ∨ e ≤ -1074) :
    (m ≠ 0 ∨ unitExponent m e = -1074) ∧ e ≤ unitExponent m e := by
  by_cases hzero : m = 0
  · have hlog : (0 : Nat).log2 = 0 := Nat.log2_zero
    have hleast : e ≤ -1074 := h.resolve_left (by rw [hzero]; decide)
    rw [hzero, unitExponent, hlog]
    omega
  · refine ⟨.inl hzero, ?_⟩
    rw [unitExponent]
    rcases h with hlong | hleast
    · have hlog : 52 ≤ m.log2 := (Nat.le_log2 hzero).mpr hlong
      omega
    · omega

section Quotients

variable {a b : UnpackedFloat} {v w : ℚ}

/-- The quotient of unpacked doubles is nearest to the quotient of their numbers. -/
theorem StandsFor.exists_div (ha : StandsFor a v) (hb : StandsFor b w) (hw : w ≠ 0) :
    ∃ r, IsNearest (v / w) r ∧ StandsFor (UnpackedFloat.div Format.binary64 a b) r := by
  cases hb with
  | zero s' => exact absurd rfl hw
  | @finite s' m' q' hpos' hnormal' =>
      cases ha with
      | zero s =>
          rw [zero_div]
          exact ⟨0, (StandsFor.zero s).isNearest, .zero (s / s')⟩
      | @finite s m q hpos hnormal =>
          have hdiv : UnpackedFloat.div Format.binary64 (.finite s m q hpos) (.finite s' m' q' hpos') =
              roundWithAccuracy Format.binary64 (s / s') (quotientDigits m q m' q' / m')
                (quotientExponent m q m' q')
                (accuracyOfFraction (quotientDigits m q m' q' % m') m') := by
            rw [UnpackedFloat.div, divCore_eq]
          -- the dividend is extended by digits that the exponent takes back
          have hvalue : ((quotientDigits m q m' q' : Nat) / m' : ℚ) * 2 ^ quotientExponent m q m' q' =
              m * 2 ^ q / (m' * 2 ^ q') := by
            obtain ⟨t, ht⟩ : ∃ t, quotientExponent m q m' q' = t := ⟨_, rfl⟩
            have hle : t ≤ q - q' := ht ▸ min_le_left _ _
            have hsplit : q = ((q - q' - t).toNat : ℤ) + t + q' := by omega
            have hpos' : (m' : ℚ) ≠ 0 := Nat.cast_ne_zero.mpr hpos'.ne'
            rw [quotientDigits, ht, Nat.shiftLeft_eq, Nat.cast_mul, Nat.cast_pow, Nat.cast_ofNat,
              ← zpow_natCast]
            conv_rhs => rw [hsplit]
            rw [zpow_add₀ two_ne_zero, zpow_add₀ two_ne_zero]
            field_simp
          obtain ⟨hm, he⟩ := le_unitExponent_of (quotientDigits_bounds hpos hpos' q q')
          obtain ⟨r, hnearest, hr⟩ := exists_roundWithAccuracy (s / s') hm
            (IsCutOff.ofQuotient (quotientDigits m q m' q') hpos') he
          rw [hvalue, withSign_div, ← signed_eq_withSign, ← signed_eq_withSign] at hnearest
          exact ⟨r, hnearest, hdiv ▸ hr⟩

end Quotients

/-! ## Roots -/

/-- The exponent that a root is worked out to. -/
def rootExponent (m : Nat) (e : ℤ) : ℤ :=
  min (e / 2) (max ((m.log2 + e + 2) / 2 - 53) (-1074))

/-- The mantissa whose root is worked out. -/
def rootDigits (m : Nat) (e : ℤ) : Nat :=
  m <<< (e - 2 * rootExponent m e).toNat

/-- Where the digits behind the point of a root are. -/
def rootAccuracy (m : Nat) (e : ℤ) : Accuracy :=
  let root := Nat.sqrt (rootDigits m e)
  let rest := rootDigits m e - root * root
  if rest = 0 then .exact else .inexact (if rest ≤ root then .lt else .gt)

/-- A root is worked out to its digits, and what is left over is compared with one half. -/
theorem sqrtCore_eq (m : Nat) (e : ℤ) :
    sqrtCore Format.binary64 m e =
      (Nat.sqrt (rootDigits m e), rootExponent m e, rootAccuracy m e) := by
  have htarget : Format.binary64.targetExponent ((totalExponent m e + 1).ediv 2) =
      max ((m.log2 + e + 2) / 2 - 53) (-1074) := by
    have hdigits : Format.binary64.mantissaBits = 53 := by rfl
    have hleast : Format.binary64.minExponent = -1074 := by rfl
    show max ((totalExponent m e + 1) / 2 - Format.binary64.mantissaBits)
      Format.binary64.minExponent = _
    rw [totalExponent, hdigits, hleast]
    omega
  rw [sqrtCore, htarget]
  rfl

/-- A root is worked out to 53 digits, or to the least unit. -/
theorem sqrt_rootDigits_bounds {m : Nat} (hm : m ≠ 0) (e : ℤ) :
    2 ^ 52 ≤ Nat.sqrt (rootDigits m e) ∨ rootExponent m e ≤ -1074 := by
  by_cases hleast : rootExponent m e ≤ -1074
  · exact .inr hleast
  left
  have hlog : 104 ≤ (rootDigits m e).log2 := by
    rw [rootDigits, log2_shiftLeft hm]
    rw [rootExponent] at hleast ⊢
    omega
  have hne : rootDigits m e ≠ 0 := by
    intro hzero
    rw [hzero, Nat.log2_zero] at hlog
    omega
  rw [Nat.le_sqrt]
  exact (Nat.le_log2 hne).mp hlog

/-- Digits are cut off in each of the ways. -/
theorem exists_isCutOff (m : Nat) (acc : Accuracy) :
    ∃ x, IsCutOff (.ofMantissaAndAccuracy m acc) x := by
  rcases acc with _ | order
  · exact ⟨m, .ofNat m⟩
  · obtain ⟨t, ht⟩ : ∃ t : ℚ, t = match order with | .lt => 1 / 4 | .eq => 1 / 2 | .gt => 3 / 4 :=
      ⟨_, rfl⟩
    refine ⟨m + t, ?_⟩
    cases order <;> subst ht <;> constructor <;>
      simp only [ExtendedMantissa.ofMantissaAndAccuracy, roundDigit] <;> norm_num
    linarith

/-- The root of a number below the largest double, and what lies up to the next digit, is far below
it. -/
theorem sqrt_rootDigits_le {m : Nat} {e : ℤ} (hm : 0 < m)
    (h : (m : ℚ) * 2 ^ e < 2 ^ (1024 : ℤ)) :
    ((Nat.sqrt (rootDigits m e) : ℚ) + 1) * 2 ^ rootExponent m e ≤ 2 ^ (513 : ℤ) := by
  have hexponent : e < 1024 := by
    have hone : (1 : ℚ) ≤ m := by exact_mod_cast hm
    have hlt : (2 : ℚ) ^ e < 2 ^ (1024 : ℤ) :=
      (le_mul_of_one_le_left (zpow_nonneg zero_le_two e) hone).trans_lt h
    exact (zpow_lt_zpow_iff_right₀ one_lt_two).mp hlt
  -- the exponent is halved, so that the square of the root is below the number
  have hdouble : 2 * rootExponent m e ≤ e := by
    rw [rootExponent]
    omega
  have hdigits : (rootDigits m e : ℚ) * 2 ^ (2 * rootExponent m e) = m * 2 ^ e := by
    rw [rootDigits, Nat.shiftLeft_eq, mul_zpow_eq_units m hdouble]
    rfl
  have hunit : (0 : ℚ) < 2 ^ rootExponent m e := zpow_pos two_pos _
  have hsquare : ((Nat.sqrt (rootDigits m e) : ℚ) * 2 ^ rootExponent m e) ^ 2 <
      (2 ^ (512 : ℤ)) ^ 2 := by
    have hroot : ((Nat.sqrt (rootDigits m e) : ℚ)) ^ 2 ≤ rootDigits m e := by
      exact_mod_cast Nat.sqrt_le' (rootDigits m e)
    calc ((Nat.sqrt (rootDigits m e) : ℚ) * 2 ^ rootExponent m e) ^ 2
        = (Nat.sqrt (rootDigits m e) : ℚ) ^ 2 * 2 ^ (2 * rootExponent m e) := by
          rw [mul_pow, ← zpow_natCast ((2 : ℚ) ^ rootExponent m e), ← zpow_mul,
            mul_comm (rootExponent m e)]
          rfl
      _ ≤ (rootDigits m e : ℚ) * 2 ^ (2 * rootExponent m e) :=
          mul_le_mul_of_nonneg_right hroot (zpow_nonneg zero_le_two _)
      _ = (m : ℚ) * 2 ^ e := hdigits
      _ < (2 : ℚ) ^ (1024 : ℤ) := h
      _ = (2 ^ (512 : ℤ)) ^ 2 := by
          rw [← zpow_natCast, ← zpow_mul]
          rfl
  have hroot : (Nat.sqrt (rootDigits m e) : ℚ) * 2 ^ rootExponent m e < 2 ^ (512 : ℤ) :=
    lt_of_pow_lt_pow_left₀ 2 (zpow_nonneg zero_le_two _) hsquare
  have hlast : (2 : ℚ) ^ rootExponent m e ≤ 2 ^ (512 : ℤ) :=
    zpow_le_zpow_right₀ one_le_two (by omega)
  have hsum : (2 : ℚ) ^ (513 : ℤ) = 2 ^ (512 : ℤ) + 2 ^ (512 : ℤ) := by
    rw [← two_mul]
    exact zpow_one_add₀ two_ne_zero 512
  rw [add_mul, one_mul, hsum]
  exact add_le_add hroot.le hlast

section Roots

variable {u : UnpackedFloat} {x : Float} {v : ℚ}

/-- The root of an unpacked double that is not negative is not too large for a double. -/
theorem StandsFor.exists_sqrt (hu : StandsFor u v) (hv : 0 ≤ v) (hlarge : v < 2 ^ (1024 : ℤ)) :
    ∃ r, |r| < 2 ^ (1024 : ℤ) ∧ StandsFor (UnpackedFloat.sqrt Format.binary64 u) r := by
  cases hu with
  | zero s =>
      refine ⟨0, ?_, .zero s⟩
      rw [abs_zero]
      exact zpow_pos two_pos _
  | @finite s m q hpos hnormal =>
      rw [signed_eq_withSign] at hv hlarge
      have hmagnitude : (0 : ℚ) < m * 2 ^ q :=
        mul_pos (Nat.cast_pos.mpr hpos) (zpow_pos two_pos q)
      cases s with
      | negative => exact absurd hv (neg_neg_iff_pos.mpr hmagnitude).not_ge
      | positive =>
          obtain ⟨x, hcut⟩ := exists_isCutOff (Nat.sqrt (rootDigits m q)) (rootAccuracy m q)
          obtain ⟨hm, he⟩ := le_unitExponent_of (sqrt_rootDigits_bounds hpos.ne' q)
          obtain ⟨r, hnearest, hr⟩ := exists_roundWithAccuracy .positive hm hcut he
          have hsqrt : UnpackedFloat.sqrt Format.binary64 (.finite .positive m q hpos) =
              roundWithAccuracy Format.binary64 .positive (Nat.sqrt (rootDigits m q))
                (rootExponent m q) (rootAccuracy m q) := by
            rw [UnpackedFloat.sqrt, sqrtCore_eq]
          refine ⟨r, ?_, hsqrt ▸ hr⟩
          -- roots are far below the largest double, so that rounding does not lead beyond it
          have hunit : (0 : ℚ) < 2 ^ rootExponent m q := zpow_pos two_pos _
          have hnonneg : 0 ≤ x * 2 ^ rootExponent m q :=
            mul_nonneg ((Nat.cast_nonneg _).trans hcut.mantissa_le) hunit.le
          have hupper : x * 2 ^ rootExponent m q ≤ 2 ^ (513 : ℤ) :=
            (mul_le_mul_of_nonneg_right hcut.lt_succ_mantissa.le hunit.le).trans
              (sqrt_rootDigits_le hpos hlarge)
          have hzero : Fits |(0 : ℚ)| := by
            rw [abs_zero]
            exact ⟨0, 0, by decide, by decide, by simp⟩
          have hbelow : r ≤ 2 ^ (513 : ℤ) := hnearest.le (fits_zpow (by decide)) hupper
          rw [abs_of_nonneg (hnearest.ge hzero hnonneg)]
          exact hbelow.trans_lt (zpow_lt_zpow_right₀ one_lt_two (by decide))

/-- The root of a finite double that is not negative is finite. -/
theorem exists_value_sqrt (hx : value? x = some v) (hv : 0 ≤ v) :
    ∃ w, value? (Float.sqrt x) = some w := by
  obtain ⟨r, hlarge, hr⟩ := (standsFor_of_value hx).exists_sqrt hv
    ((le_abs_self v).trans_lt (abs_lt_of_value hx))
  exact ⟨r, hr.value?_of_pack_of_abs_lt rfl hlarge⟩

end Roots

/-! ## Doubles -/

section Doubles

variable {x y : Float} {v w : ℚ}

/-- The product of finite doubles is the double nearest to the product of their numbers, or infinite. -/
theorem mul_cases (hx : value? x = some v) (hy : value? y = some w) :
    ∃ r, IsNearest (v * w) r ∧ (value? (x * y) = some r ∨
      2 ^ (1024 : ℤ) ≤ r ∧ parts (x * y) = .infinite false ∨
      r ≤ -2 ^ (1024 : ℤ) ∧ parts (x * y) = .infinite true) := by
  obtain ⟨r, hnearest, hr⟩ := (standsFor_of_value hx).exists_mul (standsFor_of_value hy)
  exact ⟨r, hnearest, hr.value?_of_pack rfl⟩

/-- The quotient of finite doubles is the double nearest to the quotient of their numbers, or
infinite. -/
theorem div_cases (hx : value? x = some v) (hy : value? y = some w) (hw : w ≠ 0) :
    ∃ r, IsNearest (v / w) r ∧ (value? (x / y) = some r ∨
      2 ^ (1024 : ℤ) ≤ r ∧ parts (x / y) = .infinite false ∨
      r ≤ -2 ^ (1024 : ℤ) ∧ parts (x / y) = .infinite true) := by
  obtain ⟨r, hnearest, hr⟩ := (standsFor_of_value hx).exists_div (standsFor_of_value hy) hw
  exact ⟨r, hnearest, hr.value?_of_pack rfl⟩

end Doubles

end SignalLab.Double
