import Mathlib
import SignalLab.Proofs.Number.Nearest

/-!
# Sums — what two doubles add up to

Adding two finite doubles goes to the double that is nearest to the sum of their numbers, and
subtracting to the one nearest to the difference; only where that is too large for a double the
result is infinite (`Double.add_cases`, `Double.sub_cases`).  The steps on the way are followed one
by one: the mantissa is written in the unit of its size, its digits behind the point are cut off
(`Double.IsCutOff`), it is rounded by them, and the parts are packed into a pattern of bits.
-/

namespace SignalLab.Double

open Float.Model Float.Model.UnpackedFloat

/-! ## Unpacked doubles -/

/-- The least exponent bounds those of all doubles. -/
theorem IsNormal.least_le {m : Nat} {q : ℤ} (h : IsNormal m q) : -1074 ≤ q := by
  rcases h.full with ⟨-, hleast⟩ | rfl
  · exact hleast
  · exact Int.le_refl _

/-- The number that an unpacked double stands for; its exponent may be too large for a double. -/
inductive StandsFor : UnpackedFloat → ℚ → Prop
  | zero (s : Sign) : StandsFor (.zero s) 0
  | finite (s : Sign) {m : Nat} {q : ℤ} (hpos : 0 < m) (hnormal : IsNormal m q) :
      StandsFor (.finite s m q hpos) (signed (s == .negative) m q)

theorem signed_zero (negative : Bool) (q : ℤ) : signed negative 0 q = 0 := by
  rw [signed, Nat.cast_zero, zero_mul, mul_zero]

/-- The sign leaves the magnitude. -/
theorem abs_signed (negative : Bool) (m : Nat) (q : ℤ) : |signed negative m q| = m * 2 ^ q := by
  cases negative <;> simp [signed]

/-- The other sign turns a value around. -/
theorem signed_neg (s : Sign) (m : Nat) (q : ℤ) :
    signed (-s == .negative) m q = -signed (s == .negative) m q := by
  cases s
  · show signed false m q = -signed true m q
    simp [signed]
  · show signed true m q = -signed false m q
    simp [signed]

/-- Unpacked doubles stand for their values. -/
theorem standsFor_of_parts {u : UnpackedFloat} {negative : Bool} {m : Nat} {q : ℤ}
    (h : unpackedParts u = .finite negative m q) (hnormal : IsNormal m q) :
    StandsFor u (signed negative m q) := by
  cases u with
  | notANumber => cases h
  | infinity s => cases h
  | zero s =>
      cases h
      rw [signed_zero]
      exact .zero s
  | finite s m' q' hpos =>
      cases h
      exact .finite s hpos hnormal

/-- So does a double of the model. -/
theorem standsFor_of_value {x : Float} {v : ℚ} (h : value? x = some v) :
    StandsFor x.toModel.unpack v := by
  obtain ⟨negative, m, q, hparts, rfl⟩ := value?_eq_some_iff.mp h
  have hnormal := isNormal_of_parts hparts
  rw [parts_eq_unpackedParts] at hparts
  exact standsFor_of_parts hparts hnormal

namespace StandsFor

variable {u : UnpackedFloat} {v : ℚ}

/-- An unpacked double is its own rounding. -/
theorem isNearest (h : StandsFor u v) : IsNearest v v := by
  cases h with
  | zero s => exact ⟨0, -1074, ⟨by decide, by decide, .inr rfl, by norm_num, by simp⟩, by norm_num⟩
  | @finite s m q hpos hnormal =>
  obtain ⟨k, hk, hkm⟩ : ∃ k : ℤ, signed (s == .negative) m q = k * 2 ^ q ∧ |k| = m := by
    cases s
    · exact ⟨-m, by simp [signed], by rw [abs_neg, Nat.abs_cast]⟩
    · exact ⟨m, by simp [signed], Nat.abs_cast m⟩
  have hzero : |(k * 2 ^ q - k * 2 ^ q : ℚ)| = 0 := by rw [sub_self, abs_zero]
  have hpos : (0 : ℚ) < 2 ^ (q - 1) := zpow_pos two_pos _
  refine ⟨k, q, ⟨hnormal.least_le, ?_, ?_, ?_, ?_⟩, hk⟩
  · rw [hkm]
    exact_mod_cast hnormal.lt.le
  · refine hnormal.full.imp (fun hfull => ?_) id
    have hfull : (2 : ℚ) ^ 52 ≤ m := by exact_mod_cast hfull.1
    rw [abs_signed, zpow_add₀ two_ne_zero]
    exact mul_le_mul_of_nonneg_right hfull (zpow_nonneg zero_le_two q)
  · rw [hk, hzero]
    exact hpos.le
  · rw [hk, hzero]
    exact fun heq => absurd heq hpos.ne

theorem neg (h : StandsFor u v) : StandsFor (UnpackedFloat.neg u) (-v) := by
  cases h with
  | zero s =>
      rw [neg_zero]
      exact .zero (-s)
  | @finite s m q hpos hnormal =>
      rw [← signed_neg]
      exact .finite (-s) hpos hnormal

end StandsFor

/-! ## Rounding a mantissa -/

/-- The value of the round bit, the first digit behind the point. -/
def roundDigit (em : ExtendedMantissa) : ℚ :=
  if em.roundBit then 1 / 2 else 0

/-- The digits of `x` behind the point are cut off; a sticky bit says that some of them behind the
first were not zero. -/
structure IsCutOff (em : ExtendedMantissa) (x : ℚ) : Prop where
  lower : em.mantissa + roundDigit em ≤ x
  upper : x < em.mantissa + roundDigit em + 1 / 2
  sticky_iff : em.stickyBit = false ↔ x = em.mantissa + roundDigit em

namespace IsCutOff

variable {em : ExtendedMantissa} {x : ℚ}

/-- A mantissa is cut off nowhere. -/
theorem ofNat (m : Nat) : IsCutOff (.ofMantissaAndAccuracy m .exact) m := by
  have hdigit : roundDigit (.ofMantissaAndAccuracy m .exact) = 0 := rfl
  refine ⟨?_, ?_, iff_of_true rfl ?_⟩ <;> rw [hdigit, add_zero]
  · exact le_rfl
  · exact lt_add_of_pos_right _ one_half_pos
  · rfl

/-- What is cut off a mantissa is less than one. -/
theorem mantissa_le {m : Nat} {acc : Accuracy} (h : IsCutOff (.ofMantissaAndAccuracy m acc) x) :
    m ≤ x := by
  have hmantissa : (ExtendedMantissa.ofMantissaAndAccuracy m acc).mantissa = m := by
    rcases acc with _ | _ | _ | _ <;> rfl
  have hdigit : 0 ≤ roundDigit (.ofMantissaAndAccuracy m acc) := by
    rw [roundDigit]
    split <;> norm_num
  have hlower := h.lower
  rw [hmantissa] at hlower
  linarith

/-- What is cut off is less than one. -/
theorem lt_succ_mantissa {m : Nat} {acc : Accuracy}
    (h : IsCutOff (.ofMantissaAndAccuracy m acc) x) : x < m + 1 := by
  have hmantissa : (ExtendedMantissa.ofMantissaAndAccuracy m acc).mantissa = m := by
    rcases acc with _ | _ | _ | _ <;> rfl
  have hdigit : roundDigit (.ofMantissaAndAccuracy m acc) ≤ 1 / 2 := by
    rw [roundDigit]
    split <;> norm_num
  have hupper := h.upper
  rw [hmantissa] at hupper
  linarith

/-- A shift halves what is cut off. -/
theorem shiftRightOne (h : IsCutOff em x) : IsCutOff em.shiftRightOne (x / 2) := by
  obtain ⟨m, r, s⟩ := em
  obtain ⟨hlower, hupper, hsticky⟩ := h
  have hsplit : ((m % 2 : Nat) : ℚ) + 2 * (m / 2 : Nat) = m := by exact_mod_cast Nat.mod_add_div m 2
  have hdigit : roundDigit (ExtendedMantissa.shiftRightOne ⟨m, r, s⟩) = (m % 2 : Nat) / 2 := by
    rcases Nat.mod_two_eq_zero_or_one m with hbit | hbit <;>
      simp [roundDigit, ExtendedMantissa.shiftRightOne, hbit]
  have hmantissa : (ExtendedMantissa.shiftRightOne ⟨m, r, s⟩).mantissa = m / 2 := rfl
  have hsticky' : (ExtendedMantissa.shiftRightOne ⟨m, r, s⟩).stickyBit = (r || s) := rfl
  rw [roundDigit] at hlower hupper hsticky
  refine ⟨?_, ?_, ?_⟩ <;> rw [hdigit, hmantissa]
  · cases r <;> simp at hlower <;> linarith
  · cases r <;> simp at hupper <;> linarith
  · rw [hsticky']
    cases r with
    | false =>
        have hhalf : x / 2 = (m / 2 : Nat) + (m % 2 : Nat) / 2 ↔ x = m := by
          constructor
          · intro hx
            linarith
          · intro hx
            linarith
        rw [hhalf]
        simpa using hsticky
    | true =>
        -- the digit that was cut off is not zero
        refine iff_of_false Bool.noConfusion fun hx => ?_
        simp at hlower
        linarith

/-- Shifts divide it by a power of two. -/
theorem shiftRight (h : IsCutOff em x) (n : Nat) : IsCutOff (em >>> n) (x / 2 ^ n) := by
  show IsCutOff (n.repeat ExtendedMantissa.shiftRightOne em) _
  induction n with
  | zero => rwa [pow_zero, div_one]
  | succ n ih =>
      rw [pow_succ, ← div_div]
      exact ih.shiftRightOne

/-- Rounding goes to the nearest integer, and to the even one of two. -/
theorem roundedMantissa (h : IsCutOff em x) :
    |(em.roundedMantissa : ℚ) - x| ≤ 1 / 2 ∧
      (|(em.roundedMantissa : ℚ) - x| = 1 / 2 → Even em.roundedMantissa) := by
  obtain ⟨m, r, s⟩ := em
  obtain ⟨hlower, hupper, hsticky⟩ := h
  cases r <;> cases s <;> simp [roundDigit] at hlower hupper hsticky
  · -- nothing is cut off
    rw [hsticky]
    show |(m : ℚ) - m| ≤ 1 / 2 ∧ (|(m : ℚ) - m| = 1 / 2 → Even m)
    rw [sub_self, abs_zero]
    exact ⟨one_half_pos.le, fun heq => absurd heq one_half_pos.ne⟩
  · -- less than a half
    show |(m : ℚ) - x| ≤ 1 / 2 ∧ (|(m : ℚ) - x| = 1 / 2 → Even m)
    rw [abs_of_nonpos (by linarith)]
    exact ⟨by linarith, fun heq => by linarith⟩
  · -- a half
    show |((m + m % 2 : Nat) : ℚ) - x| ≤ 1 / 2 ∧
      (|((m + m % 2 : Nat) : ℚ) - x| = 1 / 2 → Even (m + m % 2))
    refine ⟨?_, fun _ => by grind⟩
    rw [hsticky]
    rcases Nat.mod_two_eq_zero_or_one m with hbit | hbit <;> rw [hbit, abs_le] <;> push_cast <;>
      constructor <;> linarith
  · -- more than a half
    have hlt : (m : ℚ) + 1 / 2 < x := lt_of_le_of_ne (by linarith) fun heq => hsticky (by linarith)
    show |((m + 1 : Nat) : ℚ) - x| ≤ 1 / 2 ∧ (|((m + 1 : Nat) : ℚ) - x| = 1 / 2 → Even (m + 1))
    push_cast
    rw [abs_of_nonneg (by linarith)]
    exact ⟨by linarith, fun heq => by linarith⟩

end IsCutOff

/-- The target keeps 53 digits, and as many as the least exponent allows. -/
theorem targetExponent_eq (m : Nat) (e : ℤ) :
    Format.binary64.targetExponent (totalExponent m e) = max (m.log2 + e - 52) (-1074) := by
  have hdigits : Format.binary64.mantissaBits = 53 := by rfl
  have hleast : Format.binary64.minExponent = -1074 := by rfl
  rw [Format.targetExponent, totalExponent, hdigits, hleast]
  omega

/-- A mantissa that is not too long is left as it is. -/
theorem shiftToTargetExponent_of_lt {m : Nat} {q : ℤ} (hm : m < 2 ^ 53) (hq : -1074 ≤ q) :
    shiftToTargetExponent Format.binary64 m q .exact = (⟨m, false, false⟩, q) := by
  have hlog : m.log2 ≤ 52 := by
    by_cases hzero : m = 0
    · rw [hzero, Nat.log2_zero]
      omega
    · exact Nat.lt_succ_iff.mp ((Nat.log2_lt hzero).mpr hm)
  have hshift : (max ((m.log2 : ℤ) + q - 52) (-1074) - q).toNat = 0 := by omega
  rw [shiftToTargetExponent, targetExponent_eq, shiftToExponent, hshift, Int.natCast_zero, add_zero]
  rfl

/-- A mantissa that was rounded up to a power of two is made shorter. -/
theorem shiftToTargetExponent_carry {q : ℤ} (hq : -1074 ≤ q) :
    shiftToTargetExponent Format.binary64 (2 ^ 53) q .exact = (⟨2 ^ 52, false, false⟩, q + 1) := by
  have hshift : (max (((2 ^ 53 : Nat).log2 : ℤ) + q - 52) (-1074) - q).toNat = 1 := by
    rw [Nat.log2_two_pow]
    omega
  rw [shiftToTargetExponent, targetExponent_eq, shiftToExponent, hshift]
  rfl

/-- The parts of a rounded mantissa. -/
theorem unpackedParts_roundWithAccuracy (s : Sign) {m : Nat} {e : ℤ} {acc : Accuracy}
    {em : ExtendedMantissa} {q : ℤ}
    (h : shiftToTargetExponent Format.binary64 m e acc = (em, q)) (hq : -1074 ≤ q)
    (hupper : em.roundedMantissa ≤ 2 ^ 53) (hlower : 2 ^ 52 ≤ em.roundedMantissa ∨ q = -1074) :
    ∃ M r, unpackedParts (roundWithAccuracy Format.binary64 s m e acc) =
        .finite (s == .negative) M r ∧ IsNormal M r ∧
      (M : ℚ) * 2 ^ r = em.roundedMantissa * 2 ^ q := by
  rw [roundWithAccuracy, h]
  dsimp only
  rcases Nat.lt_or_eq_of_le hupper with hlt | heq
  · rw [shiftToTargetExponent_of_lt hlt hq]
    dsimp only
    split
    · rename_i hzero
      exact ⟨0, -1074, rfl, ⟨by decide, .inr rfl⟩, by rw [hzero, Nat.cast_zero, zero_mul, zero_mul]⟩
    · exact ⟨_, q, rfl, ⟨hlt, hlower.imp_left fun hfull => ⟨hfull, hq⟩⟩, rfl⟩
  · rw [heq, shiftToTargetExponent_carry hq]
    refine ⟨2 ^ 52, q + 1, rfl, ⟨by decide, .inl ⟨by decide, by omega⟩⟩, ?_⟩
    rw [zpow_add_one₀ two_ne_zero]
    push_cast
    ring

theorem log2_shiftLeft {m : Nat} (hm : m ≠ 0) (a : Nat) : (m <<< a).log2 = m.log2 + a := by
  have hlower : 2 ^ m.log2 ≤ m := Nat.log2_self_le hm
  have hupper : m < 2 ^ (m.log2 + 1) := Nat.lt_log2_self
  have hpos : 0 < 2 ^ a := Nat.two_pow_pos a
  rw [Nat.shiftLeft_eq, Nat.log2_eq_iff (Nat.mul_ne_zero hm (Nat.ne_of_gt hpos)), Nat.pow_add,
    Nat.add_right_comm, Nat.pow_add 2 (m.log2 + 1)]
  exact ⟨Nat.mul_le_mul_right _ hlower, Nat.mul_lt_mul_of_pos_right hupper hpos⟩

/-- The exponent of the unit of doubles of the size of a scaled mantissa. -/
def unitExponent (m : Nat) (e : ℤ) : ℤ :=
  max (m.log2 + e - 52) (-1074)

/-- A number that begins with a mantissa has 53 digits before the point in the unit of the mantissa, or
fewer at the least one. -/
theorem unitExponent_bounds {m : Nat} {e : ℤ} (hm : m ≠ 0 ∨ unitExponent m e = -1074) {x : ℚ}
    (hlow : m ≤ x) (hup : x < m + 1) :
    (2 ^ (52 + unitExponent m e) ≤ x * 2 ^ e ∨ unitExponent m e = -1074) ∧
      x * 2 ^ e < 2 ^ (53 + unitExponent m e) := by
  have hscale : (0 : ℚ) < 2 ^ e := zpow_pos two_pos e
  have hupper : x < 2 ^ ((m.log2 : ℤ) + 1) := by
    have hnext : m + 1 ≤ 2 ^ (m.log2 + 1) := Nat.lt_log2_self
    exact hup.trans_le (by exact_mod_cast hnext)
  have hmax : unitExponent m e = max ((m.log2 : ℤ) + e - 52) (-1074) := rfl
  constructor
  · by_cases hleast : unitExponent m e = -1074
    · exact .inr hleast
    · left
      have hlower : (2 : ℚ) ^ (m.log2 : ℤ) ≤ x :=
        (log2_bounds (hm.resolve_right hleast)).1.trans hlow
      calc (2 : ℚ) ^ (52 + unitExponent m e)
          = 2 ^ (m.log2 : ℤ) * 2 ^ e := by
            rw [← zpow_add₀ two_ne_zero]
            congr 1
            omega
        _ ≤ x * 2 ^ e := mul_le_mul_of_nonneg_right hlower hscale.le
  · calc x * 2 ^ e
        < 2 ^ ((m.log2 : ℤ) + 1) * 2 ^ e := mul_lt_mul_of_pos_right hupper hscale
      _ = 2 ^ ((m.log2 : ℤ) + 1 + e) := (zpow_add₀ two_ne_zero _ _).symm
      _ ≤ 2 ^ (53 + unitExponent m e) := zpow_le_zpow_right₀ one_le_two (by omega)

/-- The nearest integer, in units, is the nearest double. -/
theorem isNearestMultiple_of_rounded {x : ℚ} {M : Nat} {t : ℤ} (hleast : -1074 ≤ t)
    (herror : |(M : ℚ) - x| ≤ 1 / 2) (heven : |(M : ℚ) - x| = 1 / 2 → Even M)
    (hlower : 2 ^ 52 ≤ x ∨ t = -1074) (hupper : x < 2 ^ 53) :
    IsNearestMultiple (x * 2 ^ t) M t ∧ M ≤ 2 ^ 53 ∧ (2 ^ 52 ≤ M ∨ t = -1074) := by
  have hunit : (0 : ℚ) < 2 ^ t := zpow_pos two_pos t
  obtain ⟨hbelow, habove⟩ := abs_le.mp herror
  have hdigits : M ≤ 2 ^ 53 := by
    have hlt : (M : ℚ) < 2 ^ 53 + 1 := by linarith
    have hlt : M < 2 ^ 53 + 1 := by exact_mod_cast hlt
    omega
  -- errors are measured in units
  have hscale : |((M : ℤ) * 2 ^ t - x * 2 ^ t : ℚ)| = |(M : ℚ) - x| * 2 ^ t := by
    rw [Int.cast_natCast, ← sub_mul, abs_mul, abs_of_pos hunit]
  have hhalf : (2 : ℚ) ^ (t - 1) = 1 / 2 * 2 ^ t := by
    rw [zpow_sub_one₀ two_ne_zero]
    ring
  refine ⟨⟨hleast, ?_, ?_, ?_, ?_⟩, hdigits, ?_⟩
  · rw [Nat.abs_cast]
    exact_mod_cast hdigits
  · refine hlower.imp_left fun hlower => le_trans ?_ (le_abs_self _)
    rw [zpow_add₀ two_ne_zero]
    exact mul_le_mul_of_nonneg_right hlower hunit.le
  · rw [hscale, hhalf]
    exact mul_le_mul_of_nonneg_right herror hunit.le
  · rw [hscale, hhalf, mul_left_inj' hunit.ne', Int.even_coe_nat]
    exact heven
  · refine hlower.imp_left fun hlower => ?_
    have hlt : (2 ^ 52 : ℚ) < M + 1 := by linarith
    have hlt : 2 ^ 52 < M + 1 := by exact_mod_cast hlt
    omega

/-- A number with a sign. -/
def withSign (s : Sign) (x : ℚ) : ℚ :=
  if s == .negative then -x else x

theorem signed_eq_withSign (s : Sign) (m : Nat) (q : ℤ) :
    signed (s == .negative) m q = withSign s (m * 2 ^ q) := by
  cases s <;> simp [signed, withSign]

/-- What is nearest stays so with a sign. -/
theorem IsNearest.withSign {x v : ℚ} (h : IsNearest x v) (s : Sign) :
    IsNearest (Double.withSign s x) (Double.withSign s v) := by
  cases s with
  | negative => exact h.neg
  | positive => exact h

/-- Rounding a number that begins with a mantissa goes to the nearest double, if the mantissa is long
enough for its digits to be cut off only. -/
theorem exists_roundWithAccuracy (s : Sign) {m : Nat} {e : ℤ} {acc : Accuracy} {x : ℚ}
    (hm : m ≠ 0 ∨ unitExponent m e = -1074)
    (hcut : IsCutOff (.ofMantissaAndAccuracy m acc) x) (he : e ≤ unitExponent m e) :
    ∃ v, IsNearest (withSign s (x * 2 ^ e)) v ∧
      StandsFor (roundWithAccuracy Format.binary64 s m e acc) v := by
  obtain ⟨hlower, hupper⟩ := unitExponent_bounds hm hcut.mantissa_le hcut.lt_succ_mantissa
  have hleast : -1074 ≤ unitExponent m e := le_max_right _ _
  have hshift : shiftToTargetExponent Format.binary64 m e acc =
      (ExtendedMantissa.ofMantissaAndAccuracy m acc >>> (unitExponent m e - e).toNat,
        unitExponent m e) := by
    rw [shiftToTargetExponent, targetExponent_eq, shiftToExponent]
    exact Prod.ext rfl (by show e + ((unitExponent m e - e).toNat : ℤ) = unitExponent m e; omega)
  have hcut := hcut.shiftRight (unitExponent m e - e).toNat
  have hscaled : x / 2 ^ (unitExponent m e - e).toNat = x * 2 ^ e / 2 ^ unitExponent m e := by
    rw [← zpow_natCast, Int.toNat_of_nonneg (by omega), mul_div_assoc, ← zpow_sub₀ two_ne_zero,
      div_eq_mul_inv, ← zpow_neg, neg_sub]
  rw [hscaled] at hcut
  -- from here on the mantissa is a number of units
  generalize ExtendedMantissa.ofMantissaAndAccuracy m acc >>> (_ : Nat) = em at hshift hcut
  generalize unitExponent m e = t at hshift hcut hlower hupper hleast
  obtain ⟨herror, heven⟩ := hcut.roundedMantissa
  have hunit : (0 : ℚ) < 2 ^ t := zpow_pos two_pos t
  have hlower : 2 ^ 52 ≤ x * 2 ^ e / 2 ^ t ∨ t = -1074 := by
    refine hlower.imp_left fun hlower => ?_
    rw [le_div_iff₀ hunit]
    rwa [zpow_add₀ two_ne_zero] at hlower
  have hupper : x * 2 ^ e / 2 ^ t < 2 ^ 53 := by
    rw [div_lt_iff₀ hunit]
    rwa [zpow_add₀ two_ne_zero] at hupper
  obtain ⟨hnearest, hdigits, hfull⟩ :=
    isNearestMultiple_of_rounded hleast herror heven hlower hupper
  rw [div_mul_cancel₀ _ hunit.ne'] at hnearest
  obtain ⟨M, q, hparts, hnormal, hM⟩ :=
    unpackedParts_roundWithAccuracy s hshift hleast hdigits hfull
  have hnearest : IsNearest (x * 2 ^ e) (M * 2 ^ q) :=
    ⟨em.roundedMantissa, t, hnearest, by rw [hM, Int.cast_natCast]⟩
  have hstands := standsFor_of_parts hparts hnormal
  rw [signed_eq_withSign] at hstands
  exact ⟨_, hnearest.withSign s, hstands⟩

/-- Rounding a scaled mantissa goes to the nearest double. -/
theorem exists_round (s : Sign) {m : Nat} (hm : m ≠ 0) (e : ℤ) :
    ∃ v, IsNearest (signed (s == .negative) m e) v ∧
      StandsFor (UnpackedFloat.round Format.binary64 s m e) v := by
  -- digits are put behind a mantissa that is too short
  obtain ⟨a, ha⟩ : ∃ a, (e - unitExponent m e).toNat = a := ⟨_, rfl⟩
  have hlong : m <<< a ≠ 0 := by
    rw [Nat.shiftLeft_eq]
    exact Nat.mul_ne_zero hm (Nat.ne_of_gt (Nat.two_pow_pos a))
  have hunit : unitExponent (m <<< a) (e - a) = unitExponent m e := by
    rw [unitExponent, unitExponent, log2_shiftLeft hm]
    congr 1
    omega
  have hround : UnpackedFloat.round Format.binary64 s m e =
      roundWithAccuracy Format.binary64 s (m <<< a) (e - a) .exact := by
    rw [UnpackedFloat.round, targetExponent_eq, ← unitExponent, decreaseExponent, ha]
  have hvalue : ((m <<< a : Nat) : ℚ) * 2 ^ (e - a) = m * 2 ^ e := by
    rw [Nat.shiftLeft_eq, Nat.cast_mul, Nat.cast_pow, Nat.cast_ofNat, mul_assoc, ← zpow_natCast,
      ← zpow_add₀ two_ne_zero]
    congr 2
    omega
  obtain ⟨v, hnearest, hstands⟩ :=
    exists_roundWithAccuracy s (.inl hlong) (IsCutOff.ofNat (m <<< a)) (hunit ▸ by omega : e - a ≤ _)
  rw [hvalue, ← signed_eq_withSign] at hnearest
  exact ⟨v, hnearest, hround ▸ hstands⟩

/-! ## Packing -/

theorem toNat_packComponents (s : Sign) (k : BitVec 11) (f : BitVec 52) :
    (packComponents Format.binary64 s k f).toNat =
      (if s == .negative then twoTo 63 else 0) + (k.toNat * 2 ^ 52 + f.toNat) := by
  have hk : k.toNat < 2 ^ 11 := k.isLt
  have hf : f.toNat < 2 ^ 52 := f.isLt
  have hsign : s.toBitVec.toNat <<< 11 <<< 52 = if s == .negative then twoTo 63 else 0 := by
    cases s <;> rfl
  rw [packComponents, BitVec.toNat_append, BitVec.toNat_append,
    ← Nat.shiftLeft_add_eq_or_of_lt hf, ← Nat.shiftLeft_add_eq_or_of_lt hk,
    Nat.shiftLeft_eq _ 52, Nat.add_mul, ← hsign, Nat.shiftLeft_eq (_ <<< 11)]
  omega

/-- The pattern of a finite double; one whose exponent is too large is infinite. -/
theorem toNat_pack_finite (s : Sign) {m : Nat} {q : ℤ} (hpos : 0 < m) (hnormal : IsNormal m q) :
    (pack Format.binary64 (.finite s m q hpos)).toNat =
      (if s == .negative then twoTo 63 else 0) +
        if 971 < q then infinityBits else (q + 1074).toNat * 2 ^ 52 + m := by
  have hlt : m < 2 ^ 53 := hnormal.lt
  have hleast := hnormal.least_le
  have hexponent : (q + (Format.binary64.exponentBias : ℤ) +
      (Format.binary64.mantissaBitsWithoutImplicit : ℤ)).toNat = (q + 1075).toNat := by
    show (q + 1023 + 52).toNat = (q + 1075).toNat
    omega
  have hoverflow : 2 ^ Format.binary64.exponentBits ≤ (q + 1075).toNat + 1 ↔ 971 < q := by
    show 2048 ≤ (q + 1075).toNat + 1 ↔ 971 < q
    omega
  have hdigits : m.log2 + 1 = Format.binary64.mantissaBits ↔ ¬m < 2 ^ 52 := by
    have hlog : m.log2 < 53 := (Nat.log2_lt (Nat.ne_of_gt hpos)).mpr hlt
    show m.log2 + 1 = 53 ↔ ¬m < 2 ^ 52
    rw [← Nat.log2_lt (Nat.ne_of_gt hpos)]
    omega
  rw [UnpackedFloat.pack, hexponent]
  by_cases hlarge : 971 < q
  · rw [if_pos hlarge, if_pos (hoverflow.mpr hlarge)]
    exact toNat_packComponents s (-1) 0
  · rw [if_neg hlarge, if_neg (mt hoverflow.mp hlarge)]
    by_cases hshort : m < 2 ^ 52
    · -- fewer digits, at the least exponent
      have hfraction : (BitVec.ofNat 52 m).toNat = m := by
        rw [BitVec.toNat_ofNat, Nat.mod_eq_of_lt hshort]
      have hzero : (q + 1074).toNat = 0 := by
        have hfull := hnormal.full
        omega
      rw [if_neg fun hfull => hdigits.mp hfull hshort, toNat_packComponents, hfraction, hzero]
      rfl
    · have hfraction : (BitVec.ofNat 52 m).toNat = m - 2 ^ 52 := by
        rw [BitVec.toNat_ofNat]
        omega
      have hbiased : (BitVec.ofNat 11 (q + 1075).toNat).toNat = (q + 1074).toNat + 1 := by
        rw [BitVec.toNat_ofNat]
        omega
      rw [if_pos (hdigits.mpr hshort), toNat_packComponents, hfraction, hbiased]
      omega

/-- The two patterns of infinity. -/
theorem parts_eq_infinite {x : Float} {negative : Bool}
    (h : x.toBits.toNat = (if negative then twoTo 63 else 0) + infinityBits) :
    parts x = .infinite negative := by
  obtain ⟨sign, hsign, hnegative⟩ : ∃ sign : Nat,
      (if negative then twoTo 63 else 0) = sign * 2 ^ 63 ∧ (sign == 1) = negative ∧ sign < 2 := by
    cases negative
    · exact ⟨0, rfl, rfl, by decide⟩
    · exact ⟨1, rfl, rfl, by decide⟩
  have hinfinity : infinityBits = 2047 * 2 ^ 52 := rfl
  have hexponent : x.toBits.toNat / twoTo 52 % 2048 = 2047 := by
    show x.toBits.toNat / 2 ^ 52 % 2048 = 2047
    omega
  have hfraction : x.toBits.toNat % twoTo 52 = 0 := by
    show x.toBits.toNat % 2 ^ 52 = 0
    omega
  have hsignBit : x.toBits.toNat / twoTo 63 = sign := by
    show x.toBits.toNat / 2 ^ 63 = sign
    omega
  rw [parts, if_pos hexponent, if_pos hfraction, hsignBit, hnegative.1]

/-- Packing keeps the number, unless it is too large. -/
theorem StandsFor.value?_of_pack {u : UnpackedFloat} {v : ℚ} (h : StandsFor u v) {x : Float}
    (hx : x.toBits = .ofBitVec (pack Format.binary64 u)) :
    value? x = some v ∨
      2 ^ (1024 : ℤ) ≤ v ∧ parts x = .infinite false ∨
      v ≤ -2 ^ (1024 : ℤ) ∧ parts x = .infinite true := by
  have hbits : x.toBits.toNat = (pack Format.binary64 u).toNat := by rw [hx]; rfl
  cases h with
  | zero s =>
      have hzero := hbits.trans (toNat_packComponents s 0 0)
      rw [value?_of_toBits (by decide) (by decide) (.inr rfl) (by decide) hzero]
      exact .inl (congrArg some (signed_zero _ _))
  | @finite s m q hpos hnormal =>
      have hlt : m < 2 ^ 53 := hnormal.lt
      have hleast := hnormal.least_le
      have hinfinity : infinityBits = 2047 * 2 ^ 52 := rfl
      rw [toNat_pack_finite s hpos hnormal] at hbits
      -- the largest exponent of a double with 53 digits is 971
      by_cases hlarge : 971 < q
      · have hfull : (2 : ℚ) ^ 52 ≤ m := by
          exact_mod_cast (hnormal.full.resolve_right (by omega)).1
        have hsize : (2 : ℚ) ^ (1024 : ℤ) ≤ m * 2 ^ q := by
          have hsplit : (1024 : ℤ) = 52 + 972 := rfl
          rw [hsplit, zpow_add₀ two_ne_zero]
          exact mul_le_mul hfull (zpow_le_zpow_right₀ one_le_two (by omega))
            (zpow_nonneg zero_le_two _) (Nat.cast_nonneg m)
        rw [if_pos hlarge] at hbits
        have hparts := parts_eq_infinite hbits
        right
        cases s
        · refine .inr ⟨?_, hparts⟩
          show signed true m q ≤ _
          rw [signed, if_pos rfl, neg_one_mul]
          exact neg_le_neg hsize
        · refine .inl ⟨?_, hparts⟩
          show _ ≤ signed false m q
          rw [signed, if_neg Bool.false_ne_true, one_mul]
          exact hsize
      · rw [if_neg hlarge] at hbits
        have hfull := hnormal.full.imp_left And.left
        exact .inl (value?_of_toBits hleast hlt.le hfull (by omega) hbits)

/-! ## Sums -/

/-- An integer scaled by a power of two is rounded to the nearest double. -/
theorem exists_normalize (k e : ℤ) (s : Sign) : ∃ v, IsNearest (k * 2 ^ e) v ∧
    StandsFor (normalize Format.binary64 k e s) v := by
  unfold UnpackedFloat.normalize
  rcases lt_trichotomy k 0 with hneg | rfl | hpos
  · have hmagnitude : signed true (-k).toNat e = k * 2 ^ e := by
      have hcast : ((-k).toNat : ℚ) = -k := by
        exact_mod_cast Int.toNat_of_nonneg (by omega : 0 ≤ -k)
      simp [signed, hcast]
    rw [compare_lt_iff_lt.mpr hneg, ← hmagnitude]
    exact exists_round .negative (by omega) e
  · rw [Int.cast_zero, zero_mul]
    exact ⟨0, (StandsFor.zero s).isNearest, .zero s⟩
  · have hmagnitude : signed false k.toNat e = k * 2 ^ e := by
      have hcast : (k.toNat : ℚ) = k := by exact_mod_cast Int.toNat_of_nonneg hpos.le
      simp [signed, hcast]
    rw [compare_gt_iff_gt.mpr hpos, ← hmagnitude]
    exact exists_round .positive (by omega) e

/-- A mantissa written with a smaller exponent. -/
theorem apply_decreaseExponent (s : Sign) (m : Nat) {q t : ℤ} (h : t ≤ q) :
    ((s.apply (decreaseExponent m q t).1 : ℤ) : ℚ) * 2 ^ t = signed (s == .negative) m q := by
  have hmagnitude : ((m <<< (q - t).toNat : Nat) : ℚ) * 2 ^ t = m * 2 ^ q := by
    rw [Nat.shiftLeft_eq, mul_zpow_eq_units m h]
    rfl
  cases s
  · show ((-(m <<< (q - t).toNat : Nat) : ℤ) : ℚ) * 2 ^ t = signed true m q
    rw [Int.cast_neg, Int.cast_natCast, neg_mul, hmagnitude]
    simp [signed]
  · show (((m <<< (q - t).toNat : Nat) : ℤ) : ℚ) * 2 ^ t = signed false m q
    rw [Int.cast_natCast, hmagnitude]
    simp [signed]

section Operands

variable {a b : UnpackedFloat} {v w : ℚ}

/-- A sum of unpacked doubles stands for the nearest double to the sum. -/
theorem StandsFor.exists_add (ha : StandsFor a v) (hb : StandsFor b w) :
    ∃ r, IsNearest (v + w) r ∧ StandsFor (UnpackedFloat.add Format.binary64 a b) r := by
  cases ha with
  | zero s =>
      rw [zero_add]
      cases hb with
      | zero s' =>
          refine ⟨0, (StandsFor.zero s).isNearest, ?_⟩
          unfold UnpackedFloat.add
          dsimp only
          split
          · exact .zero _
          · exact .zero _
      | finite s' hpos hnormal =>
          have hb := StandsFor.finite s' hpos hnormal
          exact ⟨_, hb.isNearest, hb⟩
  | @finite s m q hpos hnormal =>
      cases hb with
      | zero s' =>
          have ha := StandsFor.finite s hpos hnormal
          rw [add_zero]
          exact ⟨_, ha.isNearest, ha⟩
      | @finite s' m' q' hpos' hnormal' =>
          rw [← apply_decreaseExponent s m (min_le_left q q'),
            ← apply_decreaseExponent s' m' (min_le_right q q'), ← add_mul, ← Int.cast_add]
          exact exists_normalize _ _ _

/-- A difference is the sum with the opposite number. -/
theorem StandsFor.sub_eq_add_neg (ha : StandsFor a v) (hb : StandsFor b w) :
    UnpackedFloat.sub Format.binary64 a b =
      UnpackedFloat.add Format.binary64 a (UnpackedFloat.neg b) := by
  have happly : ∀ (s : Sign) (n : ℤ), (-s).apply n = -s.apply n := by
    intro s n
    cases s
    · exact (neg_neg n).symm
    · rfl
  cases ha with
  | zero s => cases hb <;> rfl
  | finite s hpos hnormal =>
      cases hb with
      | zero s' => rfl
      | finite s' hpos' hnormal' =>
          unfold UnpackedFloat.sub UnpackedFloat.add UnpackedFloat.neg
          dsimp only
          rw [happly, ← sub_eq_add_neg]

end Operands

section Doubles

variable {x y : Float} {v w : ℚ}

/-- The sum of finite doubles is the double nearest to the sum of their numbers, or infinite. -/
theorem add_cases (hx : value? x = some v) (hy : value? y = some w) :
    ∃ r, IsNearest (v + w) r ∧ (value? (x + y) = some r ∨
      2 ^ (1024 : ℤ) ≤ r ∧ parts (x + y) = .infinite false ∨
      r ≤ -2 ^ (1024 : ℤ) ∧ parts (x + y) = .infinite true) := by
  obtain ⟨r, hnearest, hr⟩ := (standsFor_of_value hx).exists_add (standsFor_of_value hy)
  exact ⟨r, hnearest, hr.value?_of_pack rfl⟩

/-- A difference of doubles is the nearest double to it, or an infinity where that is none. -/
theorem sub_cases (hx : value? x = some v) (hy : value? y = some w) :
    ∃ r, IsNearest (v - w) r ∧ (value? (x - y) = some r ∨
      2 ^ (1024 : ℤ) ≤ r ∧ parts (x - y) = .infinite false ∨
      r ≤ -2 ^ (1024 : ℤ) ∧ parts (x - y) = .infinite true) := by
  have hdifference := (standsFor_of_value hx).sub_eq_add_neg (standsFor_of_value hy)
  obtain ⟨r, hnearest, hr⟩ := (standsFor_of_value hx).exists_add (standsFor_of_value hy).neg
  rw [← hdifference] at hr
  rw [sub_eq_add_neg]
  exact ⟨r, hnearest, hr.value?_of_pack rfl⟩

end Doubles

end SignalLab.Double
