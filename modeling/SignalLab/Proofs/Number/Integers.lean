import SignalLab.Proofs.Number.NearestQuotients

/-!
# Integers — doubles that stand for whole numbers

An integer of magnitude up to `2 ^ 53` is a double (`Double.exists_ofInt_eq`), and a double that
stands for an integer is rounded to it in every direction (`Double.toInteger_of_intCast`); toward zero
any other one loses what stands behind its point (`Double.toInteger_towardZero_iff`).  The sign of a
double can be flipped, dropped or copied without rounding.
-/

namespace SignalLab

namespace Double

open Float.Model Float.Model.UnpackedFloat

section Doubles

variable {x y : Float} {v w : ℚ}

/-! ## Signs -/

/-- A double packed from one that stands for a finite double's number stands for it too. -/
theorem StandsFor.value?_of_pack_of_abs_lt {u : UnpackedFloat} (h : StandsFor u v)
    (hx : x.toBits = .ofBitVec (pack Format.binary64 u)) (hv : |v| < 2 ^ (1024 : ℤ)) :
    value? x = some v := by
  obtain ⟨hlower, hupper⟩ := abs_lt.mp hv
  rcases h.value?_of_pack hx with hvalue | ⟨hlarge, -⟩ | ⟨hlarge, -⟩
  · exact hvalue
  · exact absurd hlarge hupper.not_ge
  · exact absurd hlarge hlower.not_ge

theorem value?_neg (hx : value? x = some v) : value? (-x) = some (-v) := by
  refine (standsFor_of_value hx).neg.value?_of_pack_of_abs_lt rfl ?_
  rw [abs_neg]
  exact abs_lt_of_value hx

theorem StandsFor.abs {u : UnpackedFloat} (h : StandsFor u v) :
    StandsFor (UnpackedFloat.abs u) |v| := by
  cases h with
  | zero s =>
      rw [abs_zero]
      exact .zero .positive
  | @finite s m q hpos hnormal =>
      have hpositive : signed false m q = m * 2 ^ q := by simp [signed]
      rw [abs_signed, ← hpositive]
      exact .finite .positive hpos hnormal

theorem value?_abs (hx : value? x = some v) : value? x.abs = some |v| := by
  refine (standsFor_of_value hx).abs.value?_of_pack_of_abs_lt rfl ?_
  rw [abs_abs]
  exact abs_lt_of_value hx

theorem isNegative_of_parts {negative : Bool} {m : Nat} {q : Int}
    (h : parts x = .finite negative m q) : isNegative x = negative := by
  have hlt : x.toBits.toNat < 2 ^ 64 := x.toBits.toNat_lt
  have hsign : (x.toBits.toNat / twoTo 63 == 1) = negative := by
    rw [parts] at h
    split at h
    · split at h <;> cases h
    · split at h <;> (cases h; rfl)
  rw [isNegative, ← hsign, Bool.eq_iff_iff, decide_eq_true_iff, beq_iff_eq]
  show 2 ^ 63 ≤ x.toBits.toNat ↔ x.toBits.toNat / 2 ^ 63 = 1
  omega

/-- The sign bit of a double that does not stand for zero is the sign of its number. -/
theorem isNegative_eq_decide (hx : value? x = some v) (hv : v ≠ 0) :
    isNegative x = decide (v < 0) := by
  obtain ⟨negative, m, q, hparts, rfl⟩ := value?_eq_some_iff.mp hx
  have hm : m ≠ 0 := by
    rintro rfl
    exact hv (signed_zero _ _)
  have hpos : (0 : ℚ) < m * 2 ^ q :=
    mul_pos (Nat.cast_pos.mpr (Nat.pos_of_ne_zero hm)) (zpow_pos two_pos q)
  rw [isNegative_of_parts hparts]
  cases negative with
  | true => exact (decide_eq_true (by simpa [signed] using hpos)).symm
  | false => exact (decide_eq_false (by simpa [signed] using hpos.le)).symm

/-- Copying the sign of a double to a magnitude. -/
theorem value?_copySign (hx : value? x = some |v|) (hy : value? y = some w)
    (hsign : 0 < v * w ∨ v = 0) : value? (copySign x y) = some v := by
  have hneg := value?_neg hx
  rw [copySign]
  rcases hsign with hsign | rfl
  · have hv : |v| ≠ 0 := abs_ne_zero.mpr (left_ne_zero_of_mul hsign.ne')
    have hpositive : isNegative x = false := by
      rw [isNegative_eq_decide hx hv, decide_eq_false (abs_nonneg v).not_gt]
    rw [hpositive, isNegative_eq_decide hy (right_ne_zero_of_mul hsign.ne')]
    rcases pos_and_pos_or_neg_and_neg_of_mul_pos hsign with ⟨hv, hw⟩ | ⟨hv, hw⟩
    · rw [decide_eq_false hw.not_gt, beq_self_eq_true, if_pos rfl, hx, abs_of_pos hv]
    · rw [decide_eq_true hw, if_neg (by decide), hneg, abs_of_neg hv, neg_neg]
  · rw [abs_zero] at hx hneg
    rw [neg_zero] at hneg
    split
    · exact hx
    · exact hneg

/-! ## Rounding to integers -/

/-- Rounding down is rounding the opposite number up. -/
theorem integer_down (s : Bool) (m : Nat) (q : Int) :
    Rounding.down.integer s m q = ⌊signed s m q⌋ := by
  have hinteger : Rounding.down.integer s m q = -Rounding.up.integer (!s) m q := by
    cases s <;> simp [Rounding.integer]
  have hsigned : signed (!s) m q = -signed s m q := by
    cases s <;> simp [signed]
  rw [hinteger, integer_up, hsigned, Int.ceil_neg, neg_neg]

/-- Rounding down goes to the greatest integer that is not above. -/
theorem toInteger_down (hx : value? x = some v) : toInteger .down x = .ok ⌊v⌋ := by
  obtain ⟨s, m, q, hparts, rfl⟩ := value?_eq_some_iff.mp hx
  rw [toInteger, hparts, ← integer_down]

/-- A double that stands for an integer is rounded to it. -/
theorem toInteger_of_intCast {n : ℤ} (hx : value? x = some (n : ℚ)) (mode : Rounding) :
    toInteger mode x = .ok n := by
  have hdown : toInteger .down x = .ok n := by rw [toInteger_down hx, Int.floor_intCast]
  have hup : toInteger .up x = .ok n := by rw [toInteger_up hx, Int.ceil_intCast]
  cases mode with
  | down => exact hdown
  | up => exact hup
  | towardZero =>
      -- toward zero is up below it and down above it
      obtain ⟨s, m, q, hparts, -⟩ := value?_eq_some_iff.mp hx
      rw [toInteger, hparts] at hdown hup ⊢
      cases s with
      | true => exact hup
      | false => exact hdown

/-! ## Cutting off -/

/-- Whether a number is cut to an integer: it loses less than one, and keeps its sign. -/
structure IsTruncated (v : ℚ) (n : ℤ) : Prop where
  small : |(n : ℚ)| ≤ |v|
  near : |v| < |(n : ℚ)| + 1
  sign : 0 ≤ n * v

theorem isTruncated_iff_floor {n : ℤ} (hv : 0 ≤ v) : IsTruncated v n ↔ ⌊v⌋ = n := by
  rw [Int.floor_eq_iff]
  constructor
  · rintro ⟨hsmall, hnear, hsign⟩
    rw [abs_of_nonneg hv] at hsmall hnear
    have hn : 0 ≤ (n : ℚ) := by
      rcases hv.eq_or_lt with rfl | hpos
      · exact (abs_nonpos_iff.mp hsmall).ge
      · exact nonneg_of_mul_nonneg_left hsign hpos
    rw [abs_of_nonneg hn] at hsmall hnear
    exact ⟨hsmall, hnear⟩
  · rintro ⟨hle, hlt⟩
    have hn : 0 ≤ (n : ℚ) := by
      have hneg : (-1 : ℚ) < n := by linarith
      have hneg : -1 < n := by exact_mod_cast hneg
      exact Int.cast_nonneg (by omega)
    refine ⟨?_, ?_, mul_nonneg hn hv⟩
    · rwa [abs_of_nonneg hn, abs_of_nonneg hv]
    · rwa [abs_of_nonneg hn, abs_of_nonneg hv]

/-- An integer is cut to itself. -/
theorem isTruncated_intCast (n : ℤ) : IsTruncated n n where
  small := le_rfl
  near := lt_add_one _
  sign := mul_self_nonneg _

/-- Below zero the magnitude is cut. -/
theorem isTruncated_neg_iff {n : ℤ} : IsTruncated (-v) n ↔ IsTruncated v (-n) := by
  constructor
  · rintro ⟨hsmall, hnear, hsign⟩
    refine ⟨?_, ?_, ?_⟩
    · rwa [Int.cast_neg, abs_neg, ← abs_neg v]
    · rwa [Int.cast_neg, abs_neg, ← abs_neg v]
    · rwa [Int.cast_neg, neg_mul, ← mul_neg]
  · rintro ⟨hsmall, hnear, hsign⟩
    rw [Int.cast_neg, abs_neg] at hsmall hnear
    refine ⟨?_, ?_, ?_⟩
    · rwa [abs_neg]
    · rwa [abs_neg]
    · rwa [mul_neg, ← neg_mul, ← Int.cast_neg]

/-- Rounding toward zero cuts the digits behind the point off. -/
theorem toInteger_towardZero_iff {n : ℤ} :
    toInteger .towardZero x = .ok n ↔ ∃ v, value? x = some v ∧ IsTruncated v n := by
  rw [toInteger, value?]
  cases parts x with
  | finite s m q =>
      have hpos : 0 ≤ signed false m q := by
        rw [signed, if_neg Bool.false_ne_true, one_mul]
        positivity
      have hdown := integer_down false m q
      dsimp only
      simp only [Except.ok.injEq, Option.some.injEq, exists_eq_left']
      cases s with
      | false =>
          rw [isTruncated_iff_floor hpos, ← hdown]
          rfl
      | true =>
          have hsigned : signed true m q = -signed false m q := by simp [signed]
          have hinteger : Rounding.towardZero.integer true m q = -Rounding.down.integer false m q := by
            simp [Rounding.integer]
          rw [hsigned, isTruncated_neg_iff, isTruncated_iff_floor hpos, ← hdown, hinteger,
            neg_eq_iff_eq_neg]
  | infinite s => exact iff_of_false (fun h => by cases h) (by rintro ⟨v, ⟨⟩, -⟩)
  | nan => exact iff_of_false (fun h => by cases h) (by rintro ⟨v, ⟨⟩, -⟩)

/-- A double is integral if it stands for an integer. -/
theorem isIntegral_iff : isIntegral x = true ↔ ∃ n : ℤ, value? x = some (n : ℚ) := by
  rw [isIntegral, value?]
  cases parts x with
  | finite s m q =>
      have hden : (0 : ℚ) < (twoTo (-q).toNat : ℕ) := Nat.cast_pos.mpr (Nat.two_pow_pos _)
      -- the sign does not matter, and a magnitude is an integer if its denominator is cancelled
      have hmagnitude : m * twoTo q.toNat % twoTo (-q).toNat = 0 ↔ ∃ n : ℤ, (m : ℚ) * 2 ^ q = n := by
        rw [magnitude_eq_div, ← Nat.dvd_iff_mod_eq_zero]
        constructor
        · rintro ⟨k, hk⟩
          refine ⟨k, ?_⟩
          rw [hk, Nat.cast_mul, mul_div_cancel_left₀ _ hden.ne', Int.cast_natCast]
        · rintro ⟨n, hn⟩
          rw [div_eq_iff hden.ne'] at hn
          exact Int.natCast_dvd_natCast.mp ⟨n, by exact_mod_cast hn.trans (mul_comm _ _)⟩
      dsimp only
      rw [beq_iff_eq, hmagnitude]
      simp only [Option.some.injEq]
      cases s with
      | false => simp [signed]
      | true =>
          constructor
          · rintro ⟨n, hn⟩
            exact ⟨-n, by simp [signed, hn]⟩
          · rintro ⟨n, hn⟩
            refine ⟨-n, ?_⟩
            rw [Int.cast_neg, ← hn]
            simp [signed]
  | infinite s => simp
  | nan => simp

end Doubles

/-! ## Integers made doubles -/

/-- An integer up to `2 ^ 53` in magnitude is a double. -/
theorem exists_ofInt_eq {n : ℤ} (hn : n.natAbs ≤ 2 ^ 53) :
    ∃ x, ofInt n = .ok x ∧ value? x = some (n : ℚ) := by
  have hsize : |n| ≤ 2 ^ 53 := by
    rw [Int.abs_eq_natAbs]
    exact_mod_cast hn
  have hsize' : |(n : ℚ)| ≤ 2 ^ (53 : ℤ) := by exact_mod_cast hsize
  obtain ⟨x, v, hx, hv, hnearest⟩ := exists_ofInt_nearest (lt_overflow_of_le hsize')
  rw [hnearest.eq_of_fits (fits_intCast hsize)] at hv
  exact ⟨x, hx, hv⟩

end Double

end SignalLab
