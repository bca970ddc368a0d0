import SignalLab.Proofs.Number.Products
import SignalLab.Number.ComplexDouble
import SignalLab.Number.Elementary

/-!
# Bounds — finite doubles and how large they are

A double within a bound is finite.  The bounds of operands give those of a sum, a difference, a product
and a quotient, since rounding does not go across an integer up to `2 ^ 53`; so a computation whose
bounds are known comes to a finite double at every step.  Roots and moduli of such doubles have no fault
(`Double.IsUpTo.exists_sqrt`, `ComplexDouble.IsWithin.exists_modulus`).
-/

namespace SignalLab

/-- An integral root squared is not above the number. -/
theorem squareRoot_mul_self_le (n : Nat) : squareRoot n * squareRoot n ≤ n := by
  induction n using squareRoot.induct with
  | case1 n hsmall =>
      rw [squareRoot, if_pos hsmall]
      interval_cases n <;> decide
  | case2 n hlarge r hnext ih =>
      rw [squareRoot, if_neg hlarge, if_pos hnext]
      exact hnext
  | case3 n hlarge r hnext ih =>
      rw [squareRoot, if_neg hlarge, if_neg hnext]
      have hquarter : 4 * (n / 4) ≤ n := Nat.mul_div_le n 4
      calc 2 * squareRoot (n / 4) * (2 * squareRoot (n / 4))
          = 4 * (squareRoot (n / 4) * squareRoot (n / 4)) := by ring
        _ ≤ 4 * (n / 4) := Nat.mul_le_mul_left 4 ih
        _ ≤ n := hquarter

namespace Double

variable {x y z : Float} {m n : Nat}

/-! ## Finite doubles -/

/-- A double that stands for a number is neither NaN nor infinite. -/
theorem isNaN_isInf_of_value {v : ℚ} (h : value? x = some v) :
    x.isNaN = false ∧ x.isInf = false := by
  have hunpacked := standsFor_of_value h
  show x.toModel.unpack.isNaN = false ∧ x.toModel.unpack.isInf = false
  generalize x.toModel.unpack = u at hunpacked ⊢
  cases hunpacked with
  | zero s => exact ⟨rfl, rfl⟩
  | finite s hpos hnormal => exact ⟨rfl, rfl⟩

theorem not_lt_self (x : Float) : ¬ x < x := fun h => not_lt_of_lt h h

/-- What is no number has no place. -/
theorem place?_of_parts_nan (h : parts x = .nan) : place? x = none := by
  rw [parts_eq_unpackedParts] at h
  rw [place?]
  generalize x.toModel.unpack = u at h ⊢
  cases u with
  | notANumber => rfl
  | infinity s => cases h
  | zero s => cases h
  | finite s m q hpos => cases h

/-- A double between finite ones is finite. -/
theorem exists_value_of_le {v w : ℚ} (hy : value? y = some v) (hz : value? z = some w) (hlow : y ≤ x)
    (hup : x ≤ z) : ∃ u, value? x = some u ∧ v ≤ u ∧ u ≤ w := by
  cases hparts : parts x with
  | finite s m q =>
      have hx : value? x = some (signed s m q) := value?_eq_some_iff.mpr ⟨s, m, q, hparts, rfl⟩
      exact ⟨_, hx, (le_iff_value hy hx).mp hlow, (le_iff_value hx hz).mp hup⟩
  | infinite negative =>
      cases negative with
      | false => exact absurd (lt_of_le_of_lt hup (lt_infinite hz hparts)) (not_lt_self x)
      | true => exact absurd (lt_of_le_of_lt hlow (infinite_lt hy hparts)) (not_lt_self y)
  | nan =>
      obtain ⟨p, q, hp, hq, -⟩ := le_iff_place.mp hlow
      cases (place?_of_parts_nan hparts).symm.trans hq

/-! ## Bounds -/

/-- The double is finite, and its magnitude is at most `n`. -/
def IsWithin (n : Nat) (x : Float) : Prop :=
  ∃ v, value? x = some v ∧ |v| ≤ n

/-- The double is finite, not negative and at most `n`. -/
def IsUpTo (n : Nat) (x : Float) : Prop :=
  ∃ v, value? x = some v ∧ 0 ≤ v ∧ v ≤ n

/-- A number that rounds to a double at most as large as a bound is finite. -/
theorem IsNearest.abs_le_natCast {s r : ℚ} (h : IsNearest s r) (hn : n ≤ 2 ^ 53) (hs : |s| ≤ n) :
    |r| ≤ n := by
  have hfits : Fits |(n : ℚ)| := by
    rw [Nat.abs_cast]
    exact fits_natCast hn
  have hfits' : Fits |(-n : ℚ)| := by rwa [abs_neg]
  obtain ⟨hlower, hupper⟩ := abs_le.mp hs
  exact abs_le.mpr ⟨h.ge hfits' hlower, h.le hfits hupper⟩

/-- What an operation comes to, if it is nearest to a number within the bound, or infinite. -/
theorem value_of_cases {s r : ℚ} (hnearest : IsNearest s r)
    (hcases : value? x = some r ∨ 2 ^ (1024 : ℤ) ≤ r ∧ parts x = .infinite false ∨
      r ≤ -2 ^ (1024 : ℤ) ∧ parts x = .infinite true)
    (hn : n ≤ 2 ^ 53) (hs : |s| ≤ n) : value? x = some r ∧ |r| ≤ n := by
  have hr := hnearest.abs_le_natCast hn hs
  have hlarge : (n : ℚ) < 2 ^ (1024 : ℤ) := by
    have hn : (n : ℚ) ≤ 2 ^ (53 : ℤ) := by exact_mod_cast hn
    exact hn.trans_lt (zpow_lt_zpow_right₀ one_lt_two (by decide))
  obtain ⟨hlower, hupper⟩ := abs_le.mp hr
  rcases hcases with hvalue | ⟨habove, -⟩ | ⟨hbelow, -⟩
  · exact ⟨hvalue, hr⟩
  · exact absurd (habove.trans hupper) hlarge.not_ge
  · exact absurd (neg_le_neg_iff.mp (hlower.trans hbelow)) hlarge.not_ge

/-- A natural number is within itself. -/
theorem isWithin_ofNat (h : n ≤ 2 ^ 53) : IsWithin n (ofNat n) :=
  ⟨n, value?_ofNat h, (Nat.abs_cast n).le⟩

/-- Zero is within nothing. -/
theorem isWithin_zero : IsWithin 0 0.0 :=
  ⟨0, value?_zero, by rw [abs_zero, Nat.cast_zero]⟩

namespace IsWithin

/-- A bound can be loosened. -/
theorem mono (h : IsWithin m x) (hmn : m ≤ n) : IsWithin n x := by
  obtain ⟨v, hv, hm⟩ := h
  exact ⟨v, hv, hm.trans (Nat.cast_le.mpr hmn)⟩

/-- What is within a bound is finite. -/
theorem isFinite (h : IsWithin n x) : x.isFinite = true := by
  obtain ⟨v, hv, -⟩ := h
  exact isFinite_iff_value.mpr ⟨v, hv⟩

/-- So it is no infinity. -/
theorem isInf (h : IsWithin n x) : x.isInf = false := by
  obtain ⟨v, hv, -⟩ := h
  exact (isNaN_isInf_of_value hv).2

/-- A change of sign stays within the bound. -/
theorem neg (h : IsWithin n x) : IsWithin n (-x) := by
  obtain ⟨v, hv, hn⟩ := h
  exact ⟨-v, value?_neg hv, (abs_neg v).trans_le hn⟩

/-- So does the magnitude. -/
theorem abs (h : IsWithin n x) : IsWithin n x.abs := by
  obtain ⟨v, hv, hn⟩ := h
  exact ⟨|v|, value?_abs hv, (abs_abs v).trans_le hn⟩

/-- Bounds of summands add up. -/
theorem add (hx : IsWithin m x) (hy : IsWithin n y) (hmn : m + n ≤ 2 ^ 53) :
    IsWithin (m + n) (x + y) := by
  obtain ⟨v, hv, hm⟩ := hx
  obtain ⟨w, hw, hn⟩ := hy
  obtain ⟨r, hnearest, hr⟩ := add_cases hv hw
  have hsum : |v + w| ≤ (m + n : Nat) := by
    rw [Nat.cast_add]
    exact (abs_add_le v w).trans (add_le_add hm hn)
  exact ⟨r, value_of_cases hnearest hr hmn hsum⟩

/-- So do bounds of a difference. -/
theorem sub (hx : IsWithin m x) (hy : IsWithin n y) (hmn : m + n ≤ 2 ^ 53) :
    IsWithin (m + n) (x - y) := by
  obtain ⟨v, hv, hm⟩ := hx
  obtain ⟨w, hw, hn⟩ := hy
  obtain ⟨r, hnearest, hr⟩ := sub_cases hv hw
  have hdifference : |v - w| ≤ (m + n : Nat) := by
    rw [Nat.cast_add]
    exact (abs_sub v w).trans (add_le_add hm hn)
  exact ⟨r, value_of_cases hnearest hr hmn hdifference⟩

/-- Bounds of factors multiply. -/
theorem mul (hx : IsWithin m x) (hy : IsWithin n y) (hmn : m * n ≤ 2 ^ 53) :
    IsWithin (m * n) (x * y) := by
  obtain ⟨v, hv, hm⟩ := hx
  obtain ⟨w, hw, hn⟩ := hy
  obtain ⟨r, hnearest, hr⟩ := mul_cases hv hw
  have hproduct : |v * w| ≤ (m * n : Nat) := by
    rw [abs_mul, Nat.cast_mul]
    exact mul_le_mul hm hn (abs_nonneg w) (Nat.cast_nonneg m)
  exact ⟨r, value_of_cases hnearest hr hmn hproduct⟩

/-- Dividing by a double that is one or more does not make the magnitude larger. -/
theorem div (hx : IsWithin n x) {w : ℚ} (hy : value? y = some w) (hw : 1 ≤ w) (hn : n ≤ 2 ^ 53) :
    IsWithin n (x / y) := by
  obtain ⟨v, hv, hvn⟩ := hx
  have hpos : 0 < w := one_pos.trans_le hw
  obtain ⟨r, hnearest, hr⟩ := div_cases hv hy hpos.ne'
  have hquotient : |v / w| ≤ n := by
    rw [abs_div, abs_of_pos hpos]
    exact (div_le_self (abs_nonneg v) hw).trans hvn
  exact ⟨r, value_of_cases hnearest hr hn hquotient⟩

/-- Dividing by a number of things. -/
theorem div_ofNat (hx : IsWithin n x) {k : Nat} (hk : 1 ≤ k) (hk' : k ≤ 2 ^ 53)
    (hn : n ≤ 2 ^ 53) : IsWithin n (x / ofNat k) :=
  hx.div (value?_ofNat hk') (by exact_mod_cast hk) hn

end IsWithin

/-- What lies between an integer and its opposite is within that bound. -/
theorem isWithin_of_le (hn : n ≤ 2 ^ 53) (hlow : -ofNat n ≤ x) (hup : x ≤ ofNat n) :
    IsWithin n x := by
  have hbound : value? (ofNat n) = some (n : ℚ) := value?_ofNat hn
  obtain ⟨v, hv, hlow, hup⟩ := exists_value_of_le (value?_neg hbound) hbound hlow hup
  exact ⟨v, hv, abs_le.mpr ⟨hlow, hup⟩⟩

/-- Zero is a double, so rounding does not change a sign. -/
theorem IsNearest.nonneg {s r : ℚ} (h : IsNearest s r) (hs : 0 ≤ s) : 0 ≤ r := by
  have hzero : Fits |(0 : ℚ)| := by
    rw [abs_zero, ← Nat.cast_zero]
    exact fits_natCast (by decide)
  exact h.ge hzero hs

/-- A square is not negative. -/
theorem IsWithin.mul_self (h : IsWithin n x) (hn : n * n ≤ 2 ^ 53) : IsUpTo (n * n) (x * x) := by
  obtain ⟨v, hv, hvn⟩ := h
  obtain ⟨r, hnearest, hr⟩ := mul_cases hv hv
  have hsquare : |v * v| ≤ (n * n : Nat) := by
    rw [abs_mul, Nat.cast_mul]
    exact mul_self_le_mul_self (abs_nonneg v) hvn
  obtain ⟨hvalue, hle⟩ := value_of_cases hnearest hr hn hsquare
  exact ⟨r, hvalue, hnearest.nonneg (mul_self_nonneg v), (abs_le.mp hle).2⟩

namespace IsUpTo

/-- Upper bounds add up. -/
theorem add (hx : IsUpTo m x) (hy : IsUpTo n y) (hmn : m + n ≤ 2 ^ 53) :
    IsUpTo (m + n) (x + y) := by
  obtain ⟨v, hv, hvpos, hm⟩ := hx
  obtain ⟨w, hw, hwpos, hn⟩ := hy
  obtain ⟨r, hnearest, hr⟩ := add_cases hv hw
  have hpos : 0 ≤ v + w := add_nonneg hvpos hwpos
  have hsum : |v + w| ≤ (m + n : Nat) := by
    rw [abs_of_nonneg hpos, Nat.cast_add]
    exact add_le_add hm hn
  obtain ⟨hvalue, hle⟩ := value_of_cases hnearest hr hmn hsum
  exact ⟨r, hvalue, hnearest.nonneg hpos, (abs_le.mp hle).2⟩

/-- A division by a positive integer stays below the bound. -/
theorem div_ofNat (hx : IsUpTo n x) {k : Nat} (hk : 1 ≤ k) (hk' : k ≤ 2 ^ 53) (hn : n ≤ 2 ^ 53) :
    IsUpTo n (x / ofNat k) := by
  obtain ⟨v, hv, hvpos, hvn⟩ := hx
  have hone : (1 : ℚ) ≤ k := by exact_mod_cast hk
  have hpos : (0 : ℚ) < k := one_pos.trans_le hone
  obtain ⟨r, hnearest, hr⟩ := div_cases hv (value?_ofNat hk') hpos.ne'
  have hnonneg : 0 ≤ v / k := div_nonneg hvpos hpos.le
  have hquotient : |v / k| ≤ n := by
    rw [abs_of_nonneg hnonneg]
    exact (div_le_self hvpos hone).trans hvn
  obtain ⟨hvalue, hle⟩ := value_of_cases hnearest hr hn hquotient
  exact ⟨r, hvalue, hnearest.nonneg hnonneg, (abs_le.mp hle).2⟩

/-- The root of a finite double that is not negative has no fault. -/
theorem exists_sqrt (h : IsUpTo n x) : ∃ y, sqrt x = .ok y := by
  obtain ⟨v, hv, hnonneg, -⟩ := h
  obtain ⟨w, hw⟩ := exists_value_sqrt hv hnonneg
  obtain ⟨hnan, hinf⟩ := isNaN_isInf_of_value hw
  refine ⟨Float.sqrt x, ?_⟩
  rw [sqrt, checked, hnan, hinf, Bool.false_and, Bool.false_and]
  rfl

end IsUpTo

/-! ## Moduli -/

/-- A scaled mantissa below the overflow has a finite double. -/
theorem exists_value_nearestScaled {M : Nat} {q : ℤ} (h : (M : ℚ) * 2 ^ q < overflow)
    (negative : Bool) : ∃ r, value? (nearestScaled negative M q) = some r := by
  rw [magnitude_eq_div] at h
  obtain ⟨r, -, hr⟩ := exists_value_nearest (Nat.two_pow_pos (-q).toNat).ne' h negative
  exact ⟨r, hr⟩

/-- A side is not longer than the sum of the other two, in units of the root. -/
theorem squareRoot_sum_le (a b : Nat) :
    squareRoot ((a * a + b * b) * twoTo 120) ≤ (a + b) * 2 ^ 60 := by
  rw [← Nat.mul_self_le_mul_self_iff]
  calc squareRoot ((a * a + b * b) * twoTo 120) * squareRoot ((a * a + b * b) * twoTo 120)
      ≤ (a * a + b * b) * 2 ^ 120 := squareRoot_mul_self_le _
    _ ≤ ((a + b) * (a + b)) * 2 ^ 120 := Nat.mul_le_mul_right _ (by nlinarith)
    _ = (a + b) * 2 ^ 60 * ((a + b) * 2 ^ 60) := by ring

/-- The length of a vector is finite unless its parts are among the largest doubles. -/
theorem exists_value_hypot {v w : ℚ} (hx : value? x = some v) (hy : value? y = some w)
    (h : |v| + |w| ≤ 2 ^ (1023 : ℤ)) : ∃ r, value? (hypot x y) = some r := by
  obtain ⟨s, m, q, hparts, rfl⟩ := value?_eq_some_iff.mp hx
  obtain ⟨s', m', q', hparts', rfl⟩ := value?_eq_some_iff.mp hy
  obtain ⟨t, ht⟩ : ∃ t, min q q' = t := ⟨_, rfl⟩
  have htop : t ≤ 971 := ht ▸ (min_le_left q q').trans (exponent_le hparts)
  rw [abs_signed, abs_signed, mul_zpow_eq_units m (ht ▸ min_le_left q q'),
    mul_zpow_eq_units m' (ht ▸ min_le_right q q'), ← add_mul, ← Nat.cast_add] at h
  rw [hypot, hparts, hparts']
  dsimp only
  rw [ht]
  -- the sides of the vector as integers in one unit
  generalize m * twoTo (q - t).toNat = a at h ⊢
  generalize m' * twoTo (q' - t).toNat = b at h ⊢
  obtain ⟨root, hroot⟩ : ∃ root, squareRoot ((a * a + b * b) * twoTo 120) = root := ⟨_, rfl⟩
  have hlength : root ≤ (a + b) * 2 ^ 60 := hroot ▸ squareRoot_sum_le a b
  rw [hroot]
  refine exists_value_nearestScaled ?_ false
  obtain ⟨last, hlast, hdigit⟩ : ∃ last : Nat,
      (if root * root = (a * a + b * b) * twoTo 120 then 0 else 1) = last ∧ last ≤ 1 := by
    split
    · exact ⟨0, rfl, by decide⟩
    · exact ⟨1, rfl, by decide⟩
  rw [hlast]
  have hmantissa : ((2 * root + last : Nat) : ℚ) ≤ (a + b : Nat) * 2 ^ (61 : ℤ) + 1 := by
    have hle : 2 * root + last ≤ (a + b) * 2 ^ 61 + 1 := by omega
    exact_mod_cast hle
  have hunit : (2 : ℚ) ^ (t - 61) ≤ 2 ^ (1022 : ℤ) := zpow_le_zpow_right₀ one_le_two (by omega)
  calc ((2 * root + last : Nat) : ℚ) * 2 ^ (t - 61)
      ≤ ((a + b : Nat) * 2 ^ (61 : ℤ) + 1) * 2 ^ (t - 61) :=
        mul_le_mul_of_nonneg_right hmantissa (zpow_nonneg zero_le_two _)
    _ = (a + b : Nat) * 2 ^ t + 2 ^ (t - 61) := by
        rw [add_mul, one_mul, mul_assoc, ← zpow_add₀ two_ne_zero, add_sub_cancel]
    _ ≤ 2 ^ (1023 : ℤ) + 2 ^ (1022 : ℤ) := add_le_add h hunit
    _ < overflow := lt_overflow

end Double

/-! ## Complex doubles -/

namespace ComplexDouble

/-- Both parts are within a bound. -/
structure IsWithin (n : Nat) (z : ComplexDouble) : Prop where
  re : Double.IsWithin n z.re
  im : Double.IsWithin n z.im

namespace IsWithin

variable {z w : ComplexDouble} {m n : Nat}

/-- A conjugate is within the bound. -/
theorem conjugate (h : IsWithin n z) : IsWithin n z.conjugate :=
  ⟨h.re, h.im.neg⟩

/-- A difference of bins is within the sum of their bounds. -/
theorem sub (hz : IsWithin m z) (hw : IsWithin n w) (hmn : m + n ≤ 2 ^ 53) :
    IsWithin (m + n) (z.sub w) :=
  ⟨hz.re.sub hw.re hmn, hz.im.sub hw.im hmn⟩

/-- The modulus of a complex number whose parts are within a bound has no fault. -/
theorem exists_modulus (h : IsWithin n z) (hn : n ≤ 2 ^ 53) : ∃ d, z.modulus = .ok d := by
  obtain ⟨v, hv, hvn⟩ := h.re
  obtain ⟨w, hw, hwn⟩ := h.im
  have hsum : |v| + |w| ≤ 2 ^ (1023 : ℤ) := by
    have hn : (n : ℚ) ≤ 2 ^ (1022 : ℤ) := by
      have hle : (n : ℚ) ≤ 2 ^ (53 : ℤ) := by exact_mod_cast hn
      exact hle.trans (zpow_le_zpow_right₀ one_le_two (by decide))
    have hdouble : (2 : ℚ) ^ (1023 : ℤ) = 2 ^ (1022 : ℤ) + 2 ^ (1022 : ℤ) := by
      rw [← two_mul]
      exact zpow_one_add₀ two_ne_zero 1022
    rw [hdouble]
    exact add_le_add (hvn.trans hn) (hwn.trans hn)
  obtain ⟨r, hr⟩ := Double.exists_value_hypot hv hw hsum
  have hfinite : (Double.hypot z.re z.im).isFinite = true := Double.isFinite_iff_value.mpr ⟨r, hr⟩
  refine ⟨Double.hypot z.re z.im, ?_⟩
  rw [modulus, hfinite, Bool.not_true, Bool.and_false]
  rfl

end IsWithin

end ComplexDouble

/-! ## Folds -/

/-- A fold whose bound grows by the same amount at every step, below a limit. -/
theorem bound_foldl {α β : Type} {P : Nat → β → Prop} {f : β → α → β} {step limit : Nat}
    {xs : List α}
    (hstep : ∀ n b, P n b → n + step ≤ limit → ∀ a ∈ xs, P (n + step) (f b a)) {n : Nat} {b : β}
    (h : P n b) (hlimit : n + xs.length * step ≤ limit) :
    P (n + xs.length * step) (xs.foldl f b) := by
  induction xs generalizing n b with
  | nil => simpa using h
  | cons x xs ih =>
      have hcount : n + (x :: xs).length * step = n + step + xs.length * step := by
        rw [List.length_cons]
        ring
      rw [hcount] at hlimit ⊢
      have hfirst : P (n + step) (f b x) := hstep n b h (by omega) x List.mem_cons_self
      exact ih (fun n b hb hn a ha => hstep n b hb hn a (List.mem_cons_of_mem x ha)) hfirst hlimit

end SignalLab
