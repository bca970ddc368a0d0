import SignalLab.Proofs.Number.Differences
import SignalLab.Spectrum.Harmonics

/-!
# Turns — moving a double by a full turn

Half a turn is the double nearest to `π`; a difference of doubles is rounded to more than it exactly
if it exceeds the `tolerance` (`Spectrum.pi_lt_sub_iff`).  Subtracting a full turn from a double of
magnitude up to `2 ^ 56` takes it down by at least two (`Spectrum.turn_le`); beyond, a turn is less
than half a unit and the double stays where it is (`Spectrum.turn_eq`).  A turn up, from more than
half a turn below a double of magnitude up to 60, ends at most half a turn above it
(`Spectrum.turn_lands`).
-/

namespace SignalLab.Spectrum

open Double

/-! ## Half a turn and a full turn -/

/-- The number of half a turn. -/
def halfTurn : ℚ := 884279719003555 / 2 ^ 48

/-- The number of a full turn. -/
def fullTurn : ℚ := 884279719003555 / 2 ^ 47

/-- The largest difference that is rounded to half a turn. -/
def tolerance : ℚ := halfTurn + 1 / 2 ^ 52

/-- The half turn is between three and sixteen fifths. -/
theorem halfTurn_bounds : 3 < halfTurn ∧ halfTurn < 16 / 5 := by
  rw [halfTurn]
  norm_num

/-- A full turn is two half turns, without any rounding. -/
theorem fullTurn_eq : fullTurn = halfTurn + halfTurn := by
  rw [fullTurn, halfTurn]
  norm_num

theorem tolerance_lt : tolerance < 16 / 5 := by
  rw [tolerance, halfTurn]
  norm_num

/-- The largest difference that is not turned away is the half turn. -/
theorem value?_pi : value? Double.pi = some halfTurn :=
  value?_eq_some_iff.mpr ⟨false, 7074237752028440, -51, by decide, by norm_num [signed, halfTurn]⟩

theorem value?_neg_pi : value? (-Double.pi) = some (-halfTurn) :=
  value?_eq_some_iff.mpr ⟨true, 7074237752028440, -51, by decide, by norm_num [signed, halfTurn]⟩

/-- What is added or taken away is the full turn. -/
theorem value?_turn : value? turn = some fullTurn :=
  value?_eq_some_iff.mpr ⟨false, 7074237752028440, -50, by decide, by norm_num [signed, fullTurn]⟩

/-- Half a turn has a last digit, and so does every unit that is finer. -/
theorem isMultiple_halfTurn {q : ℤ} (hq : q ≤ -48) : IsMultiple q halfTurn :=
  IsMultiple.of_le ⟨884279719003555, by norm_num [halfTurn]⟩ hq

/-- The full turn is a multiple of small units. -/
theorem isMultiple_fullTurn {q : ℤ} (hq : q ≤ -47) : IsMultiple q fullTurn :=
  IsMultiple.of_le ⟨884279719003555, by norm_num [fullTurn]⟩ hq

/-! ## Differences of more than half a turn -/

section Rounded

variable {s r : ℚ}

/-- A difference beyond the tolerance is rounded beyond the half turn. -/
theorem halfTurn_lt_of_tolerance_lt (h : IsNearest s r) (hs : tolerance < s) : halfTurn < r := by
  have hnext : Fits |halfTurn + 1 / 2 ^ 51| := by
    have := fits_multiple (k := 7074237752028441) (q := -51) (by decide) (by decide)
    norm_num [halfTurn] at this ⊢
    exact this
  rw [tolerance] at hs
  by_contra hle
  rcases le_or_gt s (halfTurn + 1 / 2 ^ 51) with hnear | hfar
  · have hclosest := h.closest hnext
    rw [abs_of_nonpos (by linarith), abs_of_nonneg (by linarith)] at hclosest
    linarith
  · linarith [h.ge hnext hfar.le]

/-- A difference half way to the double above half a turn goes to half a turn, the even one. -/
theorem tolerance_lt_of_halfTurn_lt (h : IsNearest s r) (hr : halfTurn < r) : tolerance < s := by
  have hhalf : Fits |halfTurn| := fits_of_value value?_pi
  obtain ⟨hlower, -⟩ := halfTurn_bounds
  by_contra hle
  rw [tolerance] at hle
  have habove : halfTurn < s := by
    by_contra hbelow
    exact hr.not_ge (h.le hhalf (not_lt.mp hbelow))
  have hclosest := h.closest hhalf
  rw [abs_of_nonpos (a := halfTurn - s) (by linarith)] at hclosest
  have hnext : halfTurn + 2 ^ (-51 : ℤ) ≤ r := by
    have hsize : (2 : ℚ) ^ (52 + (-51) : ℤ) ≤ |r| := by
      rw [abs_of_pos (by linarith)]
      norm_num
      linarith
    exact (isMultiple_halfTurn (by decide)).add_le (h.fits.isMultiple hsize) hr
  have htie : |r - s| = 2 ^ (-52 : ℤ) := by
    have hself := le_abs_self (r - s)
    norm_num at hnext ⊢
    linarith
  -- `r` is half a turn and one unit, an odd number of units, but a tie goes to an even one
  have heven : IsMultiple (-50) r := by
    obtain ⟨k, q, hkq, rfl⟩ := h
    have hunit : (2 : ℚ) ^ (-52 : ℤ) ≤ 2 ^ (q - 1) := htie ▸ hkq.error
    have hq : -52 ≤ q - 1 := (zpow_le_zpow_iff_right₀ one_lt_two).mp hunit
    rcases Int.lt_or_eq_of_le (show -51 ≤ q by omega) with hlt | rfl
    · exact IsMultiple.of_le ⟨k, rfl⟩ (by omega)
    · obtain ⟨j, rfl⟩ := hkq.even htie
      exact ⟨j, by push_cast; norm_num; ring⟩
  have hfar := (isMultiple_halfTurn (by decide)).add_le heven hr
  have hself := le_abs_self (r - s)
  norm_num at hfar
  linarith

/-- Whether a rounded difference is beyond the half turn is told by the exact one. -/
theorem halfTurn_lt_iff (h : IsNearest s r) : halfTurn < r ↔ tolerance < s :=
  ⟨tolerance_lt_of_halfTurn_lt h, halfTurn_lt_of_tolerance_lt h⟩

/-- So is whether it is beyond the half turn the other way. -/
theorem lt_neg_halfTurn_iff (h : IsNearest s r) : r < -halfTurn ↔ s < -tolerance := by
  rw [lt_neg, lt_neg (a := s)]
  exact halfTurn_lt_iff h.neg

end Rounded

section Doubles

variable {x y : Float} {v w : ℚ}

/-- The test of the loop, by the exact difference. -/
theorem pi_lt_sub_iff (hx : value? x = some v) (hy : value? y = some w) :
    Double.pi < x - y ↔ tolerance < v - w := by
  obtain ⟨r, hnearest, hiff, -⟩ := compare_sub hx hy value?_pi
  rw [hiff, halfTurn_lt_iff hnearest]

/-- The test of the loop the other way. -/
theorem sub_lt_neg_pi_iff (hx : value? x = some v) (hy : value? y = some w) :
    x - y < -Double.pi ↔ v - w < -tolerance := by
  obtain ⟨r, hnearest, -, hiff⟩ := compare_sub hx hy value?_neg_pi
  rw [hiff, lt_neg_halfTurn_iff hnearest]

/-- The end of the loop, by the exact difference. -/
theorem sub_le_pi_iff (hx : value? x = some v) (hy : value? y = some w) :
    x - y ≤ Double.pi ↔ v - w ≤ tolerance := by
  rw [sub_le_iff_not_lt hx hy value?_pi, pi_lt_sub_iff hx hy, not_lt]

/-- The end of the loop the other way. -/
theorem neg_pi_le_sub_iff (hx : value? x = some v) (hy : value? y = some w) :
    -Double.pi ≤ x - y ↔ -tolerance ≤ v - w := by
  rw [le_sub_iff_not_lt hx hy value?_neg_pi, sub_lt_neg_pi_iff hx hy, not_lt]

end Doubles

/-! ## A turn down -/

section Turn

variable {v w r : ℚ}

/-- The reach is a double. -/
theorem fits_reach : Fits |(2 ^ 56 : ℚ)| :=
  fits_zpow (q := 56) (by decide)

theorem fits_neg_reach : Fits |(-2 ^ 56 : ℚ)| := by
  rw [abs_neg]
  exact fits_reach

/-- The doubles beyond `2 ^ 56` are sixteen apart. -/
theorem isMultiple_of_reach (hv : Fits |v|) (h : 2 ^ 56 ≤ |v|) : IsMultiple 4 v :=
  hv.isMultiple h

/-- The least double above `-2 ^ 56` is eight away from it. -/
theorem add_eight_le (hv : Fits |v|) (h : -2 ^ 56 < v) : -2 ^ 56 + 8 ≤ v := by
  rcases le_or_gt v (-2 ^ 55) with hle | hgt
  · have hsize : (2 : ℚ) ^ (52 + 3 : ℤ) ≤ |v| := by
      rw [abs_of_neg (by linarith)]
      norm_num
      linarith
    have hmultiple : IsMultiple 3 (-2 ^ 56 : ℚ) := ⟨-2 ^ 53, by norm_num⟩
    exact hmultiple.add_le (hv.isMultiple hsize) h
  · linarith

/-- Within reach a turn down goes down by at least two, and not out of reach. -/
theorem turn_le (hv : Fits |v|) (hlow : -2 ^ 56 < v) (hhigh : v ≤ 2 ^ 56)
    (h : IsNearest (v - fullTurn) r) : r ≤ v - 2 ∧ -2 ^ 56 ≤ r := by
  obtain ⟨hlower, hupper⟩ := halfTurn_bounds
  have hturn := fullTurn_eq
  have hleast := add_eight_le hv hlow
  constructor
  · -- the unit is eight at most, so rounding takes back no more than four
    have hsize : |v - fullTurn| ≤ 2 ^ (53 + 3 : ℤ) := by
      rw [abs_le]
      constructor <;> norm_num <;> linarith
    have herror := abs_le.mp (h.error_le (by decide) hsize)
    norm_num at herror
    linarith
  · exact h.ge fits_neg_reach (by linarith)

/-- Out of reach a turn is less than half the distance to the next double. -/
theorem turn_eq (hv : Fits |v|) (hout : 2 ^ 56 < v ∨ v ≤ -2 ^ 56)
    (h : IsNearest (v - fullTurn) r) : r = v := by
  obtain ⟨hlower, hupper⟩ := halfTurn_bounds
  have hturn := fullTurn_eq
  have hle : r ≤ v := h.le hv (by linarith)
  have hv' : 2 ^ 56 ≤ |v| := by
    rcases hout with hout | hout
    · exact hout.le.trans (le_abs_self v)
    · exact (le_neg.mpr hout).trans (neg_le_abs v)
  have hmultiple : IsMultiple 4 v := isMultiple_of_reach hv hv'
  have hr' : 2 ^ 56 ≤ |r| := by
    rcases hout with hout | hout
    · have hnext := IsMultiple.add_le (q := 4) ⟨2 ^ 52, by norm_num⟩ hmultiple hout
      norm_num at hnext
      exact (h.ge fits_reach (by linarith)).trans (le_abs_self r)
    · exact (le_neg.mpr (hle.trans hout)).trans (neg_le_abs r)
  by_contra hne
  have hapart := (isMultiple_of_reach h.fits hr').add_le hmultiple (lt_of_le_of_ne hle hne)
  have hclosest := h.closest hv
  rw [sub_sub_cancel, abs_of_pos (a := fullTurn) (by linarith)] at hclosest
  have := neg_abs_le (r - (v - fullTurn))
  norm_num at hapart
  linarith

/-- Beyond the reach doubles are sixteen apart or more. -/
theorem sixteen_le_sub_of_lt (hv : Fits |v|) (hw : Fits |w|) (h : w < v) (hout : 2 ^ 56 < v) :
    16 ≤ v - w := by
  have hmultiple : IsMultiple 4 v := isMultiple_of_reach hv (hout.le.trans (le_abs_self v))
  rcases le_or_gt w (2 ^ 56) with hin | hout'
  · have hnext := IsMultiple.add_le (q := 4) ⟨2 ^ 52, by norm_num⟩ hmultiple hout
    norm_num at hnext
    linarith
  · have hapart := (isMultiple_of_reach hw (hout'.le.trans (le_abs_self w))).add_le hmultiple h
    norm_num at hapart
    linarith

/-- Of two doubles one of which is out of reach the other is at least sixteen away. -/
theorem sixteen_le_sub (hv : Fits |v|) (hw : Fits |w|) (h : w < v)
    (hout : 2 ^ 56 < v ∨ w < -2 ^ 56) : 16 ≤ v - w := by
  rcases hout with hout | hout
  · exact sixteen_le_sub_of_lt hv hw h hout
  · rw [← abs_neg] at hv hw
    have := sixteen_le_sub_of_lt hw hv (neg_lt_neg h) (lt_neg.mpr hout)
    linarith

/-! ## A turn up -/

/-- From eight to sixty-four the units are between `2 ^ -49` and `2 ^ -47`. -/
theorem exists_unit {s : ℚ} (hlow : 8 ≤ |s|) (hhigh : |s| ≤ 64) :
    ∃ q : ℤ, -49 ≤ q ∧ q ≤ -47 ∧ 2 ^ (52 + q) ≤ |s| ∧ |s| ≤ 2 ^ (53 + q) := by
  rcases le_or_gt |s| 16 with h16 | h16
  · exact ⟨-49, by decide, by decide, by norm_num; exact hlow, by norm_num; exact h16⟩
  · rcases le_or_gt |s| 32 with h32 | h32
    · exact ⟨-48, by decide, by decide, by norm_num; exact h16.le, by norm_num; exact h32⟩
    · exact ⟨-47, by decide, by decide, by norm_num; exact h32.le, by norm_num; exact hhigh⟩

theorem turn_lands_of_pos (hw : Fits |w|) (h : IsNearest (v + fullTurn) r)
    (hbelow : v - w < -tolerance) {q : ℤ} (hleast : -49 ≤ q) (hq : q ≤ -47)
    (hlow : 2 ^ (52 + q) ≤ v + fullTurn) (hhigh : v + fullTurn ≤ 2 ^ (53 + q)) :
    r - w ≤ halfTurn := by
  obtain ⟨hlower, hupper⟩ := halfTurn_bounds
  have hturn := fullTurn_eq
  rw [tolerance] at hbelow
  have hhalf : (2 : ℚ) ^ q = 2 ^ (q - 1) + 2 ^ (q - 1) := by
    rw [zpow_sub_one₀ two_ne_zero]
    ring
  have hpow : (2 : ℚ) ^ (52 + q) = 2 ^ (51 + q) + 2 ^ (51 + q) := by
    rw [← two_mul, ← zpow_one_add₀ two_ne_zero]
    congr 1
    omega
  have hfour : (4 : ℚ) ≤ 2 ^ (51 + q) := by
    calc (4 : ℚ) = 2 ^ (2 : ℤ) := by norm_num
      _ ≤ 2 ^ (51 + q) := zpow_le_zpow_right₀ one_le_two (by omega)
  have hrlow : 2 ^ (52 + q) ≤ r := by
    refine h.ge ?_ hlow
    exact fits_zpow (by omega)
  have hr : IsMultiple (q - 1) r :=
    (h.fits.isMultiple (hrlow.trans (le_abs_self r))).of_le (by omega)
  have hw' : IsMultiple (q - 1) w := by
    refine hw.isMultiple (le_trans ?_ (le_abs_self w))
    have hexponent : 52 + (q - 1) = 51 + q := by omega
    rw [hexponent]
    linarith
  have hp : IsMultiple (q - 1) halfTurn := isMultiple_halfTurn (by omega)
  have herror : |r - (v + fullTurn)| ≤ 2 ^ (q - 1) :=
    h.error_le (by omega) (by rw [abs_of_nonneg (by linarith)]; exact hhigh)
  -- in units of half the one of `r` all three are integral, and rounding adds less than what `r`
  -- would have to be too high
  by_contra hlands
  have hapart := hp.add_le (hr.sub hw') (not_le.mp hlands)
  linarith [le_abs_self (r - (v + fullTurn))]

/-- A double below zero and far from it, moved towards zero by a turn, is still a double. -/
theorem turn_exact (hv : Fits |v|) (h : IsNearest (v + fullTurn) r) {q : ℤ} (hleast : -49 ≤ q)
    (hq : q ≤ -47) (hneg : v + fullTurn < 0) (hlow : 2 ^ (52 + q) ≤ |v + fullTurn|)
    (hhigh : |v + fullTurn| ≤ 2 ^ (53 + q)) : r = v + fullTurn := by
  obtain ⟨hlower, -⟩ := halfTurn_bounds
  have hturn := fullTurn_eq
  have hunit : IsMultiple q v := by
    refine hv.isMultiple (hlow.trans ?_)
    rw [abs_of_neg hneg, abs_of_neg (by linarith)]
    linarith
  have hfits : Fits |v + fullTurn| :=
    (hunit.add (isMultiple_fullTurn hq)).fits (by omega) hhigh
  exact le_antisymm (h.le hfits le_rfl) (h.ge hfits le_rfl)

/-- A turn up from more than half a turn below a double near zero ends at most half a turn above
it. -/
theorem turn_lands (hv : Fits |v|) (hw : Fits |w|) (hsmall : |w| ≤ 60)
    (h : IsNearest (v + fullTurn) r) (hbelow : v - w < -tolerance) : r - w ≤ tolerance := by
  obtain ⟨hlower, hupper⟩ := halfTurn_bounds
  have hturn := fullTurn_eq
  obtain ⟨hwlow, hwhigh⟩ := abs_le.mp hsmall
  have htolerance : tolerance = halfTurn + 1 / 2 ^ 52 := rfl
  have habove : v + fullTurn < w + halfTurn := by linarith
  rcases lt_or_ge |v + fullTurn| 8 with hnear | hlarge
  · -- rounding adds at most twice what the tolerance has beyond half a turn
    have hsize : |v + fullTurn| ≤ 2 ^ (53 + (-50) : ℤ) := by
      norm_num
      exact hnear.le
    have herror := (le_abs_self _).trans (h.error_le (by decide) hsize)
    norm_num at herror
    linarith
  · rcases lt_or_ge (v + fullTurn) (-64) with hfar | hfar
    · have hmultiple : IsMultiple 6 (-64 : ℚ) := ⟨-1, by norm_num⟩
      have hle : r ≤ -64 := h.le (hmultiple.fits (by decide) (by norm_num)) hfar.le
      linarith
    · obtain ⟨q, hleast, hq, hlow, hhigh⟩ := exists_unit hlarge (abs_le.mpr ⟨hfar, by linarith⟩)
      rcases lt_or_ge (v + fullTurn) 0 with hneg | hpos
      · rw [turn_exact hv h hleast hq hneg hlow hhigh]
        linarith
      · rw [abs_of_nonneg hpos] at hlow hhigh
        have := turn_lands_of_pos hw h hbelow hleast hq hlow hhigh
        linarith

end Turn

end SignalLab.Spectrum
