import SignalLab.Proofs.Number.Sums

/-!
# Differences — comparing what is left of two doubles

The difference of two finite doubles is finite or infinite, but never NaN, so it compares with every
finite double (`Double.sub_le_iff_not_lt`, `Double.le_sub_iff_not_lt`), and it does so as its rounded
number does (`Double.compare_sub`).  Doubles of one size are multiples of one unit, and distinct
multiples are a unit apart (`Double.IsMultiple.add_le`).
-/

namespace SignalLab.Double

/-! ## Multiples of a unit -/

/-- The number is an integral multiple of `2 ^ q`. -/
def IsMultiple (q : ℤ) (v : ℚ) : Prop :=
  ∃ k : ℤ, v = k * 2 ^ q

namespace IsMultiple

variable {q : ℤ} {v w : ℚ}

/-- Multiples of a unit add up to a multiple of it. -/
theorem add (hv : IsMultiple q v) (hw : IsMultiple q w) : IsMultiple q (v + w) := by
  obtain ⟨k, rfl⟩ := hv
  obtain ⟨l, rfl⟩ := hw
  exact ⟨k + l, by push_cast; ring⟩

theorem neg (hv : IsMultiple q v) : IsMultiple q (-v) := by
  obtain ⟨k, rfl⟩ := hv
  exact ⟨-k, by push_cast; ring⟩

theorem sub (hv : IsMultiple q v) (hw : IsMultiple q w) : IsMultiple q (v - w) := by
  rw [sub_eq_add_neg]
  exact hv.add hw.neg

/-- A multiple of a unit is one of every finer unit. -/
theorem of_le {p : ℤ} (hv : IsMultiple q v) (h : p ≤ q) : IsMultiple p v := by
  obtain ⟨k, rfl⟩ := hv
  refine ⟨k * 2 ^ (q - p).toNat, ?_⟩
  have hsplit : q = (q - p).toNat + p := by omega
  conv_lhs => rw [hsplit]
  rw [zpow_add₀ two_ne_zero, zpow_natCast]
  push_cast
  ring

/-- Distinct multiples are a unit apart. -/
theorem add_le (hv : IsMultiple q v) (hw : IsMultiple q w) (h : v < w) : v + 2 ^ q ≤ w := by
  obtain ⟨k, rfl⟩ := hv
  obtain ⟨l, rfl⟩ := hw
  have hpos : (0 : ℚ) < 2 ^ q := zpow_pos two_pos q
  have hlt : k < l := by exact_mod_cast lt_of_mul_lt_mul_right h hpos.le
  have hle : (k : ℚ) + 1 ≤ l := by exact_mod_cast hlt
  calc (k : ℚ) * 2 ^ q + 2 ^ q = (k + 1) * 2 ^ q := by ring
    _ ≤ l * 2 ^ q := mul_le_mul_of_nonneg_right hle hpos.le

/-- A multiple of a unit that is not too many units is a double. -/
theorem fits (hv : IsMultiple q v) (hq : -1074 ≤ q) (h : |v| ≤ 2 ^ (53 + q)) : Fits |v| := by
  obtain ⟨k, rfl⟩ := hv
  have hpos : (0 : ℚ) < 2 ^ q := zpow_pos two_pos q
  rw [abs_mul, abs_of_pos hpos, zpow_add₀ two_ne_zero] at h
  have hdigits : |(k : ℚ)| ≤ 2 ^ (53 : ℤ) := le_of_mul_le_mul_right h hpos
  exact fits_multiple hq (by exact_mod_cast hdigits)

end IsMultiple

/-- Doubles from a size on are multiples of the unit of that size. -/
theorem Fits.isMultiple {v : ℚ} {q : ℤ} (h : Fits |v|) (hv : 2 ^ (52 + q) ≤ |v|) : IsMultiple q v :=
  exists_multiple h (.inl hv)

/-- The powers of two fit. -/
theorem fits_zpow {q : ℤ} (hq : -1074 ≤ q) : Fits |(2 : ℚ) ^ q| := by
  have := fits_multiple hq (k := 1) (by decide)
  rwa [Int.cast_one, one_mul] at this

/-! ## Finite doubles -/

section Doubles

variable {x y z : Float} {v w u : ℚ}

/-- The value of a double fits. -/
theorem fits_of_value (h : value? x = some v) : Fits |v| :=
  (standsFor_of_value h).isNearest.fits

/-- A double is finite exactly if it has a value. -/
theorem isFinite_iff_value : x.isFinite = true ↔ ∃ v, value? x = some v := by
  have hunpacked : x.isFinite = x.toModel.unpack.isFinite := rfl
  rw [hunpacked, value?, parts_eq_unpackedParts]
  cases x.toModel.unpack with
  | notANumber => simp [unpackedParts, Float.Model.UnpackedFloat.isFinite]
  | infinity s => simp [unpackedParts, Float.Model.UnpackedFloat.isFinite]
  | zero s => exact iff_of_true rfl ⟨_, rfl⟩
  | finite s m q hpos => exact iff_of_true rfl ⟨_, rfl⟩

/-- The largest exponent of a finite double. -/
theorem exponent_le {negative : Bool} {m : Nat} {q : ℤ} (h : parts x = .finite negative m q) :
    q ≤ 971 := by
  have hexponent : x.toBits.toNat / twoTo 52 % 2048 < 2048 := Nat.mod_lt _ (by decide)
  rw [parts] at h
  split at h
  · split at h <;> cases h
  · split at h
    · cases h
      decide
    · cases h
      omega

/-- The largest finite double lies one of its units below the power of two that has no double. -/
theorem abs_add_le_of_value (h : value? x = some v) : |v| + 2 ^ (971 : ℤ) ≤ 2 ^ (1024 : ℤ) := by
  obtain ⟨s, m, q, hparts, rfl⟩ := value?_eq_some_iff.mp h
  have hdigits : (m : ℚ) + 1 ≤ 2 ^ (53 : ℤ) := by exact_mod_cast (isNormal_of_parts hparts).lt
  have hpow : (2 : ℚ) ^ q ≤ 2 ^ (971 : ℤ) := zpow_le_zpow_right₀ one_le_two (exponent_le hparts)
  rw [abs_signed]
  calc (m : ℚ) * 2 ^ q + 2 ^ (971 : ℤ) ≤ m * 2 ^ (971 : ℤ) + 2 ^ (971 : ℤ) :=
      add_le_add_left (mul_le_mul_of_nonneg_left hpow (Nat.cast_nonneg m)) _
    _ = (m + 1) * 2 ^ (971 : ℤ) := (add_one_mul _ _).symm
    _ ≤ 2 ^ (53 : ℤ) * 2 ^ (971 : ℤ) :=
      mul_le_mul_of_nonneg_right hdigits (zpow_nonneg zero_le_two _)
    _ = 2 ^ (1024 : ℤ) := (zpow_add₀ two_ne_zero _ _).symm

/-- A value is below the overflow. -/
theorem abs_lt_of_value (h : value? x = some v) : |v| < 2 ^ (1024 : ℤ) :=
  lt_of_lt_of_le (lt_add_of_pos_right _ (zpow_pos two_pos _)) (abs_add_le_of_value h)

/-- What moves a finite double by far less than the largest unit leaves it finite. -/
theorem IsNearest.abs_lt (hx : value? x = some v) {s r : ℚ} (h : IsNearest s r)
    (hs : |v - s| < 2 ^ (970 : ℤ)) : |r| < 2 ^ (1024 : ℤ) := by
  have hclosest := h.closest (fits_of_value hx)
  have hdouble : (2 : ℚ) ^ (970 : ℤ) + 2 ^ (970 : ℤ) = 2 ^ (971 : ℤ) := by
    rw [← two_mul]
    exact (zpow_one_add₀ two_ne_zero 970).symm
  have htriangle : |r| ≤ |r - s| + |v - s| + |v| := by
    calc |r| = |(r - s) - (v - s) + v| := by ring_nf
      _ ≤ |(r - s) - (v - s)| + |v| := abs_add_le _ _
      _ ≤ |r - s| + |v - s| + |v| := by linarith [abs_sub (r - s) (v - s)]
  calc |r| ≤ |r - s| + |v - s| + |v| := htriangle
    _ < 2 ^ (970 : ℤ) + 2 ^ (970 : ℤ) + |v| := by
      linarith only [hclosest, hs]
    _ = |v| + 2 ^ (971 : ℤ) := by rw [hdouble, add_comm]
    _ ≤ 2 ^ (1024 : ℤ) := abs_add_le_of_value hx

/-- A sum with a summand far below the overflow is the nearest double. -/
theorem exists_value_add (hx : value? x = some v) (hy : value? y = some w)
    (hw : |w| < 2 ^ (970 : ℤ)) : ∃ r, IsNearest (v + w) r ∧ value? (x + y) = some r := by
  obtain ⟨r, hnearest, hr⟩ := add_cases hx hy
  have hfinite : |r| < 2 ^ (1024 : ℤ) :=
    hnearest.abs_lt hx (by rwa [sub_add_cancel_left, abs_neg])
  obtain ⟨hlower, hupper⟩ := abs_lt.mp hfinite
  rcases hr with hr | ⟨hr, -⟩ | ⟨hr, -⟩
  · exact ⟨r, hnearest, hr⟩
  · exact absurd hr hupper.not_ge
  · exact absurd hr hlower.not_ge

/-- So is such a difference. -/
theorem exists_value_sub (hx : value? x = some v) (hy : value? y = some w)
    (hw : |w| < 2 ^ (970 : ℤ)) : ∃ r, IsNearest (v - w) r ∧ value? (x - y) = some r := by
  obtain ⟨r, hnearest, hr⟩ := sub_cases hx hy
  have hfinite : |r| < 2 ^ (1024 : ℤ) := hnearest.abs_lt hx (by rwa [sub_sub_cancel])
  obtain ⟨hlower, hupper⟩ := abs_lt.mp hfinite
  rcases hr with hr | ⟨hr, -⟩ | ⟨hr, -⟩
  · exact ⟨r, hnearest, hr⟩
  · exact absurd hr hupper.not_ge
  · exact absurd hr hlower.not_ge

/-- Finite doubles are equal as the numbers they stand for. -/
theorem beq_iff_value (hx : value? x = some v) (hy : value? y = some w) :
    (x == y) = true ↔ v = w := by
  obtain ⟨p, p', hp, hp', hlt⟩ := exists_places hx hy
  obtain ⟨q', q, hq', hq, hgt⟩ := exists_places hy hx
  cases hp.symm.trans hq
  cases hp'.symm.trans hq'
  rw [beq_iff_place, hp, hp']
  constructor
  · rintro ⟨_, ⟨⟩, ⟨⟩⟩
    have hle : v ≤ w := not_lt.mp (mt hgt.mpr (lt_irrefl _))
    have hge : w ≤ v := not_lt.mp (mt hlt.mpr (lt_irrefl _))
    exact le_antisymm hle hge
  · rintro rfl
    have hle : p ≤ p' := not_lt.mp (mt hgt.mp (lt_irrefl _))
    have hge : p' ≤ p := not_lt.mp (mt hlt.mp (lt_irrefl _))
    exact ⟨p, rfl, congrArg some (le_antisymm hge hle)⟩

/-! ## Infinite doubles in the order -/

/-- The infinities are placed outside of everything else. -/
theorem place?_of_infinite {negative : Bool} (h : parts x = .infinite negative) :
    place? x = some (toLex (if negative then -2 else 2, toLex (0, 0))) := by
  rw [parts_eq_unpackedParts] at h
  rw [place?]
  cases hx : x.toModel.unpack with
  | notANumber =>
      rw [hx] at h
      cases h
  | infinity s =>
      rw [hx] at h
      cases h
      cases s <;> rfl
  | zero s =>
      rw [hx] at h
      cases h
  | finite s m q hpos =>
      rw [hx] at h
      cases h

/-- The class of a finite double lies between those of the infinite ones. -/
theorem finitePlace_fst (negative : Bool) (m : Nat) (q : ℤ) :
    -1 ≤ (ofLex (finitePlace negative m q)).1 ∧ (ofLex (finitePlace negative m q)).1 ≤ 1 := by
  rw [finitePlace]
  split_ifs <;> simp

/-- A value is placed between them. -/
theorem exists_place_of_value (hx : value? x = some v) :
    ∃ p, place? x = some p ∧ -1 ≤ (ofLex p).1 ∧ (ofLex p).1 ≤ 1 := by
  obtain ⟨s, m, q, hparts, -⟩ := value?_eq_some_iff.mp hx
  exact ⟨_, place?_of_parts hparts, finitePlace_fst s m q⟩

theorem lt_infinite (hx : value? x = some v) (hy : parts y = .infinite false) : x < y := by
  obtain ⟨p, hp, -, hclass⟩ := exists_place_of_value hx
  refine lt_iff_place.mpr ⟨p, _, hp, place?_of_infinite hy, ?_⟩
  exact Prod.Lex.lt_iff.mpr (.inl (Int.lt_of_le_of_lt hclass (by decide)))

theorem infinite_lt (hx : value? x = some v) (hy : parts y = .infinite true) : y < x := by
  obtain ⟨p, hp, hclass, -⟩ := exists_place_of_value hx
  refine lt_iff_place.mpr ⟨_, p, place?_of_infinite hy, hp, ?_⟩
  exact Prod.Lex.lt_iff.mpr (.inl (Int.lt_of_lt_of_le (by decide) hclass))

/-- No double is both below and above another one. -/
theorem not_lt_of_lt (h : x < y) : ¬ y < x := by
  obtain ⟨p, q, hp, hq, hlt⟩ := lt_iff_place.mp h
  intro hgt
  obtain ⟨q', p', hq', hp', hgt⟩ := lt_iff_place.mp hgt
  cases hp.symm.trans hp'
  cases hq.symm.trans hq'
  exact hlt.not_gt hgt

/-! ## Comparing a difference -/

/-- A difference compares with a finite double as its rounded number does. -/
theorem compare_sub (hx : value? x = some v) (hy : value? y = some w) (hz : value? z = some u) :
    ∃ r, IsNearest (v - w) r ∧ (z < x - y ↔ u < r) ∧ (x - y < z ↔ r < u) := by
  obtain ⟨r, hnearest, hr⟩ := sub_cases hx hy
  obtain ⟨hlower, hupper⟩ := abs_lt.mp (abs_lt_of_value hz)
  refine ⟨r, hnearest, ?_⟩
  rcases hr with hr | ⟨hr, hinfinite⟩ | ⟨hr, hinfinite⟩
  · exact ⟨lt_iff_value hz hr, lt_iff_value hr hz⟩
  · have hlt := lt_infinite hz hinfinite
    have hgreater := hupper.trans_le hr
    exact ⟨iff_of_true hlt hgreater, iff_of_false (not_lt_of_lt hlt) hgreater.not_gt⟩
  · have hlt := infinite_lt hz hinfinite
    have hless := hr.trans_lt hlower
    exact ⟨iff_of_false (not_lt_of_lt hlt) hless.not_gt, iff_of_true hlt hless⟩

/-- A difference of values is a number. -/
theorem exists_place_sub (hx : value? x = some v) (hy : value? y = some w) :
    ∃ p, place? (x - y) = some p := by
  obtain ⟨r, -, hr | ⟨-, hinfinite⟩ | ⟨-, hinfinite⟩⟩ := sub_cases hx hy
  · obtain ⟨p, hp, -⟩ := exists_place_of_value hr
    exact ⟨p, hp⟩
  · exact ⟨_, place?_of_infinite hinfinite⟩
  · exact ⟨_, place?_of_infinite hinfinite⟩

/-- Of two doubles that are numbers one is not above the other. -/
theorem le_iff_not_lt {p q : Place} (hx : place? x = some p) (hy : place? y = some q) :
    x ≤ y ↔ ¬ y < x := by
  rw [le_iff_place, lt_iff_place, hx, hy]
  constructor
  · rintro ⟨_, _, ⟨⟩, ⟨⟩, hle⟩ ⟨_, _, ⟨⟩, ⟨⟩, hlt⟩
    exact hle.not_gt hlt
  · intro h
    exact ⟨p, q, rfl, rfl, le_of_not_gt fun hlt => h ⟨q, p, rfl, rfl, hlt⟩⟩

/-- For numbers an upper bound is the same as not to be above. -/
theorem sub_le_iff_not_lt (hx : value? x = some v) (hy : value? y = some w)
    (hz : value? z = some u) : x - y ≤ z ↔ ¬ z < x - y := by
  obtain ⟨p, hp⟩ := exists_place_sub hx hy
  obtain ⟨q, hq, -⟩ := exists_place_of_value hz
  exact le_iff_not_lt hp hq

/-- So is a lower bound. -/
theorem le_sub_iff_not_lt (hx : value? x = some v) (hy : value? y = some w)
    (hz : value? z = some u) : z ≤ x - y ↔ ¬ x - y < z := by
  obtain ⟨p, hp⟩ := exists_place_sub hx hy
  obtain ⟨q, hq, -⟩ := exists_place_of_value hz
  exact le_iff_not_lt hq hp

end Doubles

end SignalLab.Double
