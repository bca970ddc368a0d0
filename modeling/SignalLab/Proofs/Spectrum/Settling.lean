import SignalLab.Proofs.Spectrum.Turns

/-!
# Settling — loops that take full turns off a double

Both loops of unwrapping move a double by a full turn while it is away from the sample before
(`Spectrum.settle`).  One lowers it and the other raises it, but seen as a height, which raising
negates, both descend towards a base (`Spectrum.IsDescent`).  A descent within reach of a turn ends
(`IsDescent.exists_settle`); one that would have to cross a height out of reach does not
(`IsDescent.settle_eq_none`).  The two together are one step of unwrapping, `turnToward`.
-/

namespace SignalLab.Spectrum

open Double

/-! ## The loop -/

/-- Moves a double while it is away, in at most the given number of tests. -/
def settle (away : Float → Prop) [DecidablePred away] (move : Float → Float) :
    Nat → Float → Option Float
  | 0, _ => none
  | n + 1, x => if away x then settle away move n (move x) else some x

theorem lowerToward_eq_settle (before : Float) (steps : Nat) (x : Float) :
    lowerToward before steps x =
      settle (fun z => Double.pi < z - before) (fun z => z - turn) steps x := by
  induction steps generalizing x with
  | zero => rfl
  | succ n ih => rw [lowerToward, settle, ih]

theorem raiseToward_eq_settle (before : Float) (steps : Nat) (x : Float) :
    raiseToward before steps x =
      settle (fun z => z - before < -Double.pi) (fun z => z + turn) steps x := by
  induction steps generalizing x with
  | zero => rfl
  | succ n ih => rw [raiseToward, settle, ih]

section Loop

variable {away : Float → Prop} [DecidablePred away] {move : Float → Float} {x y : Float} {n : Nat}

theorem settle_of_not_away (h : ¬ away x) (n : Nat) : settle away move (n + 1) x = some x :=
  if_neg h

theorem settle_mono {m : Nat} (hle : n ≤ m) (h : settle away move n x = some y) :
    settle away move m x = some y := by
  induction n generalizing x m with
  | zero => cases h
  | succ n ih =>
      obtain ⟨m, rfl⟩ : ∃ k, m = k + 1 := ⟨m - 1, by omega⟩
      rw [settle] at h ⊢
      split at h
      · rename_i haway
        rw [if_pos haway]
        exact ih (by omega) h
      · rename_i haway
        rw [if_neg haway]
        exact h

/-- What every move keeps holds of the double that is settled on. -/
theorem settle_invariant {P : Float → Prop} (hmove : ∀ z, P z → away z → P (move z)) (hx : P x)
    (h : settle away move n x = some y) : P y ∧ ¬ away y := by
  induction n generalizing x with
  | zero => cases h
  | succ n ih =>
      rw [settle] at h
      split at h
      · rename_i haway
        exact ih (hmove x hx haway) h
      · rename_i haway
        cases h
        exact ⟨hx, haway⟩

end Loop

/-! ## Descents -/

/-- Of a double that has a height, being away means to be more than the tolerance above a base, and
moving takes a full turn off the height. -/
structure IsDescent (height? : Float → Option ℚ) (base : ℚ) (away : Float → Prop)
    (move : Float → Float) : Prop where
  fits_base : Fits |base|
  fits : ∀ {x v}, height? x = some v → Fits |v|
  away_iff : ∀ {x v}, height? x = some v → (away x ↔ tolerance < v - base)
  move_nearest : ∀ {x v}, height? x = some v →
    ∃ r, IsNearest (v - fullTurn) r ∧ height? (move x) = some r

section Loops

variable {before : Float} {w : ℚ}

theorem fullTurn_small : |fullTurn| < 2 ^ (970 : ℤ) := by
  obtain ⟨hlower, hupper⟩ := halfTurn_bounds
  have hturn := fullTurn_eq
  rw [abs_of_pos (by linarith)]
  calc fullTurn < 2 ^ (3 : ℤ) := by norm_num; linarith
    _ ≤ 2 ^ (970 : ℤ) := zpow_le_zpow_right₀ one_le_two (by decide)

/-- Lowering descends to the sample before. -/
theorem isDescent_lower (hbefore : value? before = some w) :
    IsDescent value? w (fun z => Double.pi < z - before) (fun z => z - turn) where
  fits_base := fits_of_value hbefore
  fits := fits_of_value
  away_iff hx := pi_lt_sub_iff hx hbefore
  move_nearest hx := exists_value_sub hx value?_turn fullTurn_small

/-- The height of a double that is raised. -/
def depth? (x : Float) : Option ℚ :=
  (value? x).map fun v => -v

theorem depth?_eq_some_iff {x : Float} {v : ℚ} : depth? x = some v ↔ value? x = some (-v) := by
  rw [depth?, Option.map_eq_some_iff]
  constructor
  · rintro ⟨u, hu, rfl⟩
    rw [neg_neg]
    exact hu
  · intro h
    exact ⟨-v, h, neg_neg v⟩

/-- Raising descends to the sample before, upside down. -/
theorem isDescent_raise (hbefore : value? before = some w) :
    IsDescent depth? (-w) (fun z => z - before < -Double.pi) (fun z => z + turn) where
  fits_base := by
    rw [abs_neg]
    exact fits_of_value hbefore
  fits hx := by
    rw [← abs_neg]
    exact fits_of_value (depth?_eq_some_iff.mp hx)
  away_iff {x v} hx := by
    rw [sub_lt_neg_pi_iff (depth?_eq_some_iff.mp hx) hbefore, lt_neg]
    ring_nf
  move_nearest {x v} hx := by
    obtain ⟨r, hnearest, hr⟩ :=
      exists_value_add (depth?_eq_some_iff.mp hx) value?_turn fullTurn_small
    refine ⟨-r, ?_, depth?_eq_some_iff.mpr (by rw [neg_neg, hr])⟩
    convert hnearest.neg using 1
    ring

end Loops

namespace IsDescent

variable {height? : Float → Option ℚ} {base : ℚ} {away : Float → Prop} [DecidablePred away]
  {move : Float → Float} {x y : Float} {v : ℚ} {n : Nat}

omit [DecidablePred away] in
/-- A height that is away lies well above the base. -/
theorem lt_of_away (h : IsDescent height? base away move) (hx : height? x = some v)
    (haway : away x) : base + 3 < v := by
  have habove := (h.away_iff hx).mp haway
  have hbounds := halfTurn_bounds
  rw [tolerance] at habove
  linarith

/-- A descent within reach ends: every move takes it down by at least two. -/
theorem exists_settle (h : IsDescent height? base away move) (hbase : -2 ^ 56 ≤ base)
    (hx : height? x = some v) (hv : v ≤ 2 ^ 56) : ∃ n y, settle away move n x = some y := by
  -- by induction on half the height above the base
  obtain ⟨k, hk⟩ : ∃ k : Nat, (v - base) / 2 ≤ k := exists_nat_ge _
  induction k generalizing x v with
  | zero =>
      have hnear : ¬ away x := fun haway => by
        have := h.lt_of_away hx haway
        norm_num at hk
        linarith
      exact ⟨1, x, settle_of_not_away hnear 0⟩
  | succ k ih =>
      by_cases haway : away x
      · have habove := h.lt_of_away hx haway
        obtain ⟨r, hnearest, hr⟩ := h.move_nearest hx
        obtain ⟨hle, -⟩ := turn_le (h.fits hx) (by linarith) hv hnearest
        push_cast at hk
        obtain ⟨n, y, hn⟩ := ih hr (by linarith) (by linarith)
        exact ⟨n + 1, y, (if_pos haway).trans hn⟩
      · exact ⟨1, x, settle_of_not_away haway 0⟩

/-- A descent from out of reach, or to a base out of reach, does not end: it comes to a height from
which a turn no longer moves it. -/
theorem settle_eq_none (h : IsDescent height? base away move) (hx : height? x = some v)
    (hlt : base < v) (hout : 2 ^ 56 < v ∨ base < -2 ^ 56) (n : Nat) :
    settle away move n x = none := by
  induction n generalizing x v with
  | zero => rfl
  | succ n ih =>
      have haway : away x := by
        have hfar := sixteen_le_sub (h.fits hx) h.fits_base hlt hout
        have hbounds := halfTurn_bounds
        rw [h.away_iff hx, tolerance]
        linarith
      obtain ⟨r, hnearest, hr⟩ := h.move_nearest hx
      rw [settle, if_pos haway]
      -- either the turn is lost in rounding, or the height is still above a base out of reach
      by_cases hstuck : 2 ^ 56 < v ∨ v ≤ -2 ^ 56
      · rw [turn_eq (h.fits hx) hstuck hnearest] at hr
        exact ih hr hlt hout
      · obtain ⟨hhigh, hlow⟩ := not_or.mp hstuck
        obtain ⟨-, hge⟩ := turn_le (h.fits hx) (not_le.mp hlow) (not_lt.mp hhigh) hnearest
        have hbase := hout.resolve_left hhigh
        exact ih hr (by linarith) (.inr hbase)

/-- A descent ends no more than the tolerance above its base. -/
theorem exists_height (h : IsDescent height? base away move) (hx : height? x = some v)
    (hy : settle away move n x = some y) : ∃ u, height? y = some u ∧ u - base ≤ tolerance := by
  have hmove : ∀ z, (∃ u, height? z = some u) → away z → ∃ u, height? (move z) = some u := by
    rintro z ⟨u, hu⟩ -
    obtain ⟨r, -, hr⟩ := h.move_nearest hu
    exact ⟨r, hr⟩
  obtain ⟨⟨u, hu⟩, hsettled⟩ := settle_invariant hmove ⟨v, hx⟩ hy
  exact ⟨u, hu, not_lt.mp (mt (h.away_iff hu).mpr hsettled)⟩

/-- A descent within reach stays there. -/
theorem abs_le_reach (h : IsDescent height? base away move) (hbase : -2 ^ 56 ≤ base)
    (hx : height? x = some v) (hv : |v| ≤ 2 ^ 56) (hy : settle away move n x = some y) {u : ℚ}
    (hu : height? y = some u) : |u| ≤ 2 ^ 56 := by
  have hmove : ∀ z, (∃ u, height? z = some u ∧ |u| ≤ 2 ^ 56) → away z →
      ∃ u, height? (move z) = some u ∧ |u| ≤ 2 ^ 56 := by
    rintro z ⟨u, hu, hreach⟩ haway
    obtain ⟨r, hnearest, hr⟩ := h.move_nearest hu
    have habove := h.lt_of_away hu haway
    have hhigh := le_of_abs_le hreach
    obtain ⟨hle, hge⟩ := turn_le (h.fits hu) (by linarith) hhigh hnearest
    exact ⟨r, hr, abs_le.mpr ⟨hge, by linarith⟩⟩
  obtain ⟨⟨u', hu', hreach⟩, -⟩ := settle_invariant hmove ⟨v, hx, hv⟩ hy
  rwa [Option.some.inj (hu.symm.trans hu')]

/-- A descent ends where it began, or a turn below a height that was away. -/
theorem eq_or_eq_move (h : IsDescent height? base away move) (hx : height? x = some v)
    (hy : settle away move n x = some y) :
    y = x ∨ ∃ z u, height? z = some u ∧ away z ∧ y = move z := by
  have hmove : ∀ z, ((∃ u, height? z = some u) ∧
      (z = x ∨ ∃ z' u, height? z' = some u ∧ away z' ∧ z = move z')) → away z →
      (∃ u, height? (move z) = some u) ∧
        (move z = x ∨ ∃ z' u, height? z' = some u ∧ away z' ∧ move z = move z') := by
    rintro z ⟨⟨u, hu⟩, -⟩ haway
    obtain ⟨r, -, hr⟩ := h.move_nearest hu
    exact ⟨⟨r, hr⟩, .inr ⟨z, u, hu, haway, rfl⟩⟩
  exact (settle_invariant hmove ⟨⟨v, hx⟩, .inl rfl⟩ hy).1.2

end IsDescent

/-! ## One sample -/

/-- A sample turned towards the one before it. -/
def turnToward (before : Float) (steps : Nat) (x : Float) : Option Float :=
  (lowerToward before steps x).bind (raiseToward before steps)

theorem unwrapAfter_cons (steps : Nat) (before x : Float) (xs : List Float) :
    unwrapAfter steps before (x :: xs) =
      (turnToward before steps x).bind fun y =>
        (unwrapAfter steps y xs).map fun rest => y :: rest := by
  simp only [unwrapAfter, turnToward, Option.bind_assoc, Option.map_eq_bind]
  rfl

section Sample

variable {before x y : Float} {w v : ℚ} {n : Nat}

theorem turnToward_mono {m : Nat} (hle : n ≤ m) (h : turnToward before n x = some y) :
    turnToward before m x = some y := by
  obtain ⟨z, hlower, hraise⟩ := Option.bind_eq_some_iff.mp h
  rw [lowerToward_eq_settle] at hlower
  rw [raiseToward_eq_settle] at hraise
  refine Option.bind_eq_some_iff.mpr ⟨z, ?_, ?_⟩
  · rw [lowerToward_eq_settle]
    exact settle_mono hle hlower
  · rw [raiseToward_eq_settle]
    exact settle_mono hle hraise

/-- A sample lies more than half a turn above the one before, because the turn that was to end its
being more than half a turn below was rounded upwards. -/
def Overshoots (before y : Float) : Prop :=
  ∃ z : Float, z.isFinite = true ∧ z - before < -Double.pi ∧ z + turn = y ∧
    Double.pi < y - before

/-- Where a turned sample lies. -/
theorem exists_of_turnToward (hbefore : value? before = some w) (hx : value? x = some v)
    (h : turnToward before n x = some y) : ∃ u, value? y = some u ∧ -Double.pi ≤ y - before ∧
      (¬ Overshoots before y → y - before ≤ Double.pi) ∧ (|w| ≤ 60 → y - before ≤ Double.pi) ∧
      (|w| ≤ 2 ^ 56 → |v| ≤ 2 ^ 56 → |u| ≤ 2 ^ 56) := by
  obtain ⟨z, hlower, hraise⟩ := Option.bind_eq_some_iff.mp h
  rw [lowerToward_eq_settle] at hlower
  rw [raiseToward_eq_settle] at hraise
  -- the sample goes down first and then up; going up is going down with the signs changed
  obtain ⟨t, ht, htop⟩ := (isDescent_lower hbefore).exists_height hx hlower
  have hdepth : depth? z = some (-t) := depth?_eq_some_iff.mpr (by rw [neg_neg, ht])
  obtain ⟨d, hd, hbottom⟩ := (isDescent_raise hbefore).exists_height hdepth hraise
  have hy : value? y = some (-d) := depth?_eq_some_iff.mp hd
  have hle : (¬ Overshoots before y → y - before ≤ Double.pi) ∧
      (|w| ≤ 60 → y - before ≤ Double.pi) := by
    rcases (isDescent_raise hbefore).eq_or_eq_move hdepth hraise with
      rfl | ⟨z', t', ht', hbelow, rfl⟩
    · have hnear : y - before ≤ Double.pi := (sub_le_pi_iff ht hbefore).mpr htop
      exact ⟨fun _ => hnear, fun _ => hnear⟩
    · have hz' : value? z' = some (-t') := depth?_eq_some_iff.mp ht'
      constructor
      · intro hlands
        rw [sub_le_iff_not_lt hy hbefore value?_pi]
        exact fun habove => hlands ⟨z', isFinite_iff_value.mpr ⟨_, hz'⟩, hbelow, rfl, habove⟩
      · intro hsmall
        obtain ⟨r, hnearest, hr⟩ := exists_value_add hz' value?_turn fullTurn_small
        rw [sub_le_pi_iff hr hbefore]
        exact turn_lands (fits_of_value hz') (fits_of_value hbefore) hsmall hnearest
          ((sub_lt_neg_pi_iff hz' hbefore).mp hbelow)
  refine ⟨-d, hy, (neg_pi_le_sub_iff hy hbefore).mpr (by linarith), hle.1, hle.2, ?_⟩
  intro hw hv
  obtain ⟨hlow, hhigh⟩ := abs_le.mp hw
  have htreach := (isDescent_lower hbefore).abs_le_reach hlow hx hv hlower ht
  rw [abs_neg]
  rw [← abs_neg] at htreach
  exact (isDescent_raise hbefore).abs_le_reach (neg_le_neg hhigh) hdepth htreach hraise hd

/-- Between samples in reach a sample is turned in finitely many steps. -/
theorem exists_turnToward (hbefore : value? before = some w) (hx : value? x = some v)
    (hw : |w| ≤ 2 ^ 56) (hv : |v| ≤ 2 ^ 56) : ∃ n y, turnToward before n x = some y := by
  obtain ⟨hwlow, hwhigh⟩ := abs_le.mp hw
  obtain ⟨n, z, hlower⟩ :=
    (isDescent_lower hbefore).exists_settle hwlow hx (le_of_abs_le hv)
  obtain ⟨t, ht, -⟩ := (isDescent_lower hbefore).exists_height hx hlower
  have htreach := (isDescent_lower hbefore).abs_le_reach hwlow hx hv hlower ht
  have hdepth : depth? z = some (-t) := depth?_eq_some_iff.mpr (by rw [neg_neg, ht])
  obtain ⟨m, y, hraise⟩ := (isDescent_raise hbefore).exists_settle (neg_le_neg hwhigh) hdepth
    ((neg_le_abs t).trans htreach)
  refine ⟨max n m, y, Option.bind_eq_some_iff.mpr ⟨z, ?_, ?_⟩⟩
  · rw [lowerToward_eq_settle]
    exact settle_mono (Nat.le_max_left n m) hlower
  · rw [raiseToward_eq_settle]
    exact settle_mono (Nat.le_max_right n m) hraise

/-- A sample that is not above the one before is not lowered. -/
theorem lowerToward_of_le (hbefore : value? before = some w) (hx : value? x = some v) (h : v ≤ w)
    (n : Nat) : lowerToward before (n + 1) x = some x := by
  obtain ⟨hlower, -⟩ := halfTurn_bounds
  rw [lowerToward_eq_settle, settle_of_not_away]
  rw [pi_lt_sub_iff hx hbefore, tolerance]
  linarith

/-- A sample equal to the one before is left alone. -/
theorem turnToward_of_eq (hbefore : value? before = some w) (hx : value? x = some w) (n : Nat) :
    turnToward before (n + 1) x = some x := by
  obtain ⟨hlower, -⟩ := halfTurn_bounds
  rw [turnToward, lowerToward_of_le hbefore hx le_rfl, Option.bind_some, raiseToward_eq_settle,
    settle_of_not_away]
  rw [sub_lt_neg_pi_iff hx hbefore, tolerance]
  linarith

/-- Between distinct samples, one of them out of reach, turning does not end. -/
theorem turnToward_eq_none (hbefore : value? before = some w) (hx : value? x = some v)
    (hne : v ≠ w) (hout : 2 ^ 56 < |w| ∨ 2 ^ 56 < |v|) (n : Nat) :
    turnToward before n x = none := by
  simp only [lt_abs] at hout
  rcases lt_or_gt_of_ne hne with hlt | hgt
  · cases n with
    | zero => rfl
    | succ n =>
        have hdepth : depth? x = some (-v) := depth?_eq_some_iff.mpr (by rw [neg_neg, hx])
        rw [turnToward, lowerToward_of_le hbefore hx hlt.le, Option.bind_some,
          raiseToward_eq_settle]
        refine (isDescent_raise hbefore).settle_eq_none hdepth (neg_lt_neg hlt) ?_ _
        rcases hout with (hout | hout) | (hout | hout)
        · exact .inr (neg_lt_neg hout)
        · exact .inl (by linarith)
        · exact .inr (by linarith)
        · exact .inl hout
  · have hnone : lowerToward before n x = none := by
      rw [lowerToward_eq_settle]
      refine (isDescent_lower hbefore).settle_eq_none hx hgt ?_ n
      rcases hout with (hout | hout) | (hout | hout)
      · exact .inl (by linarith)
      · exact .inr (by linarith)
      · exact .inl hout
      · exact .inr (by linarith)
    rw [turnToward, hnone, Option.bind_none]

end Sample

end SignalLab.Spectrum
