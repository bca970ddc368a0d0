import SignalLab.Proofs.Spectrum.Settling

/-!
# Unwrapping — when a phase is free of jumps

Unwrapping a phase of finite samples is to end and to leave no difference of more than half a turn
(`Spectrum.IsUnwrapped`).  It ends exactly if all samples are within reach of a turn or all are
equal, and the differences are bounded exactly if no turn up overshoots
(`Spectrum.isUnwrapped_iff`).  Below, every difference of an unwrapped phase is bounded; above, the
differences from samples of magnitude up to 60 are, so that a phase in reach is unwrapped if it
begins near zero and is short (`Spectrum.StaysNear`).
-/

namespace SignalLab.Spectrum

open Double

/-- Up to this magnitude a full turn moves a double. -/
def reach : Float := 72057594037927936.0

/-- The reach as a double. -/
theorem value?_reach : value? reach = some (2 ^ 56) :=
  value?_eq_some_iff.mpr ⟨false, 2 ^ 52, 4, by decide, by norm_num [signed]⟩

theorem value?_neg_reach : value? (-reach) = some (-2 ^ 56) :=
  value?_eq_some_iff.mpr ⟨true, 2 ^ 52, 4, by decide, by norm_num [signed]⟩

theorem value?_sixty : value? 60.0 = some 60 :=
  value?_eq_some_iff.mpr ⟨false, 8444249301319680, -47, by decide, by norm_num [signed]⟩

theorem value?_neg_sixty : value? (-60.0) = some (-60) :=
  value?_eq_some_iff.mpr ⟨true, 8444249301319680, -47, by decide, by norm_num [signed]⟩

/-- Two bounds of one size bound the magnitude. -/
theorem between_iff {x low high : Float} {v b : ℚ} (hx : value? x = some v)
    (hlow : value? low = some (-b)) (hhigh : value? high = some b) :
    low ≤ x ∧ x ≤ high ↔ |v| ≤ b := by
  rw [le_iff_value hlow hx, le_iff_value hx hhigh, abs_le]

/-! ## The rest of a phase -/

section Rest

variable {steps : Nat} {before : Float} {w : ℚ} {xs out : List Float}

/-- The first sample is turned toward the one before, and the rest toward it. -/
theorem exists_of_unwrapAfter_cons {x : Float} (h : unwrapAfter steps before (x :: xs) = some out) :
    ∃ y rest, turnToward before steps x = some y ∧ unwrapAfter steps y xs = some rest ∧
      out = y :: rest := by
  rw [unwrapAfter_cons] at h
  obtain ⟨y, hy, hrest⟩ := Option.bind_eq_some_iff.mp h
  obtain ⟨rest, hrest', rfl⟩ := Option.map_eq_some_iff.mp hrest
  exact ⟨y, rest, hy, hrest', rfl⟩

/-- More steps find the same. -/
theorem unwrapAfter_mono {m : Nat} (hle : steps ≤ m) (h : unwrapAfter steps before xs = some out) :
    unwrapAfter m before xs = some out := by
  induction xs generalizing before out with
  | nil => exact h
  | cons x xs ih =>
      obtain ⟨y, rest, hy, hrest, rfl⟩ := exists_of_unwrapAfter_cons h
      rw [unwrapAfter_cons, turnToward_mono hle hy, Option.bind_some, ih hrest, Option.map_some]

/-- What holds between each two neighbours of an unwrapped phase. -/
theorem isChain_unwrapAfter (hbefore : value? before = some w)
    (hxs : ∀ x ∈ xs, ∃ v, value? x = some v) (h : unwrapAfter steps before xs = some out) :
    out.length = xs.length ∧ (before :: out).IsChain fun a b => -Double.pi ≤ b - a ∧
      (¬ Overshoots a b → b - a ≤ Double.pi) ∧ (-60.0 ≤ a ∧ a ≤ 60.0 → b - a ≤ Double.pi) := by
  induction xs generalizing before w out with
  | nil =>
      cases h
      exact ⟨rfl, .singleton before⟩
  | cons x xs ih =>
      obtain ⟨y, rest, hy, hrest, rfl⟩ := exists_of_unwrapAfter_cons h
      obtain ⟨v, hx⟩ := hxs x (List.mem_cons_self ..)
      obtain ⟨u, hu, hge, hle, hsmall, -⟩ := exists_of_turnToward hbefore hx hy
      obtain ⟨hlength, hchain⟩ := ih hu (fun x hx => hxs x (List.mem_cons_of_mem _ hx)) hrest
      refine ⟨congrArg Nat.succ hlength, List.isChain_cons_cons.mpr ⟨⟨hge, hle, ?_⟩, hchain⟩⟩
      exact fun hnear => hsmall ((between_iff hbefore value?_neg_sixty value?_sixty).mp hnear)

/-- From a sample near zero no difference is more than half a turn, for as many samples as it takes
to get away from zero by half a turn a sample. -/
theorem isChain_unwrapAfter_of_near (hbefore : value? before = some w)
    (hxs : ∀ x ∈ xs, ∃ v, value? x = some v) (hnear : |w| + 16 / 5 * xs.length ≤ 60)
    (h : unwrapAfter steps before xs = some out) :
    (before :: out).IsChain fun a b => -Double.pi ≤ b - a ∧ b - a ≤ Double.pi := by
  induction xs generalizing before w out with
  | nil =>
      cases h
      exact .singleton before
  | cons x xs ih =>
      obtain ⟨y, rest, hy, hrest, rfl⟩ := exists_of_unwrapAfter_cons h
      obtain ⟨v, hx⟩ := hxs x (List.mem_cons_self ..)
      obtain ⟨u, hu, hge, -, hsmall, -⟩ := exists_of_turnToward hbefore hx hy
      rw [List.length_cons, Nat.cast_succ] at hnear
      have hpos : (0 : ℚ) ≤ xs.length := Nat.cast_nonneg _
      have hle := hsmall (by linarith)
      have hnear' : |u| ≤ |w| + 16 / 5 := by
        have hdifference : |u - w| ≤ tolerance := abs_le.mpr
          ⟨(neg_pi_le_sub_iff hu hbefore).mp hge, (sub_le_pi_iff hu hbefore).mp hle⟩
        have htriangle := abs_sub_abs_le_abs_sub u w
        have hbound := tolerance_lt
        linarith
      refine List.isChain_cons_cons.mpr ⟨⟨hge, hle⟩, ?_⟩
      exact ih hu (fun x hx => hxs x (List.mem_cons_of_mem _ hx)) (by linarith) hrest

/-- A phase in reach is unwrapped in finitely many steps. -/
theorem exists_unwrapAfter (hbefore : value? before = some w) (hw : |w| ≤ 2 ^ 56)
    (hxs : ∀ x ∈ xs, ∃ v, value? x = some v ∧ |v| ≤ 2 ^ 56) :
    ∃ n out, unwrapAfter n before xs = some out := by
  induction xs generalizing before w with
  | nil => exact ⟨0, [], rfl⟩
  | cons x xs ih =>
      obtain ⟨v, hx, hv⟩ := hxs x (List.mem_cons_self ..)
      obtain ⟨n, y, hy⟩ := exists_turnToward hbefore hx hw hv
      obtain ⟨u, hu, -, -, -, hreach⟩ := exists_of_turnToward hbefore hx hy
      obtain ⟨m, rest, hrest⟩ :=
        ih hu (hreach hw hv) (fun x hx => hxs x (List.mem_cons_of_mem _ hx))
      refine ⟨max n m, y :: rest, ?_⟩
      rw [unwrapAfter_cons, turnToward_mono (Nat.le_max_left n m) hy, Option.bind_some,
        unwrapAfter_mono (Nat.le_max_right n m) hrest, Option.map_some]

/-- A phase of equal samples is left alone. -/
theorem unwrapAfter_of_eq (hbefore : value? before = some w)
    (hxs : ∀ x ∈ xs, value? x = some w) : unwrapAfter 1 before xs = some xs := by
  induction xs generalizing before with
  | nil => rfl
  | cons x xs ih =>
      have hx := hxs x (List.mem_cons_self ..)
      rw [unwrapAfter_cons, turnToward_of_eq hbefore hx, Option.bind_some,
        ih hx (fun x hx => hxs x (List.mem_cons_of_mem _ hx)), Option.map_some]

/-- A phase is not unwrapped if a sample differs from the one before it all and one of the two is out
of reach. -/
theorem unwrapAfter_eq_none (hbefore : value? before = some w)
    (hxs : ∀ x ∈ xs, ∃ v, value? x = some v)
    (hfar : ∃ z ∈ xs, ∃ t, value? z = some t ∧ t ≠ w ∧ (2 ^ 56 < |w| ∨ 2 ^ 56 < |t|)) (n : Nat) :
    unwrapAfter n before xs = none := by
  obtain ⟨z, hz, t, ht, hne, hout⟩ := hfar
  induction xs generalizing before w with
  | nil => cases hz
  | cons x xs ih =>
      obtain ⟨v, hx⟩ := hxs x (List.mem_cons_self ..)
      have hrest := fun x hx => hxs x (List.mem_cons_of_mem _ hx)
      have hlater : t ≠ v → z ∈ xs := fun htv => (List.mem_cons.mp hz).resolve_left fun heq => by
        rw [heq, hx] at ht
        exact htv (Option.some.inj ht).symm
      rw [unwrapAfter_cons]
      cases hy : turnToward before n x with
      | none => rfl
      | some y =>
          -- the sample has been turned, so the two that are too far apart are still to come
          obtain ⟨u, hu, -, -, -, hreach⟩ := exists_of_turnToward hbefore hx hy
          have hnone : unwrapAfter n y xs = none := by
            by_cases hvw : v = w
            · subst hvw
              cases n with
              | zero => cases hy
              | succ n =>
                  rw [turnToward_of_eq hbefore hx] at hy
                  cases hy
                  exact ih hx hrest (hlater hne) hne hout
            · have hnear : ¬ (2 ^ 56 < |w| ∨ 2 ^ 56 < |v|) := fun hfar => by
                rw [turnToward_eq_none hbefore hx hvw hfar] at hy
                cases hy
              obtain ⟨hw, hv⟩ := not_or.mp hnear
              have htfar : 2 ^ 56 < |t| := hout.resolve_left hw
              have hapart : ∀ {q : ℚ}, ¬ 2 ^ 56 < |q| → t ≠ q := fun hq heq => hq (heq ▸ htfar)
              have hunear : ¬ 2 ^ 56 < |u| := not_lt.mpr (hreach (not_lt.mp hw) (not_lt.mp hv))
              exact ih hu hrest (hlater (hapart hv)) (hapart hunear) (.inr htfar)
          rw [Option.bind_some, hnone, Option.map_none]

end Rest

/-! ## Phases -/

/-- All samples are so near zero that a turn moves them, or they are all equal. -/
def InReach (phase : List Float) : Prop :=
  (∀ x ∈ phase, -reach ≤ x ∧ x ≤ reach) ∨ ∀ x ∈ phase, ∀ y ∈ phase, (x == y) = true

/-- The phase begins so near zero that half a turn for every further sample does not lead beyond
60. -/
def StaysNear (phase : List Float) : Prop :=
  ∀ x ∈ phase.head?, ∃ v, value? x = some v ∧ |v| + 16 / 5 * phase.tail.length ≤ 60

/-- What unwrapping is to make of a phase: as many samples, the first of them the same, and no two
neighbours further than half a turn from each other. -/
structure IsUnwrapped (phase out : List Float) : Prop where
  length_eq : out.length = phase.length
  head_eq : out.head? = phase.head?
  isChain : out.IsChain fun a b => -Double.pi ≤ b - a ∧ b - a ≤ Double.pi

section Phase

variable {phase : List Float}

theorem inReach_cons_iff {x : Float} {xs : List Float} {w : ℚ} (hx : value? x = some w)
    (hxs : ∀ x ∈ xs, ∃ v, value? x = some v) :
    InReach (x :: xs) ↔
      (|w| ≤ 2 ^ 56 ∧ ∀ x ∈ xs, ∀ v, value? x = some v → |v| ≤ 2 ^ 56) ∨
        ∀ x ∈ xs, value? x = some w := by
  have hbound : ∀ {z : Float} {u : ℚ}, value? z = some u →
      (-reach ≤ z ∧ z ≤ reach ↔ |u| ≤ 2 ^ 56) :=
    fun hz => between_iff hz value?_neg_reach value?_reach
  constructor
  · rintro (hall | hall)
    · exact .inl ⟨(hbound hx).mp (hall x (List.mem_cons_self ..)), fun z hz v hv =>
        (hbound hv).mp (hall z (List.mem_cons_of_mem _ hz))⟩
    · refine .inr fun z hz => ?_
      obtain ⟨v, hv⟩ := hxs z hz
      have heq := hall z (List.mem_cons_of_mem _ hz) x (List.mem_cons_self ..)
      rw [hv, (beq_iff_value hv hx).mp heq]
  · rintro (⟨hw, hall⟩ | hall)
    · refine .inl fun z hz => ?_
      rcases List.mem_cons.mp hz with rfl | hz
      · exact (hbound hx).mpr hw
      · obtain ⟨v, hv⟩ := hxs z hz
        exact (hbound hv).mpr (hall z hz v hv)
    · have hvalue : ∀ z ∈ x :: xs, value? z = some w := fun z hz => by
        rcases List.mem_cons.mp hz with rfl | hz
        · exact hx
        · exact hall z hz
      exact .inr fun y hy z hz => (beq_iff_value (hvalue y hy) (hvalue z hz)).mpr rfl

/-- The first sample stays. -/
theorem unwrap_cons (steps : Nat) (x : Float) (xs : List Float) :
    unwrap steps (x :: xs) = (unwrapAfter steps x xs).map fun rest => x :: rest := by
  rw [unwrap, Option.map_eq_bind]
  rfl

/-- The others are unwrapped one after the other. -/
theorem exists_of_unwrap_cons {steps : Nat} {x : Float} {xs out : List Float}
    (h : unwrap steps (x :: xs) = some out) :
    ∃ rest, unwrapAfter steps x xs = some rest ∧ x :: rest = out :=
  Option.map_eq_some_iff.mp (unwrap_cons steps x xs ▸ h)

/-- Unwrapping a phase of finite samples ends exactly if the phase is in reach. -/
theorem unwrap_ends_iff (hphase : ∀ x ∈ phase, x.isFinite = true) :
    (∃ steps out, unwrap steps phase = some out) ↔ InReach phase := by
  cases phase with
  | nil => exact iff_of_true ⟨0, [], rfl⟩ (.inl nofun)
  | cons x xs =>
      obtain ⟨w, hx⟩ := isFinite_iff_value.mp (hphase x (List.mem_cons_self ..))
      have hxs : ∀ z ∈ xs, ∃ v, value? z = some v := fun z hz =>
        isFinite_iff_value.mp (hphase z (List.mem_cons_of_mem _ hz))
      rw [inReach_cons_iff hx hxs]
      constructor
      · rintro ⟨n, out, h⟩
        obtain ⟨rest, hrest, -⟩ := exists_of_unwrap_cons h
        by_contra hnot
        obtain ⟨hout, hne⟩ := not_or.mp hnot
        push Not at hout hne
        -- a phase out of reach has a sample unlike the first one where turns are too small to matter
        have hfar : ∃ z ∈ xs, ∃ t, value? z = some t ∧ t ≠ w ∧ (2 ^ 56 < |w| ∨ 2 ^ 56 < |t|) := by
          rcases lt_or_ge (2 ^ 56) |w| with hw | hw
          · obtain ⟨z, hz, hzw⟩ := hne
            obtain ⟨t, ht⟩ := hxs z hz
            exact ⟨z, hz, t, ht, fun heq => hzw (heq ▸ ht), .inl hw⟩
          · obtain ⟨z, hz, t, ht, htfar⟩ := hout hw
            exact ⟨z, hz, t, ht, fun heq => htfar.not_ge (heq ▸ hw), .inr htfar⟩
        rw [unwrapAfter_eq_none hx hxs hfar n] at hrest
        cases hrest
      · rintro (⟨hw, hall⟩ | hall)
        · obtain ⟨n, rest, hrest⟩ := exists_unwrapAfter hx hw fun z hz =>
            (hxs z hz).imp fun v hv => ⟨hv, hall z hz v hv⟩
          exact ⟨n, x :: rest, by rw [unwrap_cons, hrest, Option.map_some]⟩
        · exact ⟨1, x :: xs, by rw [unwrap_cons, unwrapAfter_of_eq hx hall, Option.map_some]⟩

/-- More steps unwrap to the same. -/
theorem unwrap_mono {m n : Nat} {out : List Float} (hle : n ≤ m) (h : unwrap n phase = some out) :
    unwrap m phase = some out := by
  cases phase with
  | nil => exact h
  | cons x xs =>
      obtain ⟨rest, hrest, rfl⟩ := exists_of_unwrap_cons h
      rw [unwrap_cons, unwrapAfter_mono hle hrest, Option.map_some]

/-- The result does not depend on the number of steps that are granted. -/
theorem unwrap_unique {m n : Nat} {out out' : List Float} (h : unwrap m phase = some out)
    (h' : unwrap n phase = some out') : out = out' := by
  have hm := unwrap_mono (Nat.le_max_left m n) h
  have hn := unwrap_mono (Nat.le_max_right m n) h'
  exact Option.some.inj (hm.symm.trans hn)

/-- An unwrapped phase keeps its length and its first sample, and its differences are bounded below,
and above where no turn overshoots. -/
theorem isChain_unwrap (hphase : ∀ x ∈ phase, x.isFinite = true) {steps : Nat} {out : List Float}
    (h : unwrap steps phase = some out) :
    out.length = phase.length ∧ out.head? = phase.head? ∧
      out.IsChain fun a b => -Double.pi ≤ b - a ∧ (¬ Overshoots a b → b - a ≤ Double.pi) ∧
        (-60.0 ≤ a ∧ a ≤ 60.0 → b - a ≤ Double.pi) := by
  cases phase with
  | nil =>
      cases h
      exact ⟨rfl, rfl, .nil⟩
  | cons x xs =>
      obtain ⟨w, hx⟩ := isFinite_iff_value.mp (hphase x (List.mem_cons_self ..))
      obtain ⟨rest, hrest, rfl⟩ := exists_of_unwrap_cons h
      obtain ⟨hlength, hchain⟩ := isChain_unwrapAfter hx
        (fun z hz => isFinite_iff_value.mp (hphase z (List.mem_cons_of_mem _ hz))) hrest
      exact ⟨congrArg Nat.succ hlength, rfl, hchain⟩

/-- A phase in reach that stays near zero is unwrapped. -/
theorem isUnwrapped_of_staysNear (hphase : ∀ x ∈ phase, x.isFinite = true)
    (hreach : InReach phase) (hnear : StaysNear phase) :
    ∃ steps out, unwrap steps phase = some out ∧ IsUnwrapped phase out := by
  obtain ⟨steps, out, h⟩ := (unwrap_ends_iff hphase).mpr hreach
  obtain ⟨hlength, hhead, -⟩ := isChain_unwrap hphase h
  refine ⟨steps, out, h, hlength, hhead, ?_⟩
  cases phase with
  | nil =>
      cases h
      exact .nil
  | cons x xs =>
      obtain ⟨w, hx, hw⟩ := hnear x rfl
      obtain ⟨rest, hrest, rfl⟩ := exists_of_unwrap_cons h
      exact isChain_unwrapAfter_of_near hx
        (fun z hz => isFinite_iff_value.mp (hphase z (List.mem_cons_of_mem _ hz))) hw hrest

/-- Unwrapping does what it is to do exactly for the phases in reach on which no turn up
overshoots; none does on a phase that stays near zero. -/
theorem isUnwrapped_iff (hphase : ∀ x ∈ phase, x.isFinite = true) :
    ((∃ steps out, unwrap steps phase = some out) ↔ InReach phase) ∧
      ((∃ steps out, unwrap steps phase = some out ∧ IsUnwrapped phase out) ↔
        InReach phase ∧ ∀ steps out, unwrap steps phase = some out →
          out.IsChain fun a b => ¬ Overshoots a b) ∧
      (InReach phase → StaysNear phase →
        ∃ steps out, unwrap steps phase = some out ∧ IsUnwrapped phase out) ∧
      ∀ steps out, unwrap steps phase = some out →
        out.length = phase.length ∧ out.head? = phase.head? ∧ out.IsChain fun a b =>
          -Double.pi ≤ b - a ∧ (-60.0 ≤ a ∧ a ≤ 60.0 → b - a ≤ Double.pi) := by
  refine ⟨unwrap_ends_iff hphase, ⟨?_, ?_⟩, isUnwrapped_of_staysNear hphase, ?_⟩
  · rintro ⟨steps, out, h, hout⟩
    refine ⟨(unwrap_ends_iff hphase).mp ⟨steps, out, h⟩, fun n out' h' => ?_⟩
    rw [← unwrap_unique h h']
    refine hout.isChain.imp fun a b hab hover => ?_
    obtain ⟨z, -, -, -, habove⟩ := hover
    have hself : b - a < b - a := lt_of_le_of_lt hab.2 habove
    exact not_lt_of_lt hself hself
  · rintro ⟨hreach, hlands⟩
    obtain ⟨steps, out, h⟩ := (unwrap_ends_iff hphase).mpr hreach
    obtain ⟨hlength, hhead, hchain⟩ := isChain_unwrap hphase h
    have hnone := List.isChain_iff_getElem.mp (hlands steps out h)
    refine ⟨steps, out, h, hlength, hhead, List.isChain_iff_getElem.mpr fun i hi => ?_⟩
    obtain ⟨hge, hle, -⟩ := List.isChain_iff_getElem.mp hchain i hi
    exact ⟨hge, hle (hnone i hi)⟩
  · intro steps out h
    obtain ⟨hlength, hhead, hchain⟩ := isChain_unwrap hphase h
    exact ⟨hlength, hhead, hchain.imp fun a b hab => ⟨hab.1, hab.2.2⟩⟩

end Phase

/-- A turn down brings seven to less than half a turn from a half. -/
theorem isUnwrapped_one_turn : (∀ x ∈ [0.5, 7.0], x.isFinite = true) ∧
    ∃ steps out, unwrap steps [0.5, 7.0] = some out ∧ IsUnwrapped [0.5, 7.0] out := by
  have hfinite : ∀ x ∈ [0.5, 7.0], x.isFinite = true := by decide
  have hrun : unwrap 2 [0.5, 7.0] = some [0.5, 7.0 - turn] := by rfl
  have hnear : ¬ Double.pi < 7.0 - turn - 0.5 := by decide
  refine ⟨hfinite, (isUnwrapped_iff hfinite).2.1.mpr ⟨.inl (by decide), fun steps out h => ?_⟩⟩
  rw [unwrap_unique h hrun, List.isChain_pair]
  rintro ⟨z, -, -, -, habove⟩
  exact hnear habove

/-- Within reach, but with a unit of four: the upper sample is one unit above the lower one, which
is more than half a turn.  A turn down takes it to one unit below, and a turn up back to where it
was. -/
theorem unwrap_unit_of_four :
    (∀ x ∈ [18014398509481992.0, 18014398509481996.0], x.isFinite = true) ∧
      unwrap 3 [18014398509481992.0, 18014398509481996.0] =
        some [18014398509481992.0, 18014398509481996.0] ∧
      ¬ ∃ steps out, unwrap steps [18014398509481992.0, 18014398509481996.0] = some out ∧
        IsUnwrapped [18014398509481992.0, 18014398509481996.0] out := by
  have hrun : unwrap 3 [18014398509481992.0, 18014398509481996.0] =
      some [18014398509481992.0, 18014398509481996.0] := by rfl
  have hfar : ¬ (18014398509481996.0 - 18014398509481992.0 : Float) ≤ Double.pi := by decide
  refine ⟨by decide, hrun, ?_⟩
  rintro ⟨steps, out, h, -, -, hchain⟩
  rw [unwrap_unique h hrun, List.isChain_pair] at hchain
  exact hfar hchain.2

end SignalLab.Spectrum
