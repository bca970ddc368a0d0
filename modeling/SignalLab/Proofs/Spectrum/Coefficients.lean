import SignalLab.Proofs.Spectrum.SingleSided

/-!
# Coefficients — one bin measured by itself

A bin of the spectrum is the running sum of the samples against its wave, in the order of the
samples (`Spectrum.getElem?_dft`).  Measuring one coefficient sums up the same values in the same
order, and divides the two parts by the length of the signal; it does so for whatever the signal
holds, infinite samples and NaN among them (`Spectrum.coefficient_eq_average`).
-/

namespace SignalLab.Spectrum

/-! ## Running sums -/

/-- The first samples of a signal summed up against the wave of bin `k`. -/
def binSum (signal : List Float) (k : Nat) : Nat → ComplexDouble
  | 0 => ⟨0.0, 0.0⟩
  | n + 1 =>
    match signal[n]? with
    | some x =>
      let sum := binSum signal k n
      let a := angle (Double.ofNat signal.length) (Double.ofNat k) (Double.ofNat n)
      ⟨sum.re + x * Float.cos a, sum.im + x * Float.sin a⟩
    | none => binSum signal k n

section Bins

variable {signal : List Float}

/-- Every sample has a number. -/
theorem length_positioned : (positioned signal).length = signal.length := by
  rw [positioned, List.length_map, List.length_zipIdx]

/-- The samples are numbered in order. -/
theorem getElem?_positioned (n : Nat) :
    (positioned signal)[n]? = signal[n]?.map fun x => (x, Double.ofNat n) := by
  rw [positioned, List.getElem?_map, List.getElem?_zipIdx]
  cases signal[n]? <;> simp

/-- Correlating sample after sample gives the running sums. -/
theorem correlate_take_positioned (k n : Nat) :
    correlate (Double.ofNat signal.length) (Double.ofNat k) ((positioned signal).take n) =
      binSum signal k n := by
  induction n with
  | zero => rfl
  | succ n ih =>
      rw [correlate] at ih ⊢
      rw [List.take_add_one, List.foldl_append, ih, getElem?_positioned, binSum]
      cases signal[n]? <;> rfl

/-- The inner loop sums up all samples. -/
theorem correlate_positioned (k : Nat) :
    correlate (Double.ofNat signal.length) (Double.ofNat k) (positioned signal) =
      binSum signal k signal.length := by
  rw [← correlate_take_positioned, List.take_of_length_le (Nat.le_of_eq length_positioned)]

/-- A bin of the spectrum is the sum of all samples against its wave. -/
theorem getElem?_dft {k : Nat} (hk : k < signal.length) :
    (dft signal)[k]? = some (binSum signal k signal.length) := by
  rw [dft, List.getElem?_map, List.getElem?_range hk, Option.map_some, correlate_positioned]

/-! ## Measuring one bin -/

/-- The number of a bin is a double. -/
theorem binNumber_natCast (k : Nat) : binNumber k = Double.ofNat k := by
  rw [binNumber, decide_eq_false (Int.not_lt.mpr (Int.natCast_nonneg k)), Int.natAbs_natCast]
  rfl

/-- A bin of the signal has a wave. -/
theorem binFault?_eq_none {k length : Nat} (hk : k < length) : binFault? length k = none :=
  if_pos (by rwa [Int.natAbs_natCast])

/-- A coefficient is the sum over the samples, divided by their number. -/
theorem coefficient_eq_binSum {k : Nat} (hk : k < signal.length) :
    coefficient signal k = .ok
      ⟨(binSum signal k signal.length).re / Double.ofNat signal.length,
        (binSum signal k signal.length).im / Double.ofNat signal.length⟩ := by
  have hne : signal.isEmpty = false := by
    rw [List.isEmpty_eq_false_iff_exists_mem]
    exact ⟨signal[k], List.getElem_mem hk⟩
  rw [coefficient, hne, binFault?_eq_none hk, binNumber_natCast, ← correlate_positioned]
  rfl

/-- The spectrum has a bin for every sample, and a coefficient measured by itself is the bin of the
spectrum with both parts divided by the length of the signal. -/
theorem coefficient_eq_average (signal : List Float) :
    (dft signal).length = signal.length ∧
      ∀ k < signal.length, ∃ z, (dft signal)[k]? = some z ∧ z = binSum signal k signal.length ∧
        coefficient signal k =
          .ok ⟨z.re / Double.ofNat signal.length, z.im / Double.ofNat signal.length⟩ := by
  refine ⟨length_dft signal, fun k hk => ?_⟩
  exact ⟨_, getElem?_dft hk, rfl, coefficient_eq_binSum hk⟩

end Bins

/-- A signal that holds an infinite sample and a NaN. -/
theorem coefficient_of_infinite_and_nan :
    1 < [1.0, Double.infinity, Double.nan].length ∧
      ∃ z, (dft [1.0, Double.infinity, Double.nan])[1]? = some z ∧
        coefficient [1.0, Double.infinity, Double.nan] 1 =
          .ok ⟨z.re / Double.ofNat 3, z.im / Double.ofNat 3⟩ := by
  have hlength : 1 < [1.0, Double.infinity, Double.nan].length := by simp
  obtain ⟨z, hz, -, hcoefficient⟩ :=
    (coefficient_eq_average [1.0, Double.infinity, Double.nan]).2 1 hlength
  exact ⟨hlength, z, hz, hcoefficient⟩

end SignalLab.Spectrum
