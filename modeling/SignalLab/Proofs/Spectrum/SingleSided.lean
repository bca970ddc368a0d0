import SignalLab.Proofs.Program.Recovery
import SignalLab.Spectrum.Spectra

/-!
# Single-sided spectra — when they fail, and how long they are

All steps to a single-sided spectrum are total but one: the modulus of a bin between the zeroth and
the middle one may be beyond the largest double although both its parts are finite.  Windows,
padding and angles never fail, as long as the length of the signal is told apart from its neighbours
(`Spectrum.paddedLength_eq`); a signal that is not padded may have any length.

  * `Spectrum.singleSided_error_iff` — a single-sided spectrum fails exactly at such a bin.
  * `Spectrum.hasBins_of_singleSided` — any other one has all its bins.
-/

namespace SignalLab

open Fallible

namespace Spectrum

/-! ## Padding -/

/-- Powers of two are above a number exactly if they are above its ceiling. -/
theorem powerCeiling_le_iff (n e : Nat) : powerCeiling n ≤ twoTo e ↔ n ≤ twoTo e := by
  rw [powerCeiling]
  split
  · rename_i hsmall
    have hpos : 1 ≤ twoTo e := Nat.one_le_two_pow
    omega
  · rename_i hlarge
    have hpred : n - 1 ≠ 0 := by omega
    have hpos : 0 < twoTo e := Nat.two_pow_pos e
    have hbelow : (n - 1).log2 + 1 ≤ e ↔ n - 1 < twoTo e :=
      Nat.succ_le_iff.trans (Nat.log2_lt hpred)
    have hpowers : twoTo ((n - 1).log2 + 1) ≤ twoTo e ↔ (n - 1).log2 + 1 ≤ e :=
      Nat.pow_le_pow_iff_right (by omega)
    rw [hpowers, hbelow]
    omega

/-- The ceiling is a power of two. -/
theorem exists_powerCeiling_eq (n : Nat) : ∃ e, powerCeiling n = twoTo e := by
  rw [powerCeiling]
  split
  · exact ⟨0, rfl⟩
  · exact ⟨_, rfl⟩

/-- The length to which a signal of length `n` is padded. -/
def paddedSize (n padding : Nat) : Nat :=
  if padding = 0 then n else powerCeiling n * twoTo padding

/-- The padded length of a signal whose length is told apart from its neighbours. -/
theorem paddedLength_eq {n : Nat} (h : n ≤ maxToldApart) (padding : Nat) :
    paddedLength n padding = .ok (paddedSize n padding) := by
  rw [paddedLength, paddedSize]
  split
  · rfl
  · rw [nextPowerOfTwo, if_pos (by omega)]
    rfl

/-- Padding takes nothing away. -/
theorem le_paddedSize (n padding : Nat) : n ≤ paddedSize n padding := by
  rw [paddedSize]
  split
  · exact Nat.le_refl n
  -- a power of two is above itself, so the ceiling is above the number
  · obtain ⟨e, he⟩ := exists_powerCeiling_eq n
    have hceiling : n ≤ powerCeiling n := by
      rw [he]
      exact (powerCeiling_le_iff n e).mp (Nat.le_of_eq he)
    exact Nat.le_trans hceiling (Nat.le_mul_of_pos_right _ (Nat.two_pow_pos padding))

/-- A window keeps the number of samples. -/
theorem Window.length_apply (w : Window) (signal : List Float) :
    (w.apply signal).length = signal.length := by
  rw [apply]
  split
  · rfl
  · rw [List.length_map, positioned, List.length_map, List.length_zipIdx]

/-- A spectrum has a bin for every sample. -/
theorem length_dft (signal : List Float) (waves : Waves := .platform) :
    (dft signal waves).length = signal.length := by
  rw [dft, List.length_map, List.length_range]

/-- A windowed signal with zeros behind it. -/
def padded (signal : List Float) (padding : Nat) (w : Window) : List Float :=
  w.apply signal ++ List.replicate (paddedSize signal.length padding - signal.length) 0.0

/-- A padded signal has the padded size. -/
theorem length_padded (signal : List Float) (padding : Nat) (w : Window) :
    (padded signal padding w).length = paddedSize signal.length padding := by
  have hle := le_paddedSize signal.length padding
  rw [padded, List.length_append, List.length_replicate, w.length_apply]
  omega

/-! ## Magnitudes -/

/-- Whether the modulus of finite parts is beyond the largest double. -/
def IsHuge (z : ComplexDouble) : Prop :=
  z.re.isFinite = true ∧ z.im.isFinite = true ∧ (Double.hypot z.re z.im).isFinite = false

/-- A magnitude fails for a huge bin that is doubled, and for nothing else. -/
theorem foldedMagnitude_error_iff (size i : Nat) (norm : Float) (z : ComplexDouble) (e : Fault) :
    foldedMagnitude size norm i z = .error e ↔
      e = .modulusRange ∧ ¬(i = 0 ∨ (size % 2 = 0 ∧ i = size / 2)) ∧ IsHuge z := by
  rw [foldedMagnitude]
  split
  · rename_i hown
    constructor
    · intro h
      cases h
    · rintro ⟨-, hpaired, -⟩
      exact absurd hown hpaired
  · rename_i hpaired
    rw [bind_error_iff, Plot.modulus_error_iff]
    constructor
    · rintro (⟨rfl, hhuge⟩ | ⟨m, -, h⟩)
      · exact ⟨rfl, hpaired, hhuge⟩
      · cases h
    · rintro ⟨rfl, -, hhuge⟩
      exact .inl ⟨rfl, hhuge⟩

/-- Whether a spectrum has a bin, strictly between the zeroth and the middle one, whose modulus is
beyond the largest double although its parts are finite. -/
def HasHugeBin (spectrum : List ComplexDouble) : Prop :=
  ∃ k z, 0 < k ∧ 2 * k < spectrum.length ∧ spectrum[k]? = some z ∧ IsHuge z

/-- The bins of a spectrum up to the middle one, with their numbers. -/
def lowerBins (spectrum : List ComplexDouble) : List (ComplexDouble × Nat) :=
  (spectrum.take (spectrum.length / 2 + 1)).zipIdx

/-- There are as many lower bins as fit up to the middle. -/
theorem length_lowerBins {spectrum : List ComplexDouble} (h : spectrum ≠ []) :
    (lowerBins spectrum).length = spectrum.length / 2 + 1 := by
  have hpos : 0 < spectrum.length := List.length_pos_iff.mpr h
  rw [lowerBins, List.length_zipIdx, List.length_take]
  omega

/-- They are the bins up to the middle, the middle one among them. -/
theorem mem_lowerBins {spectrum : List ComplexDouble} {z : ComplexDouble} {k : Nat} :
    (z, k) ∈ lowerBins spectrum ↔ 2 * k ≤ spectrum.length ∧ spectrum[k]? = some z := by
  rw [lowerBins, List.mem_zipIdx_iff_getElem?, List.getElem?_take]
  by_cases hk : k < spectrum.length / 2 + 1
  · rw [if_pos hk]
    exact ⟨fun h => ⟨by omega, h⟩, fun h => h.2⟩
  · rw [if_neg hk]
    constructor
    · intro h
      cases h
    · rintro ⟨hle, -⟩
      omega

/-- The magnitudes of the lower bins fail exactly at a huge one between the outermost two. -/
theorem foldedMagnitudes_error_iff (spectrum : List ComplexDouble) (norm : Float) (e : Fault) :
    ((lowerBins spectrum).mapM fun bin => foldedMagnitude spectrum.length norm bin.2 bin.1) =
      .error e ↔ e = .modulusRange ∧ HasHugeBin spectrum := by
  have hone : ∀ (bin : ComplexDouble × Nat) (e : Fault),
      foldedMagnitude spectrum.length norm bin.2 bin.1 = .error e → e = .modulusRange :=
    fun bin e h => ((foldedMagnitude_error_iff _ _ _ _ e).mp h).1
  rw [mapM_error_iff hone]
  refine and_congr_right fun _ => ⟨?_, ?_⟩
  -- a lower bin that has a partner is neither the zeroth nor the middle one
  · rintro ⟨⟨z, k⟩, hmem, h⟩
    obtain ⟨hle, hz⟩ := mem_lowerBins.mp hmem
    obtain ⟨-, hpaired, hhuge⟩ := (foldedMagnitude_error_iff _ _ _ _ _).mp h
    exact ⟨k, z, by omega, by omega, hz, hhuge⟩
  · rintro ⟨k, z, hpos, hbelow, hz, hhuge⟩
    refine ⟨(z, k), mem_lowerBins.mpr ⟨by omega, hz⟩, ?_⟩
    exact (foldedMagnitude_error_iff _ _ _ _ _).mpr ⟨rfl, by omega, hhuge⟩

/-! ## Single-sided spectra -/

/-- A single-sided spectrum with the given number of bins. -/
def SingleSided.HasBins (s : SingleSided) (n : Nat) : Prop :=
  s.magnitude.length = n ∧ s.phase.length = n ∧ s.frequencies.length = n

/-- The lower half of a spectrum. -/
def folded (spectrum : List ComplexDouble) (fs : Float) (normalize : Bool) :
    Except Fault SingleSided := do
  let size := spectrum.length
  let norm := if normalize then Double.ofNat size else 1.0
  let magnitude ← (lowerBins spectrum).mapM fun bin => foldedMagnitude size norm bin.2 bin.1
  .ok ⟨magnitude, (lowerBins spectrum).map fun bin => phase bin.1,
    (lowerBins spectrum).map fun bin => Double.ofNat bin.2 * fs / Double.ofNat size⟩

/-- A spectrum can be folded unless one of its bins is huge. -/
theorem folded_error_iff (spectrum : List ComplexDouble) (fs : Float) (normalize : Bool)
    (e : Fault) :
    folded spectrum fs normalize = .error e ↔ e = .modulusRange ∧ HasHugeBin spectrum := by
  rw [folded, bind_error_iff, foldedMagnitudes_error_iff]
  constructor
  · rintro (h | ⟨magnitude, -, h⟩)
    · exact h
    · cases h
  · exact .inl

/-- A folded spectrum has a frequency, a magnitude and a phase for each lower bin. -/
theorem hasBins_of_folded {spectrum : List ComplexDouble} {fs : Float} {normalize : Bool}
    {s : SingleSided} (hne : spectrum ≠ []) (h : folded spectrum fs normalize = .ok s) :
    s.HasBins (spectrum.length / 2 + 1) := by
  obtain ⟨magnitude, hmagnitude, h⟩ := bind_ok_iff.mp h
  cases h
  have hbins := length_lowerBins hne
  exact ⟨(length_of_mapM_ok hmagnitude).trans hbins, by rw [List.length_map, hbins],
    by rw [List.length_map, hbins]⟩

variable {signal : List Float}

/-- The spectrum of a signal whose padded length is known is that of the padded signal, folded. -/
theorem singleSided_of_paddedLength {padding : Nat}
    (h : paddedLength signal.length padding = .ok (paddedSize signal.length padding)) (fs : Float)
    (normalize : Bool) (w : Window) : singleSided signal fs normalize padding w =
      folded (dft (padded signal padding w)) fs normalize := by
  have hsize : (dft (padded signal padding w)).length = paddedSize signal.length padding :=
    (length_dft _).trans (length_padded signal padding w)
  rw [singleSided, folded, lowerBins, hsize, w.length_apply, h]
  rfl

/-- A signal whose bins can be told apart is padded, transformed and folded. -/
theorem singleSided_eq_folded (h : signal.length ≤ maxToldApart) (fs : Float) (normalize : Bool)
    (padding : Nat) (w : Window) :
    singleSided signal fs normalize padding w =
      folded (dft (padded signal padding w)) fs normalize :=
  singleSided_of_paddedLength (paddedLength_eq h padding) fs normalize w

/-- A signal that is not padded may have any length. -/
theorem singleSided_unpadded (signal : List Float) (fs : Float) (normalize : Bool) (w : Window) :
    singleSided signal fs normalize 0 w = folded (dft (w.apply signal)) fs normalize := by
  have hpadded : padded signal 0 w = w.apply signal := by
    rw [padded, paddedSize, if_pos rfl, Nat.sub_self, List.replicate_zero, List.append_nil]
  rw [singleSided_of_paddedLength rfl, hpadded]

/-- A one-sided spectrum fails for a huge bin, and for nothing else. -/
theorem singleSided_error_iff (h : signal.length ≤ maxToldApart) (fs : Float) (normalize : Bool)
    (padding : Nat) (w : Window) (e : Fault) :
    singleSided signal fs normalize padding w = .error e ↔
      e = .modulusRange ∧ HasHugeBin (dft (padded signal padding w)) := by
  rw [singleSided_eq_folded h, folded_error_iff]

/-- Otherwise it has a value of each kind for half of the padded size, and one more. -/
theorem hasBins_of_singleSided {fs : Float} {normalize : Bool} {padding : Nat} {w : Window}
    {s : SingleSided} (hne : signal ≠ []) (hlength : signal.length ≤ maxToldApart)
    (h : singleSided signal fs normalize padding w = .ok s) :
    s.HasBins (paddedSize signal.length padding / 2 + 1) := by
  have hsize : (dft (padded signal padding w)).length = paddedSize signal.length padding :=
    (length_dft _).trans (length_padded signal padding w)
  have hspectrum : dft (padded signal padding w) ≠ [] := by
    have hle := le_paddedSize signal.length padding
    have hpos : 0 < signal.length := List.length_pos_iff.mpr hne
    exact List.length_pos_iff.mp (by omega)
  rw [singleSided_eq_folded hlength] at h
  have hbins := hasBins_of_folded hspectrum h
  rwa [hsize] at hbins

end Spectrum

end SignalLab
