import SignalLab.Proofs.Number.Rounding
import SignalLab.Proofs.Spectrum.SingleSided

/-!
# Halves — a single-sided spectrum next to the full one

A single-sided spectrum is worked out from the same bins as the full one, by a loop of its own.  Bin
by bin it has the phase and, up to the middle, the frequency of the full spectrum.  Its magnitude is
that of the full spectrum doubled and divided by the norm, except at the bins that are their own
mirror images, where it is that of the real part.

  * `Spectrum.isBelowMiddle_iff` — the middle is exactly half of a length that is a double.
  * `Spectrum.halves_agree` — the two spectra of a signal.
-/

namespace SignalLab

open Fallible Float.Model

namespace Spectrum

/-! ## Frequencies -/

/-- A bin is below the middle of `n` bins, which is half of `n` as a double. -/
def IsBelowMiddle (i n : Nat) : Prop :=
  ∃ half v, Quantity.divIntegers n 2 = .ok half ∧ Double.value? half = some v ∧ (i : ℚ) < v

/-- Up to two to the fifty-third, half of a number is a double. -/
theorem fits_half {n : Nat} (h : n ≤ 2 ^ 53) : Double.Fits ((n : ℚ) / 2) := by
  rcases Nat.lt_or_eq_of_le h with hlt | rfl
  · exact ⟨n, -1, hlt, by decide, by rw [zpow_neg_one, div_eq_mul_inv]⟩
  · exact ⟨1, 52, by decide, by decide, by norm_num⟩

/-- Up to `2 ^ 53` bins the test for the lower half rounds nothing. -/
theorem isBelowMiddle_iff {i n : Nat} (h : n ≤ 2 ^ 53) : IsBelowMiddle i n ↔ 2 * i < n := by
  have hlog : n.log2 ≤ Nat.log2 2 + 1020 := by
    have hle : n.log2 ≤ Nat.log2 (2 ^ 53) := log2_mono h
    rw [Nat.log2_two_pow] at hle
    omega
  obtain ⟨half, v, hhalf, hv, hround⟩ := Quantity.exists_divIntegers two_ne_zero hlog
  have hexact : v = (n : ℚ) / 2 := hround.eq (fits_half h)
  have hiff : (i : ℚ) < v ↔ 2 * i < n := by
    rw [hexact, lt_div_iff₀ two_pos]
    norm_cast
    rw [mul_comm]
  constructor
  · rintro ⟨half', v', hhalf', hv', hlt⟩
    cases hhalf.symm.trans hhalf'
    cases hv.symm.trans hv'
    exact hiff.mp hlt
  · intro hlt
    exact ⟨half, v, hhalf, hv, hiff.mpr hlt⟩

/-- The frequency of a bin, once the middle is known. -/
theorem binFrequency_eq {k n : Int} {half : Float} {v : ℚ}
    (hhalf : Quantity.divIntegers n 2 = .ok half) (hv : Double.value? half = some v) (fs : Float) :
    binFrequency k n fs = (do
      let bin ← Double.ofInt (if k < ⌈v⌉ then k else k - n)
      let size ← Double.ofInt n
      Quantity.divReals (bin * fs) size) := by
  rw [binFrequency, hhalf]
  show (Double.toInteger .up half >>= fun middle => _) = _
  rw [Double.toInteger_up hv]
  rfl

/-- The frequency of a bin of the lower half. -/
theorem eq_of_binFrequency {i n : Nat} {fs x : Float} (hbelow : IsBelowMiddle i n)
    (h : binFrequency i n fs = .ok x) : x = Double.ofNat i * fs / Double.ofNat n := by
  obtain ⟨half, v, hhalf, hv, hlt⟩ := hbelow
  have hmiddle : (i : Int) < ⌈v⌉ := Int.lt_ceil.mpr (by exact_mod_cast hlt)
  rw [binFrequency_eq hhalf hv, if_pos hmiddle] at h
  obtain ⟨bin, hbin, h⟩ := bind_ok_iff.mp h
  obtain ⟨size, hsize, h⟩ := bind_ok_iff.mp h
  rw [Double.eq_ofNat_of_ofInt hbin, Double.eq_ofNat_of_ofInt hsize, Quantity.divReals] at h
  split at h
  · cases h
  · exact (Except.ok.inj h).symm

/-- Every bin of a spectrum has a frequency. -/
theorem exists_binFrequency {k n : Nat} (hk : k < n) (hlog : n.log2 ≤ 1020) (fs : Float) :
    ∃ x, binFrequency k n fs = .ok x := by
  obtain ⟨half, v, hhalf, hv, -⟩ :=
    Quantity.exists_divIntegers (a := n) two_ne_zero (by omega)
  obtain ⟨bin, hbin⟩ : ∃ bin, Double.ofInt (if (k : Int) < ⌈v⌉ then k else k - n) = .ok bin := by
    have hle : (if (k : Int) < ⌈v⌉ then (k : Int) else k - n).natAbs ≤ n := by
      split
      · omega
      · omega
    exact Double.exists_ofInt ((log2_mono hle).trans hlog)
  have hsize : Double.ofInt n = .ok (Double.ofNat n) := by
    obtain ⟨size, hsize⟩ := Double.exists_ofInt (n := n) hlog
    rw [hsize, Double.eq_ofNat_of_ofInt hsize]
  rw [binFrequency_eq hhalf hv, hbin]
  show ∃ x, (Double.ofInt n >>= fun size => Quantity.divReals (bin * fs) size) = .ok x
  rw [hsize]
  show ∃ x, Quantity.divReals (bin * fs) (Double.ofNat n) = .ok x
  rw [Quantity.divReals, Double.ofNat_beq_zero (by omega) hlog]
  exact ⟨_, rfl⟩

/-! ## Lower bins -/

variable {spectrum : List ComplexDouble}

/-- The lower bins are the bins of the spectrum up to the middle, each with its number. -/
theorem getElem?_lowerBins {i : Nat} (hi : 2 * i ≤ spectrum.length) :
    (lowerBins spectrum)[i]? = spectrum[i]?.map fun z => (z, i) := by
  rw [lowerBins, List.getElem?_zipIdx, List.getElem?_take_of_lt (by omega)]
  simp only [Nat.zero_add]

theorem lowerBins_of_getElem? {i : Nat} {z : ComplexDouble} (hi : 2 * i ≤ spectrum.length)
    (hz : spectrum[i]? = some z) : (lowerBins spectrum)[i]? = some (z, i) := by
  rw [getElem?_lowerBins hi, hz]
  rfl

/-- The number of bins of a single-sided spectrum of `n` samples. -/
def lowerCount (n : Nat) : Nat :=
  if n = 0 then 0 else n / 2 + 1

/-- A one-sided spectrum has a frequency, a magnitude and a phase for each lower bin. -/
theorem hasBins_lowerCount {fs : Float} {normalize : Bool} {s : SingleSided}
    (h : folded spectrum fs normalize = .ok s) : s.HasBins (lowerCount spectrum.length) := by
  cases spectrum with
  | nil =>
      cases h
      exact ⟨rfl, rfl, rfl⟩
  | cons z zs => exact hasBins_of_folded (List.cons_ne_nil z zs) h

/-- A spectrum whose magnitudes are numbers can be folded. -/
theorem exists_folded {moduli : List Float} (h : magnitudes spectrum = .ok moduli) (fs : Float)
    (normalize : Bool) : ∃ s, folded spectrum fs normalize = .ok s := by
  cases hfolded : folded spectrum fs normalize with
  | ok s => exact ⟨s, rfl⟩
  | error e =>
      obtain ⟨-, k, z, -, -, hz, hhuge⟩ := (folded_error_iff spectrum fs normalize e).mp hfolded
      obtain ⟨m, hm, -⟩ := getElem?_of_mapM_ok h hz
      cases hm.symm.trans ((Plot.modulus_error_iff z .modulusRange).mpr ⟨rfl, hhuge⟩)

/-! ## Full spectra -/

/-- The full spectrum of a signal, bin by bin. -/
theorem of_full {signal : List Float} {fs : Float} {w : Window} {f : Full}
    (h : full signal fs w false = .ok f) :
    f.spectrum = dft (w.apply signal) ∧ magnitudes f.spectrum = .ok f.magnitude ∧
      f.phase = f.spectrum.map phase ∧ (List.range f.spectrum.length).mapM
        (fun (k : Nat) => binFrequency k f.spectrum.length fs) = .ok f.frequencies := by
  obtain ⟨magnitude, hmagnitude, h⟩ := bind_ok_iff.mp h
  obtain ⟨frequencies, hfrequencies, h⟩ := bind_ok_iff.mp h
  cases h
  exact ⟨rfl, hmagnitude, rfl, hfrequencies⟩

/-- So there is a full spectrum of the signal. -/
theorem exists_full {signal : List Float} {w : Window} {moduli : List Float}
    (h : magnitudes (dft (w.apply signal)) = .ok moduli) (hlog : signal.length.log2 ≤ 1020)
    (fs : Float) : ∃ f, full signal fs w false = .ok f := by
  have hlength : (dft (w.apply signal)).length = signal.length :=
    (length_dft _).trans (w.length_apply signal)
  obtain ⟨frequencies, hfrequencies⟩ : ∃ frequencies, (List.range signal.length).mapM
      (fun (k : Nat) => binFrequency k signal.length fs) = .ok frequencies :=
    exists_mapM_ok fun k hk => exists_binFrequency (List.mem_range.mp hk) hlog fs
  rw [← hlength] at hfrequencies
  exact ⟨_, bind_ok_iff.mpr ⟨moduli, h, bind_ok_iff.mpr ⟨frequencies, hfrequencies, rfl⟩⟩⟩

/-! ## Both -/

/-- A bin that is its own mirror image: the zeroth, and the middle one if there is one. -/
def IsOwnMirror (i n : Nat) : Prop :=
  i = 0 ∨ n % 2 = 0 ∧ i = n / 2

/-- A bin that is its own mirror is the first one or the middle one. -/
theorem IsOwnMirror.two_mul_le {i n : Nat} (h : IsOwnMirror i n) : 2 * i ≤ n := by
  rcases h with rfl | ⟨-, rfl⟩
  · omega
  · omega

/-- A bin that is its own mirror is not doubled. -/
theorem foldedMagnitude_own {i n : Nat} (h : IsOwnMirror i n) (norm : Float) (z : ComplexDouble) :
    foldedMagnitude n norm i z = .ok (z.re.abs / norm) :=
  if_pos h

/-- Any other bin stands for its mirror too. -/
theorem foldedMagnitude_doubled {i n : Nat} (hpos : 0 < i) (hi : 2 * i < n) (norm : Float)
    {z : ComplexDouble} {m : Float} (hm : z.modulus = .ok m) :
    foldedMagnitude n norm i z = .ok (m * 2.0 / norm) := by
  rw [foldedMagnitude, if_neg (by omega), hm]
  rfl

/-- A single-sided spectrum of `n` samples next to the full one with the same bins. -/
structure SingleSided.Halves (s : SingleSided) (f : Full) (n : Nat) (normalize : Bool) : Prop where
  phase : ∀ i, 2 * i ≤ n → s.phase[i]? = f.phase[i]?
  /-- The frequencies are the same below the middle, as far as a double tells where that is. -/
  frequency : ∀ i, 2 * i ≤ n → IsBelowMiddle i n → s.frequencies[i]? = f.frequencies[i]?
  /-- Where the length is a double, that is below half of it. -/
  frequency_exact : n ≤ 2 ^ 53 → ∀ i, 2 * i < n → s.frequencies[i]? = f.frequencies[i]?
  /-- A bin that is its own mirror image has the magnitude of its real part. -/
  own : ∀ i z, IsOwnMirror i n → f.spectrum[i]? = some z →
    s.magnitude[i]? = some (z.re.abs / if normalize then Double.ofNat n else 1.0)
  /-- All other bins have twice their magnitude. -/
  doubled : ∀ i m, 0 < i → 2 * i < n → f.magnitude[i]? = some m →
    s.magnitude[i]? = some (m * 2.0 / if normalize then Double.ofNat n else 1.0)

/-- Below the middle the one-sided spectrum has the frequencies of the full one. -/
theorem frequency_of_isBelowMiddle {fs : Float} {frequencies : List Float}
    (h : (List.range spectrum.length).mapM
      (fun (k : Nat) => binFrequency k spectrum.length fs) = .ok frequencies) {i : Nat}
    (hi : 2 * i ≤ spectrum.length) (hbelow : IsBelowMiddle i spectrum.length) :
    ((lowerBins spectrum).map fun bin =>
      Double.ofNat bin.2 * fs / Double.ofNat spectrum.length)[i]? = frequencies[i]? := by
  rw [List.getElem?_map, getElem?_lowerBins hi, Option.map_map]
  rcases Nat.lt_or_ge i spectrum.length with hlt | hge
  · obtain ⟨x, hx, hfrequency⟩ := getElem?_of_mapM_ok h (List.getElem?_range hlt)
    rw [hfrequency, eq_of_binFrequency hbelow hx, List.getElem?_eq_getElem hlt]
    rfl
  · have hlength : frequencies.length = spectrum.length :=
      (length_of_mapM_ok h).trans List.length_range
    rw [List.getElem?_eq_none hge, List.getElem?_eq_none (hlength ▸ hge)]
    rfl

/-- The bins of the two spectra side by side. -/
theorem halves_of_folded {signal : List Float} {fs : Float} {w : Window} {f : Full}
    {normalize : Bool} {s : SingleSided} (hfull : full signal fs w false = .ok f)
    (hfolded : folded (dft (w.apply signal)) fs normalize = .ok s) :
    s.Halves f signal.length normalize := by
  obtain ⟨hspectrum, hmagnitude, hphase, hfrequency⟩ := of_full hfull
  have hlength : f.spectrum.length = signal.length := by
    rw [hspectrum, length_dft, w.length_apply]
  rw [← hspectrum] at hfolded
  obtain ⟨magnitude, hfold, hs⟩ := bind_ok_iff.mp hfolded
  cases hs
  rw [← hlength]
  -- each clause is about one bin, found in the lists at its index
  exact {
    phase := fun i hi => by
      rw [List.getElem?_map, getElem?_lowerBins hi, hphase, List.getElem?_map, Option.map_map]
      rfl
    frequency := fun i hi hbelow => frequency_of_isBelowMiddle hfrequency hi hbelow
    frequency_exact := fun hn i hi =>
      frequency_of_isBelowMiddle hfrequency (by omega) ((isBelowMiddle_iff hn).mpr hi)
    own := fun i z hown hz => by
      obtain ⟨x, hx, hentry⟩ :=
        getElem?_of_mapM_ok hfold (lowerBins_of_getElem? hown.two_mul_le hz)
      cases (foldedMagnitude_own hown _ z).symm.trans hx
      exact hentry
    doubled := fun i m hpos hi hm => by
      obtain ⟨z, hz⟩ : ∃ z, f.spectrum[i]? = some z :=
        ⟨_, List.getElem?_eq_getElem (show i < f.spectrum.length by omega)⟩
      obtain ⟨r, hr, hmodulus⟩ := getElem?_of_mapM_ok hmagnitude hz
      cases hm.symm.trans hmodulus
      obtain ⟨x, hx, hentry⟩ :=
        getElem?_of_mapM_ok hfold (lowerBins_of_getElem? (by omega) hz)
      cases (foldedMagnitude_doubled hpos hi _ hr).symm.trans hx
      exact hentry }

/-- The two spectra of a signal whose magnitudes are doubles. -/
theorem halves_agree (signal : List Float) (fs : Float) (name : Text) (normalize : Bool)
    (h : ∃ moduli, magnitudes (dft ((Window.ofName name).apply signal)) = .ok moduli) :
    let w := Window.ofName name
    ∃ s, singleSided signal fs normalize 0 w = .ok s ∧ s.HasBins (lowerCount signal.length) ∧
      (signal.length.log2 ≤ 1020 → ∃ f, full signal fs w false = .ok f) ∧
      ∀ f, full signal fs w false = .ok f → s.Halves f signal.length normalize := by
  intro w
  obtain ⟨moduli, hmoduli⟩ := h
  obtain ⟨s, hs⟩ := exists_folded hmoduli fs normalize
  have hlength : (dft (w.apply signal)).length = signal.length :=
    (length_dft _).trans (w.length_apply signal)
  refine ⟨s, ?_, ?_, fun hlog => exists_full hmoduli hlog fs, fun f hf => halves_of_folded hf hs⟩
  · rw [singleSided_unpadded]
    exact hs
  · rw [← hlength]
    exact hasBins_lowerCount hs

/-! ## A missing sample -/

/-- What is no number is passed on by the operations. -/
theorem isFinite_add_nan_mul (x y : Float) : (x + Double.nan * y).isFinite = false := by
  have hmul : ∀ b, UnpackedFloat.mul Format.binary64 .notANumber b = .notANumber := by
    intro b
    cases b <;> rfl
  have hadd : ∀ a, UnpackedFloat.add Format.binary64 a .notANumber = .notANumber := by
    intro a
    cases a <;> rfl
  have hnan : Double.nan.toModel.unpack = .notANumber := by rfl
  have hproduct : (Double.nan * y).toModel.unpack = .notANumber := by
    show (pack (UnpackedFloat.mul _ Double.nan.toModel.unpack y.toModel.unpack)).unpack = _
    rw [hnan, hmul]
    rfl
  show (pack (UnpackedFloat.add _ x.toModel.unpack (Double.nan * y).toModel.unpack)).isFinite = _
  rw [hproduct, hadd]
  decide

theorem exists_modulus_of_re {z : ComplexDouble} (h : z.re.isFinite = false) :
    ∃ m, z.modulus = .ok m := by
  rw [ComplexDouble.modulus, h]
  exact ⟨_, rfl⟩

/-- Three samples of which the last is missing. -/
theorem halves_agree_missing :
    let signal : List Float := [1.0, 0.5, Double.nan]
    let w := Window.ofName "rectangular"
    (∃ moduli, magnitudes (dft (w.apply signal)) = .ok moduli) ∧
      ∃ s, singleSided signal 8000.0 true 0 w = .ok s ∧ s.HasBins 2 ∧
        ∃ f, full signal 8000.0 w false = .ok f ∧ s.Halves f 3 true := by
  intro signal w
  have hmoduli : ∃ moduli, magnitudes (dft (w.apply signal)) = .ok moduli := by
    refine exists_mapM_ok fun z hz => ?_
    obtain ⟨k, -, rfl⟩ := List.mem_map.mp hz
    -- the last term of every sum is NaN
    exact exists_modulus_of_re (isFinite_add_nan_mul _ _)
  obtain ⟨s, hs, hbins, hfull, hhalves⟩ := halves_agree signal 8000.0 "rectangular" true hmoduli
  obtain ⟨f, hf⟩ := hfull (by decide)
  have hcount : lowerCount signal.length = 2 := by decide
  exact ⟨hmoduli, s, hs, hcount ▸ hbins, f, hf, hhalves f hf⟩

end Spectrum

end SignalLab
