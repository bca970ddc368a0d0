import SignalLab.Lab.Execution
import SignalLab.Proofs.Spectrum.Bounded

/-!
# Demonstrations — none of them fails

The signals of the demonstrations are sums of tones (`Lab.Component.IsTone`): their samples are within
the number of tones, so that every bin of their spectra is within a thousand, and nothing that is worked
out from those has a fault.  All that this needs to know of the sine and the cosine is that their values
are between minus one and one.

  * `Lab.exists_demonstrateWith` — every topic has its demonstration.
-/

namespace SignalLab.Lab

open Fallible Double

variable {waves : Waves} {n : Nat}

/-! ## Tones -/

/-- A component that has a sample at every time. -/
structure Component.IsTone (c : Component) : Prop where
  wave : c.wave = "sine".toList ∨ c.wave = "cosine".toList
  frequency : c.frequency.natAbs ≤ sampleCount
  amplitude : Double.IsWithin 1 c.amplitude

/-- The frequency of a tone is a double. -/
theorem Component.IsTone.exists_frequency {c : Component} (hc : c.IsTone) :
    ∃ frequency, ofInt c.frequency = .ok frequency ∧ Double.IsWithin sampleCount frequency := by
  obtain ⟨frequency, hfrequency, hvalue⟩ :=
    exists_ofInt_eq (hc.frequency.trans (by decide : sampleCount ≤ 2 ^ 53))
  refine ⟨frequency, hfrequency, c.frequency, hvalue, ?_⟩
  rw [← Int.cast_abs, Int.abs_eq_natAbs]
  exact_mod_cast hc.frequency

/-- The times are below the number of samples. -/
theorem isWithin_timeAxis : ∀ t ∈ timeAxis, Double.IsWithin sampleCount t := by
  intro t ht
  obtain ⟨n, hn, rfl⟩ := List.mem_map.mp ht
  have hn : n ≤ sampleCount := (List.mem_range.mp hn).le
  have hlarge : sampleCount ≤ 2 ^ 53 := by decide
  exact ((isWithin_ofNat (hn.trans hlarge)).mono hn).div_ofNat (by decide) (by decide) hlarge

/-- A wave that has one of the two names is bounded. -/
theorem exists_waveFunction (hwaves : waves.AreBounded) {name : Text}
    (hname : name = "sine".toList ∨ name = "cosine".toList) :
    ∃ f, waveFunction waves name = .ok f ∧
      ∀ m x, Double.IsWithin m x → Double.IsWithin 1 (f x) := by
  rcases hname with rfl | rfl
  · refine ⟨waves.sine, ?_, fun m x hx => hwaves.isWithin_sine hx⟩
    simp [waveFunction, waveTable]
  · refine ⟨waves.cosine, ?_, fun m x hx => hwaves.isWithin_cosine hx⟩
    simp [waveFunction, waveTable]

/-- The value of a tone is within one. -/
theorem exists_value (hwaves : waves.AreBounded) {c : Component} (hc : c.IsTone) {t : Float}
    (ht : Double.IsWithin sampleCount t) : ∃ y, c.value waves t = .ok y ∧ Double.IsWithin 1 y := by
  obtain ⟨f, hf, hbounded⟩ := exists_waveFunction hwaves hc.wave
  obtain ⟨frequency, hfrequency, hwithin⟩ := hc.exists_frequency
  have hangle := (Spectrum.isWithin_turn.mul hwithin (by decide)).mul ht (by decide)
  have hy := hbounded _ _ hangle
  refine ⟨c.amplitude * f (Spectrum.turn * frequency * t), ?_, hc.amplitude.mul hy (by decide)⟩
  rw [Component.value, hf, hfrequency]
  show ((ofAngle f (Spectrum.turn * frequency * t)).mapError _ >>= _) = _
  rw [ofAngle, hangle.isInf]
  rfl

/-- A sample of a sum of tones is within their number. -/
theorem exists_sampleAt (hwaves : waves.AreBounded) {components : List Component}
    (htones : ∀ c ∈ components, c.IsTone) {t : Float} (ht : Double.IsWithin sampleCount t)
    {sum : Float} (hsum : Double.IsWithin n sum) (hlimit : n + components.length ≤ 2 ^ 53) :
    ∃ y, components.foldlM (fun sum c => do .ok (sum + (← c.value waves t))) sum =
        (.ok y : Except ComponentFault Float) ∧
      Double.IsWithin (n + components.length) y := by
  induction components generalizing n sum with
  | nil => exact ⟨sum, rfl, hsum⟩
  | cons c rest ih =>
      rw [List.length_cons] at hlimit ⊢
      obtain ⟨y, hy, hwithin⟩ := exists_value hwaves (htones c List.mem_cons_self) ht
      obtain ⟨z, hz, hbound⟩ := ih (fun c hc => htones c (List.mem_cons_of_mem _ hc))
        (hsum.add hwithin (by omega)) (by omega)
      refine ⟨z, ?_, hbound.mono (by omega)⟩
      rw [List.foldlM_cons, hy]
      exact hz

/-- A finite double is rounded to an integer. -/
theorem exists_roundToEven {x : Float} (h : Double.IsWithin n x) : ∃ k, roundToEven x = .ok k := by
  obtain ⟨v, hv, -⟩ := h
  obtain ⟨s, m, q, hparts, -⟩ := value?_eq_some_iff.mp hv
  rw [roundToEven, hparts]
  exact ⟨_, rfl⟩

/-- A tone has a bin. -/
theorem exists_componentBin {c : Component} (hc : c.IsTone) : ∃ k, componentBin c = .ok k := by
  obtain ⟨frequency, hfrequency, hwithin⟩ := hc.exists_frequency
  have hproduct := hwithin.mul (isWithin_ofNat (by decide : sampleCount ≤ 2 ^ 53)) (by decide)
  obtain ⟨k, hk⟩ := exists_roundToEven
    (hproduct.div_ofNat (by decide : 1 ≤ sampleRate) (by decide) (by decide))
  rw [componentBin, hfrequency]
  show ∃ k, numeric (signalBin frequency) = .ok k
  rw [signalBin, hk]
  exact ⟨_, rfl⟩

/-- A result of the arithmetic is one of the demonstration. -/
theorem numeric_ok {α : Type} {r : Except Fault α} {a : α} (h : r = .ok a) : numeric r = .ok a :=
  mapError_ok_iff.mpr h

/-- The bins, counted from one, above the first and up to the middle. -/
def IsInner (k : Int) : Prop :=
  1 < k ∧ k ≤ (sampleCount / 2 : Nat)

instance (k : Int) : Decidable (IsInner k) :=
  inferInstanceAs (Decidable (1 < k ∧ k ≤ (sampleCount / 2 : Nat)))

/-- The inner bins are those with a partner. -/
theorem isInner_iff {k : Int} : isInner k = true ↔ IsInner k := by
  rw [isInner, IsInner, Bool.and_eq_true, decide_eq_true_iff, decide_eq_true_iff]

/-- The signals of the demonstrations. -/
def signals : List (List Component) :=
  [sineSignal, twoToneSignal, mixedSignal, reconstructedSignal]

/-- The signals of the demonstrations are made of tones. -/
theorem isTone_of_mem {components : List Component} (h : components ∈ signals) :
    ∀ c ∈ components, c.IsTone := by
  have htones : ∀ components ∈ signals, ∀ c ∈ components,
      (c.wave = "sine".toList ∨ c.wave = "cosine".toList) ∧ c.frequency.natAbs ≤ sampleCount ∧
        -ofNat 1 ≤ c.amplitude ∧ c.amplitude ≤ ofNat 1 := by
    decide +kernel
  intro c hc
  obtain ⟨hwave, hfrequency, hlow, hup⟩ := htones components h c hc
  exact ⟨hwave, hfrequency, isWithin_of_le (by decide) hlow hup⟩

/-- A sum of tones has its samples. -/
theorem exists_synthesize (hwaves : waves.AreBounded) {components : List Component}
    (htones : ∀ c ∈ components, c.IsTone) (hcount : components.length ≤ 2) :
    ∃ signal, synthesize components waves = .ok signal ∧ signal.length = sampleCount ∧
      ∀ x ∈ signal, Double.IsWithin 2 x := by
  have hsample : ∀ t ∈ timeAxis, ∃ y, sampleAt waves components t = .ok y ∧
      Double.IsWithin 2 y := by
    intro t ht
    obtain ⟨y, hy, hwithin⟩ := exists_sampleAt hwaves htones (isWithin_timeAxis t ht)
      isWithin_zero (by omega)
    exact ⟨y, hy, hwithin.mono (by omega)⟩
  obtain ⟨signal, hsignal⟩ := exists_mapM_ok fun t ht =>
    let ⟨y, hy, _⟩ := hsample t ht
    ⟨y, hy⟩
  refine ⟨signal, hsignal, ?_, ?_⟩
  · rw [length_of_mapM_ok hsignal, timeAxis, List.length_map, List.length_range]
  · intro x hx
    obtain ⟨t, ht, heq⟩ := exists_of_mem_mapM_ok hsignal x hx
    obtain ⟨y, hy, hwithin⟩ := hsample t ht
    cases heq.symm.trans hy
    exact hwithin

/-! ## Spectra -/

/-- A spectrum of a demonstration: as many bins as samples, all of them within a thousand. -/
structure IsLabSpectrum (spectrum : List ComplexDouble) : Prop where
  length : spectrum.length = sampleCount
  within : ∀ z ∈ spectrum, z.IsWithin sampleRate

/-- The spectrum of a signal within two is one of the lab. -/
theorem isLabSpectrum_dft (hwaves : waves.AreBounded) {signal : List Float}
    (hlength : signal.length = sampleCount) (hsignal : ∀ x ∈ signal, Double.IsWithin 2 x) :
    IsLabSpectrum (Spectrum.dft signal waves) := by
  refine ⟨(Spectrum.length_dft signal waves).trans hlength, ?_⟩
  have hwithin := Spectrum.isWithin_dft hwaves hsignal (by rw [hlength]; decide)
    (by rw [hlength]; decide)
  rwa [hlength] at hwithin

namespace IsLabSpectrum

variable {spectrum : List ComplexDouble}

/-- Its bins have values. -/
theorem exists_binValue (h : IsLabSpectrum spectrum) (bin : Int) (hlow : 0 ≤ bin)
    (hup : bin < sampleCount) :
    ∃ z, binValue spectrum bin = .ok z ∧ z.IsWithin sampleRate := by
  obtain ⟨i, rfl⟩ := Int.eq_ofNat_of_zero_le hlow
  have hi : i < spectrum.length := by
    rw [h.length]
    exact_mod_cast hup
  obtain ⟨z, hz, hmem⟩ := Spectrum.exists_elementAt hi
  exact ⟨z, by rw [binValue, hz]; rfl, h.within z (List.mem_of_getElem? hmem)⟩

/-- Bins with a partner have a distance from it. -/
theorem exists_labError (h : IsLabSpectrum spectrum) {k : Nat} (hk : 2 ≤ k)
    (hlast : k ≤ sampleCount) : ∃ error, Spectrum.labError spectrum k = .ok error :=
  Spectrum.exists_labError h.within (by decide) hk (h.length ▸ hlast)

/-- It can be shown beside its signal. -/
theorem exists_signalDataset (h : IsLabSpectrum spectrum) (signal : List Float) (label : String) :
    ∃ dataset, signalDataset signal spectrum label = .ok dataset := by
  have hhalf : ∀ z ∈ spectrum.take (spectrum.length / 2), z.IsWithin sampleRate := fun z hz =>
    h.within z (List.mem_of_mem_take hz)
  obtain ⟨y, hy⟩ := Spectrum.exists_magnitudes hhalf (by decide)
  obtain ⟨line, hline⟩ : ∃ line, spectrumLine spectrum = .ok line :=
    exists_bind_ok (numeric_ok hy) ⟨_, rfl⟩
  exact exists_bind_ok hline ⟨_, rfl⟩

/-- Its table of symmetry has rows. -/
theorem exists_symmetryRows (h : IsLabSpectrum spectrum) (last : Nat) (hlast : last ≤ sampleCount) :
    ∃ rows, symmetryRows spectrum last = .ok rows := by
  refine exists_mapM_ok fun k hk => ?_
  rw [tableBins, List.mem_range'_1] at hk
  obtain ⟨error, herror⟩ := h.exists_labError (k := k) hk.1 (by omega)
  exact ⟨_, by rw [herror]; rfl⟩

/-- The lines about an inner bin. -/
theorem exists_basicDetail (h : IsLabSpectrum spectrum) {k : Int} (hk : IsInner k) :
    ∃ lines, basicDetail spectrum k = .ok lines := by
  obtain ⟨hlow, hup⟩ := hk
  obtain ⟨positive, hpositive, hp⟩ := h.exists_binValue (k - 1) (by omega) (by omega)
  obtain ⟨negative, hnegative, hn⟩ :=
    h.exists_binValue (sampleCount - k + 1) (by omega) (by omega)
  obtain ⟨error, herror⟩ := (hp.sub hn.conjugate (by decide)).exists_modulus (by decide)
  refine exists_bind_ok hpositive ?_
  refine exists_bind_ok hnegative ?_
  exact exists_bind_ok (numeric_ok herror) ⟨_, rfl⟩

/-- The bins of a tone can be described. -/
theorem exists_toneLines (h : IsLabSpectrum spectrum) {c : Component} (hc : c.IsTone) (i : Nat) :
    ∃ lines, toneLines spectrum c i = .ok lines := by
  obtain ⟨k, hk⟩ := exists_componentBin hc
  refine exists_bind_ok hk ?_
  split
  · rename_i hinner
    obtain ⟨hlow, hup⟩ := isInner_iff.mp hinner
    obtain ⟨bin, rfl⟩ := Int.eq_ofNat_of_zero_le (by omega : 0 ≤ k)
    have hpartner : Spectrum.labPartner bin sampleCount - 1 = sampleCount - bin + 1 := by
      rw [Spectrum.labPartner]
      omega
    obtain ⟨error, herror⟩ := h.exists_labError (k := bin) (by omega) (by omega)
    obtain ⟨positive, hpositive, -⟩ := h.exists_binValue (bin - 1) (by omega) (by omega)
    obtain ⟨negative, hnegative, -⟩ :=
      h.exists_binValue (sampleCount - bin + 1) (by omega) (by omega)
    refine exists_bind_ok (numeric_ok herror) ?_
    refine exists_bind_ok hpositive ?_
    exact exists_bind_ok (hpartner ▸ hnegative) ⟨_, rfl⟩
  · exact ⟨_, rfl⟩

/-- So can its coefficient. -/
theorem exists_coefficientPart (h : IsLabSpectrum spectrum) {c : Component} (hc : c.IsTone)
    (i : Nat) : ∃ part, coefficientPart spectrum c i = .ok part := by
  obtain ⟨k, hk⟩ := exists_componentBin hc
  refine exists_bind_ok hk ?_
  split
  · rename_i hinner
    obtain ⟨hlow, hup⟩ := isInner_iff.mp hinner
    obtain ⟨value, hvalue, -⟩ := h.exists_binValue (k - 1) (by omega) (by omega)
    exact exists_bind_ok hvalue ⟨_, rfl⟩
  · exact ⟨_, rfl⟩

end IsLabSpectrum

/-- The signal of a demonstration and its spectrum. -/
theorem exists_spectrum (hwaves : waves.AreBounded) {components : List Component}
    (h : components ∈ signals) : ∃ signal, synthesize components waves = .ok signal ∧
      signal.length = sampleCount ∧ (∀ x ∈ signal, Double.IsWithin 2 x) ∧
      IsLabSpectrum (Spectrum.dft signal waves) := by
  have hcount : ∀ components ∈ signals, components.length ≤ 2 := by decide
  obtain ⟨signal, hsignal, hlength, hwithin⟩ :=
    exists_synthesize hwaves (isTone_of_mem h) (hcount components h)
  exact ⟨signal, hsignal, hlength, hwithin, isLabSpectrum_dft hwaves hlength hwithin⟩

/-! ## The errors of a reconstruction -/

/-- The divisor has no imaginary part, so nothing is scaled by it. -/
theorem averagedValue_eq (z : ComplexDouble) : averagedValue z =
    ⟨(z.re + z.im * 0.0) / ofNat sampleCount, (z.im - z.re * 0.0) / ofNat sampleCount⟩ := by
  have hsmall : (0.0 : Float).abs ≤ (ofNat sampleCount).abs := by decide +kernel
  have hzero : ((ofNat sampleCount).abs == 0.0) = false := by decide +kernel
  have hratio : 0.0 / ofNat sampleCount = 0.0 := by decide +kernel
  have hdenom : ofNat sampleCount + 0.0 * 0.0 = ofNat sampleCount := by decide +kernel
  rw [averagedValue, ComplexDouble.div?, ComplexDouble.ofReal]
  dsimp only
  rw [if_pos hsmall, hzero, hratio, hdenom]
  rfl

/-- An average is within the bound of what it averages. -/
theorem isWithin_averagedValue {z : ComplexDouble} (h : z.IsWithin n) (hn : n ≤ 2 ^ 53) :
    (averagedValue z).IsWithin n := by
  rw [averagedValue_eq]
  have hre := h.re.add (h.im.mul isWithin_zero (by omega)) (by omega)
  have him := h.im.sub (h.re.mul isWithin_zero (by omega)) (by omega)
  exact ⟨hre.div_ofNat (by decide) (by decide) hn, him.div_ofNat (by decide) (by decide) hn⟩

/-- A mean of doubles that are not negative is not negative. -/
theorem isUpTo_mean {xs : List Float} (h : ∀ x ∈ xs, IsUpTo n x) (hpos : 1 ≤ xs.length)
    (hlength : xs.length ≤ 2 ^ 53) (hn : xs.length * n ≤ 2 ^ 53) :
    IsUpTo (xs.length * n) (mean xs) := by
  have hzero : IsUpTo 0 0.0 := ⟨0, value?_zero, le_rfl, Nat.cast_nonneg 0⟩
  have htotal := bound_foldl (fun m sum hsum hm x hx => hsum.add (h x hx) hm) hzero
    (by omega : 0 + xs.length * n ≤ 2 ^ 53)
  rw [Nat.zero_add] at htotal
  exact htotal.div_ofNat hpos hlength hn

/-- The bound of a rebuilt sample and of its error. -/
def errorBound : Nat :=
  2 + (sampleRate + sampleCount * (4 * sampleRate))

/-- The errors of a reconstruction have a root mean square. -/
theorem exists_rootMeanSquare {errors : List Float} (hlength : errors.length = sampleCount)
    (herrors : ∀ e ∈ errors, Double.IsWithin errorBound e) :
    ∃ rms, Double.sqrt (mean (errors.map fun e => e * e)) = .ok rms := by
  have hsquares : ∀ x ∈ errors.map fun e => e * e, IsUpTo (errorBound * errorBound) x := by
    intro x hx
    obtain ⟨e, he, rfl⟩ := List.mem_map.mp hx
    exact (herrors e he).mul_self (by decide)
  have hcount : (errors.map fun e => e * e).length = sampleCount := by
    rw [List.length_map, hlength]
  exact (isUpTo_mean hsquares (by rw [hcount]; decide) (by rw [hcount]; decide)
    (by rw [hcount]; decide)).exists_sqrt

/-! ## Topics -/

/-- The demonstration of a sine has a result. -/
theorem exists_basicDemonstration (hwaves : waves.AreBounded) :
    ∃ shown, basicDemonstration waves = .ok shown := by
  obtain ⟨signal, hsignal, -, -, hspectrum⟩ :=
    exists_spectrum hwaves (by simp [signals] : sineSignal ∈ signals)
  obtain ⟨rows, hrows⟩ := hspectrum.exists_symmetryRows lastTableBin (by decide)
  obtain ⟨lines, hlines⟩ := hspectrum.exists_basicDetail (k := 26) (by decide)
  obtain ⟨dataset, hdataset⟩ := hspectrum.exists_signalDataset signal "Sine Wave Signal"
  have hbin : (do signalBin (← ofInt signalFrequency)) = (.ok 26 : Except Fault Int) :=
    ok_of_toOption (by decide +kernel)
  refine exists_bind_ok hsignal ?_
  refine exists_bind_ok (numeric_ok hrows) ?_
  refine exists_bind_ok (numeric_ok hbin) ?_
  refine exists_bind_ok hlines ?_
  exact exists_bind_ok hdataset ⟨_, rfl⟩

/-- What is worked out from every tone of a signal, one after the other. -/
theorem exists_mapM_zipIdx {α : Type} {components : List Component}
    {f : Component → Nat → Except ComponentFault α} (h : components ∈ signals)
    (hf : ∀ c : Component, c.IsTone → ∀ i, ∃ a, f c i = .ok a) :
    ∃ xs, ((components.zipIdx 1).mapM fun (c, i) => f c i) = .ok xs :=
  exists_mapM_ok fun p hp => hf p.1 (isTone_of_mem h p.1 (List.fst_mem_of_mem_zipIdx hp)) p.2

/-- So has that of two tones. -/
theorem exists_twoToneDemonstration (hwaves : waves.AreBounded) :
    ∃ shown, twoToneDemonstration waves = .ok shown := by
  have hmem : twoToneSignal ∈ signals := by simp [signals]
  obtain ⟨signal, hsignal, -, -, hspectrum⟩ := exists_spectrum hwaves hmem
  obtain ⟨tones, htones⟩ := exists_mapM_zipIdx hmem fun c hc i => hspectrum.exists_toneLines hc i
  obtain ⟨dataset, hdataset⟩ := hspectrum.exists_signalDataset signal "Two-Tone Signal"
  refine exists_bind_ok hsignal ?_
  refine exists_bind_ok htones ?_
  exact exists_bind_ok hdataset ⟨_, rfl⟩

/-- So has that of the coefficients. -/
theorem exists_trigonometricDemonstration (hwaves : waves.AreBounded) :
    ∃ shown, trigonometricDemonstration waves = .ok shown := by
  have hmem : mixedSignal ∈ signals := by simp [signals]
  obtain ⟨signal, hsignal, -, -, hspectrum⟩ := exists_spectrum hwaves hmem
  obtain ⟨parts, hparts⟩ :=
    exists_mapM_zipIdx hmem fun c hc i => hspectrum.exists_coefficientPart hc i
  obtain ⟨dataset, hdataset⟩ := hspectrum.exists_signalDataset signal "Mixed Signal"
  refine exists_bind_ok hsignal ?_
  refine exists_bind_ok hparts ?_
  exact exists_bind_ok hdataset ⟨_, rfl⟩

/-- So has that of the reconstruction. -/
theorem exists_reconstructionDemonstration (hwaves : waves.AreBounded) :
    ∃ shown, reconstructionDemonstration waves = .ok shown := by
  obtain ⟨signal, hsignal, hlength, hwithin, hspectrum⟩ :=
    exists_spectrum hwaves (by simp [signals] : reconstructedSignal ∈ signals)
  obtain ⟨averaged, haveraged⟩ :
      ∃ averaged, (Spectrum.dft signal waves).map averagedValue = averaged := ⟨_, rfl⟩
  have hspectrum' : IsLabSpectrum averaged := by
    refine ⟨by rw [← haveraged, List.length_map, hspectrum.length], fun z hz => ?_⟩
    rw [← haveraged] at hz
    obtain ⟨w, hw, rfl⟩ := List.mem_map.mp hz
    exact isWithin_averagedValue (hspectrum.within w hw) (by decide)
  obtain ⟨constant, hconstant, -⟩ := hspectrum'.exists_binValue 0 le_rfl (by decide)
  obtain ⟨rebuilt, hrebuilt⟩ : ∃ rebuilt, Spectrum.partialSum averaged sampleCount
      (some reconstructionTerms) waves = rebuilt := ⟨_, rfl⟩
  -- the sum of the terms is bounded by their number, and so are its distances from the signal
  have hrebuiltWithin : ∀ y ∈ rebuilt,
      Double.IsWithin (sampleRate + sampleCount * (4 * sampleRate)) y := by
    have hpartial := Spectrum.isWithin_partialSum hwaves hspectrum'.within
      (some reconstructionTerms) hspectrum'.length.ge
      (by rw [hspectrum'.length]; decide) (by rw [hspectrum'.length]; decide)
    rwa [hrebuilt, hspectrum'.length] at hpartial
  have herrors : ∀ e ∈ List.zipWith (fun x y => (x - y).abs) signal rebuilt,
      Double.IsWithin errorBound e := by
    intro e he
    obtain ⟨i, hi, rfl⟩ := List.getElem_of_mem he
    rw [List.getElem_zipWith]
    exact ((hwithin _ (List.getElem_mem _)).sub (hrebuiltWithin _ (List.getElem_mem _))
      (by decide)).abs
  have hcount : rebuilt.length = sampleCount := by
    rw [← hrebuilt, Spectrum.partialSum, List.length_map, List.length_range]
  obtain ⟨rms, hrms⟩ := exists_rootMeanSquare
    (by rw [List.length_zipWith, hlength, hcount, Nat.min_self]) herrors
  refine exists_bind_ok hsignal ?_
  refine exists_bind_ok (haveraged ▸ hconstant) ?_
  dsimp only
  rw [haveraged, hrebuilt]
  exact exists_bind_ok (numeric_ok hrms) ⟨_, rfl⟩

/-- Every topic has its demonstration. -/
theorem exists_demonstrateWith (hwaves : waves.AreBounded) (topic : Topic) :
    ∃ shown, demonstrateWith waves topic = .ok shown := by
  simp only [demonstrateWith, mapError_ok_iff]
  cases topic with
  | basic => exact exists_basicDemonstration hwaves
  | twoTone => exact exists_twoToneDemonstration hwaves
  | trigonometric => exact exists_trigonometricDemonstration hwaves
  | reconstruction => exact exists_reconstructionDemonstration hwaves

end SignalLab.Lab
