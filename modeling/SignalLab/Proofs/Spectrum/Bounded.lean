import SignalLab.Proofs.Number.Bounds
import SignalLab.Proofs.Spectrum.Pairing
import SignalLab.Proofs.Spectrum.SingleSided
import SignalLab.Spectrum.Harmonics

/-!
# Bounded waves — how large a spectrum can be

A sine and a cosine have values between minus one and one on finite doubles (`Waves.AreBounded`).  So
the spectrum of a signal whose samples are within a bound is within that bound times the number of
samples, its magnitudes and the errors of the labs have no fault, and what is rebuilt from its averaged
coefficients is within a bound again.
-/

namespace SignalLab

/-- On finite doubles the waves have values between minus one and one. -/
structure Waves.AreBounded (waves : Waves) : Prop where
  sine : ∀ x : Float, x.isFinite = true → -1.0 ≤ waves.sine x ∧ waves.sine x ≤ 1.0
  cosine : ∀ x : Float, x.isFinite = true → -1.0 ≤ waves.cosine x ∧ waves.cosine x ≤ 1.0

namespace Waves.AreBounded

variable {waves : Waves} {n : Nat} {x : Float}

/-- A sine is within one, of every angle that is a number. -/
theorem isWithin_sine (h : waves.AreBounded) (hx : Double.IsWithin n x) :
    Double.IsWithin 1 (waves.sine x) :=
  Double.isWithin_of_le (by decide) (h.sine x hx.isFinite).1 (h.sine x hx.isFinite).2

/-- So is a cosine. -/
theorem isWithin_cosine (h : waves.AreBounded) (hx : Double.IsWithin n x) :
    Double.IsWithin 1 (waves.cosine x) :=
  Double.isWithin_of_le (by decide) (h.cosine x hx.isFinite).1 (h.cosine x hx.isFinite).2

end Waves.AreBounded

/-! ## Waves by their series -/

namespace Waves

/-- A number of terms of the series of a sine or a cosine, from the one of degree `n` on; each is the one
before times minus the square of the angle, over the two next factors of the factorial. -/
def seriesSum (square : Float) : (terms : Nat) → (n : Nat) → (term : Float) → Float
  | 0, _, _ => 0.0
  | terms + 1, n, term =>
    term + seriesSum square terms (n + 2) (-(term * square) / Double.ofNat ((n + 1) * (n + 2)))

/-- A double, or the nearest end if it is not between minus one and one. -/
def clamp (y : Float) : Float :=
  if -1.0 ≤ y ∧ y ≤ 1.0 then y else if y < 0.0 then -1.0 else 1.0

/-- An angle without its full turns. -/
def withoutTurns (x : Float) : Float :=
  (Double.remainder? x Spectrum.turn).getD 0.0

/-- The sine and the cosine by thirty terms of their series; up to a full turn those left out are too small
for a double. -/
def series : Waves where
  sine x :=
    let r := withoutTurns x
    clamp (seriesSum (r * r) 30 1 r)
  cosine x :=
    let r := withoutTurns x
    clamp (seriesSum (r * r) 30 0 1.0)

/-- What is clamped is within one. -/
theorem clamp_bounds (y : Float) : -1.0 ≤ clamp y ∧ clamp y ≤ 1.0 := by
  rw [clamp]
  split
  · rename_i h
    exact h
  · split
    · decide +kernel
    · decide +kernel

theorem areBounded_series : series.AreBounded :=
  ⟨fun _ _ => clamp_bounds _, fun _ _ => clamp_bounds _⟩

end Waves

namespace Spectrum

open Double Fallible

variable {waves : Waves} {b size k n : Nat}

/-! ## Angles -/

/-- A full turn is within seven. -/
theorem isWithin_turn : Double.IsWithin 7 turn :=
  isWithin_of_le (by decide) (by decide +kernel) (by decide +kernel)

theorem isWithin_backwardTurn : Double.IsWithin 7 backwardTurn :=
  isWithin_of_le (by decide) (by decide +kernel) (by decide +kernel)

/-- A turn, times a bin, times a position, over the number of samples. -/
theorem isWithin_angle {t : Float} (ht : Double.IsWithin 7 t) (hk : k ≤ size) (hn : n ≤ size)
    (hpos : 1 ≤ size) (hsize : 7 * size * size ≤ 2 ^ 53) :
    Double.IsWithin (7 * size * size) (t * ofNat k * ofNat n / ofNat size) := by
  have hle : size ≤ 2 ^ 53 := by nlinarith
  have hproduct : 7 * k ≤ 7 * size := Nat.mul_le_mul_left 7 hk
  have hproduct' : 7 * k * n ≤ 7 * size * size := Nat.mul_le_mul hproduct hn
  have hfirst := ht.mul (isWithin_ofNat (hk.trans hle)) (by nlinarith)
  have hsecond := hfirst.mul (isWithin_ofNat (hn.trans hle)) (hproduct'.trans hsize)
  exact (hsecond.div_ofNat hpos hle (hproduct'.trans hsize)).mono hproduct'

/-! ## Spectra -/

/-- Samples are numbered by natural numbers below their count. -/
theorem mem_positioned {signal : List Float} {p : Float × Float} (h : p ∈ positioned signal) :
    p.1 ∈ signal ∧ ∃ n < signal.length, p.2 = ofNat n := by
  obtain ⟨⟨x, n⟩, hmem, rfl⟩ := List.mem_map.mp h
  obtain ⟨-, hn, hx⟩ := List.mem_zipIdx hmem
  refine ⟨?_, n, by omega, rfl⟩
  dsimp only at hx ⊢
  rw [hx]
  exact List.getElem_mem _

/-- The sum of samples within a bound against a wave is within as many times the bound. -/
theorem isWithin_correlate {signal : List Float} (hwaves : waves.AreBounded)
    (hsignal : ∀ x ∈ signal, Double.IsWithin b x) (hk : k < signal.length)
    (hangle : 7 * signal.length * signal.length ≤ 2 ^ 53) (hsum : signal.length * b ≤ 2 ^ 53) :
    (correlate (ofNat signal.length) (ofNat k) (positioned signal) waves).IsWithin
      (signal.length * b) := by
  have hlength : (positioned signal).length = signal.length := by
    rw [positioned, List.length_map, List.length_zipIdx]
  have hzero : (⟨0.0, 0.0⟩ : ComplexDouble).IsWithin 0 := ⟨isWithin_zero, isWithin_zero⟩
  have hstep : ∀ m z, ComplexDouble.IsWithin m z → m + b ≤ 2 ^ 53 → ∀ p ∈ positioned signal,
      ComplexDouble.IsWithin (m + b)
        ⟨z.re + p.1 * waves.cosine (angle (ofNat signal.length) (ofNat k) p.2),
          z.im + p.1 * waves.sine (angle (ofNat signal.length) (ofNat k) p.2)⟩ := by
    intro m z hz hm p hp
    obtain ⟨hx, n, hn, hposition⟩ := mem_positioned hp
    have hturns : Double.IsWithin (7 * signal.length * signal.length)
        (angle (ofNat signal.length) (ofNat k) p.2) := by
      rw [hposition]
      exact isWithin_angle isWithin_backwardTurn hk.le hn.le (by omega) hangle
    have hone : b * 1 ≤ 2 ^ 53 := by omega
    have hcosine := (hsignal p.1 hx).mul (hwaves.isWithin_cosine hturns) hone
    have hsine := (hsignal p.1 hx).mul (hwaves.isWithin_sine hturns) hone
    rw [Nat.mul_one] at hcosine hsine
    exact ⟨hz.re.add hcosine hm, hz.im.add hsine hm⟩
  have hfold := bound_foldl hstep hzero (by rw [hlength]; omega)
  rwa [hlength, Nat.zero_add] at hfold

/-- The bins of a transform are within the count of samples times their bound. -/
theorem isWithin_dft {signal : List Float} (hwaves : waves.AreBounded)
    (hsignal : ∀ x ∈ signal, Double.IsWithin b x)
    (hangle : 7 * signal.length * signal.length ≤ 2 ^ 53) (hsum : signal.length * b ≤ 2 ^ 53) :
    ∀ z ∈ dft signal waves, z.IsWithin (signal.length * b) := by
  intro z hz
  obtain ⟨k, hk, rfl⟩ := List.mem_map.mp hz
  exact isWithin_correlate hwaves hsignal (List.mem_range.mp hk) hangle hsum

/-! ## Magnitudes and errors -/

/-- Bins within a bound have magnitudes. -/
theorem exists_magnitudes {spectrum : List ComplexDouble} (h : ∀ z ∈ spectrum, z.IsWithin b)
    (hb : b ≤ 2 ^ 53) : ∃ y, magnitudes spectrum = .ok y :=
  exists_mapM_ok fun z hz => (h z hz).exists_modulus hb

/-- A bin counted from one and its partner have an error, from the second bin on. -/
theorem exists_labError {spectrum : List ComplexDouble} (h : ∀ z ∈ spectrum, z.IsWithin b)
    (hb : b + b ≤ 2 ^ 53) (hk : 2 ≤ k) (hlast : k ≤ spectrum.length) :
    ∃ error, labError spectrum k = .ok error := by
  have hbin : ((k : Int) - 1) = (k - 1 : Nat) := by omega
  have hpartner : labPartner k spectrum.length - 1 = (spectrum.length - k + 1 : Nat) := by
    rw [labPartner]
    omega
  obtain ⟨x, hx, hxmem⟩ := exists_elementAt (show k - 1 < spectrum.length by omega)
  obtain ⟨y, hy, hymem⟩ := exists_elementAt (show spectrum.length - k + 1 < spectrum.length by omega)
  have hsub := (h x (List.mem_of_getElem? hxmem)).sub (h y (List.mem_of_getElem? hymem)).conjugate hb
  obtain ⟨error, herror⟩ := hsub.exists_modulus hb
  refine ⟨error, ?_⟩
  rw [labError, hbin, hpartner, hx, hy]
  exact herror

/-! ## Rebuilt signals -/

/-- The harmonics that a signal is rebuilt from are among the coefficients, with their numbers. -/
theorem mem_harmonics {coefficients : List ComplexDouble} {count : Nat} {p : ComplexDouble × Float}
    (h : p ∈ (coefficients.take count).zipIdx.tail.map fun (c, k) => (c, ofNat k)) :
    p.1 ∈ coefficients ∧ ∃ k < coefficients.length, p.2 = ofNat k := by
  obtain ⟨⟨c, k⟩, hmem, rfl⟩ := List.mem_map.mp h
  obtain ⟨-, hk, hc⟩ := List.mem_zipIdx (List.mem_of_mem_tail hmem)
  rw [List.length_take] at hk
  refine ⟨?_, k, by omega, rfl⟩
  dsimp only at hc ⊢
  rw [hc]
  exact List.mem_of_mem_take (List.getElem_mem _)

/-- A harmonic adds four times the bound of the coefficients to a sample at most. -/
theorem isWithin_rebuiltSample (hwaves : waves.AreBounded) {harmonics : List (ComplexDouble × Float)}
    {constant : Float} (hconstant : Double.IsWithin b constant)
    (hharmonics : ∀ p ∈ harmonics, p.1.IsWithin b ∧ ∃ k < size, p.2 = ofNat k) (hn : n ≤ size)
    (hpos : 1 ≤ size) (hangle : 7 * size * size ≤ 2 ^ 53)
    (hsum : b + harmonics.length * (4 * b) ≤ 2 ^ 53) :
    Double.IsWithin (b + harmonics.length * (4 * b))
      (rebuiltSample (ofNat size) constant harmonics (ofNat n) waves) := by
  refine bound_foldl ?_ hconstant hsum
  rintro m sum hm hlimit ⟨c, k⟩ hmem
  obtain ⟨hc, k, hk, rfl⟩ := hharmonics _ hmem
  have hturns := isWithin_angle isWithin_turn hk.le hn hpos hangle
  have hone : b * 1 ≤ 2 ^ 53 := by omega
  have hcosine := hc.re.mul (hwaves.isWithin_cosine hturns) hone
  have hsine := hc.im.mul (hwaves.isWithin_sine hturns) hone
  have htwo : Double.IsWithin 2 2.0 :=
    isWithin_of_le (by decide) (by decide +kernel) (by decide +kernel)
  have hterm := htwo.mul (hcosine.sub hsine (by omega)) (by omega)
  exact hm.add (hterm.mono (by omega)) hlimit

/-- The samples that are rebuilt from bins within a bound are within a multiple of it. -/
theorem isWithin_partialSum {coefficients : List ComplexDouble} (hwaves : waves.AreBounded)
    (hcoefficients : ∀ z ∈ coefficients, z.IsWithin b) {count : Nat} (terms : Option Int)
    (hcount : count ≤ coefficients.length)
    (hangle : 7 * coefficients.length * coefficients.length ≤ 2 ^ 53)
    (hsum : b + coefficients.length * (4 * b) ≤ 2 ^ 53) :
    ∀ y ∈ partialSum coefficients count terms waves,
      Double.IsWithin (b + coefficients.length * (4 * b)) y := by
  intro y hy
  obtain ⟨n, hn, rfl⟩ := List.mem_map.mp hy
  have hn : n < count := List.mem_range.mp hn
  have hconstant : Double.IsWithin b ((coefficients.head?.map ComplexDouble.re).getD 0.0) := by
    cases coefficients with
    | nil => exact isWithin_zero.mono (Nat.zero_le b)
    | cons z zs => exact (hcoefficients z List.mem_cons_self).re
  have hharmonics : ∀ p ∈ (coefficients.take (usedTerms terms coefficients.length)).zipIdx.tail.map
      fun (c, k) => (c, ofNat k), p.1.IsWithin b ∧ ∃ k < coefficients.length, p.2 = ofNat k := by
    intro p hp
    obtain ⟨hc, hk⟩ := mem_harmonics hp
    exact ⟨hcoefficients p.1 hc, hk⟩
  have hused : ((coefficients.take (usedTerms terms coefficients.length)).zipIdx.tail.map
      fun (c, k) => (c, ofNat k)).length * (4 * b) ≤ coefficients.length * (4 * b) := by
    refine Nat.mul_le_mul_right _ ?_
    rw [List.length_map, List.length_tail, List.length_zipIdx, List.length_take]
    omega
  exact (isWithin_rebuiltSample hwaves hconstant hharmonics (by omega) (by omega) hangle
    (by omega)).mono (by omega)

end Spectrum

end SignalLab
