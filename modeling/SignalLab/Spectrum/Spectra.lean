import SignalLab.Spectrum.Window
import SignalLab.Number.Elementary

/-!
# Spectra of signals — single-sided and full

A full spectrum has all bins of a windowed signal, the upper half at negative frequencies.  A
single-sided spectrum keeps the bins up to the middle and doubles those that have a partner in the
other half; the signal may be padded with zeros first.
-/

namespace SignalLab.Spectrum

/-- The frequency of a bin of `n` bins at sample rate `fs`; the upper half wraps to negative
frequencies. -/
def binFrequency (k n : Int) (fs : Float) : Except Fault Float := do
  let half ← Quantity.divIntegers n 2
  let middle ← Double.toInteger .up half
  let bin ← Double.ofInt (if k < middle then k else k - n)
  let size ← Double.ofInt n
  Quantity.divReals (bin * fs) size

/-- The least power of two that a natural number does not exceed. -/
def powerCeiling (n : Nat) : Nat :=
  if n ≤ 1 then 1 else twoTo ((n - 1).log2 + 1)

/-- Up to this number a binary logarithm tells, also once it is rounded to a double, on which side
of a power of two its argument lies. -/
def maxToldApart : Nat := twoTo 32

/-- The power of two to which a length is padded: that of its binary logarithm rounded up. -/
def nextPowerOfTwo (n : Int) : Except Fault Int :=
  if n ≤ maxToldApart then .ok (powerCeiling n.toNat)
  else do
    let log ← (Quantity.integer n).logarithm Float.log2
    let e ← Double.toInteger .up log
    .ok (twoTo e.toNat)

/-- A spectrum up to the middle bin. -/
structure SingleSided where
  magnitude : List Float
  phase : List Float
  frequencies : List Float

/-- The value of the zeroth bin. -/
def SingleSided.dc (s : SingleSided) : Float :=
  s.magnitude.head?.getD 0.0

/-- The frequency of the last bin. -/
def SingleSided.nyquist (s : SingleSided) : Float :=
  s.frequencies.getLast?.getD 0.0

/-- The length to which a signal of length `n` is padded. -/
def paddedLength (n padding : Nat) : Except Fault Nat :=
  if padding = 0 then .ok n
  else do
    let base ← nextPowerOfTwo n
    .ok (base.toNat * twoTo padding)

/-- The magnitude of bin `i` of `size` bins: doubled, unless the bin is its own partner, and
divided by `norm`. -/
def foldedMagnitude (size : Nat) (norm : Float) (i : Nat) (z : ComplexDouble) :
    Except Fault Float :=
  if i = 0 ∨ (size % 2 = 0 ∧ i = size / 2) then .ok (z.re.abs / norm)
  else do
    let m ← z.modulus
    .ok (m * 2.0 / norm)

/-- The single-sided spectrum of a signal. -/
def singleSided (signal : List Float) (fs : Float) (normalize : Bool) (padding : Nat)
    (window : Window) : Except Fault SingleSided := do
  let windowed := window.apply signal
  let size ← paddedLength windowed.length padding
  let padded := windowed ++ List.replicate (size - windowed.length) 0.0
  let norm := if normalize then Double.ofNat size else 1.0
  let bins := ((dft padded).take (size / 2 + 1)).zipIdx
  let magnitude ← bins.mapM fun (z, i) => foldedMagnitude size norm i z
  let frequencies := bins.map fun (_, i) => Double.ofNat i * fs / Double.ofNat size
  .ok ⟨magnitude, bins.map fun (z, _) => phase z, frequencies⟩

/-- A spectrum with all its bins. -/
structure Full where
  spectrum : List ComplexDouble
  magnitude : List Float
  phase : List Float
  frequencies : List Float

/-- Every value divided by the length of the spectrum. -/
def averaged (spectrum : List ComplexDouble) : List ComplexDouble :=
  let size := ComplexDouble.ofReal (Double.ofNat spectrum.length)
  spectrum.map fun z => (z.div? size).getD z

/-- The full spectrum of a signal. -/
def full (signal : List Float) (fs : Float) (window : Window) (normalize : Bool) :
    Except Fault Full := do
  let spectrum := dft (window.apply signal)
  let spectrum := if normalize then averaged spectrum else spectrum
  let magnitude ← magnitudes spectrum
  let n := spectrum.length
  let frequencies ← (List.range n).mapM fun (k : Nat) => binFrequency k n fs
  .ok ⟨spectrum, magnitude, spectrum.map phase, frequencies⟩

end SignalLab.Spectrum
