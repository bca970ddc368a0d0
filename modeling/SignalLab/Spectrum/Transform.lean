import SignalLab.Number.Quantity

/-!
# The discrete Fourier transform — by its definition

Bin `k` of a real signal `x` of length `N` is the sum over `n` of `x n` times
`cos a + i sin a` for the angle `a = -2 π k n / N`.  The two parts are summed separately and in
order, so every value is a fixed sequence of double operations.  The sine and the cosine are those of
the platform unless others are given.
-/

namespace SignalLab

/-- Functions in the places of the sine and the cosine. -/
structure Waves where
  sine : Float → Float
  cosine : Float → Float

/-- The sine and the cosine of the platform. -/
def Waves.platform : Waves := ⟨Float.sin, Float.cos⟩

namespace Spectrum

/-- A full turn backwards. -/
def backwardTurn : Float := -2.0 * Double.pi

/-- A full turn. -/
def turn : Float := 2.0 * Double.pi

/-- The samples of a signal with their positions as doubles. -/
def positioned (signal : List Float) : List (Float × Float) :=
  signal.zipIdx.map fun (x, n) => (x, Double.ofNat n)

/-- The angle of the wave of bin `k` at sample `n` of a signal of length `size`. -/
def angle (size k n : Float) : Float :=
  backwardTurn * k * n / size

/-- The sum of `samples` against the wave of bin `k`, for a signal of length `size`. -/
def correlate (size k : Float) (samples : List (Float × Float)) (waves : Waves := .platform) :
    ComplexDouble :=
  samples.foldl
    (fun sum (x, n) =>
      ⟨sum.re + x * waves.cosine (angle size k n), sum.im + x * waves.sine (angle size k n)⟩)
    ⟨0.0, 0.0⟩

/-- The spectrum of a real signal. -/
def dft (signal : List Float) (waves : Waves := .platform) : List ComplexDouble :=
  let size := Double.ofNat signal.length
  let samples := positioned signal
  (List.range signal.length).map fun k => correlate size (Double.ofNat k) samples waves

/-- The integer nearest double; a bin number may be negative. -/
def binNumber (k : Int) : Float :=
  Double.nearest (k < 0) k.natAbs 1

/-- Why a bin number that a signal of the given length does not have may have no wave: no double
reaches it, or its angle does not stay finite. -/
def binFault? (length : Nat) (k : Int) : Option Fault :=
  if k.natAbs < length then none
  else if (Double.ofInt? k).isNone then some .integerRange
  else if (List.range length).any fun n =>
      (angle (Double.ofNat length) (binNumber k) (Double.ofNat n)).isInf then some .domain
  else none

/-- One averaged coefficient of a signal: its bin `k` divided by its length. -/
def coefficient (signal : List Float) (k : Int) : Except Fault ComplexDouble :=
  if signal.isEmpty then .error .realDivision
  else
    match binFault? signal.length k with
    | some fault => .error fault
    | none =>
      let size := Double.ofNat signal.length
      let sum := correlate size (binNumber k) (positioned signal)
      .ok ⟨sum.re / size, sum.im / size⟩

/-- The moduli of a spectrum. -/
def magnitudes (spectrum : List ComplexDouble) : Except Fault (List Float) :=
  spectrum.mapM ComplexDouble.modulus

/-- The angle of a complex number. -/
def phase (z : ComplexDouble) : Float :=
  Float.atan2 z.im z.re

end Spectrum

end SignalLab
