import SignalLab.Lab.Component
import SignalLab.Lab.Display
import SignalLab.Outcome.Series
import SignalLab.Spectrum.Harmonics

/-!
# Demonstrations — the fixed transcripts and plots of the Hermitian symmetry lab

There are four demonstrations, each on a fixed sum of components: the symmetry of the spectrum of a
sine, the symmetry at each of two tones, the trigonometric coefficients of a mixed signal, and the
reconstruction of a signal from its harmonics.  They are fixed up to the functions in the places of
the sine and the cosine.
-/

namespace SignalLab.Lab

/-- The lines a demonstration prints, and its series. -/
structure Demonstration where
  transcript : List Text
  dataset : Dataset

/-! ## Signals and constants -/

/-- The frequency of the signal of the first demonstration, in hertz. -/
def signalFrequency : Int := 50

/-- The signal of the first demonstration. -/
def sineSignal : List Component := [⟨"sine", signalFrequency, 1.0⟩]

/-- The signal of the second demonstration. -/
def twoToneSignal : List Component := [⟨"sine", 30, 1.0⟩, ⟨"cosine", 80, 0.5⟩]

/-- The signal of the third demonstration. -/
def mixedSignal : List Component := [⟨"cosine", 40, 1.0⟩, ⟨"sine", 90, 0.5⟩]

/-- The signal of the fourth demonstration. -/
def reconstructedSignal : List Component := [⟨"sine", 50, 1.0⟩, ⟨"cosine", 120, 0.5⟩]

/-- The last bin of a symmetry table unless another one is asked for. -/
def lastTableBin : Nat := 8

/-- The number of rows of the table of coefficients. -/
def coefficientRows : Nat := 10

/-- The number of coefficients a signal is rebuilt from. -/
def reconstructionTerms : Nat := sampleCount / 2

/-- Errors below this count as rounding. -/
def precisionThreshold : Float := 1e-9

/-- A fault of the arithmetic in a demonstration. -/
def numeric {α : Type} (r : Except Fault α) : Except ComponentFault α :=
  r.mapError .arithmetic

/-- The greatest of some errors; zero if there are none. -/
def greatest : List Float → Float
  | [] => 0.0
  | x :: xs => xs.foldl (fun m y => if m < y then y else m) x

/-- The sum of some doubles. -/
def total (xs : List Float) : Float :=
  xs.foldl (· + ·) 0.0

/-- The mean of some doubles. -/
def mean (xs : List Float) : Float :=
  total xs / Double.ofNat xs.length

/-- The element of a spectrum at a bin counted from zero. -/
def binValue (spectrum : List ComplexDouble) (bin : Int) : Except ComponentFault ComplexDouble :=
  numeric (Spectrum.elementAt spectrum bin)

/-- The bin that holds the frequency of a component, counted from one. -/
def componentBin (c : Component) : Except ComponentFault Int := do
  let frequency ← numeric (Double.ofInt c.frequency)
  numeric (signalBin frequency)

/-- Whether a bin, counted from one, is above the first and not beyond the middle. -/
def isInner (k : Int) : Bool :=
  1 < k && k ≤ (sampleCount / 2 : Nat)

/-! ## Series -/

/-- A line over the times of the samples. -/
def timeLine (y : List Float) (label : String) : Series :=
  .line timeAxis y label

/-- The moduli of the first half of a spectrum. -/
def spectrumLine (spectrum : List ComplexDouble) : Except ComponentFault Series := do
  let half := spectrum.length / 2
  let y ← numeric (Spectrum.magnitudes (spectrum.take half))
  let x := (List.range half).map fun i =>
    Double.ofNat (i * sampleRate) / Double.ofNat spectrum.length
  .ok (.line x y "Frequency Spectrum")

/-- The series of a signal over time and of its spectrum over frequency. -/
def signalDataset (signal : List Float) (spectrum : List ComplexDouble) (label : String) :
    Except ComponentFault Dataset := do
  let frequency ← spectrumLine spectrum
  .ok [("time", timeLine signal label), ("frequency", frequency)]

/-! ## Symmetry of a sine -/

/-- The lines above the symmetry table. -/
def basicHeading : List Text :=
  ["=== HERMITIAN SYMMETRY DEMONSTRATION ===",
   "Checking Hermitian symmetry for real sine wave:",
   "Signal: sin(2π*" ++ Text.ofInt signalFrequency ++ "t)",
   "Signal frequency: " ++ Text.ofInt signalFrequency ++ " Hz",
   "FFT length: " ++ Text.ofNat sampleCount,
   "Sampling rate: " ++ Text.ofNat sampleRate ++ " Hz",
   "Frequency resolution: " ++
     Double.format .fixed 2 (Double.ofNat sampleRate / Double.ofNat sampleCount) ++ " Hz",
   "Nyquist frequency: " ++ Double.format .fixed 1 (Double.ofNat sampleRate / 2.0) ++ " Hz",
   "",
   "Hermitian symmetry check:",
   "Mathematical condition: X[k] = conj(X[N-k+2])",
   "Format: |X[k] - conj(X[N-k+2])| = error",
   List.replicate 40 '-']

/-- The lines below the symmetry table. -/
def basicAnalysis (errors : List Float) : List Text :=
  ["",
   "=== SYMMETRY ANALYSIS ===",
   "Maximum symmetry error: " ++ errorText (greatest errors),
   "Mean symmetry error: " ++ errorText (mean errors),
   "Symmetry holds within: " ++ errorText Double.epsilon ++ " (machine precision)"]

/-- The lines about a bin, counted from one, and its mirror. -/
def basicDetail (spectrum : List ComplexDouble) (k : Int) :
    Except ComponentFault (List Text) := do
  let mirror := sampleCount - k + 1
  let positive ← binValue spectrum (k - 1)
  let negative ← binValue spectrum mirror
  let error ← numeric (positive.sub negative.conjugate).modulus
  let bin := Text.ofInt (k - 1)
  .ok
    ["",
     "=== DETAILED ANALYSIS AT SIGNAL FREQUENCY ===",
     "At signal frequency " ++ Text.ofInt signalFrequency ++ " Hz (bin " ++ bin ++ "):",
     "X[" ++ bin ++ "] = " ++ complexText 6 positive,
     "X[" ++ Text.ofInt mirror ++ "] = " ++ complexText 6 negative,
     "conj(X[" ++ Text.ofInt mirror ++ "]) = " ++ complexText 6 negative.conjugate,
     "Symmetry error at signal frequency: " ++ errorText error]

/-- The symmetry of the spectrum of a sine. -/
def basicDemonstration (waves : Waves) : Except ComponentFault Demonstration := do
  let signal ← synthesize sineSignal waves
  let spectrum := Spectrum.dft signal waves
  let rows ← numeric (symmetryRows spectrum lastTableBin)
  let k ← numeric (do signalBin (← Double.ofInt signalFrequency))
  let detail ← if k ≤ (sampleCount / 2 : Nat) then basicDetail spectrum k else .ok []
  let dataset ← signalDataset signal spectrum "Sine Wave Signal"
  .ok ⟨basicHeading ++ rows.map (·.1) ++ basicAnalysis (rows.map (·.2)) ++ detail, dataset⟩

/-! ## Symmetry at two tones -/

/-- The lines that list the components of a signal. -/
def componentList (components : List Component) : List Text :=
  (components.zipIdx 1).map fun (c, i) =>
    "  Component " ++ Text.ofNat i ++ ": " ++ describe [c] ++ " at " ++ Text.ofInt c.frequency ++
      " Hz"

/-- The lines about a component, and the error at its bin if that is an inner one. -/
def toneLines (spectrum : List ComplexDouble) (c : Component) (i : Nat) :
    Except ComponentFault (List Text × List Float) := do
  let heading : List Text :=
    ["",
     "--- Component " ++ Text.ofNat i ++ " (" ++ c.wave ++ " at " ++ Text.ofInt c.frequency ++
       " Hz) ---"]
  let k ← componentBin c
  if isInner k then
    let partner := Spectrum.labPartner k sampleCount
    let error ← numeric (Spectrum.labError spectrum k)
    let positive ← binValue spectrum (k - 1)
    let negative ← binValue spectrum (partner - 1)
    .ok (heading ++
      ["X[" ++ Text.ofInt (k - 1) ++ "] = " ++ complexText 3 positive,
       "X[" ++ Text.ofInt (partner - 1) ++ "] = " ++ complexText 3 negative,
       "Symmetry error: " ++ errorText error], [error])
  else .ok (heading, [])

/-- The lines about the greatest error. -/
def twoToneConclusion (worst : Float) : List Text :=
  ["",
   "=== RESULTS ===",
   "Max symmetry error: " ++ errorText worst,
   if worst < precisionThreshold then "CONCLUSION: Multi-component symmetry verified! ✓"
   else "CONCLUSION: Spectrum is not Hermitian symmetric"]

/-- The lines above the list of components. -/
def twoToneTitle : List Text :=
  ["=== TWO-TONE SIGNAL ANALYSIS ===",
   "Signal: " ++ describe twoToneSignal,
   "Signal components:"]

/-- The lines above those about the components. -/
def twoToneHeading : List Text :=
  ["FFT length: " ++ Text.ofNat sampleCount ++ ", Sample rate: " ++ Text.ofNat sampleRate ++ " Hz",
   "",
   "Checking Hermitian symmetry for each component:"]

/-- The symmetry of a spectrum at each of two tones. -/
def twoToneDemonstration (waves : Waves) : Except ComponentFault Demonstration := do
  let signal ← synthesize twoToneSignal waves
  let spectrum := Spectrum.dft signal waves
  let tones ← (twoToneSignal.zipIdx 1).mapM fun (c, i) => toneLines spectrum c i
  let worst := greatest (tones.flatMap (·.2))
  let dataset ← signalDataset signal spectrum "Two-Tone Signal"
  .ok ⟨twoToneTitle ++ componentList twoToneSignal ++ twoToneHeading ++ tones.flatMap (·.1) ++
    twoToneConclusion worst, dataset⟩

/-! ## Trigonometric coefficients -/

/-- How far a coefficient may be from what is expected. -/
def coefficientTolerance : Float := 1e-6

/-- How far two close doubles may be from each other, relative to the larger. -/
def relativeTolerance : Float := 1e-9

/-- Whether two doubles are close to each other. -/
def isClose (x y : Float) : Bool :=
  if x == y then true
  else if x.isInf || y.isInf then false
  else
    let distance := (y - x).abs
    distance ≤ (relativeTolerance * y).abs || distance ≤ (relativeTolerance * x).abs ||
      distance ≤ coefficientTolerance

/-- A value divided by the number of samples. -/
def averagedValue (z : ComplexDouble) : ComplexDouble :=
  (z.div? (.ofReal (Double.ofNat sampleCount))).getD z

/-- What a component adds to the demonstration of coefficients. -/
structure CoefficientPart where
  lines : List Text
  labels : List Text
  coefficients : List Float
  matched : Bool

/-- The cosine and sine amplitudes of a component. -/
def expectedAmplitudes (c : Component) : Float × Float :=
  if c.wave = "cosine".toList then (c.amplitude, 0.0) else (0.0, c.amplitude)

/-- The coefficients at an inner bin, counted from zero. -/
def innerCoefficients (spectrum : List ComplexDouble) (c : Component) (n : Int) (heading : Text) :
    Except ComponentFault CoefficientPart := do
  let value ← binValue spectrum n
  let (a, b) := Spectrum.toTrigonometric (averagedValue value)
  let (a', b') := expectedAmplitudes c
  let bin := Text.ofInt n
  let aName : Text := "a_" ++ bin
  let bName : Text := "b_" ++ bin
  let lines : List Text :=
    [heading,
     "X[" ++ bin ++ "] = " ++ complexText 3 value,
     aName ++ " = 2*real(X[" ++ bin ++ "])/N = " ++ fixedText 3 a ++ " (cosine coeff)",
     bName ++ " = -2*imag(X[" ++ bin ++ "])/N = " ++ fixedText 3 b ++ " (sine coeff)",
     "Expected: " ++ aName ++ " = " ++ Double.format .fixed 1 a' ++ ", " ++ bName ++ " = " ++
       Double.format .fixed 1 b',
     "Actual:   " ++ aName ++ " = " ++ fixedText 3 a ++ ", " ++ bName ++ " = " ++ fixedText 3 b,
     ""]
  .ok ⟨lines, [aName, bName], [a, b], isClose a a' && isClose b b'⟩

/-- The coefficients of a component; one beyond the inner bins has none. -/
def coefficientPart (spectrum : List ComplexDouble) (c : Component) (i : Nat) :
    Except ComponentFault CoefficientPart := do
  let heading : Text :=
    "--- Component " ++ Text.ofNat i ++ ": " ++ Text.ofInt c.frequency ++ " Hz (" ++ c.wave ++
      ") ---"
  let k ← componentBin c
  if isInner k then innerCoefficients spectrum c (k - 1) heading else .ok ⟨[heading], [], [], true⟩

/-- The lines about the coefficients as a whole. -/
def trigonometricConclusion (matched : Bool) : List Text :=
  "=== CONCLUSION ===" ::
  if matched then
    ["Complex FFT coefficients convert to real trigonometric form! ✓",
     "This enables working with real coefficients for real signals."]
  else ["Coefficients do not match the synthesized amplitudes"]

/-- The lines above those about the components. -/
def trigonometricHeading : List Text :=
  ["=== COMPLEX TO TRIGONOMETRIC CONVERSION ===",
   "Signal: " ++ describe mixedSignal,
   "",
   "Key insight: For real signals, X[-n] = conj(X[n])",
   "Therefore: a_n = 2*real(X[n])/N, b_n = -2*imag(X[n])/N",
   ""]

/-- The series of the coefficients, each over its name. -/
def coefficientSeries (parts : List CoefficientPart) : Series :=
  ⟨(parts.flatMap (·.labels)).map .text, (parts.flatMap (·.coefficients)).map .real, .marker,
    .text "Trigonometric coefficients"⟩

/-- The trigonometric coefficients of a mixed signal. -/
def trigonometricDemonstration (waves : Waves) : Except ComponentFault Demonstration := do
  let signal ← synthesize mixedSignal waves
  let spectrum := Spectrum.dft signal waves
  let parts ← (mixedSignal.zipIdx 1).mapM fun (c, i) => coefficientPart spectrum c i
  let dataset ← signalDataset signal spectrum "Mixed Signal"
  let lines := trigonometricHeading ++ parts.flatMap (·.lines) ++
    trigonometricConclusion (parts.all (·.matched))
  .ok ⟨lines, Keyed.assign "coefficients" (coefficientSeries parts) dataset⟩

/-! ## Reconstruction -/

/-- The lines above the table of coefficients. -/
def reconstructionHeading (constant : Float) : List Text :=
  ["=== SIGNAL RECONSTRUCTION ===",
   "Original: " ++ describe reconstructedSignal,
   "Reconstruction: x(t) = a₀/2 + Σ[aₙcos(ωₙt) + bₙsin(ωₙt)]",
   "",
   "DC component: a₀/2 = " ++ fixedText 3 constant,
   "",
   "Harmonic coefficients:",
   "n\tFreq(Hz)\ta_n\t\tb_n\t\t|a_n|\t|b_n|",
   "--\t-------\t---\t\t---\t\t----\t----"]

/-- A row of the table of coefficients. -/
def coefficientRow (z : ComplexDouble) (n : Nat) : Text :=
  let (a, b) := Spectrum.toTrigonometric z
  let frequency := Double.ofNat (n * sampleRate) / Double.ofNat sampleCount
  Text.ofNat n ++ "\t" ++ Double.format .fixed 1 frequency ++ "\t\t" ++ fixedText 3 a ++ "\t\t" ++
    fixedText 3 b ++ "\t\t" ++ Double.format .fixed 3 a.abs ++ "\t" ++ Double.format .fixed 3 b.abs

/-- The rows of the table of coefficients. -/
def coefficientTable (averaged : List ComplexDouble) : List Text :=
  ((averaged.zipIdx.drop 1).take (min coefficientRows (sampleCount / 2 - 1))).map fun (z, n) =>
    coefficientRow z n

/-- The lines about the errors of the reconstruction. -/
def reconstructionConclusion (rms worst : Float) : List Text :=
  ["",
   "=== RECONSTRUCTION RESULTS ===",
   "Harmonics used: " ++ Text.ofNat (reconstructionTerms - 1) ++ " of " ++
     Text.ofNat (sampleCount / 2),
   "RMS error: " ++ errorText rms,
   "Max error: " ++ errorText worst,
   "Machine precision: " ++ Double.format .scientific 1 Double.epsilon,
   if rms < precisionThreshold then "CONCLUSION: Perfect reconstruction achieved! ✓"
   else "CONCLUSION: Reconstruction is approximate; add more harmonics"]

/-- The reconstruction of a signal from its harmonics. -/
def reconstructionDemonstration (waves : Waves) : Except ComponentFault Demonstration := do
  let signal ← synthesize reconstructedSignal waves
  let averaged := (Spectrum.dft signal waves).map averagedValue
  let constant ← binValue averaged 0
  let rebuilt := Spectrum.partialSum averaged sampleCount (some reconstructionTerms) waves
  let errors := List.zipWith (fun x y => (x - y).abs) signal rebuilt
  let rms ← numeric (Double.sqrt (mean (errors.map fun e => e * e)))
  let lines := reconstructionHeading constant.re ++ coefficientTable averaged ++
    reconstructionConclusion rms (greatest errors)
  .ok ⟨lines,
    [("time", timeLine signal "Original Signal"),
     ("reconstructed", timeLine rebuilt "Reconstructed Signal"),
     ("error", timeLine errors "Reconstruction Error")]⟩

end SignalLab.Lab
