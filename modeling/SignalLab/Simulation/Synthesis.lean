import SignalLab.Number.Elementary
import SignalLab.Program.Plot
import SignalLab.Simulation.Echo
import SignalLab.Simulation.Parameter
import SignalLab.Program.Run

/-!
# Synthesis — the outcome of a simulated program

A simulated program is not run.  Its transcript echoes its lines, and its dataset is made of the
sample rate and the frequencies it writes: a thousand samples of a sum of sines, noise added if the
program mentions any, and, if it calls `fft`, a spectrum with a bump at each frequency.
-/

namespace SignalLab.Simulation

/-- The number of samples. -/
def sampleCount : Nat := 1000

/-- The amplitude of the noise. -/
def noiseAmplitude : Float := 0.1

/-- The amplitude of the tone with the given number. -/
def amplitude (i : Nat) : Float :=
  if i = 0 then 1.0 else 0.5 / Double.ofNat (i + 1)

/-- The sum over the tones of their amplitude times the value `f` gives for their frequency. -/
def sumTones (tones : List Int) (f : Float → Except Fault Float) : Except Fault Float :=
  tones.zipIdx.foldlM
    (fun sum (tone, i) => do
      let frequency ← Double.ofInt tone
      let value ← f frequency
      .ok (sum + amplitude i * value))
    0.0

/-- The times of the samples, in seconds. -/
def times (rate : Int) : Except Fault (List Float) :=
  (List.range sampleCount).mapM fun (i : Nat) => Quantity.divIntegers i rate

/-- The sum of the tones at a time. -/
def toneSample (tones : List Int) (t : Float) : Except Fault Float :=
  sumTones tones fun frequency => Double.sin (Spectrum.turn * frequency * t)

/-- Samples with noise made of the first draws. -/
def addNoise (draw : Nat → Float) (samples : List Float) : List Float :=
  samples.zipIdx.map fun (x, i) => x + noiseAmplitude * (draw i * 2.0 - 1.0)

/-- Whether a program mentions noise. -/
def isNoisy (code : Text) : Bool :=
  Text.includes "noise" code || Text.includes "randn" code

/-- The square of a double. -/
def square (x : Float) : Except Fault Float :=
  let y := Float.pow x 2.0
  if y.isInf && x.isFinite then .error .powerRange else .ok y

/-- The height of a bump around `center`, at `x`. -/
def bump (x center : Float) : Except Fault Float := do
  let distance ← square ((x - center) / 5.0)
  Double.exp (-10.0 * distance)

/-- The frequencies of the bins up to the middle. -/
def binFrequencies (rate : Int) : Except Fault (List Float) := do
  let width ← Quantity.divIntegers rate sampleCount
  .ok ((List.range (sampleCount / 2)).map fun i => Double.ofNat i * width)

/-- The series over frequency. -/
def frequencySeries (rate : Int) (tones : List Int) : Except Fault Series := do
  let bins ← binFrequencies rate
  let peaks ← bins.mapM fun bin => sumTones tones (bump bin)
  .ok (.line bins peaks "Frequency Spectrum")

/-- The series of a program with the given sample rate and frequencies. -/
def series (draw : Nat → Float) (code : Text) (rate : Int) (tones : List Int) :
    Except Fault Dataset := do
  let t ← times rate
  let samples ← t.mapM (toneSample tones)
  let samples := if isNoisy code then addNoise draw samples else samples
  let time := (Plot.timeName, Series.line t samples "Signal")
  if Text.includes "fft(" code then
    let frequency ← frequencySeries rate tones
    .ok [time, (Plot.frequencyName, frequency)]
  else .ok [time]

/-- The dataset of a program. -/
def synthesize (draw : Nat → Float) (code : Text) : Except SimulationFault Dataset := do
  let rate ← Parameter.sampleRate code defaultSampleRate
  let tones ← Parameter.frequencies code
  (series draw code rate tones).mapError .arithmetic

/-- The first line of a simulated transcript. -/
def firstLine : Text := ">> Executing code with Octave integration (simulated)..."

/-- The last line of a simulated transcript. -/
def lastLine (elapsed : Float) : Text :=
  ">> Code executed successfully in " ++ Double.format .fixed 2 elapsed ++ " ms"

/-- The readings of the clock a simulation takes if it has an outcome; otherwise it takes one. -/
def readings : Nat := 2

/-- The outcome of a simulated program; `pause` is the time it rests before the dataset is made. -/
def run (clock draw : Nat → Float) (pause : Float) (code : Text) :
    Except SimulationFault Outcome := do
  let dataset ← synthesize draw code
  let rest := if 0.0 < pause then pause else 0.0
  let elapsed := Program.milliseconds (clock 0) (clock 1 + rest)
  let transcript := firstLine :: Echo.transcribe code ++ [lastLine elapsed]
  .ok ⟨.success, transcript.map .text, some dataset, some elapsed⟩

end SignalLab.Simulation
