import SignalLab.Number.Elementary
import SignalLab.Number.Layout
import SignalLab.Spectrum.Transform

/-!
# Components — the tones that the demonstrations are made of

A component has a wave, a frequency in hertz and an amplitude.  Signals are sums of components,
sampled a thousand times a second for half a second.
-/

namespace SignalLab.Lab

/-- The sample rate of the demonstrations, in hertz. -/
def sampleRate : Nat := 1000

/-- The number of samples of a demonstration. -/
def sampleCount : Nat := sampleRate / 2

/-- A tone, its wave given by name. -/
structure Component where
  wave : Text
  frequency : Int
  amplitude : Float

/-- Why components make no signal. -/
inductive ComponentFault where
  | unknownWave (name : Text)
  | arithmetic (fault : Fault)
  deriving DecidableEq, Repr

/-- The functions of the waves. -/
def waveTable (waves : Waves) : List (String × (Float → Float)) :=
  [("sine", waves.sine), ("cosine", waves.cosine)]

/-- The function of a wave. -/
def waveFunction (waves : Waves) (name : Text) : Except ComponentFault (Float → Float) :=
  match (waveTable waves).find? fun entry => entry.1.toList = name with
  | some (_, f) => .ok f
  | none => .error (.unknownWave name)

namespace Component

/-- The value of a component at a time. -/
def value (waves : Waves) (c : Component) (t : Float) : Except ComponentFault Float := do
  let f ← waveFunction waves c.wave
  let frequency ← (Double.ofInt c.frequency).mapError .arithmetic
  let y ← (Double.ofAngle f (Spectrum.turn * frequency * t)).mapError .arithmetic
  .ok (c.amplitude * y)

/-- A component as a formula; an amplitude of one is left out. -/
def formula (c : Component) : Text :=
  let call := c.wave.take 3 ++ "(2π*" ++ Text.ofInt c.frequency ++ "t)"
  if c.amplitude == 1.0 then call
  else Double.format .general 6 c.amplitude ++ ['*'] ++ call

end Component

/-- The times of the samples, in seconds. -/
def timeAxis : List Float :=
  (List.range sampleCount).map fun n => Double.ofNat n / Double.ofNat sampleRate

/-- The sum of the components at a time. -/
def sampleAt (waves : Waves) (components : List Component) (t : Float) :
    Except ComponentFault Float :=
  components.foldlM (fun sum c => do .ok (sum + (← c.value waves t))) 0.0

/-- The samples of a sum of components. -/
def synthesize (components : List Component) (waves : Waves := .platform) :
    Except ComponentFault (List Float) :=
  timeAxis.mapM (sampleAt waves components)

/-- A sum of components as a formula. -/
def describe (components : List Component) : Text :=
  Text.join " + " (components.map Component.formula)

/-- The bin that holds a frequency, counted from one. -/
def signalBin (frequency : Float) : Except Fault Int := do
  let bin ← Double.roundToEven (frequency * Double.ofNat sampleCount / Double.ofNat sampleRate)
  .ok (bin + 1)

end SignalLab.Lab
