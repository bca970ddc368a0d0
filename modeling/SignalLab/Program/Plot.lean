import SignalLab.Outcome.Series
import SignalLab.Program.Settings
import SignalLab.Program.Store

/-!
# Plots — the series a plot statement makes of the variables

A plot statement looks at the variables `t`, `x`, `X` and `fs` only.  With real vectors `t` and `x` it
sets the series `time`, cut to the shorter of the two.  With a complex vector `X` that is not empty
it also sets the series `frequency`, the moduli of the first half of `X`.
-/

namespace SignalLab.Plot

/-- The name of the series over time. -/
def timeName : Text := "time"

/-- The name of the series over frequency. -/
def frequencyName : Text := "frequency"

/-- The series over time. -/
def timeSeries (t x : List Float) : Series :=
  let n := min t.length x.length
  .line (t.take n) (x.take n) "Signal"

/-- The frequencies of the first half of a spectrum of the given size. -/
def halfFrequencies (fs : Float) (size : Nat) : List Float :=
  (List.range ((size + 1) / 2)).map fun i => Double.ofNat i * fs / Double.ofNat size

/-- The series over frequency. -/
def frequencySeries (fs : Float) (spectrum : List ComplexDouble) : Except Fault Series := do
  let magnitudes ← (spectrum.take ((spectrum.length + 1) / 2)).mapM ComplexDouble.modulus
  .ok (.line (halfFrequencies fs spectrum.length) magnitudes "Frequency Spectrum")

/-- The dataset with the series over frequency, if there is a spectrum. -/
def addFrequencies (s : Settings) (store : Store) (dataset : Dataset) : Except Fault Dataset :=
  match store.complexVector? "X" with
  | none => .ok dataset
  | some [] => .ok dataset
  | some spectrum =>
    let fs := (store.scalar? "fs").getD s.defaultSampleRate
    (frequencySeries fs spectrum).map fun series => Keyed.assign frequencyName series dataset

/-- The dataset after a plot statement.  A fault comes only after the series over time is set. -/
def update (s : Settings) (store : Store) (dataset : Dataset) : Dataset × Option Fault :=
  match store.realVector? "t", store.realVector? "x" with
  | some t, some x =>
    let dataset := Keyed.assign timeName (timeSeries t x) dataset
    match addFrequencies s store dataset with
    | .ok dataset => (dataset, none)
    | .error fault => (dataset, some fault)
  | _, _ => (dataset, none)

end SignalLab.Plot
